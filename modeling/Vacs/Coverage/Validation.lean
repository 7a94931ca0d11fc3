import Vacs.Foundations.Checks
import Mathlib.Data.Nat.Notation

/-!
# Errors of a dataset

What the validators of a dataset report. Where the source stores the text of
another error, that error itself is kept here, and likewise a value whose text a
message shows.
-/

set_option autoImplicit false

namespace Vacs

/-- A value as an error message shows it. -/
inductive Shown where
  | text (text : String)
  | lines (lines : List String)
  | number (value : ℕ)
  | float (value : Float)

inductive ValidationError where
  | invalidFormat (field : String) (value : Shown) (reason : String)
  | invalidValue (field : String) (value : Shown) (reason : String)
  | outOfRange (field : String) (value : Shown) (min : Shown) (max : Option Shown)
  | empty (field : String)
  | missingReference (field : String) (refId : String)
  | emptyCoverage (station : String)
  | cycleDetected (chain : List String)
  | missingParent (station : String) (parent : String)
  | mutuallyExclusive (fields : List String)

inductive CoverageError where
  | validation (error : ValidationError)
  | duplicate (entity : String) (id : String)
  | load (entity : String) (id : String) (reason : CoverageError)
  | context (location : String) (error : CoverageError)

/-!
## Formats

Here `digit` is the class of decimal digits of the regular expressions.
-/

section Formats

variable (digit : Char → Bool)

/-- The format `^\d{3}\.\d{3}$`. -/
def isFrequency (text : String) : Bool :=
  match text.toList with
  | [a, b, c, '.', d, e, f] => [a, b, c, d, e, f].all digit
  | _ => false

/-- A unit of a size. -/
def isSizeUnit (text : List Char) : Bool :=
  text == ['%'] || text == ['r', 'e', 'm']

/-- The format `^\d+(\.\d{1,5})?(%|rem)$`. -/
def isSize (text : String) : Bool :=
  let (whole, rest) := text.toList.span digit
  !whole.isEmpty &&
    (isSizeUnit rest ||
      match rest with
      | '.' :: rest =>
          let (fraction, rest) := rest.span digit
          decide (1 ≤ fraction.length ∧ fraction.length ≤ 5) && isSizeUnit rest
      | _ => false)

end Formats

end Vacs
