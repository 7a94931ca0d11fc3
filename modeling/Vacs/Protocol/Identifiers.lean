import Mathlib.Data.Prod.Lex
import Mathlib.Data.String.Basic
import Mathlib.Order.Basic

/-!
# Identifiers and call endpoints

The identifiers of the signalling protocol are strings with a type of their own,
compared as strings. A call is named by a UUID, of which only equality matters.
Times are those of the server's monotonic clock.

A call target is a client, a position or a station. Targets are ordered by how
much they cover: stations come before positions, positions before clients, and
targets of one kind are compared by identifier. The source of a call is the
inviting client together with the position and station it calls as; seen from
the other side it is a target, the widest one it names.
-/

set_option autoImplicit false

namespace Vacs

/-- A point of the server's monotonic clock, in nanoseconds. -/
abbrev Instant : Type := ℕ

/-- A span of time, in nanoseconds. -/
abbrev Duration : Type := ℕ

/-- Unique identifier of a VATSIM client. -/
structure ClientId where
  val : String
deriving DecidableEq, Repr

/-- Unique identifier of a VATSIM position. -/
structure PositionId where
  val : String
deriving DecidableEq, Repr

/-- Unique identifier of a VATSIM station. -/
structure StationId where
  val : String
deriving DecidableEq, Repr

/-- Identifier of a call, a UUID. -/
structure CallId where
  uuid : BitVec 128
deriving DecidableEq, Repr

theorem ClientId.val_injective : Function.Injective ClientId.val := by
  rintro ⟨first⟩ ⟨second⟩ same
  exact congrArg ClientId.mk same

theorem PositionId.val_injective : Function.Injective PositionId.val := by
  rintro ⟨first⟩ ⟨second⟩ same
  exact congrArg PositionId.mk same

theorem StationId.val_injective : Function.Injective StationId.val := by
  rintro ⟨first⟩ ⟨second⟩ same
  exact congrArg StationId.mk same

theorem CallId.toNat_injective : Function.Injective fun call : CallId => call.uuid.toNat := by
  rintro ⟨first⟩ ⟨second⟩ same
  exact congrArg CallId.mk (BitVec.eq_of_toNat_eq same)

instance : LinearOrder ClientId := LinearOrder.lift' ClientId.val ClientId.val_injective
instance : LinearOrder PositionId := LinearOrder.lift' PositionId.val PositionId.val_injective
instance : LinearOrder StationId := LinearOrder.lift' StationId.val StationId.val_injective
instance : LinearOrder CallId :=
  LinearOrder.lift' (fun call : CallId => call.uuid.toNat) CallId.toNat_injective

/-- Who a call is addressed to. -/
inductive CallTarget where
  | client (id : ClientId)
  | position (id : PositionId)
  | station (id : StationId)
deriving DecidableEq, Repr

namespace CallTarget

/-- The kind of a target and its identifier, in the order targets are compared. -/
def key : CallTarget → ℕ ×ₗ String
  | .station id => toLex (0, id.val)
  | .position id => toLex (1, id.val)
  | .client id => toLex (2, id.val)

theorem key_injective : Function.Injective key := by
  intro first second same
  cases first <;> cases second <;> simp_all [key, ClientId.val_injective.eq_iff,
    PositionId.val_injective.eq_iff, StationId.val_injective.eq_iff]

end CallTarget

instance : LinearOrder CallTarget := LinearOrder.lift' CallTarget.key CallTarget.key_injective

/-- Who a call comes from: the inviting client and what it calls as. -/
structure CallSource where
  clientId : ClientId
  positionId : Option PositionId := none
  stationId : Option StationId := none
deriving DecidableEq, Repr

/-- The source of a call, seen as a target. -/
def CallSource.toTarget (source : CallSource) : CallTarget :=
  match source.stationId, source.positionId with
  | some stationId, _ => .station stationId
  | none, some positionId => .position positionId
  | none, none => .client source.clientId

end Vacs
