import Mathlib
import Vacs.Coverage.LoadSoundness

/-!
# Matching controllers to positions

A controller works the position that its callsign names, or else one whose prefix its
callsign has. Letter case is not to matter, nor whether a relief callsign has two
underscores. The callsign is normalised before it is compared, but the identifiers and
the prefixes are taken as the dataset spells them.

So the match is the intended one exactly if the candidates are spelled in the way
callsigns are normalised to, as far as it matters for the callsign
(`meetsSpecification_iff`). Where all identifiers and prefixes are spelled so, it is
for every callsign (`spelledAlike_of_plain`).
-/

set_option autoImplicit false

namespace Vacs

namespace Network

/-! ## What is intended -/

/-- A text when letter case is ignored. -/
def upper (text : String) : List Char := text.toList.map Char.toUpper

/-- A callsign as it is compared. -/
def normalised (callsign : String) : List Char :=
  (collapseRelief callsign.toList).map Char.toUpper

section Specification

variable (network : Network) (callsign frequency : String) (facilityType : FacilityType)

/-- A position of the network with the frequency and the facility type. -/
def Candidate (position : Position) : Prop :=
  network.positions.lookup position.id = some position ∧ position.frequency = frequency ∧
    position.facilityType = facilityType

/-- The callsign is the identifier of the position, up to letter case and relief. -/
def Named (position : Position) : Prop :=
  upper position.id.val = upper callsign ∨ upper position.id.val = normalised callsign

/-- The callsign begins with a prefix of the position, up to letter case and relief. -/
def Prefixed (position : Position) : Prop :=
  ∃ pre ∈ position.prefixes, upper pre <+: upper callsign ∨ upper pre <+: normalised callsign

/-- The positions a controller may be working. -/
def Expected (position : Position) : Prop :=
  network.Candidate frequency facilityType position ∧
    ((∃ other, network.Candidate frequency facilityType other ∧ Named callsign other) ∧
        Named callsign position ∨
      (¬ ∃ other, network.Candidate frequency facilityType other ∧ Named callsign other) ∧
        Prefixed callsign position)

/-- The positions that are found are the expected ones, sorted and without duplicates. -/
def MeetsSpecification : Prop :=
  ((network.findPositions callsign frequency facilityType).map Position.id).Pairwise (· < ·) ∧
    ∀ position, position ∈ network.findPositions callsign frequency facilityType ↔
      network.Expected callsign frequency facilityType position

/-! ## What is compared -/

/-- The normalised callsign is the identifier, letter by letter. -/
def NamedExactly (position : Position) : Prop :=
  position.id.val.toList = normalised callsign

/-- The normalised callsign begins with a prefix, letter by letter. -/
def PrefixedExactly (position : Position) : Prop :=
  ∃ pre ∈ position.prefixes, pre.toList <+: normalised callsign

/-- The spelling of the candidates makes no difference for the callsign. If a candidate has the
normalised callsign as its identifier, no other is named by it; if none has but some are named,
these are the ones with a prefix as it is spelled; and if none is named, every candidate with a
prefix has one as it is spelled. -/
def SpelledAlike : Prop :=
  ((∃ other, network.Candidate frequency facilityType other ∧ NamedExactly callsign other) →
    ∀ position, network.Candidate frequency facilityType position → Named callsign position →
      NamedExactly callsign position) ∧
  ((¬ ∃ other, network.Candidate frequency facilityType other ∧ NamedExactly callsign other) →
    (∃ other, network.Candidate frequency facilityType other ∧ Named callsign other) →
      ∀ position, network.Candidate frequency facilityType position →
        (Named callsign position ↔ PrefixedExactly callsign position)) ∧
  ((¬ ∃ other, network.Candidate frequency facilityType other ∧ Named callsign other) →
    ∀ position, network.Candidate frequency facilityType position → Prefixed callsign position →
      PrefixedExactly callsign position)

end Specification

/-! ## Letter case and relief -/

theorem map_toUpper_toUpper (text : List Char) :
    (text.map Char.toUpper).map Char.toUpper = text.map Char.toUpper := by
  rw [List.map_map]
  exact List.map_congr_left fun char _ => Char.toUpper_toUpper_eq_toUpper char

theorem toUpper_eq_underscore_iff (char : Char) : char.toUpper = '_' ↔ char = '_' := by
  constructor
  · intro same
    have letter : char.isAlpha = false := by
      rw [← Char.isAlpha_toUpper_eq_isAlpha, same]
      rfl
    have notLower : ¬ char.isLower = true := by
      intro lower
      simp [Char.isAlpha, lower] at letter
    rwa [Char.toUpper_eq_of_not_isLower notLower] at same
  · rintro rfl
    rfl

theorem collapseRelief_of_plain {char : Char} {rest : List Char}
    (plain : ∀ later, char = '_' → rest = '_' :: later → False) :
    collapseRelief (char :: rest) = char :: collapseRelief rest := by
  rw [collapseRelief]
  exact plain

theorem length_collapseRelief_le (text : List Char) :
    (collapseRelief text).length ≤ text.length := by
  induction text using collapseRelief.induct with
  | case1 rest ih =>
      rw [collapseRelief, List.length_cons, List.length_cons, List.length_cons]
      omega
  | case2 char rest plain ih =>
      rw [collapseRelief_of_plain plain, List.length_cons, List.length_cons]
      omega
  | case3 => exact Nat.le_refl _

theorem collapseRelief_map_toUpper (text : List Char) :
    collapseRelief (text.map Char.toUpper) = (collapseRelief text).map Char.toUpper := by
  induction text using collapseRelief.induct with
  | case1 rest ih =>
      exact congrArg ('_' :: ·) ih
  | case2 char rest plain ih =>
      rw [collapseRelief_of_plain plain, List.map_cons, List.map_cons, ← ih]
      apply collapseRelief_of_plain
      intro later isUnderscore follows
      obtain ⟨next, after, rfl, isNext, _⟩ := List.map_eq_cons_iff.mp follows
      rw [toUpper_eq_underscore_iff] at isUnderscore isNext
      exact plain after isUnderscore (by rw [isNext])
  | case3 => rfl

/-- A text that reads the same has no two underscores in a row. -/
theorem ne_of_collapseRelief_eq {text : List Char} (plain : collapseRelief text = text)
    (rest : List Char) : text ≠ '_' :: '_' :: rest := by
  rintro rfl
  have shorter := length_collapseRelief_le rest
  have same := congrArg List.length plain
  rw [collapseRelief, List.length_cons, List.length_cons, List.length_cons] at same
  omega

/-- A text without two underscores in a row stays a prefix. -/
theorem prefix_collapseRelief {text start : List Char} (plain : collapseRelief start = start)
    (begins : start <+: text) : start <+: collapseRelief text := by
  induction text using collapseRelief.induct generalizing start with
  | case1 rest ih =>
      cases start with
      | nil => exact List.nil_prefix
      | cons char start =>
          obtain ⟨isFirst, begins⟩ := List.cons_prefix_cons.mp begins
          cases start with
          | nil => exact List.cons_prefix_cons.mpr ⟨isFirst, List.nil_prefix⟩
          | cons next start =>
              obtain ⟨isSecond, _⟩ := List.cons_prefix_cons.mp begins
              refine absurd ?_ (ne_of_collapseRelief_eq plain start)
              rw [isFirst, isSecond]
  | case2 char rest unrelieved ih =>
      rw [collapseRelief_of_plain unrelieved]
      cases start with
      | nil => exact List.nil_prefix
      | cons first start =>
          obtain ⟨isFirst, begins⟩ := List.cons_prefix_cons.mp begins
          refine List.cons_prefix_cons.mpr ⟨isFirst, ih ?_ begins⟩
          have single : ∀ later, first = '_' → start = '_' :: later → False := by
            intro later isUnderscore follows
            exact ne_of_collapseRelief_eq plain later (by rw [isUnderscore, follows])
          rw [collapseRelief_of_plain single] at plain
          exact (List.cons.inj plain).2
  | case3 =>
      rw [List.prefix_nil.mp begins]
      exact List.nil_prefix

theorem upper_normalised (callsign : String) :
    (normalised callsign).map Char.toUpper = normalised callsign :=
  map_toUpper_toUpper _

/-! ## What is found -/

section Found

variable (network : Network)

/-- The positions that pass a test, in the order of their identifiers. -/
def positionsWhere (test : Position → Bool) : List Position :=
  ((Enumeration.increasing PositionId).list network.positions.keys).filterMap fun positionId =>
    (network.positions.lookup positionId).filter test

theorem mem_positionsWhere (test : Position → Bool) (position : Position) :
    position ∈ network.positionsWhere test ↔
      network.positions.lookup position.id = some position ∧ test position = true := by
  simp only [positionsWhere, List.mem_filterMap, Enumeration.mem_list,
    Finmap.mem_keys_iff_lookup, Option.filter_eq_some_iff]
  constructor
  · rintro ⟨positionId, _, found, passes⟩
    have same := network.positionId positionId position found
    exact ⟨same ▸ found, passes⟩
  · rintro ⟨found, passes⟩
    exact ⟨position.id, ⟨position, found⟩, found, passes⟩

theorem sorted_positionsWhere (test : Position → Bool) :
    ((network.positionsWhere test).map Position.id).Pairwise (· < ·) := by
  have sorted := Enumeration.pairwise_increasing (network.positions.keys)
  rw [positionsWhere, List.map_filterMap]
  apply List.Pairwise.filterMap _ _ sorted
  intro first second before firstId isFirst secondId isSecond
  have own : ∀ key id, ((network.positions.lookup key).filter test).map Position.id = some id →
      id = key := by
    intro key id found
    obtain ⟨position, kept, rfl⟩ := Option.map_eq_some_iff.mp found
    exact network.positionId key position (Option.filter_eq_some_iff.mp kept).1
  rw [own first firstId isFirst, own second secondId isSecond]
  exact before

variable (callsign frequency : String) (facilityType : FacilityType)

/-- A position with the normalised callsign as its identifier is found if it agrees. -/
theorem findPositions_of_exact {position : Position}
    (candidate : network.Candidate frequency facilityType position)
    (exact : NamedExactly callsign position) :
    network.findPositions callsign frequency facilityType = [position] := by
  obtain ⟨known, sameFrequency, sameFacility⟩ := candidate
  have named : (⟨String.ofList (normalised callsign)⟩ : PositionId) = position.id := by
    apply PositionId.val_injective
    rw [← exact, String.ofList_toList]
  unfold findPositions
  simp only
  have found : (network.positions.lookup
      ⟨String.ofList ((collapseRelief callsign.toList).map Char.toUpper)⟩).filter
        (fun position => position.frequency == frequency && position.facilityType == facilityType)
        = some position := by
    rw [Option.filter_eq_some_iff]
    refine ⟨?_, by simp [sameFrequency, sameFacility]⟩
    exact (congrArg network.positions.lookup named).trans known
  rw [found]

/-- Without one, the candidates with a prefix are found. -/
theorem findPositions_of_not_exact
    (none : ¬ ∃ other, network.Candidate frequency facilityType other ∧
      NamedExactly callsign other) :
    network.findPositions callsign frequency facilityType =
      network.positionsWhere fun position =>
        (position.frequency == frequency && position.facilityType == facilityType) &&
          decide (∃ pre ∈ position.prefixes, pre.toList.isPrefixOf (normalised callsign)) := by
  have missing : (network.positions.lookup
      ⟨String.ofList ((collapseRelief callsign.toList).map Char.toUpper)⟩).filter
        (fun position => position.frequency == frequency && position.facilityType == facilityType)
        = Option.none := by
    rw [Option.filter_eq_none_iff]
    intro position found agrees
    have named := network.positionId _ position found
    simp only [Bool.and_eq_true, beq_iff_eq] at agrees
    refine none ⟨position, ⟨?_, agrees.1, agrees.2⟩, ?_⟩
    · rw [named]
      exact found
    · rw [NamedExactly, named, String.toList_ofList]
      rfl
  unfold findPositions
  simp only
  rw [missing]
  rfl

theorem sorted_findPositions :
    ((network.findPositions callsign frequency facilityType).map Position.id).Pairwise (· < ·) := by
  by_cases named : ∃ other, network.Candidate frequency facilityType other ∧
      NamedExactly callsign other
  · obtain ⟨other, candidate, exact⟩ := named
    rw [network.findPositions_of_exact callsign frequency facilityType candidate exact]
    exact List.pairwise_singleton _ _
  · rw [network.findPositions_of_not_exact callsign frequency facilityType named]
    exact network.sorted_positionsWhere _

/-- The positions that are found, by what is compared. -/
theorem mem_findPositions_iff (position : Position) :
    position ∈ network.findPositions callsign frequency facilityType ↔
      network.Candidate frequency facilityType position ∧
        ((∃ other, network.Candidate frequency facilityType other ∧ NamedExactly callsign other) ∧
            NamedExactly callsign position ∨
          (¬ ∃ other, network.Candidate frequency facilityType other ∧
              NamedExactly callsign other) ∧
            PrefixedExactly callsign position) := by
  by_cases named : ∃ other, network.Candidate frequency facilityType other ∧
      NamedExactly callsign other
  · obtain ⟨other, candidate, exact⟩ := named
    rw [network.findPositions_of_exact callsign frequency facilityType candidate exact,
      List.mem_singleton]
    constructor
    · rintro rfl
      exact ⟨candidate, .inl ⟨⟨position, candidate, exact⟩, exact⟩⟩
    · rintro ⟨isCandidate, ⟨_, isExact⟩ | ⟨unnamed, _⟩⟩
      · have same : position.id = other.id := by
          apply PositionId.val_injective
          rw [← String.toList_inj]
          exact isExact.trans exact.symm
        have known := isCandidate.1
        rw [same, candidate.1] at known
        exact (Option.some.inj known).symm
      · exact absurd ⟨other, candidate, exact⟩ unnamed
  · rw [network.findPositions_of_not_exact callsign frequency facilityType named,
      mem_positionsWhere]
    rw [and_iff_right named, or_iff_right fun both => named both.1]
    simp only [Candidate, PrefixedExactly, Bool.and_eq_true, beq_iff_eq, decide_eq_true_eq,
      List.isPrefixOf_iff_prefix, and_assoc]

end Found

/-! ## When the match is the intended one -/

section Meets

variable {network : Network} {callsign frequency : String} {facilityType : FacilityType}

theorem named_of_namedExactly {position : Position} (exact : NamedExactly callsign position) :
    Named callsign position := by
  right
  rw [upper, show position.id.val.toList = normalised callsign from exact]
  exact upper_normalised callsign

theorem prefixed_of_prefixedExactly {position : Position}
    (exact : PrefixedExactly callsign position) : Prefixed callsign position := by
  obtain ⟨pre, listed, begins⟩ := exact
  refine ⟨pre, listed, .inr ?_⟩
  have upperPrefix := begins.map Char.toUpper
  rwa [upper_normalised] at upperPrefix

/-- The match is the intended one exactly if the spelling makes no difference. -/
theorem meetsSpecification_iff (network : Network) (callsign frequency : String)
    (facilityType : FacilityType) :
    network.MeetsSpecification callsign frequency facilityType ↔
      network.SpelledAlike callsign frequency facilityType := by
  have agree : network.MeetsSpecification callsign frequency facilityType ↔
      ∀ position, network.Candidate frequency facilityType position →
        (((∃ other, network.Candidate frequency facilityType other ∧
              NamedExactly callsign other) ∧ NamedExactly callsign position ∨
            (¬ ∃ other, network.Candidate frequency facilityType other ∧
              NamedExactly callsign other) ∧ PrefixedExactly callsign position) ↔
          ((∃ other, network.Candidate frequency facilityType other ∧ Named callsign other) ∧
              Named callsign position ∨
            (¬ ∃ other, network.Candidate frequency facilityType other ∧
              Named callsign other) ∧ Prefixed callsign position)) := by
    rw [MeetsSpecification, and_iff_right (network.sorted_findPositions _ _ _)]
    refine forall_congr' fun position => ?_
    rw [mem_findPositions_iff, Expected, and_congr_right_iff]
  rw [agree, SpelledAlike]
  by_cases exact : ∃ other, network.Candidate frequency facilityType other ∧
      NamedExactly callsign other
  · -- a candidate is named letter by letter, so it is named
    obtain ⟨other, candidate, isExact⟩ := exact
    have some : ∃ other, network.Candidate frequency facilityType other ∧
        NamedExactly callsign other := ⟨other, candidate, isExact⟩
    have named : ∃ other, network.Candidate frequency facilityType other ∧
        Named callsign other := ⟨other, candidate, named_of_namedExactly isExact⟩
    simp only [some, named, not_true_eq_false, true_and, false_and, or_false, false_imp_iff,
      true_imp_iff, and_true]
    refine forall₂_congr fun position _ => ?_
    exact ⟨fun same => same.mpr, fun spelled => ⟨named_of_namedExactly, spelled⟩⟩
  · by_cases named : ∃ other, network.Candidate frequency facilityType other ∧
        Named callsign other
    · simp only [exact, named, not_true_eq_false, not_false_eq_true, true_and, false_and, or_false,
        false_or, false_imp_iff, true_imp_iff, and_true]
      exact forall₂_congr fun position _ => iff_comm
    · simp only [exact, named, not_false_eq_true, true_and, false_and, false_or, false_imp_iff,
        true_imp_iff]
      refine forall₂_congr fun position _ => ?_
      exact ⟨fun same => same.mpr, fun spelled => ⟨prefixed_of_prefixedExactly, spelled⟩⟩

/-! ## Plain spelling -/

/-- A text is spelled as callsigns are normalised to. -/
def Plain (text : String) : Prop :=
  upper text = text.toList ∧ collapseRelief text.toList = text.toList

theorem Plain.namedExactly {position : Position} (plain : Plain position.id.val)
    (named : Named callsign position) : NamedExactly callsign position := by
  rcases named with asWritten | relieved
  · rw [NamedExactly, normalised, ← collapseRelief_map_toUpper, ← plain.2, ← plain.1, asWritten]
    rfl
  · rw [NamedExactly, ← plain.1]
    exact relieved

theorem prefixedExactly_of_plain {position : Position}
    (plain : ∀ pre ∈ position.prefixes, Plain pre) (prefixed : Prefixed callsign position) :
    PrefixedExactly callsign position := by
  obtain ⟨pre, listed, asWritten | relieved⟩ := prefixed
  · refine ⟨pre, listed, ?_⟩
    rw [(plain pre listed).1] at asWritten
    rw [normalised, ← collapseRelief_map_toUpper]
    exact prefix_collapseRelief (plain pre listed).2 asWritten
  · rw [(plain pre listed).1] at relieved
    exact ⟨pre, listed, relieved⟩

/-- Where identifiers and prefixes are spelled plainly, every callsign is matched as intended. -/
theorem spelledAlike_of_plain
    (plain : ∀ key position, network.positions.lookup key = some position →
      Plain position.id.val ∧ ∀ pre ∈ position.prefixes, Plain pre)
    (callsign frequency : String) (facilityType : FacilityType) :
    network.SpelledAlike callsign frequency facilityType := by
  refine ⟨?_, ?_, ?_⟩
  · intro _ position candidate named
    exact (plain _ position candidate.1).1.namedExactly named
  · rintro unnamed ⟨other, candidate, named⟩
    exact absurd ⟨other, candidate, (plain _ other candidate.1).1.namedExactly named⟩ unnamed
  · intro _ position candidate prefixed
    exact prefixedExactly_of_plain (plain _ position candidate.1).2 prefixed

end Meets

end Network

/-! ### A position in lower case -/

namespace Loading

/-- A position whose identifier and prefix are in lower case. -/
def lowerCasePosition : PositionRaw where
  id := ⟨"lovv_ctr"⟩
  prefixes := {"lovv"}
  frequency := "134.350"
  facilityType := .enroute
  profileId := none
  defaultCallSources := []

def lowerCaseRegion : FlightInformationRegionRaw where
  id := ⟨"LOVV"⟩
  stations := [{ id := ⟨"LOVV_CTR"⟩, parentId := none, controlledBy := [⟨"lovv_ctr"⟩] }]
  positions := [lowerCasePosition]
  profiles := ∅

theorem loadable_lowerCaseRegion : Loadable Char.isDigit [lowerCaseRegion] where
  unique := ⟨by decide, by decide, by decide, List.pairwise_singleton _ _⟩
  firsValid := List.forall_mem_singleton.mpr rfl
  stationsValid := List.forall_mem_singleton.mpr (List.forall_mem_singleton.mpr rfl)
  positionsValid := List.forall_mem_singleton.mpr (List.forall_mem_singleton.mpr rfl)
  profilesValid := List.forall_mem_singleton.mpr fun key profile found => by
    rw [lowerCaseRegion, Finmap.lookup_empty] at found
    cases found
  chains := List.forall_mem_singleton.mpr (List.forall_mem_singleton.mpr
    ⟨_, .root rfl, _, List.mem_singleton_self _, List.cons_ne_nil _ _⟩)
  controlledBy := List.forall_mem_singleton.mpr (by decide +kernel)
  profileId := List.forall_mem_singleton.mpr (by decide +kernel)
  defaultCallSources := List.forall_mem_singleton.mpr (by decide +kernel)

/-- The position is loaded, but its own identifier does not find it. -/
theorem findPositions_misses_own_id :
    ¬ ∀ (digit : Char → Bool) (order : LoadOrder) (firs : List FlightInformationRegionRaw)
      (loaded : LoadedNetwork) (isLoaded : load digit order firs = .ok loaded)
      (callsign frequency : String) (facilityType : FacilityType),
        (networkOf isLoaded).MeetsSpecification callsign frequency facilityType := by
  intro meets
  obtain ⟨loaded, isLoaded⟩ :=
    load_of_loadable ⟨.increasing ProfileId, .increasing StationId⟩ loadable_lowerCaseRegion
  obtain ⟨stations, found⟩ := position_of_load isLoaded (List.mem_singleton_self _)
    (List.mem_singleton_self lowerCasePosition)
  have candidate : (networkOf isLoaded).Candidate "134.350" .enroute
      { id := ⟨"lovv_ctr"⟩, prefixes := {"lovv"}, frequency := "134.350",
        facilityType := .enroute, profileId := none, defaultCallSources := [],
        controlledStations := stations } := by
    refine ⟨?_, rfl, rfl⟩
    have linked := congrArg (fun entry => entry.bind fun position =>
      some position.toPosition) found
    exact (Finmap.lookup_filterMap ..).trans linked
  obtain ⟨_, expected⟩ := meets _ _ _ loaded isLoaded "lovv_ctr" "134.350" .enroute
  have isFound := (expected _).mpr ⟨candidate, .inl ⟨⟨_, candidate, .inl rfl⟩, .inl rfl⟩⟩
  obtain ⟨_, ⟨_, exact⟩ | ⟨_, pre, listed, begins⟩⟩ :=
    (Network.mem_findPositions_iff ..).mp isFound
  · have different : "lovv_ctr".toList ≠ Network.normalised "lovv_ctr" := by decide +kernel
    exact different exact
  · rw [Finset.mem_singleton.mp listed] at begins
    exact absurd begins (by decide +kernel)

end Loading

end Vacs
