import Vacs.Clients.Session
import Mathlib.Data.List.MinMax

/-!
# The order of a feed

A client can hold several connections to VATSIM at once. Of these, the index by
client keeps the first one of highest rank that is not a supervisor's.

The rank compares the class of the facility, the range, the facility and the
callsign. It does not compare the frequency or the width of a range. Two different
connections of one client can therefore tie, and then the one that the feed lists
first is kept (`indexByCid_perm_iff`).
-/

set_option autoImplicit false

namespace Vacs

namespace ControllerInfo

/-- A supervisor's connection. -/
def isSupervisor (controller : ControllerInfo) : Bool :=
  "_SUP".toList.isSuffixOf controller.callsign.toList

/-- The connections of a client among which one is kept. -/
def connections (controllers : List ControllerInfo) (cid : ClientId) : List ControllerInfo :=
  controllers.filter fun controller => !controller.isSupervisor && controller.cid == cid

theorem mem_connections (controllers : List ControllerInfo) (cid : ClientId)
    (controller : ControllerInfo) :
    controller ∈ connections controllers cid ↔
      controller ∈ controllers ∧ controller.isSupervisor = false ∧ controller.cid = cid := by
  simp [connections]

theorem connections_append (first second : List ControllerInfo) (cid : ClientId) :
    connections (first ++ second) cid = connections first cid ++ connections second cid :=
  List.filter_append _ _

theorem indexByCid_concat (controllers : List ControllerInfo) (controller : ControllerInfo) :
    indexByCid (controllers ++ [controller]) =
      if controller.isSupervisor then indexByCid controllers
      else
        match (indexByCid controllers).lookup controller.cid with
        | none => (indexByCid controllers).insert controller.cid controller
        | some earlier =>
            if controller.rank > earlier.rank then
              (indexByCid controllers).insert controller.cid controller
            else indexByCid controllers := by
  rw [indexByCid, List.foldl_append]
  rfl

/-- The index keeps the first connection of highest rank. -/
theorem lookup_indexByCid (controllers : List ControllerInfo) (cid : ClientId) :
    (indexByCid controllers).lookup cid = (connections controllers cid).argmax rank := by
  induction controllers using List.reverseRecOn with
  | nil => rfl
  | append_singleton controllers controller ih =>
      rw [indexByCid_concat, connections_append]
      by_cases supervisor : controller.isSupervisor
      · rw [if_pos supervisor, ih]
        simp [connections, supervisor]
      · rw [if_neg supervisor]
        by_cases own : controller.cid = cid
        · subst own
          have single : connections [controller] controller.cid = [controller] := by
            simp [connections, supervisor]
          rw [single, List.argmax_concat, ih]
          cases best : (connections controllers controller.cid).argmax rank with
          | none => simp
          | some earlier =>
              simp only [gt_iff_lt]
              split
              · simp
              · exact ih.trans best
        · have others : connections [controller] cid = [] := by
            simp [connections, own]
          have kept : ((indexByCid controllers).insert controller.cid controller).lookup cid =
              (indexByCid controllers).lookup cid := by
            rw [Finmap.lookup_insert_eq, if_neg (Ne.symm own)]
          rw [others, List.append_nil, ← ih]
          split
          · exact kept
          · split
            · exact kept
            · rfl

theorem connections_perm {first second : List ControllerInfo} (perm : first.Perm second)
    (cid : ClientId) : (connections first cid).Perm (connections second cid) :=
  perm.filter _

/-- No connection of the client has a higher rank. -/
def IsTop (controllers : List ControllerInfo) (cid : ClientId) (winner : ControllerInfo) :
    Prop :=
  winner ∈ connections controllers cid ∧
    ∀ other ∈ connections controllers cid, other.rank ≤ winner.rank

/-- Connections of highest rank of one client are the same. -/
def UniqueTops (controllers : List ControllerInfo) : Prop :=
  ∀ (cid : ClientId) (first second : ControllerInfo), IsTop controllers cid first →
    IsTop controllers cid second → first = second

theorem IsTop.perm {controllers other : List ControllerInfo} {cid : ClientId}
    {winner : ControllerInfo} (top : IsTop controllers cid winner)
    (perm : other.Perm controllers) : IsTop other cid winner := by
  have same := connections_perm perm cid
  refine ⟨same.mem_iff.mpr top.1, ?_⟩
  intro rival present
  exact top.2 rival (same.mem_iff.mp present)

theorem isTop_of_lookup {controllers : List ControllerInfo} {cid : ClientId}
    {winner : ControllerInfo} (found : (indexByCid controllers).lookup cid = some winner) :
    IsTop controllers cid winner := by
  rw [lookup_indexByCid] at found
  exact ⟨List.argmax_mem found, fun rival present => List.le_of_mem_argmax present found⟩

/-- A client with a connection is in the index. -/
theorem exists_lookup_indexByCid {controllers : List ControllerInfo} {cid : ClientId}
    {controller : ControllerInfo} (present : controller ∈ connections controllers cid) :
    ∃ winner, (indexByCid controllers).lookup cid = some winner := by
  rw [← Option.ne_none_iff_exists', lookup_indexByCid, Ne, List.argmax_eq_none]
  exact List.ne_nil_of_mem present

/-- A connection of highest rank is kept if the feed lists it first. -/
theorem lookup_indexByCid_of_first {controllers : List ControllerInfo} {cid : ClientId}
    {winner : ControllerInfo} (top : IsTop controllers cid winner) :
    (indexByCid (winner :: controllers.erase winner)).lookup cid = some winner := by
  have member := ((mem_connections controllers cid winner).mp top.1).1
  have topFirst := top.perm (List.perm_cons_erase member).symm
  have leads : connections (winner :: controllers.erase winner) cid =
      winner :: connections (controllers.erase winner) cid := by
    have own := ((mem_connections controllers cid winner).mp top.1).2
    exact List.filter_cons_of_pos (by simp [own])
  rw [lookup_indexByCid]
  apply List.mem_argmax_iff.mpr
  refine ⟨topFirst.1, topFirst.2, ?_⟩
  intro rival _ _
  rw [leads, List.idxOf_cons_self]
  exact Nat.zero_le _

/-- The index is the same for every order of the feed, and keeps a connection of highest rank for
every client that has one, exactly when connections of highest rank of one client are the same. -/
theorem indexByCid_perm_iff (controllers : List ControllerInfo) :
    ((∀ other, other.Perm controllers → indexByCid other = indexByCid controllers) ∧
        ∀ cid, connections controllers cid ≠ [] →
          ∃ winner ∈ (indexByCid controllers).lookup cid, IsTop controllers cid winner) ↔
      UniqueTops controllers := by
  constructor
  · rintro ⟨same, _⟩ cid first second firstTop secondTop
    have reordered : ∀ {winner : ControllerInfo}, IsTop controllers cid winner →
        (indexByCid controllers).lookup cid = some winner := by
      intro winner top
      have member := ((mem_connections controllers cid winner).mp top.1).1
      rw [← same _ (List.perm_cons_erase member).symm]
      exact lookup_indexByCid_of_first top
    exact Option.some.inj ((reordered firstTop).symm.trans (reordered secondTop))
  · intro unique
    constructor
    · intro other perm
      apply Finmap.ext_lookup
      intro cid
      cases found : (indexByCid controllers).lookup cid with
      | none =>
          rw [lookup_indexByCid, List.argmax_eq_none] at found ⊢
          have empty := connections_perm perm cid
          rw [found] at empty
          exact empty.eq_nil
      | some winner =>
          have top := isTop_of_lookup found
          obtain ⟨kept, foundToo⟩ := exists_lookup_indexByCid (top.perm perm).1
          rw [foundToo, unique cid kept winner ((isTop_of_lookup foundToo).perm perm.symm) top]
    · intro cid present
      obtain ⟨controller, member⟩ := List.exists_mem_of_ne_nil _ present
      obtain ⟨winner, found⟩ := exists_lookup_indexByCid member
      exact ⟨winner, found, isTop_of_lookup found⟩

/-- Two connections of one client as the tower, on different frequencies: the one listed first is
kept. -/
theorem indexByCid_depends_on_order :
    ¬ ∀ controllers other : List ControllerInfo, other.Perm controllers →
      indexByCid other = indexByCid controllers := by
  intro same
  let first : ControllerInfo := ⟨⟨"1000001"⟩, "LOWW_TWR", "119.400", .tower, some 50⟩
  let second : ControllerInfo := ⟨⟨"1000001"⟩, "LOWW_TWR", "123.800", .tower, some 50⟩
  have equal := same [first, second] [second, first] (List.Perm.swap first second [])
  have found := congrArg (Finmap.lookup ⟨"1000001"⟩) equal
  exact absurd found (by decide +kernel)

end ControllerInfo

end Vacs
