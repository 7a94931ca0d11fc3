import Vacs.Coverage.Profiles

/-!
# The stations a profile uses

A profile uses a station if one of its buttons or keys names it, at whatever depth.
The collectors gather these stations exactly (`mem_relevantStationIds_iff`). The
validators check the ones that are named outside the pages that keys open
(`validateReferences_eq_ok_iff`). So they agree with the collectors on a dataset
unless a station is missing only in there (`validateReferences_iff`).
-/

set_option autoImplicit false

namespace Vacs

open Checks

namespace Layout

/-! ## What a page uses -/

/-- A key of the page, or of a page that its keys open, names the station. -/
inductive PageUses : DirectAccessPage → StationId → Prop where
  | key {page : DirectAccessPage} {key : DirectAccessKey} {stationId : StationId}
      (member : key ∈ page.keyList) (names : key.stationId = some stationId) :
      PageUses page stationId
  | subPage {page : DirectAccessPage} {key : DirectAccessKey} {sub : DirectAccessPage}
      {stationId : StationId} (member : key ∈ page.keyList) (opens : key.page = some sub)
      (uses : PageUses sub stationId) : PageUses page stationId

/-- A key names the station, or opens a page that uses it. -/
def KeyUses (key : DirectAccessKey) (stationId : StationId) : Prop :=
  key.stationId = some stationId ∨ ∃ page ∈ key.page, PageUses page stationId

theorem pageUses_iff (page : DirectAccessPage) (stationId : StationId) :
    PageUses page stationId ↔ ∃ key ∈ page.keyList, KeyUses key stationId := by
  constructor
  · intro uses
    cases uses with
    | key member names => exact ⟨_, member, .inl names⟩
    | subPage member opens uses => exact ⟨_, member, .inr ⟨_, opens, uses⟩⟩
  · rintro ⟨key, member, names | ⟨sub, opens, uses⟩⟩
    · exact .key member names
    · exact .subPage member opens uses

/-- A key of the page itself names the station. -/
def PageNames (page : DirectAccessPage) (stationId : StationId) : Prop :=
  ∃ key ∈ page.keyList, key.stationId = some stationId

/-- A page that a key of the page opens uses the station. -/
def PageUsesBelow (page : DirectAccessPage) (stationId : StationId) : Prop :=
  ∃ key ∈ page.keyList, ∃ sub ∈ key.page, PageUses sub stationId

theorem pageUses_iff_names_or_below (page : DirectAccessPage) (stationId : StationId) :
    PageUses page stationId ↔ PageNames page stationId ∨ PageUsesBelow page stationId := by
  rw [pageUses_iff]
  constructor
  · rintro ⟨key, member, names | below⟩
    · exact .inl ⟨key, member, names⟩
    · exact .inr ⟨key, member, below⟩
  · rintro (⟨key, member, names⟩ | ⟨key, member, below⟩)
    · exact ⟨key, member, .inl names⟩
    · exact ⟨key, member, .inr below⟩

/-! ## What a profile uses -/

/-- The container, or one nested in it, has the button. -/
inductive Shows : GeoPageContainer → GeoPageButton → Prop where
  | child {container : GeoPageContainer} {button : GeoPageButton}
      (member : .button button ∈ container.children) : Shows container button
  | nested {container inner : GeoPageContainer} {button : GeoPageButton}
      (member : .container inner ∈ container.children) (shows : Shows inner button) :
      Shows container button

/-- The button names the station, or a key of its page does. -/
def ButtonNames (button : GeoPageButton) (stationId : StationId) : Prop :=
  button.stationId = some stationId ∨ ∃ page ∈ button.page, PageNames page stationId

/-- A page opened by a key of the button's page uses the station. -/
def ButtonUsesBelow (button : GeoPageButton) (stationId : StationId) : Prop :=
  ∃ page ∈ button.page, PageUsesBelow page stationId

/-- The profile names the station outside the pages that keys open. -/
def ProfileType.Names : ProfileType → StationId → Prop
  | .geo container, stationId => ∃ button, Shows container button ∧ ButtonNames button stationId
  | .tabbed tabs, stationId => ∃ tab ∈ tabs, PageNames tab.page stationId

/-- The profile uses the station on a page that a key opens. -/
def ProfileType.UsesBelow : ProfileType → StationId → Prop
  | .geo container, stationId =>
      ∃ button, Shows container button ∧ ButtonUsesBelow button stationId
  | .tabbed tabs, stationId => ∃ tab ∈ tabs, PageUsesBelow tab.page stationId

/-! ## The collectors -/

theorem mem_insertStation (stationId : Option StationId) (ids : Finset StationId)
    (id : StationId) : id ∈ insertStation stationId ids ↔ id ∈ ids ∨ stationId = some id := by
  cases stationId with
  | none => simp [insertStation]
  | some stationId =>
      simp only [insertStation, Option.elim_some, Finset.mem_insert, Option.some.injEq]
      constructor
      · rintro (same | member)
        · exact .inr same.symm
        · exact .inl member
      · rintro (member | same)
        · exact .inr member
        · exact .inl same.symm

mutual

theorem mem_collectStationIds_page (page : DirectAccessPage) (ids : Finset StationId)
    (id : StationId) : id ∈ page.collectStationIds ids ↔ id ∈ ids ∨ PageUses page id := by
  cases page with
  | mk rows content =>
      rw [DirectAccessPage.collectStationIds, mem_collectStationIds_content content ids id,
        pageUses_iff]
      rfl

theorem mem_collectStationIds_content (content : DirectAccessPageContent)
    (ids : Finset StationId) (id : StationId) :
    id ∈ content.collectStationIds ids ↔
      id ∈ ids ∨ ∃ key ∈ content.keyList, KeyUses key id := by
  cases content with
  | keys entries =>
      rw [DirectAccessPageContent.collectStationIds]
      exact mem_collectKeys entries ids id
  | clientPage => simp [DirectAccessPageContent.collectStationIds, DirectAccessPageContent.keyList]

theorem mem_collectKeys (keys : List DirectAccessKey) (ids : Finset StationId)
    (id : StationId) : id ∈ collectKeys keys ids ↔ id ∈ ids ∨ ∃ key ∈ keys, KeyUses key id := by
  cases keys with
  | nil => simp [collectKeys]
  | cons key keys =>
      cases key with
      | mk label stationId page =>
          rw [collectKeys, mem_collectKeys keys _ id, mem_collectPage page _ id,
            mem_insertStation]
          simp only [List.exists_mem_cons_iff, KeyUses, DirectAccessKey.stationId,
            DirectAccessKey.page, or_assoc]

theorem mem_collectPage (page : Option DirectAccessPage) (ids : Finset StationId)
    (id : StationId) :
    id ∈ collectPage page ids ↔ id ∈ ids ∨ ∃ sub ∈ page, PageUses sub id := by
  cases page with
  | none => simp [collectPage]
  | some page =>
      rw [collectPage, mem_collectStationIds_page page ids id]
      simp

end

/-- The station is named or used by a button, at whatever depth. -/
def ButtonUses (button : GeoPageButton) (stationId : StationId) : Prop :=
  button.stationId = some stationId ∨ ∃ page ∈ button.page, PageUses page stationId

theorem buttonUses_iff (button : GeoPageButton) (stationId : StationId) :
    ButtonUses button stationId ↔
      ButtonNames button stationId ∨ ButtonUsesBelow button stationId := by
  simp only [ButtonUses, ButtonNames, ButtonUsesBelow, pageUses_iff_names_or_below]
  constructor
  · rintro (names | ⟨page, opens, names | below⟩)
    · exact .inl (.inl names)
    · exact .inl (.inr ⟨page, opens, names⟩)
    · exact .inr ⟨page, opens, below⟩
  · rintro ((names | ⟨page, opens, names⟩) | ⟨page, opens, below⟩)
    · exact .inl names
    · exact .inr ⟨page, opens, .inl names⟩
    · exact .inr ⟨page, opens, .inr below⟩

/-- The button is the node, or is in the container that is the node. -/
def NodeShows : GeoNode → GeoPageButton → Prop
  | .container container, button => Shows container button
  | .button own, button => own = button
  | .divider _, _ => False

theorem shows_iff (container : GeoPageContainer) (button : GeoPageButton) :
    Shows container button ↔ ∃ node ∈ container.children, NodeShows node button := by
  constructor
  · intro shows
    cases shows with
    | child member => exact ⟨_, member, rfl⟩
    | nested member shows => exact ⟨_, member, shows⟩
  · rintro ⟨node, member, shows⟩
    cases node with
    | container inner => exact .nested member shows
    | button own =>
        cases shows
        exact .child member
    | divider divider => exact shows.elim

theorem mem_collectStationIds_button (button : GeoPageButton) (ids : Finset StationId)
    (id : StationId) :
    id ∈ button.collectStationIds ids ↔ id ∈ ids ∨ ButtonUses button id := by
  rw [GeoPageButton.collectStationIds, mem_insertStation, mem_collectPage, or_assoc]
  exact or_congr_right or_comm

mutual

theorem mem_collectStationIds_container (container : GeoPageContainer) (ids : Finset StationId)
    (id : StationId) :
    id ∈ container.collectStationIds ids ↔
      id ∈ ids ∨ ∃ button, Shows container button ∧ ButtonUses button id := by
  cases container with
  | mk style children =>
      rw [GeoPageContainer.collectStationIds, mem_collectNodes children ids id]
      simp only [shows_iff, GeoPageContainer.children]
      refine or_congr_right ⟨?_, ?_⟩
      · rintro ⟨node, member, button, shows, uses⟩
        exact ⟨button, ⟨node, member, shows⟩, uses⟩
      · rintro ⟨button, ⟨node, member, shows⟩, uses⟩
        exact ⟨node, member, button, shows, uses⟩

theorem mem_collectNodes (nodes : List GeoNode) (ids : Finset StationId) (id : StationId) :
    id ∈ collectNodes nodes ids ↔
      id ∈ ids ∨ ∃ node ∈ nodes, ∃ button, NodeShows node button ∧ ButtonUses button id := by
  cases nodes with
  | nil => simp [collectNodes]
  | cons node nodes =>
      rw [collectNodes, mem_collectNodes nodes _ id, mem_collectStationIds_node node _ id,
        List.exists_mem_cons_iff, or_assoc]

theorem mem_collectStationIds_node (node : GeoNode) (ids : Finset StationId) (id : StationId) :
    id ∈ node.collectStationIds ids ↔
      id ∈ ids ∨ ∃ button, NodeShows node button ∧ ButtonUses button id := by
  cases node with
  | container container =>
      rw [GeoNode.collectStationIds]
      exact mem_collectStationIds_container container ids id
  | button button =>
      rw [GeoNode.collectStationIds, mem_collectStationIds_button]
      simp [NodeShows]
  | divider divider => simp [GeoNode.collectStationIds, NodeShows]

end

theorem mem_collectStationIds_tabs (tabs : List Tab) (ids : Finset StationId) (id : StationId) :
    id ∈ tabs.foldl (fun ids tab => tab.collectStationIds ids) ids ↔
      id ∈ ids ∨ ∃ tab ∈ tabs, PageUses tab.page id := by
  induction tabs generalizing ids with
  | nil => simp
  | cons tab tabs ih =>
      rw [List.foldl_cons, ih, Tab.collectStationIds, mem_collectStationIds_page,
        List.exists_mem_cons_iff, or_assoc]

/-- The collectors gather the stations that are named outside the pages keys open, and those used
on such pages. -/
theorem mem_collectStationIds_iff (profileType : ProfileType) (id : StationId) :
    id ∈ profileType.collectStationIds ∅ ↔ profileType.Names id ∨ profileType.UsesBelow id := by
  cases profileType with
  | geo container =>
      rw [ProfileType.collectStationIds, mem_collectStationIds_container]
      simp only [Finset.notMem_empty, false_or, buttonUses_iff, and_or_left, exists_or]
      rfl
  | tabbed tabs =>
      rw [ProfileType.collectStationIds, mem_collectStationIds_tabs]
      simp only [Finset.notMem_empty, false_or, pageUses_iff_names_or_below, and_or_left,
        exists_or]
      rfl

/-! ## The validators of references -/

section References

variable (stations : Finset StationId)

theorem validateStation_eq_ok_iff (stationId : Option StationId) :
    validateStation stations stationId = .ok () ↔ ∀ id ∈ stationId, id ∈ stations := by
  rw [validateStation, firstError_eq_ok_iff]
  cases stationId with
  | none => simp
  | some stationId => simp

theorem validateReferences_content (content : DirectAccessPageContent) :
    content.validateReferences stations = .ok () ↔
      ∀ key ∈ content.keyList, ∀ id ∈ key.stationId, id ∈ stations := by
  cases content with
  | keys entries =>
      rw [DirectAccessPageContent.validateReferences, forM_eq_ok_iff]
      simp only [DirectAccessKey.validateReferences, validateStation_eq_ok_iff]
      rfl
  | clientPage =>
      simp [DirectAccessPageContent.validateReferences, DirectAccessPageContent.keyList]

/-- The validator of a page looks at its own keys only. -/
theorem validateReferences_page (page : DirectAccessPage) :
    page.validateReferences stations = .ok () ↔ ∀ id, PageNames page id → id ∈ stations := by
  rw [DirectAccessPage.validateReferences, validateReferences_content]
  constructor
  · rintro known id ⟨key, member, names⟩
    exact known key member id names
  · intro known key member id names
    exact known id ⟨key, member, names⟩

theorem validateReferences_button (button : GeoPageButton) :
    button.validateReferences stations = .ok () ↔
      ∀ id, ButtonNames button id → id ∈ stations := by
  have page : (button.page.elim (.ok ()) fun page => page.validateReferences stations) =
      Except.ok () ↔ ∀ page ∈ button.page, ∀ id, PageNames page id → id ∈ stations := by
    cases button.page with
    | none => simp
    | some page =>
        rw [Option.elim_some, validateReferences_page]
        simp
  rw [GeoPageButton.validateReferences, bind_eq_ok_iff]
  constructor
  · rintro ⟨_, pageKnown, own⟩ id (names | ⟨sub, opens, names⟩)
    · exact (validateStation_eq_ok_iff stations _).mp own id names
    · exact page.mp pageKnown sub opens id names
  · intro known
    refine ⟨(), page.mpr ?_, (validateStation_eq_ok_iff stations _).mpr ?_⟩
    · intro sub opens id names
      exact known id (.inr ⟨sub, opens, names⟩)
    · intro id names
      exact known id (.inl names)

mutual

theorem validateReferences_container (container : GeoPageContainer) :
    container.validateReferences stations = .ok () ↔
      ∀ button, Shows container button → button.validateReferences stations = .ok () := by
  cases container with
  | mk style children =>
      rw [GeoPageContainer.validateReferences, validateNodeReferences_iff children]
      simp only [shows_iff, GeoPageContainer.children]
      constructor
      · rintro known button ⟨node, member, shows⟩
        exact known node member button shows
      · intro known node member button shows
        exact known button ⟨node, member, shows⟩

theorem validateNodeReferences_iff (nodes : List GeoNode) :
    validateNodeReferences stations nodes = .ok () ↔
      ∀ node ∈ nodes, ∀ button, NodeShows node button →
        button.validateReferences stations = .ok () := by
  cases nodes with
  | nil => simp [validateNodeReferences]
  | cons node nodes =>
      rw [validateNodeReferences, bind_eq_ok_iff, List.forall_mem_cons,
        validateNodeReferences_iff nodes]
      constructor
      · rintro ⟨_, first, rest⟩
        exact ⟨(validateReferences_node node).mp first, rest⟩
      · rintro ⟨first, rest⟩
        exact ⟨(), (validateReferences_node node).mpr first, rest⟩

theorem validateReferences_node (node : GeoNode) :
    node.validateReferences stations = .ok () ↔
      ∀ button, NodeShows node button → button.validateReferences stations = .ok () := by
  cases node with
  | container container =>
      rw [GeoNode.validateReferences]
      exact validateReferences_container container
  | button button => simp [GeoNode.validateReferences, NodeShows]
  | divider divider => simp [GeoNode.validateReferences, NodeShows]

end

/-- The validators check the stations that are named outside the pages keys open. -/
theorem validateReferences_eq_ok_iff (profileType : ProfileType) :
    profileType.validateReferences stations = .ok () ↔
      ∀ id, profileType.Names id → id ∈ stations := by
  cases profileType with
  | geo container =>
      rw [ProfileType.validateReferences, validateReferences_container]
      simp only [validateReferences_button]
      constructor
      · rintro known id ⟨button, shows, names⟩
        exact known button shows id names
      · intro known button shows id names
        exact known id ⟨button, shows, names⟩
  | tabbed tabs =>
      rw [ProfileType.validateReferences, forM_eq_ok_iff]
      simp only [Tab.validateReferences, validateReferences_page]
      constructor
      · rintro known id ⟨tab, member, names⟩
        exact known tab member id names
      · intro known tab member id names
        exact known id ⟨tab, member, names⟩

/-- The references of a loaded profile are valid exactly if all stations it uses are known, unless
the profile names known stations only and a page that a key opens uses an unknown one. -/
theorem validateReferences_iff (digit : Char → Bool) (raw : ProfileRaw) (profile : Profile)
    (accepted : Profile.fromRaw digit raw = .ok profile) :
    (profile.validateReferences stations = .ok () ↔
        ∀ id ∈ profile.relevantStationIds, id ∈ stations) ↔
      ((∀ id, profile.profileType.Names id → id ∈ stations) →
        ∀ id, profile.profileType.UsesBelow id → id ∈ stations) := by
  obtain ⟨_, _, loaded⟩ := bind_eq_ok_iff.mp accepted
  cases built : raw.profileType.fromRaw digit with
  | error error =>
      rw [built] at loaded
      cases loaded
  | ok profileType =>
      rw [built] at loaded
      cases loaded
      simp only [Profile.validateReferences, validateReferences_eq_ok_iff,
        mem_collectStationIds_iff]
      constructor
      · intro agree names id below
        exact agree.mp names id (.inr below)
      · intro below
        constructor
        · rintro names id (named | used)
          · exact names id named
          · exact below names id used
        · intro known id named
          exact known id (.inl named)

end References

/-! ### A profile with a page under a key -/

/-- A key with a station. -/
def stationKey (stationId : String) : DirectAccessKey :=
  .mk [stationId] (some ⟨stationId⟩) none

/-- A tabbed profile whose tab has the given keys. -/
def tabbedProfile (keys : List DirectAccessKey) : ProfileRaw where
  id := ⟨"TEST"⟩
  view := .page
  profileType := .tabbed [{ label := ["Tab"], page := .mk 1 (.keys keys) }]

/-- The loaded profile with a key for a station and a key that opens a page with another one. -/
def nestedProfile : Profile where
  id := ⟨"TEST"⟩
  view := .page
  profileType := .tabbed [{
    label := ["Tab"]
    page := .mk 1 (.keys [stationKey "S1", .mk ["More"] none (some (.mk 1 (.keys
      [stationKey "S2"])))]) }]
  relevantStationIds := {⟨"S2"⟩, ⟨"S1"⟩}

theorem nestedProfile_accepted :
    Profile.fromRaw Char.isDigit (tabbedProfile [stationKey "S1",
      .mk ["More"] none (some (.mk 1 (.keys [stationKey "S2"])))]) = .ok nestedProfile := by
  rfl

/-- Where S1 and S2 are known, the two agree. -/
theorem validateReferences_nestedProfile :
    nestedProfile.validateReferences {⟨"S1"⟩, ⟨"S2"⟩} = .ok () ↔
      ∀ id ∈ nestedProfile.relevantStationIds, id ∈ ({⟨"S1"⟩, ⟨"S2"⟩} : Finset StationId) := by
  have collected : nestedProfile.profileType.collectStationIds ∅ = {⟨"S1"⟩, ⟨"S2"⟩} := by
    decide +kernel
  refine (validateReferences_iff _ Char.isDigit _ _ nestedProfile_accepted).mpr ?_
  intro _ id below
  rw [← collected]
  exact (mem_collectStationIds_iff _ id).mpr (.inr below)

/-- Where only S1 is known, the profile passes with a dead key. -/
theorem validateReferences_misses_subPage :
    ¬ ∀ (raw : ProfileRaw) (profile : Profile) (stations : Finset StationId),
      Profile.fromRaw Char.isDigit raw = .ok profile →
        (profile.validateReferences stations = .ok () ↔
          ∀ id ∈ profile.relevantStationIds, id ∈ stations) := by
  intro covers
  have agree := covers _ _ {⟨"S1"⟩} nestedProfile_accepted
  have known := agree.mp rfl ⟨"S2"⟩ (by decide)
  exact absurd known (by decide)

end Layout

end Vacs
