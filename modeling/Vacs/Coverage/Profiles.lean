import Vacs.Coverage.Network
import Vacs.Coverage.Validation

/-!
# Profiles

A profile lays out the stations a controller calls: a geo profile as containers of
buttons, a tabbed profile as tabs of pages. A page has keys, and a key can open a
page of its own, to any depth.

Two traversals go over this tree. The collectors gather the stations a profile uses,
the validators check them against the stations of the dataset. The validator of a
key does not look at the page the key opens (`validateReferences_iff`), so it covers
the profile only if nothing is missing there.
-/

set_option autoImplicit false

namespace Vacs

open Checks

namespace Layout

/-! ## The tree -/

mutual

inductive DirectAccessPage where
  | mk (rows : ℕ) (content : DirectAccessPageContent)

inductive DirectAccessPageContent where
  | keys (keys : List DirectAccessKey)
  | clientPage

inductive DirectAccessKey where
  | mk (label : List String) (stationId : Option StationId) (page : Option DirectAccessPage)

end

structure Tab where
  label : List String
  page : DirectAccessPage

structure GeoPageButton where
  label : List String
  size : Float
  page : Option DirectAccessPage
  stationId : Option StationId

structure GeoPageDivider where
  thickness : Float
  color : String

/-- The size and the spacing of a container. -/
structure BoxStyle where
  height : Option String
  width : Option String
  padding : Option Float
  paddingLeft : Option Float
  paddingRight : Option Float
  paddingTop : Option Float
  paddingBottom : Option Float
  gap : Option Float

mutual

inductive GeoPageContainer where
  | mk (style : BoxStyle) (children : List GeoNode)

inductive GeoNode where
  | container (container : GeoPageContainer)
  | button (button : GeoPageButton)
  | divider (divider : GeoPageDivider)

end

inductive ProfileType where
  | geo (container : GeoPageContainer)
  | tabbed (tabs : List Tab)

inductive ProfileView where
  | page
  | split
  | cycle
deriving DecidableEq

def ProfileView.display : ProfileView → String
  | .page => "Page"
  | .split => "Split"
  | .cycle => "Cycle"

/-- A profile as it is read. -/
structure ProfileRaw where
  id : ProfileId
  view : ProfileView
  profileType : ProfileType

def DirectAccessPageContent.keyList : DirectAccessPageContent → List DirectAccessKey
  | .keys entries => entries
  | .clientPage => []

namespace DirectAccessPage

def content : DirectAccessPage → DirectAccessPageContent
  | .mk _ content => content

def keyList (page : DirectAccessPage) : List DirectAccessKey :=
  page.content.keyList

end DirectAccessPage

namespace DirectAccessKey

def stationId : DirectAccessKey → Option StationId
  | .mk _ stationId _ => stationId

def page : DirectAccessKey → Option DirectAccessPage
  | .mk _ _ page => page

end DirectAccessKey

def GeoPageContainer.children : GeoPageContainer → List GeoNode
  | .mk _ children => children

/-! ## Validators -/

def invalidLabel (label : List String) : CoverageError :=
  .validation (.invalidValue "label" (.lines label) "cannot have more than 3 lines")

def stationOrPage : CoverageError :=
  .validation (.mutuallyExclusive ["station_id", "page"])

mutual

def DirectAccessPage.validate : DirectAccessPage → Except CoverageError Unit
  | .mk rows content =>
      (firstError [(decide (rows = 0),
        .validation (.outOfRange "rows" (.number rows) (.number 1) none))]).bind fun _ =>
          content.validate

def DirectAccessPageContent.validate : DirectAccessPageContent → Except CoverageError Unit
  | .keys keys => validateKeys keys
  | .clientPage => .ok ()

def validateKeys : List DirectAccessKey → Except CoverageError Unit
  | [] => .ok ()
  | key :: keys => key.validate.bind fun _ => validateKeys keys

def DirectAccessKey.validate : DirectAccessKey → Except CoverageError Unit
  | .mk label stationId page =>
      (firstError [
        (decide (3 < label.length), invalidLabel label),
        (stationId.isSome && page.isSome, stationOrPage)]).bind fun _ => validatePage page

def validatePage : Option DirectAccessPage → Except CoverageError Unit
  | none => .ok ()
  | some page => page.validate

end

def Tab.validate (tab : Tab) : Except CoverageError Unit :=
  (firstError [
    (tab.label.isEmpty || tab.label.all fun line => line.isEmpty, .validation (.empty "label")),
    (decide (3 < tab.label.length), invalidLabel tab.label)]).bind fun _ => tab.page.validate

def GeoPageButton.validate (button : GeoPageButton) : Except CoverageError Unit :=
  (firstError [
    (button.label.isEmpty, .validation (.empty "label")),
    (decide (3 < button.label.length), invalidLabel button.label),
    (decide (button.size < 0), .validation (.outOfRange "size" (.float button.size) (.float 0) none)),
    (button.stationId.isSome && button.page.isSome, stationOrPage)]).bind fun _ =>
      validatePage button.page

def GeoPageDivider.validate (divider : GeoPageDivider) : Except CoverageError Unit :=
  firstError [
    (decide (divider.thickness ≤ 0),
      .validation (.outOfRange "thickness" (.float divider.thickness) (.float 0) none)),
    (divider.color.isEmpty, .validation (.empty "color"))]

section Geo

variable (digit : Char → Bool)

/-- The check of a size. -/
def checkSize (field : String) (size : Option String) : Bool × CoverageError :=
  (size.any fun size => !isSize digit size,
    .validation (.invalidFormat field (.text (size.getD ""))
      "must either be provided as percentage or rem"))

/-- The check of a length that is not negative. -/
def checkSpacing (field : String) (spacing : Option Float) : Bool × CoverageError :=
  (spacing.any fun spacing => decide (spacing < 0),
    .validation (.outOfRange field (.float (spacing.getD 0)) (.float 0) none))

def BoxStyle.checks (style : BoxStyle) : List (Bool × CoverageError) :=
  [checkSize digit "height" style.height, checkSize digit "width" style.width,
    checkSpacing "padding" style.padding, checkSpacing "padding_left" style.paddingLeft,
    checkSpacing "padding_right" style.paddingRight, checkSpacing "padding_top" style.paddingTop,
    checkSpacing "padding_bottom" style.paddingBottom, checkSpacing "gap" style.gap]

mutual

def GeoPageContainer.validate : GeoPageContainer → Except CoverageError Unit
  | .mk style children =>
      (firstError (style.checks digit ++
        [(children.isEmpty, .validation (.empty "children"))])).bind fun _ => validateNodes children

def validateNodes : List GeoNode → Except CoverageError Unit
  | [] => .ok ()
  | node :: nodes => node.validate.bind fun _ => validateNodes nodes

def GeoNode.validate : GeoNode → Except CoverageError Unit
  | .container container => container.validate
  | .button button => button.validate
  | .divider divider => divider.validate

end

def ProfileType.validate : ProfileType → Except CoverageError Unit
  | .geo container => container.validate digit
  | .tabbed tabs =>
      (firstError [(tabs.isEmpty, .validation (.empty "tabs"))]).bind fun _ =>
        tabs.forM Tab.validate

def ProfileType.isGeo : ProfileType → Bool
  | .geo _ => true
  | .tabbed _ => false

def ProfileRaw.validate (raw : ProfileRaw) : Except CoverageError Unit :=
  (firstError [
    (raw.id.val.isEmpty, .validation (.empty "id")),
    (raw.profileType.isGeo && decide (raw.view ≠ .page),
      .validation (.invalidValue "view" (.text raw.view.display)
        "geo profiles only support the page view"))]).bind fun _ =>
      raw.profileType.validate digit

/-! ## Loading a profile

Every part is validated once more when it is built. -/

mutual

def DirectAccessPage.fromRaw : DirectAccessPage → Except CoverageError DirectAccessPage
  | .mk rows content => content.fromRaw.map (.mk rows)

def DirectAccessPageContent.fromRaw :
    DirectAccessPageContent → Except CoverageError DirectAccessPageContent
  | .keys entries => (keysFromRaw entries).map .keys
  | .clientPage => .ok .clientPage

def keysFromRaw : List DirectAccessKey → Except CoverageError (List DirectAccessKey)
  | [] => .ok []
  | key :: keys => key.tryFrom.bind fun key => (keysFromRaw keys).map (key :: ·)

def DirectAccessKey.tryFrom : DirectAccessKey → Except CoverageError DirectAccessKey
  | .mk label stationId page =>
      (DirectAccessKey.mk label stationId page).validate.bind fun _ =>
        (pageFromRaw page).map (.mk label stationId)

def pageFromRaw : Option DirectAccessPage → Except CoverageError (Option DirectAccessPage)
  | none => .ok none
  | some page => page.fromRaw.map some

end

def Tab.fromRaw (raw : Tab) : Except CoverageError Tab :=
  raw.validate.bind fun _ => raw.page.fromRaw.map fun page => { raw with page := page }

def GeoPageButton.fromRaw (raw : GeoPageButton) : Except CoverageError GeoPageButton :=
  raw.validate.bind fun _ => (pageFromRaw raw.page).map fun page => { raw with page := page }

def GeoPageDivider.fromRaw (raw : GeoPageDivider) : Except CoverageError GeoPageDivider :=
  raw.validate.map fun _ => raw

mutual

def GeoPageContainer.fromRaw : GeoPageContainer → Except CoverageError GeoPageContainer
  | .mk style children =>
      ((GeoPageContainer.mk style children).validate digit).bind fun _ =>
        (nodesFromRaw children).map (.mk style)

def nodesFromRaw : List GeoNode → Except CoverageError (List GeoNode)
  | [] => .ok []
  | node :: nodes => node.fromRaw.bind fun node => (nodesFromRaw nodes).map (node :: ·)

def GeoNode.fromRaw : GeoNode → Except CoverageError GeoNode
  | .container container => container.fromRaw.map .container
  | .button button => button.fromRaw.map .button
  | .divider divider => divider.fromRaw.map .divider

end

def ProfileType.fromRaw : ProfileType → Except CoverageError ProfileType
  | .geo container => (container.fromRaw digit).map .geo
  | .tabbed tabs => (tabs.mapM Tab.fromRaw).map .tabbed

end Geo

/-! ## Collectors -/

def insertStation (stationId : Option StationId) (ids : Finset StationId) : Finset StationId :=
  stationId.elim ids fun stationId => insert stationId ids

mutual

def DirectAccessPage.collectStationIds : DirectAccessPage → Finset StationId → Finset StationId
  | .mk _ content, ids => content.collectStationIds ids

def DirectAccessPageContent.collectStationIds :
    DirectAccessPageContent → Finset StationId → Finset StationId
  | .keys entries, ids => collectKeys entries ids
  | .clientPage, ids => ids

def collectKeys : List DirectAccessKey → Finset StationId → Finset StationId
  | [], ids => ids
  | .mk _ stationId page :: keys, ids =>
      collectKeys keys (collectPage page (insertStation stationId ids))

def collectPage : Option DirectAccessPage → Finset StationId → Finset StationId
  | none, ids => ids
  | some page, ids => page.collectStationIds ids

end

def Tab.collectStationIds (tab : Tab) (ids : Finset StationId) : Finset StationId :=
  tab.page.collectStationIds ids

def GeoPageButton.collectStationIds (button : GeoPageButton) (ids : Finset StationId) :
    Finset StationId :=
  insertStation button.stationId (collectPage button.page ids)

mutual

def GeoPageContainer.collectStationIds : GeoPageContainer → Finset StationId → Finset StationId
  | .mk _ children, ids => collectNodes children ids

def collectNodes : List GeoNode → Finset StationId → Finset StationId
  | [], ids => ids
  | node :: nodes, ids => collectNodes nodes (node.collectStationIds ids)

def GeoNode.collectStationIds : GeoNode → Finset StationId → Finset StationId
  | .container container, ids => container.collectStationIds ids
  | .button button, ids => button.collectStationIds ids
  | .divider _, ids => ids

end

def ProfileType.collectStationIds : ProfileType → Finset StationId → Finset StationId
  | .geo container, ids => container.collectStationIds ids
  | .tabbed tabs, ids => tabs.foldl (fun ids tab => tab.collectStationIds ids) ids

/-- A loaded profile. -/
structure Profile where
  id : ProfileId
  view : ProfileView
  profileType : ProfileType
  relevantStationIds : Finset StationId

def Profile.fromRaw (digit : Char → Bool) (raw : ProfileRaw) : Except CoverageError Profile :=
  (raw.validate digit).bind fun _ =>
    (raw.profileType.fromRaw digit).map fun profileType =>
      { id := raw.id
        view := raw.view
        profileType := profileType
        relevantStationIds := profileType.collectStationIds ∅ }

/-- What the rest of the server knows of a profile. -/
def Profile.toProfile (profile : Profile) : Vacs.Profile where
  id := profile.id
  relevantStationIds := profile.relevantStationIds

/-! ## Validators of references -/

section References

variable (stations : Finset StationId)

def validateStation (stationId : Option StationId) : Except CoverageError Unit :=
  firstError [(stationId.any fun stationId => decide (stationId ∉ stations),
    .validation (.missingReference "station_id" (stationId.elim "" StationId.val)))]

def DirectAccessKey.validateReferences (key : DirectAccessKey) : Except CoverageError Unit :=
  validateStation stations key.stationId

def DirectAccessPageContent.validateReferences :
    DirectAccessPageContent → Except CoverageError Unit
  | .keys entries => entries.forM fun key => key.validateReferences stations
  | .clientPage => .ok ()

def DirectAccessPage.validateReferences (page : DirectAccessPage) : Except CoverageError Unit :=
  page.content.validateReferences stations

def Tab.validateReferences (tab : Tab) : Except CoverageError Unit :=
  tab.page.validateReferences stations

def GeoPageButton.validateReferences (button : GeoPageButton) : Except CoverageError Unit :=
  (button.page.elim (.ok ()) fun page => page.validateReferences stations).bind fun _ =>
    validateStation stations button.stationId

mutual

def GeoPageContainer.validateReferences : GeoPageContainer → Except CoverageError Unit
  | .mk _ children => validateNodeReferences children

def validateNodeReferences : List GeoNode → Except CoverageError Unit
  | [] => .ok ()
  | node :: nodes => node.validateReferences.bind fun _ => validateNodeReferences nodes

def GeoNode.validateReferences : GeoNode → Except CoverageError Unit
  | .container container => container.validateReferences
  | .button button => button.validateReferences stations
  | .divider _ => .ok ()

end

def ProfileType.validateReferences : ProfileType → Except CoverageError Unit
  | .geo container => container.validateReferences stations
  | .tabbed tabs => tabs.forM fun tab => tab.validateReferences stations

def Profile.validateReferences (profile : Profile) : Except CoverageError Unit :=
  profile.profileType.validateReferences stations

end References

end Layout

end Vacs
