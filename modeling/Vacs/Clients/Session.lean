import Vacs.Coverage.Network

/-!
# Controllers and client sessions

A controller is a connection to VATSIM as a data feed reports it. A client
session is a connection to this server: what the client is announced as, the
profile it has selected, the channel its messages go into, and whether the last
sync round found no usable VATSIM connection for it.

The rest of the source's session, its shutdown signal and its connection guard,
is not part of this model; the channel stands for the identity of the session.
-/

set_option autoImplicit false

namespace Vacs

/-! ## Controllers -/

/-- A VATSIM connection. -/
structure ControllerInfo where
  cid : ClientId
  callsign : String
  frequency : String
  facilityType : FacilityType
  visualRange : Option ℕ
deriving DecidableEq

namespace ControllerInfo

/-- Which of several connections of one client is the position it works. -/
def rank (controller : ControllerInfo) : ℕ ×ₗ ℕ ×ₗ FacilityType ×ₗ String :=
  let facilityClass : ℕ :=
    match controller.facilityType with
    | .unknown => 0
    | .trafficFlow | .radio => 1
    | .ramp | .delivery | .ground | .tower | .approach | .departure | .enroute
    | .flightServiceStation => 2
  let range : ℕ :=
    match controller.visualRange with
    | some 0 => 0
    | none => 1
    | some _ => 2
  toLex (facilityClass, toLex (range, toLex (controller.facilityType, controller.callsign)))

/-- The controllers of a feed by client, without supervisors. -/
def indexByCid (controllers : List ControllerInfo) : HashMap ClientId ControllerInfo :=
  controllers.foldl (fun byCid controller =>
    if "_SUP".toList.isSuffixOf controller.callsign.toList then byCid
    else
      match byCid.lookup controller.cid with
      | none => byCid.insert controller.cid controller
      | some earlier =>
          if controller.rank > earlier.rank then byCid.insert controller.cid controller
          else byCid) ∅

end ControllerInfo

/-! ## Sessions -/

/-- What a client is announced as. -/
structure ClientInfo where
  id : ClientId
  displayName : String
  frequency : String
  positionId : Option PositionId
deriving DecidableEq

/-- What a session update says about the profile. -/
inductive SessionProfile where
  | unchanged
  | changed (profile : ActiveProfile Profile)
deriving DecidableEq

/-- What a client is told about its own session. -/
structure SessionInfo where
  client : ClientInfo
  profile : SessionProfile
  defaultCallSources : List StationId
  maxConfSize : ℕ
deriving DecidableEq

/-- Why the server ends a session. -/
inductive DisconnectReason where
  | terminated
  | noActiveVatsimConnection
  | ambiguousVatsimPosition (positions : List PositionId)
deriving DecidableEq

structure ClientSession where
  clientInfo : ClientInfo
  activeProfile : ActiveProfile ProfileId
  /-- The channel of the session, a new one for every login. -/
  tx : ℕ
  connectedAt : Instant
  pendingDisconnect : Bool
deriving DecidableEq

namespace ClientSession

def new (clientInfo : ClientInfo) (activeProfile : ActiveProfile ProfileId) (tx : ℕ)
    (now : Instant) : ClientSession where
  clientInfo := clientInfo
  activeProfile := activeProfile
  tx := tx
  connectedAt := now
  pendingDisconnect := false

def id (session : ClientSession) : ClientId := session.clientInfo.id

def positionId (session : ClientSession) : Option PositionId := session.clientInfo.positionId

/-- Whether the data feed may not have caught up with the login yet. -/
def isWithinPositionGracePeriod (session : ClientSession) (gracePeriod : Duration)
    (now : Instant) : Bool :=
  decide (now - session.connectedAt < gracePeriod)

def markPendingDisconnect (session : ClientSession) : ClientSession :=
  { session with pendingDisconnect := true }

/-- Clear the disconnect mark and say whether there was one. -/
def takePendingDisconnect (session : ClientSession) : ClientSession × Bool :=
  ({ session with pendingDisconnect := false }, session.pendingDisconnect)

/-- Take over callsign and frequency, and say whether either changed. -/
def updateClientInfo (session : ClientSession) (controllerInfo : ControllerInfo) :
    ClientSession × Bool :=
  ({ session with
      clientInfo := { session.clientInfo with
        displayName := controllerInfo.callsign
        frequency := controllerInfo.frequency } },
    session.clientInfo.displayName != controllerInfo.callsign ||
      session.clientInfo.frequency != controllerInfo.frequency)

def setPositionId (session : ClientSession) (positionId : Option PositionId) : ClientSession :=
  { session with clientInfo := { session.clientInfo with positionId := positionId } }

/-- Select a profile, or none if the network does not have it. -/
def selectProfile (session : ClientSession) (newProfileId : ProfileId) (network : Network) :
    ClientSession × SessionProfile :=
  match network.getProfile newProfileId with
  | some profile =>
      ({ session with activeProfile := .specific newProfileId }, .changed (.specific profile))
  | none => ({ session with activeProfile := .none }, .changed .none)

/-- Follow the profile of a new position; a custom selection stays. -/
def updateActiveProfile (session : ClientSession) (newProfileId : Option ProfileId)
    (network : Network) : ClientSession × SessionProfile :=
  match session.activeProfile, newProfileId with
  | .specific oldProfileId, some newProfileId =>
      if oldProfileId = newProfileId then (session, .unchanged)
      else session.selectProfile newProfileId network
  | .none, none => (session, .unchanged)
  | .custom, _ => (session, .unchanged)
  | _, some newProfileId => session.selectProfile newProfileId network
  | _, none => ({ session with activeProfile := .none }, .changed .none)

@[simp] theorem positionId_setPositionId (session : ClientSession)
    (positionId : Option PositionId) : (session.setPositionId positionId).positionId = positionId :=
  rfl

/-- What may become of the profile of a session that follows a position: it stays, it is cleared,
or the profile of the position is selected. -/
inductive Follows (session : ClientSession) (newProfileId : Option ProfileId) (network : Network) :
    ClientSession × SessionProfile → Prop
  | stays (same : ∀ profileId, session.activeProfile = .specific profileId →
      newProfileId = some profileId) : Follows session newProfileId network (session, .unchanged)
  | clears : Follows session newProfileId network
      ({ session with activeProfile := .none }, .changed .none)
  | selects {profileId : ProfileId} {profile : Profile} (isNew : newProfileId = some profileId)
      (known : network.getProfile profileId = some profile) :
      Follows session newProfileId network
        ({ session with activeProfile := .specific profileId }, .changed (.specific profile))

theorem selectProfile_follows (session : ClientSession) (profileId : ProfileId)
    (network : Network) :
    session.Follows (some profileId) network (session.selectProfile profileId network) := by
  unfold selectProfile
  cases known : network.getProfile profileId with
  | none => exact .clears
  | some profile => exact .selects rfl known

theorem updateActiveProfile_follows (session : ClientSession) (newProfileId : Option ProfileId)
    (network : Network) :
    session.Follows newProfileId network (session.updateActiveProfile newProfileId network) := by
  unfold updateActiveProfile
  cases selected : session.activeProfile with
  | specific oldProfileId =>
      cases newProfileId with
      | none => exact .clears
      | some newProfileId =>
          simp only
          split
          · rename_i same
            refine .stays fun profileId isSelected => ?_
            rw [selected] at isSelected
            cases isSelected
            exact congrArg some same.symm
          · exact session.selectProfile_follows newProfileId network
  | custom =>
      refine .stays fun profileId isSelected => ?_
      rw [selected] at isSelected
      cases isSelected
  | none =>
      cases newProfileId with
      | none =>
          refine .stays fun profileId isSelected => ?_
          rw [selected] at isSelected
          cases isSelected
      | some newProfileId => exact session.selectProfile_follows newProfileId network

@[simp] theorem clientInfo_updateActiveProfile (session : ClientSession)
    (newProfileId : Option ProfileId) (network : Network) :
    (session.updateActiveProfile newProfileId network).1.clientInfo = session.clientInfo := by
  have follows := session.updateActiveProfile_follows newProfileId network
  generalize session.updateActiveProfile newProfileId network = outcome at follows ⊢
  cases follows <;> rfl

@[simp] theorem positionId_updateActiveProfile (session : ClientSession)
    (newProfileId : Option ProfileId) (network : Network) :
    (session.updateActiveProfile newProfileId network).1.positionId = session.positionId := by
  simp [positionId]

@[simp] theorem tx_updateActiveProfile (session : ClientSession)
    (newProfileId : Option ProfileId) (network : Network) :
    (session.updateActiveProfile newProfileId network).1.tx = session.tx := by
  have follows := session.updateActiveProfile_follows newProfileId network
  generalize session.updateActiveProfile newProfileId network = outcome at follows ⊢
  cases follows <;> rfl

end ClientSession

end Vacs
