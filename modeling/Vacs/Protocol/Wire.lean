import Vacs.Foundations.JsonFormats
import Vacs.Signaling.Messages

/-!
# The messages as they are sent

Every message is a JSON object with its type in the member `type`, next to the members of its
payload. Members without a value are left out, apart from the position of a login.

A peer of a newer version may send what this one does not know. Members that are not known are
skipped. A reason that is not known is kept as a value, so that it can be shown or passed on, and
never keeps the rest of a message from being read. A message of a type that is not known is
read as such by a client, and refused by the server.

What was read is written so that it reads the same, unless a reason names a member twice: of two
reasons in one, which are none, the second one is kept. Built by hand, a message can fail to come
back too: one whose reason claims to be unknown and is written like one that is known
(`Encodings.ClientMessageTold`, `Encodings.ServerMessageTold`).
-/

set_option autoImplicit false

namespace Vacs

namespace Wire

open Signaling (WebrtcDescription)

/-! ## The messages -/

inductive CallErrorReason where
  | targetsNotFound (targets : Finset CallTarget)
  | alreadyParticipant (target : CallTarget)
  | callNotFound
  | callActive
  | webrtcFailure (clientId : ClientId)
  | audioFailure (clientId : ClientId)
  | callFailure
  | signalingFailure (clientId : ClientId)
  | autoHangup
  | peerConnectionFailed (clientId : ClientId)
  | notConferenceLeader (target : CallTarget)
  | notParticipant
  | maxConferenceSizeReached (targets : Finset CallTarget)
  | other

inductive CallRejectReason where
  | busy

inductive CallCancelReason where
  | answeredElsewhere (clientId : ClientId)
  | callerCancelled
  | disconnected
  | errored (reason : WithUnknown CallErrorReason)
  | rejected (reason : WithUnknown CallRejectReason)

inductive ErrorReason where
  | malformedMessage
  | internal (message : String)
  | peerConnection
  | unexpectedMessage (message : String)
  | rateLimited (targets : Finset CallTarget) (retryAfterSecs : BitVec 64)
  | clientNotFound

inductive LoginFailureReason where
  | unauthorized
  | duplicateId
  | invalidCredentials
  | noActiveVatsimConnection
  | ambiguousVatsimPosition (positions : List PositionId)
  | invalidVatsimPosition
  | timeout
  | incompatibleProtocolVersion

inductive DisconnectReason where
  | terminated
  | noActiveVatsimConnection
  | ambiguousVatsimPosition (positions : List PositionId)

structure CallAccept where
  callId : CallId
  acceptingClientId : ClientId

structure CallReject where
  callId : CallId
  rejectingClientId : ClientId
  reason : WithUnknown CallRejectReason

structure CallDropTarget where
  callId : CallId
  target : CallTarget
  reason : CallDropReason

structure CallError where
  callId : CallId
  reason : WithUnknown CallErrorReason
  message : Option String

structure CallCancelled where
  callId : CallId
  targets : Finset CallTarget
  reason : WithUnknown CallCancelReason

structure WebrtcIceCandidate where
  callId : CallId
  fromClientId : ClientId
  toClientId : ClientId
  candidate : String

structure Error where
  reason : WithUnknown ErrorReason
  clientId : Option ClientId
  callId : Option CallId

structure Login where
  token : String
  protocolVersion : String
  customProfile : Bool
  positionId : Option PositionId

inductive SessionProfile (Profile : Type) where
  | unchanged
  | changed (activeProfile : ActiveProfile Profile)

structure SessionInfo (Profile : Type) where
  client : ClientInfo
  profile : SessionProfile Profile
  defaultCallSources : List StationId
  maxConfSize : Option (BitVec 32)

inductive ClientMessage where
  | login (login : Login)
  | logout
  | callInvite (invite : CallInvite)
  | callAccept (accept : CallAccept)
  | callEnd (callEnd : CallEnd)
  | callReject (reject : CallReject)
  | callError (error : CallError)
  | callDropTarget (drop : CallDropTarget)
  | webrtcOffer (offer : WebrtcDescription)
  | webrtcAnswer (answer : WebrtcDescription)
  | webrtcIceCandidate (candidate : WebrtcIceCandidate)
  | listClients
  | listStations
  | disconnect
  | error (error : Error)

inductive ServerMessage (Profile : Type) where
  | loginFailure (reason : WithUnknown LoginFailureReason)
  | callInvitation (invitation : CallInvitation)
  | callEnd (callEnd : CallEnd)
  | callUpdate (update : CallUpdate)
  | callCancelled (cancelled : CallCancelled)
  | callError (error : CallError)
  | webrtcOffer (offer : WebrtcDescription)
  | webrtcAnswer (answer : WebrtcDescription)
  | webrtcIceCandidate (candidate : WebrtcIceCandidate)
  | clientInfo (info : ClientInfo)
  | sessionInfo (info : SessionInfo Profile)
  | clientConnected (client : ClientInfo)
  | clientDisconnected (clientId : ClientId)
  | clientList (clients : List ClientInfo)
  | stationList (stations : List StationInfo)
  | stationChanges (changes : List StationChange)
  | disconnected (reason : WithUnknown DisconnectReason)
  | error (error : Error)
  /-- A message of a type that this version does not know. -/
  | unknown

/-- What the formats take from elsewhere: the text of a UUID, the format of a profile, and the
orders in which the elements of sets and maps are written. -/
structure Encodings (Profile : Type) where
  uuidText : BitVec 128 → String
  parseUuid : String → Option (BitVec 128)
  parse_text : ∀ uuid, parseUuid (uuidText uuid) = some uuid
  profile : Format Json Profile
  targets : Enumeration CallTarget
  clients : Enumeration ClientId

/-! ## The formats of values -/

open Format Fields

def clientIdText : Format String ClientId where
  encode := ClientId.val
  decode text := some ⟨text⟩
  Canonical _ := True
  decode_encode_iff := iff_true_intro rfl
  canonical _ _ := trivial

def clientId : Format Json ClientId :=
  text.map ⟨ClientId.mk, ClientId.val, fun _ => rfl, fun _ => rfl⟩

def positionId : Format Json PositionId :=
  text.map ⟨PositionId.mk, PositionId.val, fun _ => rfl, fun _ => rfl⟩

def stationId : Format Json StationId :=
  text.map ⟨StationId.mk, StationId.val, fun _ => rfl, fun _ => rfl⟩

def callTarget : Format Json CallTarget := external {
  encode := fun
    | .client id => ("client", (content clientId).encode id)
    | .position id => ("position", (content positionId).encode id)
    | .station id => ("station", (content stationId).encode id)
  decode := fun (tag, written) => match tag with
    | "client" => ((content clientId).decode written).map .client
    | "position" => ((content positionId).decode written).map .position
    | "station" => ((content stationId).decode written).map .station
    | _ => none
  Canonical := fun _ => True
  decode_encode_iff := by
    rintro (id | id | id)
    · exact iff_true_intro rfl
    · exact iff_true_intro rfl
    · exact iff_true_intro rfl
  canonical := fun _ _ => trivial }

theorem respects_callTarget : Json.RespectsValue callTarget.decode := by
  refine respects_external fun tag content isPlain => ?_
  dsimp only
  split
  · exact (respects_content (respects_text.map _)).map _ content isPlain
  · exact (respects_content (respects_text.map _)).map _ content isPlain
  · exact (respects_content (respects_text.map _)).map _ content isPlain
  · rfl

def callSource : Fields CallSource :=
  ((required "clientId" clientId).both
    ((optional "positionId" true positionId nofun).both
      (optional "stationId" true stationId nofun) rfl) rfl).shaped
    ⟨fun ⟨clientId, positionId, stationId⟩ => ⟨clientId, positionId, stationId⟩,
      fun source => (source.clientId, source.positionId, source.stationId),
      fun _ => rfl, fun _ => rfl⟩

def online : Fields (StationId × PositionId) :=
  (required "stationId" stationId).both (required "positionId" positionId) rfl

def handoff : Fields (StationId × PositionId × PositionId) :=
  (required "stationId" stationId).both ((required "fromPositionId" positionId).both
    (required "toPositionId" positionId) rfl) rfl

def offline : Fields StationId := required "stationId" stationId

def stationChange : Format Json StationChange := external {
  encode := fun
    | .online stationId positionId =>
        ("online", (content online.object).encode (stationId, positionId))
    | .handoff stationId fromPositionId toPositionId =>
        ("handoff", (content handoff.object).encode (stationId, fromPositionId, toPositionId))
    | .offline stationId => ("offline", (content offline.object).encode stationId)
  decode := fun (tag, written) => match tag with
    | "online" => ((content online.object).decode written).map fun pair =>
        .online pair.1 pair.2
    | "handoff" => ((content handoff.object).decode written).map fun triple =>
        .handoff triple.1 triple.2.1 triple.2.2
    | "offline" => ((content offline.object).decode written).map .offline
    | _ => none
  Canonical := fun _ => True
  decode_encode_iff := by
    rintro (⟨stationId, positionId⟩ | ⟨stationId, fromPositionId, toPositionId⟩ | stationId)
    · exact iff_true_intro (map_decode_encode (content online.object) _ ⟨trivial, trivial⟩)
    · exact iff_true_intro
        (map_decode_encode (content handoff.object) _ ⟨trivial, trivial, trivial⟩)
    · exact iff_true_intro (map_decode_encode (content offline.object) _ trivial)
  canonical := fun _ _ => trivial }

def callDropReason : Format Json CallDropReason := external {
  encode := fun
    | .requested => ("requested", unit.encode ())
    | .autoHangup => ("autoHangup", unit.encode ())
  decode := fun (tag, written) => match tag with
    | "requested" => (unit.decode written).map fun _ => .requested
    | "autoHangup" => (unit.decode written).map fun _ => .autoHangup
    | _ => none
  Canonical := fun _ => True
  decode_encode_iff := by
    rintro (_ | _)
    · exact iff_true_intro rfl
    · exact iff_true_intro rfl
  canonical := fun _ _ => trivial }

def callRejectReason : Format Json CallRejectReason := external {
  encode := fun
    | .busy => ("busy", unit.encode ())
  decode := fun (tag, written) => match tag with
    | "busy" => (unit.decode written).map fun _ => .busy
    | _ => none
  Canonical := fun _ => True
  decode_encode_iff := iff_true_intro rfl
  canonical := fun _ _ => trivial }

theorem respects_callRejectReason : Json.RespectsValue callRejectReason.decode := by
  refine respects_external fun tag content isPlain => ?_
  dsimp only
  split
  · exact respects_unit.map _ content isPlain
  · rfl

def callRejectReasonOrUnknown : Format Json (WithUnknown CallRejectReason) :=
  callRejectReason.withUnknown respects_callRejectReason

def positionIds : Format Json (List PositionId) := array positionId.list

theorem respects_positionIds : Json.RespectsValue positionIds.decode :=
  respects_array (respects_list (respects_text.map _))

def loginFailureReason : Format Json LoginFailureReason := external {
  encode := fun
    | .unauthorized => ("unauthorized", unit.encode ())
    | .duplicateId => ("duplicateId", unit.encode ())
    | .invalidCredentials => ("invalidCredentials", unit.encode ())
    | .noActiveVatsimConnection => ("noActiveVatsimConnection", unit.encode ())
    | .ambiguousVatsimPosition positions =>
        ("ambiguousVatsimPosition", (content positionIds).encode positions)
    | .invalidVatsimPosition => ("invalidVatsimPosition", unit.encode ())
    | .timeout => ("timeout", unit.encode ())
    | .incompatibleProtocolVersion => ("incompatibleProtocolVersion", unit.encode ())
  decode := fun (tag, written) => match tag with
    | "unauthorized" => (unit.decode written).map fun _ => .unauthorized
    | "duplicateId" => (unit.decode written).map fun _ => .duplicateId
    | "invalidCredentials" => (unit.decode written).map fun _ => .invalidCredentials
    | "noActiveVatsimConnection" =>
        (unit.decode written).map fun _ => .noActiveVatsimConnection
    | "ambiguousVatsimPosition" =>
        ((content positionIds).decode written).map .ambiguousVatsimPosition
    | "invalidVatsimPosition" =>
        (unit.decode written).map fun _ => .invalidVatsimPosition
    | "timeout" => (unit.decode written).map fun _ => .timeout
    | "incompatibleProtocolVersion" =>
        (unit.decode written).map fun _ => .incompatibleProtocolVersion
    | _ => none
  Canonical := fun _ => True
  decode_encode_iff := by
    intro reason
    cases reason with
    | ambiguousVatsimPosition positions =>
        exact iff_true_intro (map_decode_encode (content positionIds) _ fun _ _ => trivial)
    | _ => exact iff_true_intro rfl
  canonical := fun _ _ => trivial }

theorem respects_loginFailureReason : Json.RespectsValue loginFailureReason.decode := by
  refine respects_external fun tag content isPlain => ?_
  dsimp only
  split
  case h_5 => exact (respects_content respects_positionIds).map _ content isPlain
  case h_9 => rfl
  all_goals exact respects_unit.map _ content isPlain

def loginFailureReasonOrUnknown : Format Json (WithUnknown LoginFailureReason) :=
  loginFailureReason.withUnknown respects_loginFailureReason

def disconnectReason : Format Json DisconnectReason := external {
  encode := fun
    | .terminated => ("terminated", unit.encode ())
    | .noActiveVatsimConnection => ("noActiveVatsimConnection", unit.encode ())
    | .ambiguousVatsimPosition positions =>
        ("ambiguousVatsimPosition", (content positionIds).encode positions)
  decode := fun (tag, written) => match tag with
    | "terminated" => (unit.decode written).map fun _ => .terminated
    | "noActiveVatsimConnection" =>
        (unit.decode written).map fun _ => .noActiveVatsimConnection
    | "ambiguousVatsimPosition" =>
        ((content positionIds).decode written).map .ambiguousVatsimPosition
    | _ => none
  Canonical := fun _ => True
  decode_encode_iff := by
    intro reason
    cases reason with
    | ambiguousVatsimPosition positions =>
        exact iff_true_intro (map_decode_encode (content positionIds) _ fun _ _ => trivial)
    | _ => exact iff_true_intro rfl
  canonical := fun _ _ => trivial }

theorem respects_disconnectReason : Json.RespectsValue disconnectReason.decode := by
  refine respects_external fun tag content isPlain => ?_
  dsimp only
  split
  · exact respects_unit.map _ content isPlain
  · exact respects_unit.map _ content isPlain
  · exact (respects_content respects_positionIds).map _ content isPlain
  · rfl

def disconnectReasonOrUnknown : Format Json (WithUnknown DisconnectReason) :=
  disconnectReason.withUnknown respects_disconnectReason

def login : Fields Login :=
  ((required "token" text).both ((required "protocolVersion" text).both
    ((required "customProfile" boolean).both (optional "positionId" false positionId nofun) rfl)
    rfl) rfl).shaped
    ⟨fun ⟨token, protocolVersion, customProfile, positionId⟩ =>
        ⟨token, protocolVersion, customProfile, positionId⟩,
      fun login => (login.token, login.protocolVersion, login.customProfile, login.positionId),
      fun _ => rfl, fun _ => rfl⟩

def clientInfo : Fields ClientInfo :=
  ((required "id" clientId).both ((required "displayName" text).both
    ((required "frequency" text).both (optional "positionId" true positionId nofun) rfl) rfl)
    rfl).shaped
    ⟨fun ⟨id, displayName, frequency, positionId⟩ => ⟨id, displayName, frequency, positionId⟩,
      fun info => (info.id, info.displayName, info.frequency, info.positionId),
      fun _ => rfl, fun _ => rfl⟩

def stationInfo : Fields StationInfo :=
  ((required "id" stationId).both (required "own" boolean) rfl).shaped
    ⟨fun ⟨id, own⟩ => ⟨id, own⟩, fun info => (info.id, info.own), fun _ => rfl, fun _ => rfl⟩

def loginFailure : Fields (WithUnknown LoginFailureReason) :=
  required "reason" loginFailureReasonOrUnknown

def disconnected : Fields (WithUnknown DisconnectReason) :=
  required "reason" disconnectReasonOrUnknown

def clientConnected : Fields ClientInfo := required "client" clientInfo.object

def clientDisconnected : Fields ClientId := required "clientId" clientId

def clientList : Fields (List ClientInfo) := required "clients" (array clientInfo.object.list)

def stationList : Fields (List StationInfo) := required "stations" (array stationInfo.object.list)

def stationChanges : Fields (List StationChange) := required "changes" (array stationChange.list)

namespace Encodings

variable {Profile : Type} (given : Encodings Profile)

def uuid : Format String (BitVec 128) where
  encode := given.uuidText
  decode := given.parseUuid
  Canonical _ := True
  decode_encode_iff := iff_true_intro (given.parse_text _)
  canonical _ _ := trivial

def callId : Format Json CallId :=
  (given.uuid.wrap text.encode text.decode (fun _ => rfl) fun _ _ => trivial).map
    ⟨CallId.mk, CallId.uuid, fun _ => rfl, fun _ => rfl⟩

def callTargets : Format Json (Finset CallTarget) :=
  array (callTarget.set given.targets fun _ => trivial)

theorem respects_callTargets : Json.RespectsValue given.callTargets.decode :=
  respects_array (respects_set respects_callTarget)

def callParticipants : Format Json CallParticipants :=
  object (keyed given.clients clientIdText callTarget fun _ => ⟨trivial, trivial⟩)

def callErrorReason : Format Json CallErrorReason := external {
  encode := fun
    | .targetsNotFound targets =>
        ("targetsNotFound", (content given.callTargets).encode targets)
    | .alreadyParticipant target => ("alreadyParticipant", (content callTarget).encode target)
    | .callNotFound => ("callNotFound", unit.encode ())
    | .callActive => ("callActive", unit.encode ())
    | .webrtcFailure id => ("webrtcFailure", (content clientId).encode id)
    | .audioFailure id => ("audioFailure", (content clientId).encode id)
    | .callFailure => ("callFailure", unit.encode ())
    | .signalingFailure id => ("signalingFailure", (content clientId).encode id)
    | .autoHangup => ("autoHangup", unit.encode ())
    | .peerConnectionFailed id => ("peerConnectionFailed", (content clientId).encode id)
    | .notConferenceLeader target => ("notConferenceLeader", (content callTarget).encode target)
    | .notParticipant => ("notParticipant", unit.encode ())
    | .maxConferenceSizeReached targets =>
        ("maxConferenceSizeReached", (content given.callTargets).encode targets)
    | .other => ("other", unit.encode ())
  decode := fun (tag, written) => match tag with
    | "targetsNotFound" =>
        ((content given.callTargets).decode written).map .targetsNotFound
    | "alreadyParticipant" =>
        ((content callTarget).decode written).map .alreadyParticipant
    | "callNotFound" => (unit.decode written).map fun _ => .callNotFound
    | "callActive" => (unit.decode written).map fun _ => .callActive
    | "webrtcFailure" => ((content clientId).decode written).map .webrtcFailure
    | "audioFailure" => ((content clientId).decode written).map .audioFailure
    | "callFailure" => (unit.decode written).map fun _ => .callFailure
    | "signalingFailure" => ((content clientId).decode written).map .signalingFailure
    | "autoHangup" => (unit.decode written).map fun _ => .autoHangup
    | "peerConnectionFailed" =>
        ((content clientId).decode written).map .peerConnectionFailed
    | "notConferenceLeader" =>
        ((content callTarget).decode written).map .notConferenceLeader
    | "notParticipant" => (unit.decode written).map fun _ => .notParticipant
    | "maxConferenceSizeReached" =>
        ((content given.callTargets).decode written).map .maxConferenceSizeReached
    | "other" => (unit.decode written).map fun _ => .other
    | _ => none
  Canonical := fun _ => True
  decode_encode_iff := by
    intro reason
    cases reason with
    | targetsNotFound targets =>
        exact iff_true_intro (map_decode_encode (content given.callTargets) _ trivial)
    | maxConferenceSizeReached targets =>
        exact iff_true_intro (map_decode_encode (content given.callTargets) _ trivial)
    | alreadyParticipant target =>
        exact iff_true_intro (map_decode_encode (content callTarget) _ trivial)
    | notConferenceLeader target =>
        exact iff_true_intro (map_decode_encode (content callTarget) _ trivial)
    | _ => exact iff_true_intro rfl
  canonical := fun _ _ => trivial }

theorem respects_callErrorReason : Json.RespectsValue given.callErrorReason.decode := by
  refine respects_external fun tag content isPlain => ?_
  dsimp only
  split
  case h_15 => rfl
  any_goals exact respects_unit.map _ content isPlain
  any_goals exact (respects_content given.respects_callTargets).map _ content isPlain
  any_goals exact (respects_content respects_callTarget).map _ content isPlain
  all_goals exact (respects_content (respects_text.map _)).map _ content isPlain

def callErrorReasonOrUnknown : Format Json (WithUnknown CallErrorReason) :=
  given.callErrorReason.withUnknown given.respects_callErrorReason

def callCancelReason : Format Json CallCancelReason := external {
  encode := fun
    | .answeredElsewhere id => ("answeredElsewhere", (content clientId).encode id)
    | .callerCancelled => ("callerCancelled", unit.encode ())
    | .disconnected => ("disconnected", unit.encode ())
    | .errored reason =>
        ("errored", (content given.callErrorReasonOrUnknown).encode reason)
    | .rejected reason => ("rejected", (content callRejectReasonOrUnknown).encode reason)
  decode := fun (tag, written) => match tag with
    | "answeredElsewhere" =>
        ((content clientId).decode written).map .answeredElsewhere
    | "callerCancelled" => (unit.decode written).map fun _ => .callerCancelled
    | "disconnected" => (unit.decode written).map fun _ => .disconnected
    | "errored" =>
        ((content given.callErrorReasonOrUnknown).decode written).map .errored
    | "rejected" =>
        ((content callRejectReasonOrUnknown).decode written).map .rejected
    | _ => none
  Canonical := fun
    | .errored reason => given.callErrorReasonOrUnknown.Canonical reason
    | .rejected reason => callRejectReasonOrUnknown.Canonical reason
    | _ => True
  decode_encode_iff := by
    intro reason
    cases reason with
    | errored reason =>
        exact map_decode_encode_iff (content given.callErrorReasonOrUnknown)
          fun _ _ => CallCancelReason.errored.inj
    | rejected reason =>
        exact map_decode_encode_iff (content callRejectReasonOrUnknown)
          fun _ _ => CallCancelReason.rejected.inj
    | _ => exact iff_true_intro rfl
  canonical := by
    rintro ⟨tag, written⟩ reason ⟨-, isPlain⟩ reads
    dsimp only at reads
    split at reads
    · exact canonical_of_map_decode isPlain reads fun _ _ => trivial
    · exact canonical_of_map_decode isPlain reads fun _ _ => trivial
    · exact canonical_of_map_decode isPlain reads fun _ _ => trivial
    · exact canonical_of_map_decode isPlain reads fun _ isCanonical => isCanonical
    · exact canonical_of_map_decode isPlain reads fun _ isCanonical => isCanonical
    · cases reads }

theorem respects_callCancelReason : Json.RespectsValue given.callCancelReason.decode := by
  refine respects_external fun tag content isPlain => ?_
  dsimp only
  split
  · exact (respects_content (respects_text.map _)).map _ content isPlain
  · exact respects_unit.map _ content isPlain
  · exact respects_unit.map _ content isPlain
  · exact (respects_content respects_withUnknown).map _ content isPlain
  · exact (respects_content respects_withUnknown).map _ content isPlain
  · rfl

def callCancelReasonOrUnknown : Format Json (WithUnknown CallCancelReason) :=
  given.callCancelReason.withUnknown given.respects_callCancelReason

def rateLimited : Fields (Finset CallTarget × BitVec 64) :=
  (required "targets" given.callTargets).both (required "retry_after_secs" (unsigned 64)) rfl

def errorReason : Format Json ErrorReason := external {
  encode := fun
    | .malformedMessage => ("malformedMessage", unit.encode ())
    | .internal message => ("internal", (content text).encode message)
    | .peerConnection => ("peerConnection", unit.encode ())
    | .unexpectedMessage message => ("unexpectedMessage", (content text).encode message)
    | .rateLimited targets retryAfterSecs =>
        ("rateLimited", (content given.rateLimited.object).encode (targets, retryAfterSecs))
    | .clientNotFound => ("clientNotFound", unit.encode ())
  decode := fun (tag, written) => match tag with
    | "malformedMessage" => (unit.decode written).map fun _ => .malformedMessage
    | "internal" => ((content text).decode written).map .internal
    | "peerConnection" => (unit.decode written).map fun _ => .peerConnection
    | "unexpectedMessage" => ((content text).decode written).map .unexpectedMessage
    | "rateLimited" => ((content given.rateLimited.object).decode written).map
        fun pair => .rateLimited pair.1 pair.2
    | "clientNotFound" => (unit.decode written).map fun _ => .clientNotFound
    | _ => none
  Canonical := fun _ => True
  decode_encode_iff := by
    intro reason
    cases reason with
    | rateLimited targets retryAfterSecs =>
        exact iff_true_intro
          (map_decode_encode (content given.rateLimited.object) _ ⟨trivial, trivial⟩)
    | _ => exact iff_true_intro rfl
  canonical := fun _ _ => trivial }

theorem respects_rateLimited : Json.RespectsValue given.rateLimited.object.decode :=
  respects_object (respects_both _ (respects_required given.respects_callTargets)
    (respects_required (respects_unsigned 64)))

theorem respects_errorReason : Json.RespectsValue given.errorReason.decode := by
  refine respects_external fun tag content isPlain => ?_
  dsimp only
  split
  · exact respects_unit.map _ content isPlain
  · exact (respects_content respects_text).map _ content isPlain
  · exact respects_unit.map _ content isPlain
  · exact (respects_content respects_text).map _ content isPlain
  · exact (respects_content given.respects_rateLimited).map _ content isPlain
  · exact respects_unit.map _ content isPlain
  · rfl

def errorReasonOrUnknown : Format Json (WithUnknown ErrorReason) :=
  given.errorReason.withUnknown given.respects_errorReason

/-! ## The formats of payloads -/

def callInvite : Fields CallInvite :=
  ((required "callId" given.callId).both ((required "source" callSource.object).both
    ((required "targets" given.callTargets).both (required "prio" boolean) rfl) rfl) rfl).shaped
    ⟨fun ⟨callId, source, targets, prio⟩ => ⟨callId, source, targets, prio⟩,
      fun invite => (invite.callId, invite.source, invite.targets, invite.prio),
      fun _ => rfl, fun _ => rfl⟩

def callAccept : Fields CallAccept :=
  ((required "callId" given.callId).both (required "acceptingClientId" clientId) rfl).shaped
    ⟨fun ⟨callId, acceptingClientId⟩ => ⟨callId, acceptingClientId⟩,
      fun accept => (accept.callId, accept.acceptingClientId), fun _ => rfl, fun _ => rfl⟩

def callEnd : Fields CallEnd :=
  ((required "callId" given.callId).both (required "endingClientId" clientId) rfl).shaped
    ⟨fun ⟨callId, endingClientId⟩ => ⟨callId, endingClientId⟩,
      fun callEnd => (callEnd.callId, callEnd.endingClientId), fun _ => rfl, fun _ => rfl⟩

def callReject : Fields CallReject :=
  ((required "callId" given.callId).both ((required "rejectingClientId" clientId).both
    (required "reason" callRejectReasonOrUnknown) rfl) rfl).shaped
    ⟨fun ⟨callId, rejectingClientId, reason⟩ => ⟨callId, rejectingClientId, reason⟩,
      fun reject => (reject.callId, reject.rejectingClientId, reject.reason),
      fun _ => rfl, fun _ => rfl⟩

def callDropTarget : Fields CallDropTarget :=
  ((required "callId" given.callId).both ((required "target" callTarget).both
    (required "reason" callDropReason) rfl) rfl).shaped
    ⟨fun ⟨callId, target, reason⟩ => ⟨callId, target, reason⟩,
      fun drop => (drop.callId, drop.target, drop.reason), fun _ => rfl, fun _ => rfl⟩

def callError : Fields CallError :=
  ((required "callId" given.callId).both
    ((required "reason" given.callErrorReasonOrUnknown).both
      (optional "message" true text nofun) rfl) rfl).shaped
    ⟨fun ⟨callId, reason, message⟩ => ⟨callId, reason, message⟩,
      fun error => (error.callId, error.reason, error.message), fun _ => rfl, fun _ => rfl⟩

def callCancelled : Fields CallCancelled :=
  ((required "callId" given.callId).both ((required "targets" given.callTargets).both
    (required "reason" given.callCancelReasonOrUnknown) rfl) rfl).shaped
    ⟨fun ⟨callId, targets, reason⟩ => ⟨callId, targets, reason⟩,
      fun cancelled => (cancelled.callId, cancelled.targets, cancelled.reason),
      fun _ => rfl, fun _ => rfl⟩

def callInvitation : Fields CallInvitation :=
  ((required "callId" given.callId).both ((required "source" callSource.object).both
    ((required "target" callTarget).both ((required "invitedTargets" given.callTargets).both
      ((required "joinedParticipants" given.callParticipants).both
        ((optional "conferenceLeader" true clientId nofun).both (required "prio" boolean) rfl)
        rfl) rfl) rfl) rfl) rfl).shaped
    ⟨fun ⟨callId, source, target, invitedTargets, joinedParticipants, conferenceLeader, prio⟩ =>
        ⟨callId, source, target, invitedTargets, joinedParticipants, conferenceLeader, prio⟩,
      fun invitation => (invitation.callId, invitation.source, invitation.target,
        invitation.invitedTargets, invitation.joinedParticipants, invitation.conferenceLeader,
        invitation.prio),
      fun _ => rfl, fun _ => rfl⟩

def callUpdate : Fields CallUpdate :=
  ((required "callId" given.callId).both ((required "invitedTargets" given.callTargets).both
    ((required "joinedParticipants" given.callParticipants).both
      (optional "conferenceLeader" true clientId nofun) rfl) rfl) rfl).shaped
    ⟨fun ⟨callId, invitedTargets, joinedParticipants, conferenceLeader⟩ =>
        ⟨callId, invitedTargets, joinedParticipants, conferenceLeader⟩,
      fun update => (update.callId, update.invitedTargets, update.joinedParticipants,
        update.conferenceLeader),
      fun _ => rfl, fun _ => rfl⟩

/-- An offer and an answer have the same members. -/
def webrtcDescription : Fields WebrtcDescription :=
  ((required "callId" given.callId).both ((required "fromClientId" clientId).both
    ((required "toClientId" clientId).both (required "sdp" text) rfl) rfl) rfl).shaped
    ⟨fun ⟨callId, fromClientId, toClientId, sdp⟩ => ⟨callId, fromClientId, toClientId, sdp⟩,
      fun description => (description.callId, description.fromClientId, description.toClientId,
        description.sdp),
      fun _ => rfl, fun _ => rfl⟩

def webrtcIceCandidate : Fields WebrtcIceCandidate :=
  ((required "callId" given.callId).both ((required "fromClientId" clientId).both
    ((required "toClientId" clientId).both (required "candidate" text) rfl) rfl) rfl).shaped
    ⟨fun ⟨callId, fromClientId, toClientId, candidate⟩ =>
        ⟨callId, fromClientId, toClientId, candidate⟩,
      fun ice => (ice.callId, ice.fromClientId, ice.toClientId, ice.candidate),
      fun _ => rfl, fun _ => rfl⟩

def error : Fields Error :=
  ((required "reason" given.errorReasonOrUnknown).both
    ((optional "clientId" true clientId nofun).both
      (optional "callId" true given.callId nofun) rfl) rfl).shaped
    ⟨fun ⟨reason, clientId, callId⟩ => ⟨reason, clientId, callId⟩,
      fun error => (error.reason, error.clientId, error.callId), fun _ => rfl, fun _ => rfl⟩

def activeProfile : Format Json (ActiveProfile Profile) :=
  adjacent "type" "profile" (by decide) {
    encode := fun
      | .specific profile => ("specific", (content given.profile).encode profile)
      | .custom => ("custom", unit.encode ())
      | .none => ("none", unit.encode ())
    decode := fun (tag, written) => match tag with
      | "specific" => ((content given.profile).decode written).map .specific
      | "custom" => (unit.decode written).map fun _ => .custom
      | "none" => (unit.decode written).map fun _ => .none
      | _ => none
    Canonical := fun
      | .specific profile => given.profile.Canonical profile
      | _ => True
    decode_encode_iff := by
      intro active
      cases active with
      | specific profile =>
          exact map_decode_encode_iff (content given.profile) fun _ _ => ActiveProfile.specific.inj
      | _ => exact iff_true_intro rfl
    canonical := by
      rintro ⟨tag, written⟩ active ⟨-, isPlain⟩ reads
      dsimp only at reads
      split at reads
      · exact canonical_of_map_decode isPlain reads fun _ isCanonical => isCanonical
      · exact canonical_of_map_decode isPlain reads fun _ _ => trivial
      · exact canonical_of_map_decode isPlain reads fun _ _ => trivial
      · cases reads }

def sessionProfile : Format Json (SessionProfile Profile) :=
  adjacent "type" "activeProfile" (by decide) {
    encode := fun
      | .unchanged => ("unchanged", unit.encode ())
      | .changed active => ("changed", (content given.activeProfile).encode active)
    decode := fun (tag, written) => match tag with
      | "unchanged" => (unit.decode written).map fun _ => .unchanged
      | "changed" => ((content given.activeProfile).decode written).map .changed
      | _ => none
    Canonical := fun
      | .unchanged => True
      | .changed active => given.activeProfile.Canonical active
    decode_encode_iff := by
      intro profile
      cases profile with
      | unchanged => exact iff_true_intro rfl
      | changed active =>
          exact map_decode_encode_iff (content given.activeProfile)
            fun _ _ => SessionProfile.changed.inj
    canonical := by
      rintro ⟨tag, written⟩ profile ⟨-, isPlain⟩ reads
      dsimp only at reads
      split at reads
      · exact canonical_of_map_decode isPlain reads fun _ _ => trivial
      · exact canonical_of_map_decode isPlain reads fun _ isCanonical => isCanonical
      · cases reads }

def sessionInfo : Fields (SessionInfo Profile) :=
  ((required "client" clientInfo.object).both ((required "profile" given.sessionProfile).both
    ((defaulted "defaultCallSources" (array stationId.list) [] fun _ isThere =>
      absurd isThere List.not_mem_nil).both
      (optional "maxConfSize" true (unsigned 32) nofun) rfl) rfl) rfl).shaped
    ⟨fun ⟨client, profile, defaultCallSources, maxConfSize⟩ =>
        ⟨client, profile, defaultCallSources, maxConfSize⟩,
      fun info => (info.client, info.profile, info.defaultCallSources, info.maxConfSize),
      fun _ => rfl, fun _ => rfl⟩

/-! ## The formats of messages -/

def clientReader : String → Members → Option ClientMessage
  | "login" => fun members => (Wire.login.decode members).map .login
  | "logout" => fun _ => some .logout
  | "callInvite" => fun members => (given.callInvite.decode members).map .callInvite
  | "callAccept" => fun members => (given.callAccept.decode members).map .callAccept
  | "callEnd" => fun members => (given.callEnd.decode members).map .callEnd
  | "callReject" => fun members => (given.callReject.decode members).map .callReject
  | "callError" => fun members => (given.callError.decode members).map .callError
  | "callDropTarget" => fun members => (given.callDropTarget.decode members).map .callDropTarget
  | "webrtcOffer" => fun members => (given.webrtcDescription.decode members).map .webrtcOffer
  | "webrtcAnswer" => fun members => (given.webrtcDescription.decode members).map .webrtcAnswer
  | "webrtcIceCandidate" => fun members => (given.webrtcIceCandidate.decode members).map .webrtcIceCandidate
  | "listClients" => fun _ => some .listClients
  | "listStations" => fun _ => some .listStations
  | "disconnect" => fun _ => some .disconnect
  | "error" => fun members => (given.error.decode members).map .error
  | _ => fun _ => none

def clientPayload : Format (String × Members) ClientMessage where
  encode
    | .login login => ("login", Wire.login.encode login)
    | .logout => ("logout", [])
    | .callInvite invite => ("callInvite", given.callInvite.encode invite)
    | .callAccept accept => ("callAccept", given.callAccept.encode accept)
    | .callEnd ended => ("callEnd", given.callEnd.encode ended)
    | .callReject reject => ("callReject", given.callReject.encode reject)
    | .callError error => ("callError", given.callError.encode error)
    | .callDropTarget drop => ("callDropTarget", given.callDropTarget.encode drop)
    | .webrtcOffer offer => ("webrtcOffer", given.webrtcDescription.encode offer)
    | .webrtcAnswer answer => ("webrtcAnswer", given.webrtcDescription.encode answer)
    | .webrtcIceCandidate candidate => ("webrtcIceCandidate", given.webrtcIceCandidate.encode candidate)
    | .listClients => ("listClients", [])
    | .listStations => ("listStations", [])
    | .disconnect => ("disconnect", [])
    | .error error => ("error", given.error.encode error)
  decode tagged := given.clientReader tagged.1 tagged.2
  Canonical
    | .login login => Wire.login.Canonical login
    | .callInvite invite => given.callInvite.Canonical invite
    | .callAccept accept => given.callAccept.Canonical accept
    | .callEnd ended => given.callEnd.Canonical ended
    | .callReject reject => given.callReject.Canonical reject
    | .callError error => given.callError.Canonical error
    | .callDropTarget drop => given.callDropTarget.Canonical drop
    | .webrtcOffer offer => given.webrtcDescription.Canonical offer
    | .webrtcAnswer answer => given.webrtcDescription.Canonical answer
    | .webrtcIceCandidate candidate => given.webrtcIceCandidate.Canonical candidate
    | .error error => given.error.Canonical error
    | _ => True
  decode_encode_iff := by
    intro message
    cases message with
    | login login =>
        exact map_decode_encode_iff Wire.login.toFormat fun _ _ => ClientMessage.login.inj
    | logout => exact iff_true_intro rfl
    | callInvite invite =>
        exact map_decode_encode_iff given.callInvite.toFormat
          fun _ _ => ClientMessage.callInvite.inj
    | callAccept accept =>
        exact map_decode_encode_iff given.callAccept.toFormat
          fun _ _ => ClientMessage.callAccept.inj
    | callEnd ended =>
        exact map_decode_encode_iff given.callEnd.toFormat fun _ _ => ClientMessage.callEnd.inj
    | callReject reject =>
        exact map_decode_encode_iff given.callReject.toFormat
          fun _ _ => ClientMessage.callReject.inj
    | callError error =>
        exact map_decode_encode_iff given.callError.toFormat fun _ _ => ClientMessage.callError.inj
    | callDropTarget drop =>
        exact map_decode_encode_iff given.callDropTarget.toFormat
          fun _ _ => ClientMessage.callDropTarget.inj
    | webrtcOffer offer =>
        exact map_decode_encode_iff given.webrtcDescription.toFormat
          fun _ _ => ClientMessage.webrtcOffer.inj
    | webrtcAnswer answer =>
        exact map_decode_encode_iff given.webrtcDescription.toFormat
          fun _ _ => ClientMessage.webrtcAnswer.inj
    | webrtcIceCandidate candidate =>
        exact map_decode_encode_iff given.webrtcIceCandidate.toFormat
          fun _ _ => ClientMessage.webrtcIceCandidate.inj
    | listClients => exact iff_true_intro rfl
    | listStations => exact iff_true_intro rfl
    | disconnect => exact iff_true_intro rfl
    | error error =>
        exact map_decode_encode_iff given.error.toFormat fun _ _ => ClientMessage.error.inj
  canonical := by
    rintro ⟨tag, members⟩ message ⟨-, isPlain⟩ reads
    obtain ⟨reader, isReader⟩ : ∃ reader, given.clientReader tag = reader := ⟨_, rfl⟩
    dsimp only at reads
    rw [isReader] at reads
    unfold clientReader at isReader
    split at isReader <;> cases isReader
    any_goals exact canonical_of_map_decode isPlain reads fun _ isCanonical => isCanonical
    all_goals cases reads
    all_goals trivial

theorem clientPayload_untagged (message : ClientMessage) :
    ∀ member ∈ (given.clientPayload.encode message).2, member.1 ≠ "type" := by
  cases message with
  | login login => exact Wire.login.not_written rfl login
  | callInvite invite => exact given.callInvite.not_written rfl invite
  | callAccept accept => exact given.callAccept.not_written rfl accept
  | callEnd ended => exact given.callEnd.not_written rfl ended
  | callReject reject => exact given.callReject.not_written rfl reject
  | callError error => exact given.callError.not_written rfl error
  | callDropTarget drop => exact given.callDropTarget.not_written rfl drop
  | webrtcOffer offer => exact given.webrtcDescription.not_written rfl offer
  | webrtcAnswer answer => exact given.webrtcDescription.not_written rfl answer
  | webrtcIceCandidate candidate => exact given.webrtcIceCandidate.not_written rfl candidate
  | error error => exact given.error.not_written rfl error
  | _ => exact fun _ isThere => absurd isThere List.not_mem_nil

def clientMessage : Format Json ClientMessage :=
  internal "type" given.clientPayload given.clientPayload_untagged

def serverReader : String → Members → Option (ServerMessage Profile)
  | "loginFailure" => fun members => (loginFailure.decode members).map .loginFailure
  | "callInvitation" => fun members => (given.callInvitation.decode members).map .callInvitation
  | "callEnd" => fun members => (given.callEnd.decode members).map .callEnd
  | "callUpdate" => fun members => (given.callUpdate.decode members).map .callUpdate
  | "callCancelled" => fun members => (given.callCancelled.decode members).map .callCancelled
  | "callError" => fun members => (given.callError.decode members).map .callError
  | "webrtcOffer" => fun members => (given.webrtcDescription.decode members).map .webrtcOffer
  | "webrtcAnswer" => fun members => (given.webrtcDescription.decode members).map .webrtcAnswer
  | "webrtcIceCandidate" => fun members => (given.webrtcIceCandidate.decode members).map .webrtcIceCandidate
  | "clientInfo" => fun members => (Wire.clientInfo.decode members).map .clientInfo
  | "sessionInfo" => fun members => (given.sessionInfo.decode members).map .sessionInfo
  | "clientConnected" => fun members => (clientConnected.decode members).map .clientConnected
  | "clientDisconnected" => fun members => (clientDisconnected.decode members).map .clientDisconnected
  | "clientList" => fun members => (clientList.decode members).map .clientList
  | "stationList" => fun members => (stationList.decode members).map .stationList
  | "stationChanges" => fun members => (stationChanges.decode members).map .stationChanges
  | "disconnected" => fun members => (disconnected.decode members).map .disconnected
  | "error" => fun members => (given.error.decode members).map .error
  | _ => fun _ => some .unknown

def serverPayload : Format (String × Members) (ServerMessage Profile) where
  encode
    | .loginFailure reason => ("loginFailure", loginFailure.encode reason)
    | .callInvitation invitation => ("callInvitation", given.callInvitation.encode invitation)
    | .callEnd ended => ("callEnd", given.callEnd.encode ended)
    | .callUpdate update => ("callUpdate", given.callUpdate.encode update)
    | .callCancelled cancelled => ("callCancelled", given.callCancelled.encode cancelled)
    | .callError error => ("callError", given.callError.encode error)
    | .webrtcOffer offer => ("webrtcOffer", given.webrtcDescription.encode offer)
    | .webrtcAnswer answer => ("webrtcAnswer", given.webrtcDescription.encode answer)
    | .webrtcIceCandidate candidate => ("webrtcIceCandidate", given.webrtcIceCandidate.encode candidate)
    | .clientInfo info => ("clientInfo", Wire.clientInfo.encode info)
    | .sessionInfo info => ("sessionInfo", given.sessionInfo.encode info)
    | .clientConnected client => ("clientConnected", clientConnected.encode client)
    | .clientDisconnected client => ("clientDisconnected", clientDisconnected.encode client)
    | .clientList clients => ("clientList", clientList.encode clients)
    | .stationList stations => ("stationList", stationList.encode stations)
    | .stationChanges changes => ("stationChanges", stationChanges.encode changes)
    | .disconnected reason => ("disconnected", disconnected.encode reason)
    | .error error => ("error", given.error.encode error)
    | .unknown => ("unknown", [])
  decode tagged := given.serverReader tagged.1 tagged.2
  Canonical
    | .loginFailure reason => loginFailure.Canonical reason
    | .callInvitation invitation => given.callInvitation.Canonical invitation
    | .callEnd ended => given.callEnd.Canonical ended
    | .callUpdate update => given.callUpdate.Canonical update
    | .callCancelled cancelled => given.callCancelled.Canonical cancelled
    | .callError error => given.callError.Canonical error
    | .webrtcOffer offer => given.webrtcDescription.Canonical offer
    | .webrtcAnswer answer => given.webrtcDescription.Canonical answer
    | .webrtcIceCandidate candidate => given.webrtcIceCandidate.Canonical candidate
    | .clientInfo info => Wire.clientInfo.Canonical info
    | .sessionInfo info => given.sessionInfo.Canonical info
    | .clientConnected client => clientConnected.Canonical client
    | .clientDisconnected client => clientDisconnected.Canonical client
    | .clientList clients => clientList.Canonical clients
    | .stationList stations => stationList.Canonical stations
    | .stationChanges changes => stationChanges.Canonical changes
    | .disconnected reason => disconnected.Canonical reason
    | .error error => given.error.Canonical error
    | _ => True
  decode_encode_iff := by
    intro message
    cases message with
    | loginFailure reason =>
        exact map_decode_encode_iff loginFailure.toFormat fun _ _ => ServerMessage.loginFailure.inj
    | callInvitation invitation =>
        exact map_decode_encode_iff given.callInvitation.toFormat
          fun _ _ => ServerMessage.callInvitation.inj
    | callEnd ended =>
        exact map_decode_encode_iff given.callEnd.toFormat fun _ _ => ServerMessage.callEnd.inj
    | callUpdate update =>
        exact map_decode_encode_iff given.callUpdate.toFormat
          fun _ _ => ServerMessage.callUpdate.inj
    | callCancelled cancelled =>
        exact map_decode_encode_iff given.callCancelled.toFormat
          fun _ _ => ServerMessage.callCancelled.inj
    | callError error =>
        exact map_decode_encode_iff given.callError.toFormat fun _ _ => ServerMessage.callError.inj
    | webrtcOffer offer =>
        exact map_decode_encode_iff given.webrtcDescription.toFormat
          fun _ _ => ServerMessage.webrtcOffer.inj
    | webrtcAnswer answer =>
        exact map_decode_encode_iff given.webrtcDescription.toFormat
          fun _ _ => ServerMessage.webrtcAnswer.inj
    | webrtcIceCandidate candidate =>
        exact map_decode_encode_iff given.webrtcIceCandidate.toFormat
          fun _ _ => ServerMessage.webrtcIceCandidate.inj
    | clientInfo info =>
        exact map_decode_encode_iff Wire.clientInfo.toFormat fun _ _ => ServerMessage.clientInfo.inj
    | sessionInfo info =>
        exact map_decode_encode_iff given.sessionInfo.toFormat
          fun _ _ => ServerMessage.sessionInfo.inj
    | clientConnected client =>
        exact map_decode_encode_iff clientConnected.toFormat
          fun _ _ => ServerMessage.clientConnected.inj
    | clientDisconnected client =>
        exact map_decode_encode_iff clientDisconnected.toFormat
          fun _ _ => ServerMessage.clientDisconnected.inj
    | clientList clients =>
        exact map_decode_encode_iff clientList.toFormat fun _ _ => ServerMessage.clientList.inj
    | stationList stations =>
        exact map_decode_encode_iff stationList.toFormat fun _ _ => ServerMessage.stationList.inj
    | stationChanges changes =>
        exact map_decode_encode_iff stationChanges.toFormat
          fun _ _ => ServerMessage.stationChanges.inj
    | disconnected reason =>
        exact map_decode_encode_iff disconnected.toFormat fun _ _ => ServerMessage.disconnected.inj
    | error error =>
        exact map_decode_encode_iff given.error.toFormat fun _ _ => ServerMessage.error.inj
    | unknown => exact iff_true_intro rfl
  canonical := by
    rintro ⟨tag, members⟩ message ⟨-, isPlain⟩ reads
    obtain ⟨reader, isReader⟩ : ∃ reader, given.serverReader tag = reader := ⟨_, rfl⟩
    dsimp only at reads
    rw [isReader] at reads
    unfold serverReader at isReader
    split at isReader <;> cases isReader
    any_goals exact canonical_of_map_decode isPlain reads fun _ isCanonical => isCanonical
    all_goals cases reads
    all_goals trivial

theorem serverPayload_untagged (message : ServerMessage Profile) :
    ∀ member ∈ (given.serverPayload.encode message).2, member.1 ≠ "type" := by
  cases message with
  | loginFailure reason => exact loginFailure.not_written rfl reason
  | callInvitation invitation => exact given.callInvitation.not_written rfl invitation
  | callEnd ended => exact given.callEnd.not_written rfl ended
  | callUpdate update => exact given.callUpdate.not_written rfl update
  | callCancelled cancelled => exact given.callCancelled.not_written rfl cancelled
  | callError error => exact given.callError.not_written rfl error
  | webrtcOffer offer => exact given.webrtcDescription.not_written rfl offer
  | webrtcAnswer answer => exact given.webrtcDescription.not_written rfl answer
  | webrtcIceCandidate candidate => exact given.webrtcIceCandidate.not_written rfl candidate
  | clientInfo info => exact Wire.clientInfo.not_written rfl info
  | sessionInfo info => exact given.sessionInfo.not_written rfl info
  | clientConnected client => exact clientConnected.not_written rfl client
  | clientDisconnected client => exact clientDisconnected.not_written rfl client
  | clientList clients => exact clientList.not_written rfl clients
  | stationList stations => exact stationList.not_written rfl stations
  | stationChanges changes => exact stationChanges.not_written rfl changes
  | disconnected reason => exact disconnected.not_written rfl reason
  | error error => exact given.error.not_written rfl error
  | _ => exact fun _ isThere => absurd isThere List.not_mem_nil

def serverMessage : Format Json (ServerMessage Profile) :=
  internal "type" given.serverPayload given.serverPayload_untagged

end Encodings

/-! ## Members and reasons of a newer version -/

/-- The members that payloads of messages to the server have. -/
def clientNames : List String :=
  ["token", "protocolVersion", "customProfile", "positionId", "callId", "source", "targets", "prio",
    "acceptingClientId", "endingClientId", "rejectingClientId", "reason", "message", "target",
    "fromClientId", "toClientId", "sdp", "candidate", "clientId"]

/-- The members that payloads of messages from the server have. -/
def serverNames : List String :=
  ["reason", "callId", "source", "target", "invitedTargets", "joinedParticipants",
    "conferenceLeader", "prio", "endingClientId", "targets", "message", "fromClientId",
    "toClientId", "sdp", "candidate", "id", "displayName", "frequency", "positionId", "client",
    "profile", "defaultCallSources", "maxConfSize", "clientId", "clients", "stations", "changes"]

/-- The types of messages to the server. -/
def clientTypes : List String :=
  ["login", "logout", "callInvite", "callAccept", "callEnd", "callReject", "callError",
    "callDropTarget", "webrtcOffer", "webrtcAnswer", "webrtcIceCandidate", "listClients",
    "listStations", "disconnect", "error"]

/-- The types of messages from the server. -/
def serverTypes : List String :=
  ["loginFailure", "callInvitation", "callEnd", "callUpdate", "callCancelled", "callError",
    "webrtcOffer", "webrtcAnswer", "webrtcIceCandidate", "clientInfo", "sessionInfo",
    "clientConnected", "clientDisconnected", "clientList", "stationList", "stationChanges",
    "disconnected", "error"]

namespace Encodings

variable {Profile : Type} (given : Encodings Profile)

theorem clientReader_readsOnly (tag : String) :
    Json.ReadsOnly clientNames (given.clientReader tag) := by
  unfold clientReader
  split
  any_goals exact ((Fields.reads _).mono rfl).map _
  all_goals exact .const _

theorem serverReader_readsOnly (tag : String) :
    Json.ReadsOnly serverNames (given.serverReader tag) := by
  unfold serverReader
  split
  any_goals exact ((Fields.reads _).mono rfl).map _
  all_goals exact .const _

theorem clientReader_unknown {tag : String} (isUnknown : tag ∉ clientTypes) (members : Members) :
    given.clientReader tag members = none := by
  unfold clientReader
  split
  all_goals first | rfl | exact absurd (by decide) isUnknown

theorem serverReader_unknown {tag : String} (isUnknown : tag ∉ serverTypes) (members : Members) :
    given.serverReader tag members = some .unknown := by
  unfold serverReader
  split
  all_goals first | rfl | exact absurd (by decide) isUnknown

theorem callError_tolerates : Json.Tolerates "reason" given.callError.decode :=
  (tolerates_both _ ((required "callId" given.callId).reads.tolerates rfl)
    (tolerates_both _ (tolerates_required (isSome_decode_withUnknown _ _))
      ((optional "message" true text nofun).reads.tolerates rfl))).map _

theorem callCancelled_tolerates : Json.Tolerates "reason" given.callCancelled.decode :=
  (tolerates_both _ ((required "callId" given.callId).reads.tolerates rfl)
    (tolerates_both _ ((required "targets" given.callTargets).reads.tolerates rfl)
      (tolerates_required (isSome_decode_withUnknown _ _)))).map _

theorem error_tolerates : Json.Tolerates "reason" given.error.decode :=
  (tolerates_both _ (tolerates_required (isSome_decode_withUnknown _ _))
    (Fields.reads _ |>.tolerates rfl)).map _

theorem serverReader_tolerates (tag : String) :
    Json.Tolerates "reason" (given.serverReader tag) := by
  unfold serverReader
  split
  case h_1 =>
    exact (tolerates_required (isSome_decode_withUnknown _ _)).map _
  case h_5 => exact given.callCancelled_tolerates.map _
  case h_6 => exact given.callError_tolerates.map _
  case h_17 =>
    exact (tolerates_required (isSome_decode_withUnknown _ _)).map _
  case h_18 => exact given.error_tolerates.map _
  any_goals exact ((Fields.reads _).tolerates rfl).map _
  have skips : Json.ReadsOnly [] fun _ : Members => (some .unknown : Option (ServerMessage Profile)) :=
    .const _
  exact skips.tolerates rfl

end Encodings

/-! ## What comes back -/

/-- An unknown reason is not written like a known one, and a known one is as it should be. -/
def Told {Known : Type} (format : Format Json Known) (Good : Known → Prop) :
    WithUnknown Known → Prop
  | .known reason => Good reason
  | .unknown value => format.decode value.json = none

namespace Encodings

variable {Profile : Type} (given : Encodings Profile)

def CancelReasonTold : CallCancelReason → Prop
  | .errored reason => Told given.callErrorReason (fun _ => True) reason
  | .rejected reason => Told callRejectReason (fun _ => True) reason
  | _ => True

/-- The reason in a message to the server, if there is one, is told as it is. -/
def ClientMessageTold : ClientMessage → Prop
  | .callReject reject => Told callRejectReason (fun _ => True) reject.reason
  | .callError error => Told given.callErrorReason (fun _ => True) error.reason
  | .error error => Told given.errorReason (fun _ => True) error.reason
  | _ => True

/-- The reason in a message from the server, if there is one, is told as it is, and so is the
profile. -/
def ServerMessageTold : ServerMessage Profile → Prop
  | .loginFailure reason => Told loginFailureReason (fun _ => True) reason
  | .callCancelled cancelled =>
      Told given.callCancelReason given.CancelReasonTold cancelled.reason
  | .callError error => Told given.callErrorReason (fun _ => True) error.reason
  | .sessionInfo ⟨_, .changed (.specific profile), _, _⟩ => given.profile.Canonical profile
  | .disconnected reason => Told disconnectReason (fun _ => True) reason
  | .error error => Told given.errorReason (fun _ => True) error.reason
  | _ => True

theorem canonical_withUnknown_iff {Known : Type} {format : Format Json Known}
    {respects : Json.RespectsValue format.decode} {Good : Known → Prop}
    (good : ∀ reason, format.Canonical reason ↔ Good reason) (reason : WithUnknown Known) :
    (format.withUnknown respects).Canonical reason ↔ Told format Good reason := by
  cases reason with
  | known reason => exact good reason
  | unknown value => exact Iff.rfl

theorem callErrorReason_canonical_iff (reason : WithUnknown CallErrorReason) :
    given.callErrorReasonOrUnknown.Canonical reason ↔
      Told given.callErrorReason (fun _ => True) reason :=
  canonical_withUnknown_iff (fun _ => Iff.rfl) reason

theorem callRejectReason_canonical_iff (reason : WithUnknown CallRejectReason) :
    callRejectReasonOrUnknown.Canonical reason ↔
      Told callRejectReason (fun _ => True) reason :=
  canonical_withUnknown_iff (fun _ => Iff.rfl) reason

theorem errorReason_canonical_iff (reason : WithUnknown ErrorReason) :
    given.errorReasonOrUnknown.Canonical reason ↔ Told given.errorReason (fun _ => True) reason :=
  canonical_withUnknown_iff (fun _ => Iff.rfl) reason

theorem loginFailureReason_canonical_iff (reason : WithUnknown LoginFailureReason) :
    loginFailureReasonOrUnknown.Canonical reason ↔
      Told loginFailureReason (fun _ => True) reason :=
  canonical_withUnknown_iff (fun _ => Iff.rfl) reason

theorem disconnectReason_canonical_iff (reason : WithUnknown DisconnectReason) :
    disconnectReasonOrUnknown.Canonical reason ↔ Told disconnectReason (fun _ => True) reason :=
  canonical_withUnknown_iff (fun _ => Iff.rfl) reason

theorem callCancelReason_canonical_iff (reason : WithUnknown CallCancelReason) :
    given.callCancelReasonOrUnknown.Canonical reason ↔
      Told given.callCancelReason given.CancelReasonTold reason := by
  refine canonical_withUnknown_iff (fun reason => ?_) reason
  cases reason with
  | errored reason => exact given.callErrorReason_canonical_iff reason
  | rejected reason => exact callRejectReason_canonical_iff reason
  | _ => exact Iff.rfl

theorem callError_canonical_iff (error : CallError) :
    given.callError.Canonical error ↔ Told given.callErrorReason (fun _ => True) error.reason :=
  ⟨fun both => (given.callErrorReason_canonical_iff _).mp both.2.1, fun told =>
    ⟨trivial, (given.callErrorReason_canonical_iff _).mpr told, fun _ _ => trivial⟩⟩

theorem error_canonical_iff (error : Error) :
    given.error.Canonical error ↔ Told given.errorReason (fun _ => True) error.reason :=
  ⟨fun both => (given.errorReason_canonical_iff _).mp both.1, fun told =>
    ⟨(given.errorReason_canonical_iff _).mpr told, fun _ _ => trivial, fun _ _ => trivial⟩⟩

theorem callReject_canonical_iff (reject : CallReject) :
    given.callReject.Canonical reject ↔ Told callRejectReason (fun _ => True) reject.reason :=
  ⟨fun both => (callRejectReason_canonical_iff _).mp both.2.2, fun told =>
    ⟨trivial, trivial, (callRejectReason_canonical_iff _).mpr told⟩⟩

theorem callCancelled_canonical_iff (cancelled : CallCancelled) :
    given.callCancelled.Canonical cancelled ↔
      Told given.callCancelReason given.CancelReasonTold cancelled.reason :=
  ⟨fun both => (given.callCancelReason_canonical_iff _).mp both.2.2, fun told =>
    ⟨trivial, trivial, (given.callCancelReason_canonical_iff _).mpr told⟩⟩

theorem clientInfo_canonical (info : ClientInfo) : clientInfo.Canonical info :=
  ⟨trivial, trivial, trivial, fun _ _ => trivial⟩

theorem callSource_canonical (source : CallSource) : callSource.Canonical source :=
  ⟨trivial, fun _ _ => trivial, fun _ _ => trivial⟩

theorem sessionInfo_canonical_iff (info : SessionInfo Profile) :
    given.sessionInfo.Canonical info ↔ given.ServerMessageTold (.sessionInfo info) := by
  have others : given.sessionInfo.Canonical info ↔ given.sessionProfile.Canonical info.profile :=
    ⟨fun both => both.2.1, fun profile =>
      ⟨clientInfo_canonical _, profile, fun _ _ => trivial, fun _ _ => trivial⟩⟩
  rw [others]
  obtain ⟨client, profile, sources, size⟩ := info
  cases profile with
  | unchanged => exact Iff.rfl
  | changed active =>
      cases active with
      | specific profile => exact Iff.rfl
      | custom => exact Iff.rfl
      | none => exact Iff.rfl

theorem clientPayload_canonical_iff (message : ClientMessage) :
    given.clientPayload.Canonical message ↔ given.ClientMessageTold message := by
  cases message with
  | callReject reject => exact given.callReject_canonical_iff reject
  | callError error => exact given.callError_canonical_iff error
  | error error => exact given.error_canonical_iff error
  | login login => exact iff_true_intro ⟨trivial, trivial, trivial, fun _ _ => trivial⟩
  | callInvite invite =>
      exact iff_true_intro ⟨trivial, callSource_canonical _, trivial, trivial⟩
  | callAccept accept => exact iff_true_intro ⟨trivial, trivial⟩
  | callEnd ended => exact iff_true_intro ⟨trivial, trivial⟩
  | callDropTarget drop => exact iff_true_intro ⟨trivial, trivial, trivial⟩
  | webrtcOffer offer => exact iff_true_intro ⟨trivial, trivial, trivial, trivial⟩
  | webrtcAnswer answer => exact iff_true_intro ⟨trivial, trivial, trivial, trivial⟩
  | webrtcIceCandidate candidate => exact iff_true_intro ⟨trivial, trivial, trivial, trivial⟩
  | _ => exact Iff.rfl

theorem serverPayload_canonical_iff (message : ServerMessage Profile) :
    given.serverPayload.Canonical message ↔ given.ServerMessageTold message := by
  cases message with
  | loginFailure reason => exact loginFailureReason_canonical_iff reason
  | disconnected reason => exact disconnectReason_canonical_iff reason
  | callCancelled cancelled => exact given.callCancelled_canonical_iff cancelled
  | callError error => exact given.callError_canonical_iff error
  | error error => exact given.error_canonical_iff error
  | sessionInfo info => exact given.sessionInfo_canonical_iff info
  | callInvitation invitation =>
      exact iff_true_intro ⟨trivial, callSource_canonical _, trivial, trivial, trivial,
        fun _ _ => trivial, trivial⟩
  | callUpdate update =>
      exact iff_true_intro ⟨trivial, trivial, trivial, fun _ _ => trivial⟩
  | callEnd ended => exact iff_true_intro ⟨trivial, trivial⟩
  | webrtcOffer offer => exact iff_true_intro ⟨trivial, trivial, trivial, trivial⟩
  | webrtcAnswer answer => exact iff_true_intro ⟨trivial, trivial, trivial, trivial⟩
  | webrtcIceCandidate candidate => exact iff_true_intro ⟨trivial, trivial, trivial, trivial⟩
  | clientInfo info => exact iff_true_intro (clientInfo_canonical info)
  | clientConnected client => exact iff_true_intro (clientInfo_canonical client)
  | clientDisconnected client => exact iff_true_intro trivial
  | clientList clients => exact iff_true_intro fun client _ => clientInfo_canonical client
  | stationList stations => exact iff_true_intro fun _ _ => ⟨trivial, trivial⟩
  | stationChanges changes => exact iff_true_intro fun _ _ => trivial
  | unknown => exact Iff.rfl

/-- **A newer server is understood as far as it can be.** A message of an unknown type is read
as such. Members that no payload has do not change what is read. Whether a message can be read
does not depend on the reason it gives. -/
theorem newer_server_read :
    (∀ members tag, tagOf "type" members = some tag → tag ∉ serverTypes →
      given.serverMessage.decode (.object members) = some .unknown) ∧
    (∀ members others, (∀ member ∈ others, member.1 ≠ "type" ∧ member.1 ∉ serverNames) →
      given.serverMessage.decode (.object (members ++ others)) =
        given.serverMessage.decode (.object members)) ∧
    Json.Tolerates "reason" fun members => given.serverMessage.decode (.object members) := by
  refine ⟨fun members tag isTag isUnknown => ?_, fun members others unread => ?_, ?_⟩
  · rw [serverMessage, decode_internal, isTag]
    exact given.serverReader_unknown isUnknown _
  · exact decode_internal_append _ given.serverReader_readsOnly unread
  · exact tolerates_internal _ (by decide) given.serverReader_tolerates

/-- A server refuses messages of an unknown type, and skips members that no payload has. -/
theorem newer_client_read :
    (∀ members tag, tagOf "type" members = some tag → tag ∉ clientTypes →
      given.clientMessage.decode (.object members) = none) ∧
    ∀ members others, (∀ member ∈ others, member.1 ≠ "type" ∧ member.1 ∉ clientNames) →
      given.clientMessage.decode (.object (members ++ others)) =
        given.clientMessage.decode (.object members) := by
  refine ⟨fun members tag isTag isUnknown => ?_, fun members others unread => ?_⟩
  · rw [clientMessage, decode_internal, isTag]
    exact given.clientReader_unknown isUnknown _
  · exact decode_internal_append _ given.clientReader_readsOnly unread

end Encodings

/-! ## A choice of encodings -/

/-- A hexadecimal digit. -/
def hexDigit : Format Char ℕ where
  encode := Nat.digitChar
  decode digit := ['0', '1', '2', '3', '4', '5', '6', '7', '8', '9', 'a', 'b', 'c', 'd', 'e',
    'f'].idxOf? digit
  Canonical value := value < 16
  decode_encode_iff := by
    have all : ∀ value : Fin 16, ['0', '1', '2', '3', '4', '5', '6', '7', '8', '9', 'a', 'b', 'c',
      'd', 'e', 'f'].idxOf? (Nat.digitChar value) = some value.val := by decide
    intro value
    exact ⟨fun found => (List.findIdx?_eq_some_iff_getElem.mp found).1,
      fun small => all ⟨value, small⟩⟩
  canonical _ found := (List.findIdx?_eq_some_iff_getElem.mp found).1

/-- The lowest digits of a number, the highest one first. -/
def digits : ℕ → ℕ → List ℕ
  | 0, _ => []
  | count + 1, value => digits count (value / 16) ++ [value % 16]

theorem digits_lt (count value : ℕ) : ∀ digit ∈ digits count value, digit < 16 := by
  induction count generalizing value with
  | zero => exact fun _ isThere => absurd isThere List.not_mem_nil
  | succ count ih =>
      intro digit isThere
      rcases List.mem_append.mp isThere with isHigher | isLast
      · exact ih _ digit isHigher
      · exact List.mem_singleton.mp isLast ▸ Nat.mod_lt _ (Nat.succ_pos 15)

theorem foldl_digits (count value : ℕ) :
    (digits count value).foldl (fun total digit => 16 * total + digit) 0 = value % 16 ^ count := by
  induction count generalizing value with
  | zero => rw [digits, List.foldl_nil, Nat.pow_zero, Nat.mod_one]
  | succ count ih =>
      rw [digits, List.foldl_append, List.foldl_cons, List.foldl_nil, ih, Nat.pow_succ',
        Nat.mod_mul, Nat.add_comm]

/-- Groups of eight, four, four, four and the remaining digits. -/
def hyphenated (text : List Char) : List Char :=
  text.take 8 ++ '-' :: ((text.drop 8).take 4 ++ '-' :: (((text.drop 8).drop 4).take 4 ++
    '-' :: ((((text.drop 8).drop 4).drop 4).take 4 ++
      '-' :: (((text.drop 8).drop 4).drop 4).drop 4)))

theorem filter_hyphenated {text : List Char} (noHyphen : ∀ digit ∈ text, digit ≠ '-') :
    (hyphenated text).filter (· ≠ '-') = text := by
  have joined : (hyphenated text).filter (· ≠ '-') = text.filter (· ≠ '-') := by
    have hyphen : ∀ rest : List Char, ('-' :: rest).filter (· ≠ '-') = rest.filter (· ≠ '-') :=
      fun rest => List.filter_cons_of_neg (by decide)
    rw [hyphenated]
    simp only [List.filter_append, hyphen]
    simp only [← List.filter_append, List.take_append_drop]
  rw [joined, List.filter_eq_self]
  exact fun digit isThere => decide_eq_true (noHyphen digit isThere)

/-- The number that is written in hexadecimal digits, some of which are separated by hyphens. -/
def readDigits (text : List Char) : Option ℕ :=
  (hexDigit.list.decode (text.filter (· ≠ '-'))).map fun found =>
    found.foldl (fun total digit => 16 * total + digit) 0

theorem readDigits_hyphenated (count value : ℕ) :
    readDigits (hyphenated (hexDigit.list.encode (digits count value))) =
      some (value % 16 ^ count) := by
  have noHyphen : ∀ digit ∈ hexDigit.list.encode (digits count value), digit ≠ '-' := by
    have all : ∀ value : Fin 16, Nat.digitChar value ≠ '-' := by decide
    intro digit isThere
    obtain ⟨value, isValue, rfl⟩ := List.mem_map.mp isThere
    exact all ⟨value, digits_lt count _ value isValue⟩
  rw [readDigits, filter_hyphenated noHyphen,
    hexDigit.list.decode_encode (digits_lt count value), Option.map_some, foldl_digits]

/-- UUIDs in lower case with hyphens, no profiles, and sets in increasing order. -/
def hyphenatedEncodings : Encodings Unit where
  uuidText uuid := String.ofList (hyphenated (hexDigit.list.encode (digits 32 uuid.toNat)))
  parseUuid written := (readDigits written.toList).map (BitVec.ofNat 128)
  parse_text uuid := by
    have bound := uuid.isLt
    have small : uuid.toNat % 16 ^ 32 = uuid.toNat := Nat.mod_eq_of_lt (by omega)
    rw [String.toList_ofList, readDigits_hyphenated, small, Option.map_some, BitVec.ofNat_toNat,
      BitVec.setWidth_eq]
  profile := {
    encode := fun _ => .null
    decode := fun _ => none
    Canonical := fun _ => False
    decode_encode_iff := iff_of_false nofun id
    canonical := nofun }
  targets := .increasing CallTarget
  clients := .increasing ClientId

/-- A reason of a newer version stays inside the reason that is known. -/
example : hyphenatedEncodings.serverMessage.decode (.object
    [("type", .string "callCancelled"),
      ("callId", .string "00000000-0000-0000-0000-000000000001"), ("targets", .array []),
      ("reason", .object [("errored", .string "someFutureReason")])]) =
    some (.callCancelled
      ⟨⟨1⟩, ∅, .known (.errored (.unknown (Json.string "someFutureReason").value))⟩) :=
  rfl

/-- A text with two reasons in one is read as an unknown reason, of which the second one is kept:
what is written then is read as that one. -/
example : hyphenatedEncodings.callCancelReasonOrUnknown.decode
      (.object [("errored", .string "x"), ("errored", .string "y")]) =
        some (.unknown (Json.object [("errored", .string "y")]).value) ∧
    hyphenatedEncodings.callCancelReasonOrUnknown.decode (.object [("errored", .string "y")]) =
      some (.known (.errored (.unknown (Json.string "y").value))) :=
  ⟨rfl, rfl⟩

end Wire

end Vacs
