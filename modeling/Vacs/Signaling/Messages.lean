import Vacs.Clients.Manager
import Vacs.Protocol.CallMessages

/-!
# What a client receives from the server

The messages of the protocol as the client reads them, and the errors and events
of its signaling client. Reasons of a newer protocol version decode to `unknown`
reasons, and messages of an unknown type to `unknown` messages.
-/

set_option autoImplicit false

namespace Vacs

namespace Signaling

inductive LoginFailureReason where
  | unauthorized
  | duplicateId
  | invalidCredentials
  | noActiveVatsimConnection
  | ambiguousVatsimPosition (positions : List PositionId)
  | invalidVatsimPosition
  | timeout
  | incompatibleProtocolVersion
  | unknown (reason : UnknownReason)
deriving DecidableEq

inductive DisconnectReason where
  | terminated
  | noActiveVatsimConnection
  | ambiguousVatsimPosition (positions : List PositionId)
  | unknown (reason : UnknownReason)
deriving DecidableEq

inductive ErrorReason where
  | malformedMessage
  | internal (message : String)
  | peerConnection
  | unexpectedMessage (message : String)
  | rateLimited (targets : Finset CallTarget) (retryAfterSecs : ℕ)
  | clientNotFound
  | unknown (reason : UnknownReason)
deriving DecidableEq

structure Error where
  reason : ErrorReason
  clientId : Option ClientId := none
  callId : Option CallId := none
deriving DecidableEq

/-- The client's own session, with the call size limit if the server advertises one. -/
structure SessionInfo where
  client : ClientInfo
  profile : SessionProfile
  defaultCallSources : List StationId
  maxConfSize : Option ℕ
deriving DecidableEq

/-- An offer or an answer of one client for another, in a call. -/
structure WebrtcDescription where
  callId : CallId
  fromClientId : ClientId
  toClientId : ClientId
  sdp : String
deriving DecidableEq

/-- The messages of the protocol from the server to a client. -/
inductive ServerMessage where
  | loginFailure (reason : LoginFailureReason)
  | callInvitation (invitation : CallInvitation)
  | callEnd (callEnd : CallEnd)
  | callUpdate (update : CallUpdate)
  | callCancelled (cancelled : CallCancelled)
  | callError (error : CallError)
  | webrtcOffer (offer : WebrtcDescription)
  | webrtcAnswer (answer : WebrtcDescription)
  | webrtcIceCandidate (callId : CallId) (fromClientId toClientId : ClientId) (candidate : String)
  | clientInfo (info : ClientInfo)
  | sessionInfo (info : SessionInfo)
  | clientConnected (client : ClientInfo)
  | clientDisconnected (clientId : ClientId)
  | clientList (clients : List ClientInfo)
  | stationList (stations : List StationInfo)
  | stationChanges (changes : List StationChange)
  | disconnected (reason : DisconnectReason)
  | error (error : Error)
  | unknown
deriving DecidableEq

inductive TransportFailureReason where
  | send (message : String)
  | receive (message : String)
  | close (message : String)
deriving DecidableEq

inductive SignalingRuntimeError where
  | disconnected (reason : Option DisconnectReason)
  | serverError (reason : ErrorReason)
  | transport (reason : TransportFailureReason)
  | serializationError (message : String)
deriving DecidableEq

inductive SignalingError where
  | loginError (reason : LoginFailureReason)
  | protocolError (message : String)
  | timeout (message : String)
  | runtime (error : SignalingRuntimeError)
  | other (message : String)
deriving DecidableEq

/-- What the tasks of the signaling client broadcast to each other. -/
inductive SignalingEvent where
  | message (message : ServerMessage)
  | error (error : SignalingRuntimeError)
deriving DecidableEq

end Signaling

end Vacs
