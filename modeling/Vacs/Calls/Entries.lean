import Vacs.Foundations.FiniteMap
import Vacs.Protocol.Identifiers

/-!
# Ringing and active call entries

A call that is being set up is a ringing entry: the client that opened it and,
for each invited target, the clients that were notified and those that already
rejected or failed. A call somebody has answered is an active entry: its
participants with the targets they take part as, the conference leader if there
is one, the order in which the participants joined, and the dead links reported
so far.

The two entries of one call live side by side: a conference keeps ringing for
new targets while its participants are already talking.

Metrics, log lines and the entry's creation time are not part of this model.
-/

set_option autoImplicit false

namespace Vacs

/-- The participants of a call with the targets they take part as. -/
abbrev CallParticipants : Type := HashMap ClientId CallTarget

/-- The orders in which one operation happens to walk the hash maps it reads. -/
structure Iteration where
  clients : Enumeration ClientId
  targets : Enumeration CallTarget
  calls : Enumeration CallId

/-- The iteration in increasing order of identifiers. -/
def Iteration.increasing : Iteration where
  clients := Enumeration.increasing ClientId
  targets := Enumeration.increasing CallTarget
  calls := Enumeration.increasing CallId

/-! ## Ringing targets -/

/-- What is known about a target when it stops ringing. -/
structure RingingTarget where
  callId : CallId
  callerId : ClientId
  source : CallSource
  target : CallTarget
  notifiedClients : Finset ClientId
deriving DecidableEq

/-- A target that is ringing. -/
structure RingingTargetEntry where
  source : CallSource
  notifiedClients : Finset ClientId
  rejectedClients : Finset ClientId := ∅
  erroredClients : Finset ClientId := ∅
deriving DecidableEq

namespace RingingTargetEntry

def hasNotifiedClient (entry : RingingTargetEntry) (clientId : ClientId) : Bool :=
  decide (clientId ∈ entry.notifiedClients)

def hasFailedClient (entry : RingingTargetEntry) (clientId : ClientId) : Bool :=
  decide (clientId ∈ entry.rejectedClients) || decide (clientId ∈ entry.erroredClients)

def markRejected (entry : RingingTargetEntry) (clientId : ClientId) : RingingTargetEntry :=
  if clientId ∈ entry.notifiedClients then
    { entry with
      notifiedClients := entry.notifiedClients.erase clientId
      rejectedClients := insert clientId entry.rejectedClients }
  else entry

def markErrored (entry : RingingTargetEntry) (clientId : ClientId) : RingingTargetEntry :=
  if clientId ∈ entry.notifiedClients then
    { entry with
      notifiedClients := entry.notifiedClients.erase clientId
      erroredClients := insert clientId entry.erroredClients }
  else entry

def complete (entry : RingingTargetEntry) (callId : CallId) (callerId : ClientId)
    (source : CallSource) (target : CallTarget) : RingingTarget where
  callId := callId
  callerId := callerId
  source := source
  target := target
  notifiedClients := entry.notifiedClients

def allRejectedOrErrored (entry : RingingTargetEntry) : Bool :=
  decide (entry.notifiedClients = ∅)

end RingingTargetEntry

/-! ## Ringing calls -/

/-- A call that rings for at least one target: one batch of invitations, opened
by `callerId`. -/
structure RingingCallEntry where
  callId : CallId
  callerId : ClientId
  targets : HashMap CallTarget RingingTargetEntry
deriving DecidableEq

namespace RingingCallEntry

def new (callId : CallId) (callerId : ClientId) (source : CallSource) (target : CallTarget)
    (notifiedClients : Finset ClientId) : RingingCallEntry where
  callId := callId
  callerId := callerId
  targets := Finmap.insert target { source, notifiedClients } ∅

def addTarget (entry : RingingCallEntry) (source : CallSource) (target : CallTarget)
    (notifiedClients : Finset ClientId) : RingingCallEntry :=
  { entry with targets := entry.targets.insert target { source, notifiedClients } }

/-- The targets of the entry in the order they are walked. -/
def targetList (order : Iteration) (entry : RingingCallEntry) :
    List (CallTarget × RingingTargetEntry) :=
  (order.targets.list entry.targets.keys).filterMap fun target =>
    (entry.targets.lookup target).map fun ringing => (target, ringing)

def completeAllTargets (order : Iteration) (entry : RingingCallEntry) : List RingingTarget :=
  (entry.targetList order).map fun (target, ringing) =>
    ringing.complete entry.callId entry.callerId ringing.source target

def allTargetsFailed (entry : RingingCallEntry) : Bool :=
  !entry.targets.anyValue fun ringing => !ringing.allRejectedOrErrored

/-- The notified clients of every target, each with the target it rings for. -/
def invitedParticipants (order : Iteration) (entry : RingingCallEntry) : CallParticipants :=
  ((entry.targetList order).flatMap fun (target, ringing) =>
    (order.clients.list ringing.notifiedClients).map fun client => (client, target)).foldl
      (fun invited (client, target) => invited.insert client target) ∅

end RingingCallEntry

/-! ## Active calls -/

/-- Reports that the link between two participants is dead. -/
structure LinkReport where
  reporters : Finset ClientId
  refreshedAt : Instant
  firstReportedAt : Instant
deriving DecidableEq

/-- A report older than this is discarded when the pair is reported again. -/
def linkReportTtl : Duration := 90 * 1000000000

/-- A call with joined participants. -/
structure ActiveCallEntry where
  callId : CallId
  conferenceLeader : Option ClientId
  participants : CallParticipants
  /-- Monotonic join sequence per participant. -/
  joinOrder : HashMap ClientId ℕ
  nextJoinSeq : ℕ
  /-- Dead-link reports by the normalized pair. -/
  linkReports : HashMap (ClientId × ClientId) LinkReport
deriving DecidableEq

namespace ActiveCallEntry

def new (callId : CallId) (conferenceLeader : Option ClientId)
    (participants : CallParticipants) : ActiveCallEntry where
  callId := callId
  conferenceLeader := conferenceLeader
  participants := participants
  joinOrder := ∅
  nextJoinSeq := 0
  linkReports := ∅

def recordJoin (entry : ActiveCallEntry) (clientId : ClientId) : ActiveCallEntry :=
  { entry with
    joinOrder := entry.joinOrder.insert clientId entry.nextJoinSeq
    nextJoinSeq := entry.nextJoinSeq + 1 }

/-- Forget the join sequence of a leaving participant and every report on a link
to it. -/
def forgetParticipant (entry : ActiveCallEntry) (clientId : ClientId) : ActiveCallEntry :=
  { entry with
    joinOrder := entry.joinOrder.erase clientId
    linkReports := entry.linkReports.retain fun (first, second) _ =>
      first != clientId && second != clientId }

/-- The unordered pair of two clients. -/
def linkKey (first second : ClientId) : ClientId × ClientId :=
  if first ≤ second then (first, second) else (second, first)

/-- Record a dead-link report, and say whether both endpoints have now reported
the pair. A report that has not been refreshed for `linkReportTtl` is discarded
first. -/
def recordLinkReportAt (entry : ActiveCallEntry) (reporter peer : ClientId) (now : Instant) :
    ActiveCallEntry × Bool :=
  let key := linkKey reporter peer
  let report := (entry.linkReports.lookup key).getD
    { reporters := ∅, refreshedAt := now, firstReportedAt := now }
  let report :=
    if now - report.refreshedAt ≥ linkReportTtl then
      { report with reporters := ∅, firstReportedAt := now }
    else report
  let report := { report with
    refreshedAt := now
    reporters := insert reporter report.reporters }
  ({ entry with linkReports := entry.linkReports.insert key report },
    decide (peer ∈ report.reporters))

/-- The member of the pair that joined the call later. -/
def laterJoiner (entry : ActiveCallEntry) (first second : ClientId) : ClientId :=
  let seq := fun id => (entry.joinOrder.lookup id).getD (2 ^ 64 - 1)
  if seq first ≥ seq second then first else second

def participantsWithoutSelf (entry : ActiveCallEntry) (clientId : ClientId) : CallParticipants :=
  entry.participants.retain fun participant _ => participant != clientId

def involves (entry : ActiveCallEntry) (clientId : ClientId) : Bool :=
  decide (clientId ∈ entry.participants.keys)

end ActiveCallEntry

/-! ## What an operation reports -/

/-- The roster of a call after an operation. -/
structure UpdateParticipants where
  callId : CallId
  invitedParticipants : CallParticipants
  joinedParticipants : CallParticipants
  conferenceLeader : Option ClientId
deriving DecidableEq

/-- What has to be told to the clients of a call. -/
inductive UpdateCallAction where
  | cancelRingingTarget (target : RingingTarget)
  | dropParticipant (callId : CallId) (participantId : ClientId)
  | updateParticipants (update : UpdateParticipants)
deriving DecidableEq

end Vacs
