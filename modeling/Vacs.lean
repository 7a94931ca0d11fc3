import Vacs.Foundations.FiniteMap
import Vacs.Foundations.GuardedRuns
import Vacs.Foundations.BoundedChannels
import Vacs.Foundations.CellLimiters
import Vacs.Foundations.Checks
import Vacs.Foundations.CheckedTables
import Vacs.Foundations.KeyedLists
import Vacs.Foundations.RollingQueue
import Vacs.Foundations.SlidingWindows
import Vacs.Foundations.LockQueues
import Vacs.Foundations.Negotiation
import Vacs.Foundations.Seating
import Vacs.Protocol.Identifiers
import Vacs.Calls.Entries
import Vacs.Calls.Manager
import Vacs.Calls.Operations
import Vacs.Protocol.CallMessages
import Vacs.Calls.CallSteps
import Vacs.Calls.Index
import Vacs.Calls.Refinement.Joining
import Vacs.Calls.Refinement.Leaving
import Vacs.Calls.Refinement.Runs
import Vacs.Calls.Coherence
import Vacs.Calls.Refusals
import Vacs.Calls.Leadership
import Vacs.Calls.Authorization
import Vacs.Calls.LinkHistory
import Vacs.Calls.LinkEviction
import Vacs.Calls.Disconnecting
import Vacs.Calls.Reports
import Vacs.Calls.RingsFor
import Vacs.Calls.TargetNames
import Vacs.Calls.Unanswered
import Vacs.Calls.Seats
import Vacs.Calls.ConferenceSize
import Vacs.Calls.Sections
import Vacs.Calls.LaggingIndexes
import Vacs.Calls.PendingOperations
import Vacs.Calls.Interleaving
import Vacs.Coverage.Network
import Vacs.Coverage.Validation
import Vacs.Coverage.Profiles
import Vacs.Coverage.ProfileReferences
import Vacs.Coverage.Loading
import Vacs.Coverage.Inheritance
import Vacs.Coverage.ParentWalks
import Vacs.Coverage.LoadTables
import Vacs.Coverage.LoadSoundness
import Vacs.Coverage.Matching
import Vacs.Coverage.Changes
import Vacs.Coverage.Views
import Vacs.Clients.Session
import Vacs.Clients.FeedOrder
import Vacs.Clients.Manager
import Vacs.Clients.Sync
import Vacs.Clients.Visibility
import Vacs.Clients.Staffing
import Vacs.Clients.LoadedCoverage
import Vacs.Clients.SyncPass
import Vacs.Clients.Reload
import Vacs.Clients.Invariant
import Vacs.Clients.Convergence
import Vacs.Clients.SyncOrder
import Vacs.Clients.StationTasks
import Vacs.Clients.StationOrder
import Vacs.Clients.Announcements
import Vacs.Clients.ReloadViews
import Vacs.Clients.Reconnect
import Vacs.Clients.Locks
import Vacs.Server.Sessions
import Vacs.Server.Handlers
import Vacs.Server.RateLimit
import Vacs.Server.Delivery
import Vacs.Server.RosterFreshness
import Vacs.Server.Cancellations
import Vacs.Server.HandlerCoherence
import Vacs.Server.TargetNotices
import Vacs.Server.TruthfulNotices
import Vacs.Server.GhostRinging
import Vacs.Server.Queues
import Vacs.Peers.Links
import Vacs.Peers.Endpoints
import Vacs.Peers.Glare
import Vacs.Peers.LinkFailures
import Vacs.Signaling.Messages
import Vacs.Signaling.Matcher
import Vacs.Signaling.Login
import Vacs.Signaling.ReconnectGate
import Vacs.Server.StationLists
import Vacs.App.SessionCache
import Vacs.App.Calls
import Vacs.App.ClientServer
import Vacs.App.Invitations
import Vacs.App.Crossings
import Vacs.App.AutoHangup
import Vacs.Keybinds.Engine
import Vacs.Keybinds.Transmission
import Vacs.Keybinds.MicMute
import Vacs.Keybinds.PortalListener
import Vacs.Playback.Fsm
import Vacs.Playback.Brackets
import Vacs.Playback.Forwarder
import Vacs.Playback.Storage
import Vacs.Playback.Recorder
import Vacs.Playback.Books
import Vacs.Playback.Accounting
import Vacs.Playback.OpenClips
import Vacs.Playback.Hangover
import Vacs.Playback.ClipFormats
import Vacs.Playback.Capture
import Vacs.Frontend.CallStore
import Vacs.Frontend.InviteRollback
import Vacs.Audio.WaveformSource
import Vacs.Audio.WavSource
import Vacs.Remote.ClientCount
import Vacs.Radio.TransmitLatch
import Vacs.Foundations.BoundedQueues
import Vacs.Foundations.Chunking
import Vacs.Foundations.BroadcastRings
import Vacs.Audio.Mixer
import Vacs.Audio.OpusFrames
import Vacs.Audio.PlaybackStream
import Vacs.Media.Sender
import Vacs.Media.Receiver
import Vacs.Media.Watchdog
import Vacs.Media.Peer
import Vacs.Server.DatasetInstall
import Vacs.Foundations.Formats
import Vacs.Foundations.JsonValues
import Vacs.Foundations.JsonFormats
import Vacs.Protocol.Wire
import Vacs.Foundations.SenderRegistries
import Vacs.Keybinds.Joystick
