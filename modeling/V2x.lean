import V2x.Foundations.TransitionSystem
import V2x.Foundations.Simulation
import V2x.Foundations.History
import V2x.Foundations.Journal
import V2x.Foundations.Replicas
import V2x.Foundations.Ledger
import V2x.Foundations.Broker
import V2x.Foundations.ByteMemory
import V2x.Foundations.LinkedRing
import V2x.Foundations.Descriptors
import V2x.Foundations.FileStore
import V2x.Foundations.IntervalTimer
import V2x.Foundations.Mutex
import V2x.Foundations.Programs
import V2x.LinkedList
import V2x.ListMirror
import V2x.ListDeque
import V2x.ListSwap
import V2x.ListTeardown
import V2x.ListAccesses
import V2x.ThreadPool.JobList
import V2x.ThreadPool.Pool
import V2x.ThreadPool.Startup
import V2x.ThreadPool.Adding
import V2x.ThreadPool.Accounting
import V2x.ThreadPool.IdleCount
import V2x.ThreadPool.Statements
import V2x.ThreadPool.Sections
import V2x.ThreadPool.AtRest
import V2x.ThreadPool.JobHistory
import V2x.ThreadPool.Shutdown
import V2x.ThreadPool.Wakeup
import V2x.ThreadPool.Lifecycle
import V2x.ThreadPool.Waiting
import V2x.ThreadPool.Conformance
import V2x.ThreadPool.Teardown
import V2x.MsgRoute.Wire
import V2x.MsgRoute.ClientTable
import V2x.MsgRoute.Core
import V2x.MsgRoute.Server
import V2x.MsgRoute.TableAccess
import V2x.MsgRoute.ServerView
import V2x.MsgRoute.Dangling
import V2x.MsgRoute.Ownership
import V2x.MsgRoute.Reconnect
import V2x.MsgRoute.RoutingJob
import V2x.MsgRoute.BrokerView
import V2x.MsgRoute.Naming
import V2x.MsgRoute.NetworkBroker
import V2x.MsgRoute.JobSends
import V2x.MsgRoute.RouteSystem
import V2x.MsgRoute.RouteInvariant
import V2x.MsgRoute.RouteRuns
import V2x.MsgRoute.Delivery
import V2x.MsgRoute.CoreLife
import V2x.MsgRoute.ManagerStart
import V2x.MsgRoute.EpollLoop
import V2x.MsgRoute.LostConnections
import V2x.MsgRoute.Release
import V2x.MsgRoute.Leaks
import V2x.MsgRoute.Client
import V2x.MsgRoute.ClientLifecycle
import V2x.MsgRoute.Network
import V2x.MsgRoute.ClientSteps
import V2x.MsgRoute.NetworkInvariant
import V2x.MsgRoute.NetworkRuns
import V2x.MsgRoute.Answer
import V2x.MsgRoute.SendOrder
import V2x.MsgRoute.Traffic
import V2x.MsgRoute.Hops
import V2x.MsgRoute.Following
import V2x.MsgRoute.RoundTrip
import V2x.MsgRoute.SendLimit
import V2x.MsgRoute.Receipts
import V2x.MsgRoute.AtMostOnce
import V2x.MsgRoute.Lookups
import V2x.MsgRoute.ControlPlane
import V2x.MsgRoute.Provenance
import V2x.MsgRoute.Agreement
import V2x.Timer.EventManage
import V2x.Timer.SlotTable
import V2x.Timer.Consistency
import V2x.Timer.Threads
import V2x.Timer.Locks
import V2x.Timer.Callbacks
import V2x.Timer.Shutdown
import V2x.Timer.Tidiness
import V2x.Timer.Additions
import V2x.Timer.Capacity
import V2x.Timer.Expirations
import V2x.Timer.Dispatch
import V2x.Logger.Config
import V2x.Logger.Files
import V2x.Logger.Cache
import V2x.Logger.FlushPolicy
import V2x.Logger.Messages
import V2x.Logger.Loading
import V2x.Logger.Stream
import V2x.Logger.CacheBounds
import V2x.Logger.Sessions
import V2x.Logger.InitialBuffers
import V2x.Logger.PathLengths
import V2x.Logger.Levels
import V2x.Logger.ArchiveIndex
import V2x.Logger.OpenFiles
import V2x.Logger.Generations
import V2x.Logger.Pipeline
import V2x.Logger.LogJournal
import V2x.Logger.Preservation
import V2x.Logger.CycleThread
