import HttpsServerSim.Lib.Bytes
import HttpsServerSim.Lib.Framing
import HttpsServerSim.Lib.MapOverlay
import HttpsServerSim.Utils.Buffer
import HttpsServerSim.Utils.BufferQueue
import HttpsServerSim.Protocol.Types
import HttpsServerSim.Protocol.Hpack
import HttpsServerSim.Protocol.HpackRoundTrip
import HttpsServerSim.Protocol.HpackCompose
import HttpsServerSim.Protocol.HttpMessage
import HttpsServerSim.Protocol.TlsLayer
import HttpsServerSim.Protocol.TlsHandler
import HttpsServerSim.Protocol.TlsPlumbing
import HttpsServerSim.Protocol.HttpParser
import HttpsServerSim.Protocol.HttpLines
import HttpsServerSim.Protocol.Http1Handler
import HttpsServerSim.Protocol.Http2Frame
import HttpsServerSim.Protocol.Http2Handler
import HttpsServerSim.Protocol.Http2Plain
import HttpsServerSim.Protocol.Http2Session
import HttpsServerSim.Lib.Transducer
import HttpsServerSim.Protocol.Http2Reading
import HttpsServerSim.Protocol.Http2Streams
import HttpsServerSim.Protocol.Http2Isolation
import HttpsServerSim.Protocol.Http2Lifecycle
import HttpsServerSim.Protocol.Http2Fragments
import HttpsServerSim.Protocol.Http1Plain
import HttpsServerSim.Protocol.Http1Request
import HttpsServerSim.Protocol.Http1Pipelining
import HttpsServerSim.Protocol.Http1Segmentation
import HttpsServerSim.Protocol.Http2Acks
import HttpsServerSim.Protocol.Http2Admission
import HttpsServerSim.Protocol.Http2Padding
import HttpsServerSim.Protocol.Http2FlowControl
import HttpsServerSim.Protocol.Http2Draining
import HttpsServerSim.Protocol.Http2Preface
import HttpsServerSim.Protocol.Alpn
import HttpsServerSim.Protocol.ProtocolSelection
import HttpsServerSim.Protocol.Http1Calls
import HttpsServerSim.Protocol.Http1Leakage
import HttpsServerSim.Protocol.Http1Reuse
import HttpsServerSim.Protocol.Http2Reuse
import HttpsServerSim.Lib.Interleaving
import HttpsServerSim.Lib.Ledger
import HttpsServerSim.MsgCenter.WorkerPool
import HttpsServerSim.MsgCenter.WorkerPoolDrain
import HttpsServerSim.MsgCenter.WorkerPoolWakeup
import HttpsServerSim.Lib.PriorityFifo
import HttpsServerSim.MsgCenter.EventQueue
import HttpsServerSim.MsgCenter.EventQueueThreads
import HttpsServerSim.MsgCenter.MsgCenter
import HttpsServerSim.MsgCenter.MsgCenterDeadlock
import HttpsServerSim.MsgCenter.MsgCenterCompletions
import HttpsServerSim.Lib.NodeHeap
import HttpsServerSim.Utils.LockFreeQueue
import HttpsServerSim.Utils.LockFreeQueueSafety
import HttpsServerSim.Server.Server
import HttpsServerSim.Server.ServerCalls
import HttpsServerSim.Server.ServerListeners
import HttpsServerSim.Server.ServerTeardown
import HttpsServerSim.Server.ConcurrentStop
import HttpsServerSim.Connection.Connection
import HttpsServerSim.Connection.ConnectionDisconnect
import HttpsServerSim.Connection.ConnectionManager
import HttpsServerSim.Connection.ConnectionMap
import HttpsServerSim.Connection.ConnectionCount
import HttpsServerSim.MsgCenter.EventLoopStop
import HttpsServerSim.MsgCenter.MsgCenterLifecycle
import HttpsServerSim.MsgCenter.MsgCenterListens
import HttpsServerSim.Callback.CallbackStrategyManager
import HttpsServerSim.Callback.CallbackRegistry
import HttpsServerSim.Callback.CallbackRefinement
import HttpsServerSim.Lib.Sorting
import HttpsServerSim.DebugChain.DebugChain
import HttpsServerSim.DebugChain.DebugChainOrder
import HttpsServerSim.DebugChain.DebugChainProcessing
import HttpsServerSim.Utils.Statistics
import HttpsServerSim.Utils.StatisticsTotals
import HttpsServerSim.Protocol.Http1ContentLength
import HttpsServerSim.Protocol.HttpGrammar
import HttpsServerSim.Lib.OrderedMap
import HttpsServerSim.Protocol.HttpLetterCase
import HttpsServerSim.Protocol.Http1LetterCase
import HttpsServerSim.Utils.BufferRefinement
import HttpsServerSim.Protocol.Http1Observed
import HttpsServerSim.Protocol.Http1ErrorState
import HttpsServerSim.Lib.PrefixCode
import HttpsServerSim.Protocol.Http1Delimiting
import HttpsServerSim.Protocol.Http1Echo
import HttpsServerSim.Protocol.Http2Echo
import HttpsServerSim.Lib.PrefixedInteger
import HttpsServerSim.Protocol.HpackIntegers
import HttpsServerSim.Protocol.HpackBoundaries
import HttpsServerSim.Protocol.HpackRepresentations
import HttpsServerSim.Protocol.HpackCoverage
import HttpsServerSim.Lib.AccessLog
import HttpsServerSim.Protocol.HpackMemory
import HttpsServerSim.Protocol.Http2Fragmentation
import HttpsServerSim.Lib.Saturation
import HttpsServerSim.Protocol.Http2Windows
import HttpsServerSim.Protocol.HttpResponseMemory
import HttpsServerSim.Protocol.HttpResponseRoundTrip
import HttpsServerSim.Protocol.AlpnMemory
import HttpsServerSim.Utils.BufferTyped
import HttpsServerSim.Connection.ConnectionClock
import HttpsServerSim.Connection.ConnectionTimeouts
import HttpsServerSim.Lib.OrderStatistics
import HttpsServerSim.Utils.Latencies
import HttpsServerSim.Lib.FieldLoading
import HttpsServerSim.Lib.Json
import HttpsServerSim.Config.Config
import HttpsServerSim.Config.ConfigLoading
import HttpsServerSim.Utils.Config
import HttpsServerSim.Utils.ConfigFields
import HttpsServerSim.Utils.ConfigLoading
import HttpsServerSim.Lib.IntegerRange
import HttpsServerSim.Lib.JsonIntegers
import HttpsServerSim.Config.ConfigNumbers
import HttpsServerSim.Utils.ConfigNumbers
import HttpsServerSim.Config.CallbacksDirectory
import HttpsServerSim.Lib.MirroredKeys
import HttpsServerSim.MsgCenter.IoThreadLoop
import HttpsServerSim.MsgCenter.IoThreadTables
import HttpsServerSim.Lib.ScopedLock
import HttpsServerSim.Utils.Logger
import HttpsServerSim.Utils.LoggerLocking
import HttpsServerSim.Lib.LastWrite
import HttpsServerSim.Lib.Arena
import HttpsServerSim.Lib.ByteScan
import HttpsServerSim.Protocol.Http2Delivery
import HttpsServerSim.Protocol.Http2Exchange
import HttpsServerSim.Protocol.Http2Settings
import HttpsServerSim.Protocol.Http2Contents
import HttpsServerSim.Protocol.Http2Memory
import HttpsServerSim.Protocol.Http1Memory
import HttpsServerSim.Protocol.TlsSetup
import HttpsServerSim.Protocol.TlsIdentity
import HttpsServerSim.Protocol.TlsLifecycle
import HttpsServerSim.MsgCenter.IoThreadWakeup
import HttpsServerSim.DebugChain.DebugHandlers
import HttpsServerSim.DebugChain.DebugRegistry
import HttpsServerSim.Lib.SharedPointer
import HttpsServerSim.Callback.SharedCallbacks
import HttpsServerSim.Callback.CallbackLifetimes
import HttpsServerSim.Lib.Template
import HttpsServerSim.Utils.LoggerLines
import HttpsServerSim.Utils.LoggerFiles
import HttpsServerSim.Utils.LoggerEntries
import HttpsServerSim.Protocol.TlsTranslation
import HttpsServerSim.Protocol.TlsSession
