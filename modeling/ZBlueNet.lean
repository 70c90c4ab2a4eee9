import ZBlueNet.DynamicBuffer
import ZBlueNet.Lib.StreamParser
import ZBlueNet.NetProtocol
import ZBlueNet.ReceiveStream
import ZBlueNet.Framing
import ZBlueNet.WrittenFrames
import ZBlueNet.Timestamp
import ZBlueNet.Lib.BinaryHeap
import ZBlueNet.TimerHeapCore
import ZBlueNet.Lib.Runs
import ZBlueNet.TimerHeap
import ZBlueNet.TimerIndex
import ZBlueNet.TimerAccess
import ZBlueNet.TimerLife
import ZBlueNet.ServiceTimers
import ZBlueNet.TimerOrder
import ZBlueNet.TimerSchedule
import ZBlueNet.ReactorCore
import ZBlueNet.SendStream
import ZBlueNet.OutputArming
import ZBlueNet.MessageQueue
import ZBlueNet.Lib.History
import ZBlueNet.TcpServiceCore
import ZBlueNet.ConnectionSetup
import ZBlueNet.NetThreadCore
import ZBlueNet.ClientReceive
import ZBlueNet.ReactorLoop
import ZBlueNet.ReactorEdits
import ZBlueNet.ClientReconnect
import ZBlueNet.NetThreadDeeds
import ZBlueNet.CloseReport
import ZBlueNet.ServiceAgreement
import ZBlueNet.FailedAttach
import ZBlueNet.ServiceStart
import ZBlueNet.GameServiceCore
import ZBlueNet.DisconnectCallbacks
import ZBlueNet.MessageHandlers
import ZBlueNet.CommandQueue
import ZBlueNet.ByteQueue
import ZBlueNet.ReadLoop
import ZBlueNet.ReadBounds
import ZBlueNet.ReadBuffers
import ZBlueNet.RequestLimit
import ZBlueNet.OfferedBytes
import ZBlueNet.ArrivalBursts
import ZBlueNet.TimerTermination
import ZBlueNet.ClientCommandQueue
import ZBlueNet.ClientStart
import ZBlueNet.ClientRetry
import ZBlueNet.BroadcastAudience
import ZBlueNet.BroadcastList
import ZBlueNet.Lib.Ownership
import ZBlueNet.CommandRelease
import ZBlueNet.Lib.PrefixParser
import ZBlueNet.Lib.CompactCode
import ZBlueNet.ExchangeCore
import ZBlueNet.ExchangeFormat
import ZBlueNet.ExchangeDecode
import ZBlueNet.ExchangeRoundTrip
import ZBlueNet.ExchangeShortest
import ZBlueNet.ExchangeEnumList
import ZBlueNet.Lib.ConditionVariable
import ZBlueNet.ConcurrentQueue
import ZBlueNet.Semaphore
import ZBlueNet.ThreadClose
import ZBlueNet.EpollDispatch
import ZBlueNet.ReactorTables
import ZBlueNet.SelectLoop
import ZBlueNet.RecvProgress
import ZBlueNet.SendLimit
import ZBlueNet.Lib.MessageStream
import ZBlueNet.SendCompletion
import ZBlueNet.NetThreadEffects
import ZBlueNet.PendingErrors
import ZBlueNet.TypedIntegers
import ZBlueNet.TimerWaits
import ZBlueNet.TimerSleep
import ZBlueNet.ConnectionSpread
import ZBlueNet.SocketIds
import ZBlueNet.Logger
import ZBlueNet.LoggerFileSink
import ZBlueNet.LoggerAsyncSink
import ZBlueNet.LoggerAsyncRuns
import ZBlueNet.SocketAddress
import ZBlueNet.AddressText
import ZBlueNet.AddressBinary
import ZBlueNet.LoggerMgr
import ZBlueNet.LogManager
import ZBlueNet.ReceivedMessages
import ZBlueNet.HandledMessages
import ZBlueNet.SentMessages
import ZBlueNet.RepliedMessages
import ZBlueNet.Delivery
import ZBlueNet.MainThread
import ZBlueNet.Descriptors
