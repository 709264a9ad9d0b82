import TalkSystem.Base.CString
import TalkSystem.Base.ConfigFailureProperties
import TalkSystem.Base.ConfigFileReader
import TalkSystem.Base.ConfigFileReaderProperties
import TalkSystem.Base.ConfigGrammar
import TalkSystem.Base.ConfigGrammarProperties
import TalkSystem.Base.ConfigLineBuffer
import TalkSystem.Base.ConfigLineBufferProperties
import TalkSystem.Base.ConfigLoadBufferProperties
import TalkSystem.Base.ConfigRoundTripProperties
import TalkSystem.Base.StrExplode
import TalkSystem.Base.StrExplodeProperties
import TalkSystem.Base.ThreadPool
import TalkSystem.Base.ThreadPoolProperties
import TalkSystem.Base.ThreadPoolShutdownProperties
import TalkSystem.Base.ThreadPoolStart
import TalkSystem.Base.ThreadPoolStartProperties
import TalkSystem.Base.ThreadPoolStrandedProperties
import TalkSystem.Base.ThreadPoolTaskProperties
import TalkSystem.DbProxyServer.CacheConn
import TalkSystem.DbProxyServer.CacheConnProperties
import TalkSystem.DbProxyServer.CacheErrorProperties
import TalkSystem.DbProxyServer.CacheRoundTripProperties
import TalkSystem.DbProxyServer.CacheSelectProperties
import TalkSystem.DbProxyServer.ConnPool
import TalkSystem.DbProxyServer.ConnPoolProperties
import TalkSystem.DbProxyServer.DBConn
import TalkSystem.DbProxyServer.DBConnProperties
import TalkSystem.DbProxyServer.DBServer
import TalkSystem.DbProxyServer.DBServerProperties
import TalkSystem.DbProxyServer.FormatProperties
import TalkSystem.DbProxyServer.InterLogin
import TalkSystem.DbProxyServer.InterLoginProperties
import TalkSystem.DbProxyServer.LoginQueryProperties
import TalkSystem.DbProxyServer.ManagerRuns
import TalkSystem.DbProxyServer.ManagerRunsProperties
import TalkSystem.DbProxyServer.Managers
import TalkSystem.DbProxyServer.ManagersProperties
import TalkSystem.DbProxyServer.MemoryRedis
import TalkSystem.DbProxyServer.MgetProperties
import TalkSystem.DbProxyServer.Redis
import TalkSystem.DbProxyServer.SharedRedis
import TalkSystem.DbProxyServer.SharedRedisProperties
import TalkSystem.Machine.Base128
import TalkSystem.Machine.BatchQueue
import TalkSystem.Machine.CheckedMemory
import TalkSystem.Machine.History
import TalkSystem.Machine.PairTable
import TalkSystem.Machine.ProcessTable
import TalkSystem.Machine.Runs
import TalkSystem.Machine.Splitting
import TalkSystem.Machine.SqlLiteral
import TalkSystem.Machine.SqlStatement
import TalkSystem.Machine.Weights
import TalkSystem.Net.Buffer
import TalkSystem.Net.BufferGrowthProperties
import TalkSystem.Net.BufferObject
import TalkSystem.Net.BufferProperties
import TalkSystem.Net.BufferQueueProperties
import TalkSystem.Net.ChannelTableProperties
import TalkSystem.Net.ConnectionCallbackProperties
import TalkSystem.Net.ConnectionLifecycle
import TalkSystem.Net.ConnectionLifecycleProperties
import TalkSystem.Net.ConnectionMilestones
import TalkSystem.Net.ConnectionName
import TalkSystem.Net.DisconnectedProperties
import TalkSystem.Net.EchoServer
import TalkSystem.Net.EventLoop
import TalkSystem.Net.EventLoopProperties
import TalkSystem.Net.EventLoopThread
import TalkSystem.Net.EventLoopThreadProperties
import TalkSystem.Net.FunctorOwners
import TalkSystem.Net.FunctorTargetProperties
import TalkSystem.Net.HalfCloseModes
import TalkSystem.Net.LifecycleInvariant
import TalkSystem.Net.LoopConfinementProperties
import TalkSystem.Net.NotificationProperties
import TalkSystem.Net.OutputStreamProperties
import TalkSystem.Net.Poller
import TalkSystem.Net.PollerProperties
import TalkSystem.Net.QuitFlushProperties
import TalkSystem.Net.SendBeforeShutdownProperties
import TalkSystem.Net.SentBytesProperties
import TalkSystem.Net.ServerCallbacks
import TalkSystem.Net.ServerTeardown
import TalkSystem.Net.ServerTeardownProperties
import TalkSystem.Net.SharedConnection
import TalkSystem.Net.SharedConnectionProperties
import TalkSystem.Net.TcpConnection
import TalkSystem.Net.TcpConnectionProperties
import TalkSystem.Net.TcpServer
import TalkSystem.Net.TcpServerProperties
import TalkSystem.Net.WriteInterestProperties
import TalkSystem.Protocol.CodedStream
import TalkSystem.Protocol.CodedStreamProperties
import TalkSystem.Protocol.GeneratedMessage
import TalkSystem.Protocol.GeneratedMessageProperties
import TalkSystem.Protocol.MessageCompletenessProperties
import TalkSystem.Protocol.MessageForwardingProperties
import TalkSystem.Protocol.MessageMerge
import TalkSystem.Protocol.MessageMergeProperties
import TalkSystem.Protocol.MessageRoundTripProperties
import TalkSystem.Protocol.WireFormat
import TalkSystem.Protocol.WireFormatProperties
import TalkSystem.Protocol.WireGrammar
import TalkSystem.Protocol.WirePrefixProperties
import TalkSystem.Base.TaskResult
import TalkSystem.Base.TaskResultProperties
import TalkSystem.Net.EventList
import TalkSystem.Net.EventListProperties
