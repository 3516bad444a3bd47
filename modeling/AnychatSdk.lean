import AnychatSdk.Lib.EventRun
import AnychatSdk.Lib.Slot
import AnychatSdk.Lib.KeyTable
import AnychatSdk.Lib.TaskQueue
import AnychatSdk.Lib.OrderBy
import AnychatSdk.Lib.ThreadPool
import AnychatSdk.Lib.Batch
import AnychatSdk.Lib.Worker
import AnychatSdk.Lib.AsyncCode
import AnychatSdk.Lib.AsyncScope
import AnychatSdk.Lib.AsyncReplay
import AnychatSdk.Lib.Dispatch
import AnychatSdk.Lib.Heap
import AnychatSdk.Types
import AnychatSdk.Json
import AnychatSdk.Db.Schema
import AnychatSdk.Db.Rows
import AnychatSdk.Db.Database
import AnychatSdk.Cache.ConversationCache
import AnychatSdk.Cache.MessageCache
import AnychatSdk.Client
import AnychatSdk.OutboundQueue
import AnychatSdk.MessageManager
import AnychatSdk.ConversationManager
import AnychatSdk.SyncEngine
import AnychatSdk.SyncClock
import AnychatSdk.SyncedTables
import AnychatSdk.SyncedMessageCache
import AnychatSdk.SyncedConversationCache
import AnychatSdk.SyncIdempotence
import AnychatSdk.System
import AnychatSdk.Effects
import AnychatSdk.StoredMessages
import AnychatSdk.ConversationStores
import AnychatSdk.LinkedStores
import AnychatSdk.CacheAgreement
import AnychatSdk.SequenceMonotone
import AnychatSdk.SequenceBound
import AnychatSdk.WireTokens
import AnychatSdk.WithdrawnMessages
import AnychatSdk.PendingMessages
import AnychatSdk.EnqueueRace
import AnychatSdk.Restarts
import AnychatSdk.Network.WebSocketClient
import AnychatSdk.ConnectionManager
import AnychatSdk.ConnectionAgreement
import AnychatSdk.Network.EventLoop
import AnychatSdk.ConnectionThreads
import AnychatSdk.UninterruptedHandlers
import AnychatSdk.FinalDisconnect
import AnychatSdk.HeartbeatThreads
import AnychatSdk.ReconnectTimer
import AnychatSdk.RetryBudget
import AnychatSdk.ConnectionProgress
import AnychatSdk.AuthManager
import AnychatSdk.SessionRevocation
import AnychatSdk.TokenPersistence
import AnychatSdk.ClientImpl
import AnychatSdk.TransientChannel
import AnychatSdk.ReconnectToken
import AnychatSdk.SessionConnection
import AnychatSdk.ConversationLists
import AnychatSdk.DurableSettings
import AnychatSdk.ConversationRace
import AnychatSdk.ConversationEffects
import AnychatSdk.LostUpdates
import AnychatSdk.StoreIds
import AnychatSdk.DeletedConversations
import AnychatSdk.NotificationPatches
import AnychatSdk.ListCompleteness
import AnychatSdk.NotificationManager
import AnychatSdk.CheckedActions
import AnychatSdk.MessageAgreement
import AnychatSdk.DecodingRoutes
import AnychatSdk.CApi.AsyncEntry
import AnychatSdk.CApi.Messaging
import AnychatSdk.CApi.Contacts
import AnychatSdk.CApi.Accounts
import AnychatSdk.CApi.Callbacks
import AnychatSdk.SendCallbacks
import AnychatSdk.FlushOrder
import AnychatSdk.Network.ReceivedFrames
import AnychatSdk.ConversationOrder
import AnychatSdk.PinnedTimes
import AnychatSdk.BlockingCalls
import AnychatSdk.Network.HttpRequests
import AnychatSdk.Network.ManagerCalls
import AnychatSdk.Network.ServerVerdicts
import AnychatSdk.MessageRequests
import AnychatSdk.AuthRequests
import AnychatSdk.FileManager
import AnychatSdk.CompletedOperations
import AnychatSdk.Network.SendQueue
import AnychatSdk.SocketSends
import AnychatSdk.SessionView
import AnychatSdk.AccountSessions
import AnychatSdk.AccountIsolation
import AnychatSdk.Lib.RecentUse
import AnychatSdk.Cache.LruCache
import AnychatSdk.Lib.Greatest
import AnychatSdk.Cache.NewestMessages
import AnychatSdk.Cache.ConversationMap
import AnychatSdk.Lib.Calendar
import AnychatSdk.TimestampText
import AnychatSdk.UserManager
import AnychatSdk.ContactRoutes
import AnychatSdk.TokenLifetime
import AnychatSdk.TokenSessions
import AnychatSdk.StoredValues
import AnychatSdk.BucketPartition
import AnychatSdk.CachedHistory
import AnychatSdk.Cache.GapDetection
import AnychatSdk.EpochMs
import AnychatSdk.Lib.CheckedInt
import AnychatSdk.TimeArithmetic
import AnychatSdk.Lib.OutputStream
import AnychatSdk.Lib.PercentCode
import AnychatSdk.UrlEncoding
import AnychatSdk.Lib.UrlTarget
import AnychatSdk.RequestTargets
import AnychatSdk.Lib.Substring
import AnychatSdk.WebSocketUrl
import AnychatSdk.Lib.Utf8
import AnychatSdk.CApi.Records
import AnychatSdk.CApi.Memory
import AnychatSdk.CApi.Deliveries
import AnychatSdk.WireFrames
import AnychatSdk.NotifiedChanges
import AnychatSdk.Lib.LabelledRun
import AnychatSdk.Lib.UrlAuthority
import AnychatSdk.Network.HttpClient
import AnychatSdk.Network.RequestLifecycle
import AnychatSdk.Network.HttpSession
import AnychatSdk.Network.RequestOrigins
import AnychatSdk.Network.SessionReplay
import AnychatSdk.Lib.Journal
import AnychatSdk.Db.Migrations
import AnychatSdk.FriendManager
import AnychatSdk.GroupManager
import AnychatSdk.CodeDecoding
import AnychatSdk.UserRequests
import AnychatSdk.CallManager
import AnychatSdk.VersionManager
import AnychatSdk.ConversationRequests
import AnychatSdk.AccountRequests
import AnychatSdk.SdkCalls
import AnychatSdk.SdkVerdicts
import AnychatSdk.SdkReplay
import AnychatSdk.SdkSession
import AnychatSdk.ContactSessions
import AnychatSdk.ManagerNotifications
import AnychatSdk.NotificationDispatch
