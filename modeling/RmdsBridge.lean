import RmdsBridge.Runs
import RmdsBridge.Handles
import RmdsBridge.UnorderedMap
import RmdsBridge.Rssl
import RmdsBridge.BookEntry
import RmdsBridge.BookByOrder
import RmdsBridge.Edits
import RmdsBridge.BookView
import RmdsBridge.BookSteps
import RmdsBridge.BookEffects
import RmdsBridge.BookTracking
import RmdsBridge.BookConsistency
import RmdsBridge.BookRender
import RmdsBridge.BookQueue
import RmdsBridge.BookStream
import RmdsBridge.BookByPrice
import RmdsBridge.PriceStream
import RmdsBridge.PriceMirror
import RmdsBridge.PriceFollows
import RmdsBridge.BookImage
import RmdsBridge.StreamManager
import RmdsBridge.Subscription
import RmdsBridge.BridgeSubscription
import RmdsBridge.Consumer
import RmdsBridge.Responses
import RmdsBridge.Dispatch
import RmdsBridge.StreamIds
import RmdsBridge.StreamExclusive
import RmdsBridge.LiveStates
import RmdsBridge.OpenItems
import RmdsBridge.PendingItems
import RmdsBridge.ImageRequests
import RmdsBridge.ImageLedger
import RmdsBridge.ImageFeed
import RmdsBridge.ImageAnswers
import RmdsBridge.References
import RmdsBridge.Registry
import RmdsBridge.Listeners
import RmdsBridge.Subscriber
import RmdsBridge.SubscriberSteps
import RmdsBridge.Zombies
import RmdsBridge.Calendar
import RmdsBridge.DateTimes
import RmdsBridge.DateTimeCodec
import RmdsBridge.PriceCodec
import RmdsBridge.IntegerFields
import RmdsBridge.Payload
import RmdsBridge.PayloadMap
import RmdsBridge.PayloadIterator
import RmdsBridge.Login
import RmdsBridge.LoginGate
import RmdsBridge.Session
import RmdsBridge.SourceDirectory
import RmdsBridge.DirectoryTracking
import RmdsBridge.PublisherItem
import RmdsBridge.Provider
import RmdsBridge.ProviderRemovals
import RmdsBridge.ProviderSteps
import RmdsBridge.ProviderStreams
import RmdsBridge.NIPublisher
import RmdsBridge.NIChannels
import RmdsBridge.ConsumerLoop
import RmdsBridge.ConsumerReads
import RmdsBridge.ConsumerRecovery
import RmdsBridge.ConsumerChannels
import RmdsBridge.ProviderLoop
import RmdsBridge.ProviderChannels
import RmdsBridge.ConnectedState
import RmdsBridge.PostManager
import RmdsBridge.BridgePoster
import RmdsBridge.PostStatus
import RmdsBridge.PostAcks
import RmdsBridge.FieldMap
import RmdsBridge.FieldTranslation
import RmdsBridge.Timer
import RmdsBridge.TimerLife
import RmdsBridge.BookOrders
import RmdsBridge.PriceIdentity
import RmdsBridge.OrderUpdates
import RmdsBridge.Notices
import RmdsBridge.ConsumerNotices
import RmdsBridge.SubscriberNotices
import RmdsBridge.BridgeCallbacks
import RmdsBridge.DestroyedListeners
import RmdsBridge.DestroyTimeline
import RmdsBridge.DestroySteps
import RmdsBridge.OnDestroy
import RmdsBridge.BookRejections
import RmdsBridge.BookSlots
import RmdsBridge.BookDecoding
import RmdsBridge.PriceSides
import RmdsBridge.PricePool
import RmdsBridge.PostRouting
import RmdsBridge.Numerals
import RmdsBridge.EnumCodec
import RmdsBridge.DateTimeStrings
import RmdsBridge.PayloadGetters
import RmdsBridge.Delivery
import RmdsBridge.MessageNumbers
import RmdsBridge.ReceivedNumbers
import RmdsBridge.QuietHandlers
import RmdsBridge.NumberedHandlers
import RmdsBridge.SubscriptionFlags
import RmdsBridge.NumberedListeners
import RmdsBridge.NumberedSteps
import RmdsBridge.SequenceGaps
import RmdsBridge.PayloadMerge
import RmdsBridge.StreamRules
import RmdsBridge.OpenFailures
import RmdsBridge.ConsumerKeeps
import RmdsBridge.Throttle
import RmdsBridge.ChannelRemoval
import RmdsBridge.DirectoryDecoding
import RmdsBridge.DirectorySettling
import RmdsBridge.DirectoryReports
import RmdsBridge.TextTokens
import RmdsBridge.ParseItems
import RmdsBridge.RetryItems
import RmdsBridge.HostItems
import RmdsBridge.PassStreams
import RmdsBridge.ConnectionConfig
import RmdsBridge.ConnectionPasses
import RmdsBridge.ConnectionSchedule
import RmdsBridge.FieldTypes
import RmdsBridge.FieldMapReader
import RmdsBridge.FieldMapRows
import RmdsBridge.RowByRow
import RmdsBridge.CombinedDictionary
import RmdsBridge.DictionaryComplete
import RmdsBridge.FieldMapRules
import RmdsBridge.IntegerRanges
import RmdsBridge.IntegerDecoding
import RmdsBridge.ResponseDispatch
import RmdsBridge.WrappedClocks
import RmdsBridge.ChannelShutdown
import RmdsBridge.MilliCount
import RmdsBridge.PingChecks
import RmdsBridge.PingRuns
import RmdsBridge.DictionaryDownload
import RmdsBridge.DictionaryLoaded
import RmdsBridge.DictionaryRequests
import RmdsBridge.DictionaryReplies
import RmdsBridge.NamedFields
import RmdsBridge.CharArray
import RmdsBridge.LoginCodec
import RmdsBridge.LoginRoundTrip
import RmdsBridge.LoginAnswers
import RmdsBridge.DirectoryCodec
import RmdsBridge.DirectoryFields
import RmdsBridge.DirectoryRoundTrip
import RmdsBridge.RwfDirectory
import RmdsBridge.Handshake
import RmdsBridge.HandshakeWork
import RmdsBridge.HandshakeTraffic
import RmdsBridge.HandshakeAnswers
import RmdsBridge.HandshakeCompletes
import RmdsBridge.HandshakeNotLive
import RmdsBridge.FieldEncoding
import RmdsBridge.FieldRefusals
import RmdsBridge.FieldDecoding
import RmdsBridge.FieldReads
import RmdsBridge.FieldRelay
import RmdsBridge.FieldRoundTrip
import RmdsBridge.PublishMessage
import RmdsBridge.PublishedStreams
import RmdsBridge.StreamCalls
import RmdsBridge.StreamLeases
import RmdsBridge.SubscriptionLeases
import RmdsBridge.SubscriberMoves
import RmdsBridge.SubscriberStreams
import RmdsBridge.SnapshotCourse
import RmdsBridge.SnapshotStreams
import RmdsBridge.SnapshotSession
import RmdsBridge.SnapshotTurns
import RmdsBridge.SnapshotReplies
