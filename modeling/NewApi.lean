import NewApi.Theorems.Conservation
import NewApi.Theorems.Realtime
import NewApi.Theorems.RelayBilling
import NewApi.Theorems.Redemption
import NewApi.Theorems.Phone
import NewApi.Theorems.OAuth
import NewApi.Theorems.Period
import NewApi.Theorems.RefundRetry
import NewApi.Theorems.SubscriptionBounds
import NewApi.Theorems.SunoRefund
import NewApi.Theorems.TopUpCredit
import NewApi.Theorems.BatchUpdate
import NewApi.Theorems.ClaudeContent
import NewApi.Theorems.ClaudeGrammar
import NewApi.Theorems.ClaudeMessages
import NewApi.Theorems.Conversion
import NewApi.Theorems.Creation
import NewApi.Theorems.LegacyOverride
import NewApi.Theorems.PreCharge
import NewApi.Theorems.RedisHash
import NewApi.Theorems.StreamPassThrough
import NewApi.Theorems.UserWrites
import NewApi.Theorems.ModelMapping
import NewApi.Theorems.OrderLock
import NewApi.Theorems.OutboundBody
import NewApi.Theorems.StreamScanner
import NewApi.Theorems.TwoFA
import NewApi.Theorems.ChannelRefresh
import NewApi.Theorems.SystemTaskLease
import NewApi.Theorems.ChannelSelect
import NewApi.Theorems.RetryOrder
import NewApi.Theorems.ChannelContext
import NewApi.Theorems.MultiKeys
import NewApi.Theorems.FairSelection
import NewApi.Theorems.ChannelRow
import NewApi.Theorems.ChannelAutomation
import NewApi.Theorems.TokenParams
import NewApi.Theorems.TextCounters
import NewApi.Theorems.TaskStoredQuota
import NewApi.Theorems.GroupExpiry
import NewApi.Theorems.Durations
import NewApi.Theorems.TaskRepricing
import NewApi.Theorems.TaskPolling
import NewApi.Theorems.BatchAdd
import NewApi.Theorems.GeminiFormat
import NewApi.Theorems.RateLimit
