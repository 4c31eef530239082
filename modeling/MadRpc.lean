import MadRpc.Shared.Binary64
import MadRpc.Shared.Machine
import MadRpc.Shared.Metering
import MadRpc.Shared.OrderedMap
import MadRpc.Shared.PoisonLock
import MadRpc.Shared.Retry
import MadRpc.Shared.RoundRobin
import MadRpc.Shared.Rounding
import MadRpc.Shared.RunningSum
import MadRpc.Shared.Table
import MadRpc.Shared.Tally
import MadRpc.Shared.Traversal
import MadRpc.Common.Auth
import MadRpc.Common.Builtin
import MadRpc.Common.JsonRpc
import MadRpc.Common.Wire
import MadRpc.Common.Fields
import MadRpc.Common.BuiltinWire
import MadRpc.Common.Cast
import MadRpc.Common.Error
import MadRpc.Common.HttpTransport
import MadRpc.Common.RateLimit
import MadRpc.Common.RateLimitMeter
import MadRpc.Common.RateLimitConcurrency
import MadRpc.Common.RateLimitWindows
import MadRpc.Common.RateLimitEviction
import MadRpc.Common.RateLimitF64
import MadRpc.Common.RateLimitFaults
import MadRpc.Common.RateLimitMemory
import MadRpc.Common.RequestGrammar
import MadRpc.Common.Requests
import MadRpc.Common.RetryAfter
import MadRpc.Client.Client
import MadRpc.Client.Delays
import MadRpc.Client.Delivery
import MadRpc.Client.ResponseRoundTrip
import MadRpc.Metrics.Stats
import MadRpc.Metrics.Registry
import MadRpc.Metrics.Concurrency
import MadRpc.Metrics.MapLock
import MadRpc.Metrics.Entries
import MadRpc.Metrics.Counters
import MadRpc.Metrics.Conservation
import MadRpc.Metrics.Alone
import MadRpc.Metrics.BoundedMemory
import MadRpc.Metrics.TimeToLive
import MadRpc.Metrics.Eviction
import MadRpc.Metrics.LatencyBins
import MadRpc.Metrics.MonotonicTimestamp
import MadRpc.Metrics.Totals
import MadRpc.Metrics.MostRecent
import MadRpc.Metrics.Percentiles
import MadRpc.Metrics.RecordedCalls
import MadRpc.Metrics.Sequential
import MadRpc.Metrics.Snapshot
import MadRpc.Metrics.SnapshotConcurrency
import MadRpc.Metrics.SnapshotAlone
import MadRpc.Metrics.SnapshotContainment
import MadRpc.Metrics.SnapshotPercentiles
import MadRpc.Orchestrator.Node
import MadRpc.Orchestrator.Timeout
import MadRpc.Orchestrator.LoadBalancer
import MadRpc.Orchestrator.HealthChecker
import MadRpc.Orchestrator.Selection
import MadRpc.Orchestrator.Membership
import MadRpc.Orchestrator.Orchestrator
import MadRpc.Orchestrator.Forwarding
import MadRpc.Orchestrator.Attempts
import MadRpc.Orchestrator.Circuit
import MadRpc.Orchestrator.Backoff
import MadRpc.Orchestrator.Fairness
import MadRpc.Orchestrator.Bypass
import MadRpc.Orchestrator.Registration
import MadRpc.Orchestrator.ConcurrentRegistration
import MadRpc.Orchestrator.NextNode
import MadRpc.Orchestrator.Failover
import MadRpc.Orchestrator.HealthRounds
import MadRpc.Orchestrator.HttpRouter
import MadRpc.Orchestrator.HttpServer
import MadRpc.Orchestrator.ManualDisable
import MadRpc.Orchestrator.Rotation
import MadRpc.Orchestrator.Report
import MadRpc.Orchestrator.RequestAccounting
import MadRpc.Orchestrator.RetryContract
import MadRpc.Orchestrator.StaleDecision
import MadRpc.Orchestrator.Transparency
import MadRpc.Server.Bindings
import MadRpc.Server.HttpRouter
import MadRpc.Server.Calls
import MadRpc.Server.CallChain
import MadRpc.Server.Context
import MadRpc.Server.Conversions
import MadRpc.Server.Denotation
import MadRpc.Server.ConversionRoundTrip
import MadRpc.Server.DistributedCalls
import MadRpc.Server.BlockingRuntime
import MadRpc.Server.JobExecutor
import MadRpc.Server.BorrowDiscipline
import MadRpc.Server.Connections
import MadRpc.Server.ConversionPaths
import MadRpc.Server.ConversionErrors
import MadRpc.Server.IntegerEcho
import MadRpc.Server.ConversionTermination
import MadRpc.Server.HttpServer
import MadRpc.Server.JobAccounting
import MadRpc.Server.JobCompleteness
import MadRpc.Server.Liveness
import MadRpc.Server.Node
import MadRpc.Server.OnlyRegistered
import MadRpc.Server.MethodNotFound
import MadRpc.Server.NodeAccounting
import MadRpc.Server.PermanentRejection
import MadRpc.Server.PromiseWait
import MadRpc.Server.PromiseDeadline
import MadRpc.Server.Recovery
import MadRpc.Server.Registration
import MadRpc.Server.RetryAfterHeader
import MadRpc.Server.Strangers
import MadRpc.Cli.Top
