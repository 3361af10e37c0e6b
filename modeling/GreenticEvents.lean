import GreenticEvents.Codec
import GreenticEvents.Routing
import GreenticEvents.Tenants
import GreenticEvents.Sequence
import GreenticEvents.Settings
import GreenticEvents.Failures
import GreenticEvents.Retries
import GreenticEvents.Sinks
import GreenticEvents.Agreement
import GreenticEvents.ProviderCodec
import GreenticEvents.Harness
import GreenticEvents.Schedule
import GreenticEvents.RuntimeConfig
import GreenticEvents.Annotations
import GreenticEvents.DeadLetters
import GreenticEvents.Wildcards
import GreenticEvents.RetryFilters
import GreenticEvents.LastSync
import GreenticEvents.Resolving
import GreenticEvents.Dropping
import GreenticEvents.Topics
import GreenticEvents.FileIndex
import GreenticEvents.Handlers
import GreenticEvents.PatternRuns
import GreenticEvents.Samples
import GreenticEvents.Traversal
import GreenticEvents.DryRunOffers
import GreenticEvents.SubscriptionVerdict
import GreenticEvents.LiveRuns
import GreenticEvents.Workers
import GreenticEvents.BusBridges
import GreenticEvents.RunnerBridges
import GreenticEvents.FlowAnswers
import GreenticEvents.HostedBus
import GreenticEvents.Generated
import GreenticEvents.OutputSchema
import GreenticEvents.InputSchema
import GreenticEvents.KeptRoutes
