import VllmSourceGateway.TransitionRuns
import VllmSourceGateway.SlidingWindow
import VllmSourceGateway.Validation
import VllmSourceGateway.PyDict
import VllmSourceGateway.PyText
import VllmSourceGateway.Utf8Decoder
import VllmSourceGateway.PyValues
import VllmSourceGateway.UsageExtractors
import VllmSourceGateway.Metrics
import VllmSourceGateway.Config
import VllmSourceGateway.AdmissionControl
import VllmSourceGateway.AdmissionTokenWindow
import VllmSourceGateway.AdmissionRetryGuard
import VllmSourceGateway.AdmissionRetryAfter
import VllmSourceGateway.Routing
import VllmSourceGateway.UpstreamHeaders
import VllmSourceGateway.SseParser
import VllmSourceGateway.GatewayEffects
import VllmSourceGateway.StreamBytes
import VllmSourceGateway.StreamBytesRuns
import VllmSourceGateway.StreamPassThrough
import VllmSourceGateway.ProxyEndpoint
import VllmSourceGateway.RequestSegments
import VllmSourceGateway.RequestSlot
import VllmSourceGateway.GatewaySystem
import VllmSourceGateway.LeaseAccounting
import VllmSourceGateway.LeaseLifecycle
import VllmSourceGateway.ResponsePassThrough
import VllmSourceGateway.TokenOversubscription
import VllmSourceGateway.AdmissionLedger
import VllmSourceGateway.LedgerRefinement
import VllmSourceGateway.RequestTrail
import VllmSourceGateway.RequestEmissions
import VllmSourceGateway.RequestedModel
import VllmSourceGateway.FailoverDiscipline
import VllmSourceGateway.CyclicScan
import VllmSourceGateway.RoundRobin
import VllmSourceGateway.RoundRobinShares
import VllmSourceGateway.DepartmentIsolation
import VllmSourceGateway.AdmissionOutputCap
import VllmSourceGateway.CredentialConfinement
import VllmSourceGateway.SourceResolution
import VllmSourceGateway.ConfigValidation
import VllmSourceGateway.AcceptedConfig
import VllmSourceGateway.Availability
import VllmSourceGateway.AvailabilityViews
import VllmSourceGateway.ModelPools
import VllmSourceGateway.AdmissionLimits
import VllmSourceGateway.ApiKeyAttribution
import VllmSourceGateway.RequestMetrics
import VllmSourceGateway.MetricLabels
import VllmSourceGateway.FallbackAttribution
import VllmSourceGateway.RequestTotals
import VllmSourceGateway.AccountingLedgers
import VllmSourceGateway.TokenBilling
import VllmSourceGateway.FailoverLoops
import VllmSourceGateway.FailoverScan
import VllmSourceGateway.EventReader
import VllmSourceGateway.SseStreams
import VllmSourceGateway.StreamPacketization
import VllmSourceGateway.MessagesUsage
import VllmSourceGateway.RejectedRequests
import VllmSourceGateway.CatalogConfig
import VllmSourceGateway.LoadConfig
import VllmSourceGateway.ConfigSecrets
import VllmSourceGateway.UpstreamHealth
import VllmSourceGateway.Refinement
import VllmSourceGateway.Lifespan
import VllmSourceGateway.HealthHistory
import VllmSourceGateway.ProbedRouting
import VllmSourceGateway.FailureCounters
import VllmSourceGateway.ParserInvariant
import VllmSourceGateway.MetricsMiddleware
import VllmSourceGateway.MeteredRequests
import VllmSourceGateway.FailureTruth
import VllmSourceGateway.WrappedStreams
import VllmSourceGateway.RelayedStreams
import VllmSourceGateway.FailureOrigin
import VllmSourceGateway.ObjectHeap
import VllmSourceGateway.PayloadFidelity
import VllmSourceGateway.CompleteMediation
import VllmSourceGateway.ErrorResponses
import VllmSourceGateway.HtmlText
import VllmSourceGateway.JsonText
import VllmSourceGateway.ShellWords
import VllmSourceGateway.JsonLines
import VllmSourceGateway.AccessLog
import VllmSourceGateway.RefusalCounters
import VllmSourceGateway.RequestProgress
import VllmSourceGateway.StreamedRequests
import VllmSourceGateway.KeptEntries
import VllmSourceGateway.ModelIsolation
import VllmSourceGateway.CapacityBaseline
import VllmSourceGateway.CapacityReport
import VllmSourceGateway.CapacityArguments
import VllmSourceGateway.CatalogTemplate
import VllmSourceGateway.CatalogPage
import VllmSourceGateway.CatalogMarkup
import VllmSourceGateway.CurlExample
