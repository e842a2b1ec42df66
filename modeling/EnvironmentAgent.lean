import EnvironmentAgent.AdvertisedTypes
import EnvironmentAgent.Backoff
import EnvironmentAgent.CallbackOrder
import EnvironmentAgent.CancelAnswers
import EnvironmentAgent.CancelDispatch
import EnvironmentAgent.ClaimedLedger
import EnvironmentAgent.CompositeTracking
import EnvironmentAgent.ContainerStatus
import EnvironmentAgent.CreateRollback
import EnvironmentAgent.DatabaseCredentials
import EnvironmentAgent.DcmRegistrar
import EnvironmentAgent.DeleteAddress
import EnvironmentAgent.DeliveredRequests
import EnvironmentAgent.DerivedNames
import EnvironmentAgent.EmbeddedRedelivery
import EnvironmentAgent.FailedLatch
import EnvironmentAgent.ForwardRetries
import EnvironmentAgent.ForwardTarget
import EnvironmentAgent.HealthHistory
import EnvironmentAgent.LinkedResourceSet
import EnvironmentAgent.MessagingLifecycle
import EnvironmentAgent.MonitorIsolation
import EnvironmentAgent.NetworkServices
import EnvironmentAgent.OperationOrder
import EnvironmentAgent.OutcomeEvents
import EnvironmentAgent.Pagination
import EnvironmentAgent.PoisonMessages
import EnvironmentAgent.RequestAudit
import EnvironmentAgent.RestartAgreement
import EnvironmentAgent.RestartRetention
import EnvironmentAgent.RetryWakeups
import EnvironmentAgent.TokenSource
import EnvironmentAgent.TopicCollisions
import EnvironmentAgent.VersionResolution
import EnvironmentAgent.VmMemory
import EnvironmentAgent.WorkerPools
