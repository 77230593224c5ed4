import NamespaceLister.Library.GoString
import NamespaceLister.Library.GoSlices
import NamespaceLister.Library.GoMaps
import NamespaceLister.Library.Machine
import NamespaceLister.Library.Reading
import NamespaceLister.Resources
import NamespaceLister.Rbac
import NamespaceLister.AtomicListRestockCache
import NamespaceLister.SynchronizedAccessCache
import NamespaceLister.SubjectNamespaceLister
import NamespaceLister.RbacAgreement
import NamespaceLister.TenantIsolation
import NamespaceLister.Transform
import NamespaceLister.TrimmedAccess
import NamespaceLister.Informer
import NamespaceLister.SynchSteps
import NamespaceLister.SynchMachine
import NamespaceLister.Startup
import NamespaceLister.RequestCoverage
import NamespaceLister.SteadyState
import NamespaceLister.StartupRace
import NamespaceLister.SynchOutcome
import NamespaceLister.VirtualMetadata
import NamespaceLister.CacheReplies
import NamespaceLister.RequestPath
import NamespaceLister.AccessCacheMetrics
import NamespaceLister.Library.Heap
import NamespaceLister.SharedResources
import NamespaceLister.ResourceEffects
import NamespaceLister.TransformLaws
import NamespaceLister.NeutralKeys
import NamespaceLister.WorkerErrors
import NamespaceLister.Convergence
import NamespaceLister.MeteredSystem
import NamespaceLister.Authorizer
import NamespaceLister.ClusterWatch
import NamespaceLister.ClusterView
import NamespaceLister.Deployment
import NamespaceLister.SynchReads
import NamespaceLister.SynchRefinement
import NamespaceLister.Program
import NamespaceLister.RequestLinearization
import NamespaceLister.Middleware
import NamespaceLister.HttpMetrics
import NamespaceLister.MeteredSynchs
