import Howy.Bridge.Completion
import Howy.Client.PamSuccess
import Howy.Daemon.BatchAdmission
import Howy.Daemon.CameraProfiles
import Howy.Daemon.CaptureWorker
import Howy.Daemon.Connections
import Howy.Daemon.IdleCalls
import Howy.Daemon.ReadinessBackend
import Howy.Prompt.ActiveResources
import Howy.Prompt.Expiry
import Howy.Prompt.PolicyDigests
import Howy.Provisioning.GuardRotation
import Howy.Provisioning.PathSpelling
import Howy.Security.JournalChain
import Howy.Security.Properties
import Howy.Security.Reconciliation
import Howy.Storage.CacheInvariant
import Howy.Storage.Footprints
import Howy.Storage.Inspection
import Howy.Storage.Legacy
import Howy.Storage.Mode1Namespace
import Howy.Storage.Mode1Poison
import Howy.Storage.Mode1Restart
import Howy.Storage.Nonces
import Howy.Storage.PlaintextCrash
