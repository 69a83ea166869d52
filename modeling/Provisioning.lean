import Provisioning.Azure.Provider.Cleanup
import Provisioning.Azure.Provider.Inspect
import Provisioning.Azure.Provider.MigrateUid
import Provisioning.Azure.Rest.Peer
import Provisioning.Azure.Rest.Pool
import Provisioning.Cache.Schedule
import Provisioning.Kubeconfig
import Provisioning.Registry
import Provisioning.Proofs.Lifecycle
import Provisioning.Proofs.Session
import Provisioning.Proofs.Stored
import Provisioning.Proofs.Plan
import Provisioning.Proofs.Resumption
import Provisioning.Proofs.Layout
import Provisioning.Proofs.Retag
import Provisioning.Proofs.Migration
import Provisioning.Proofs.Retrial
import Provisioning.Proofs.Leftover
import Provisioning.Proofs.Isolation
import Provisioning.Proofs.Verdict
import Provisioning.Proofs.Teardown
import Provisioning.Proofs.Strays
import Provisioning.Proofs.Visibility
import Provisioning.Proofs.Sight
import Provisioning.Proofs.Validation
import Provisioning.Proofs.Numbering
import Provisioning.Proofs.Orderly
import Provisioning.Proofs.Addresses
import Provisioning.Proofs.Pairing
import Provisioning.Proofs.Renaming
import Provisioning.Proofs.Purging
import Provisioning.Proofs.SingleFlight
import Provisioning.Proofs.KeysApart
import Provisioning.Proofs.Faithfulness
import Provisioning.Proofs.Integrity
import Provisioning.Proofs.Replay
import Provisioning.Proofs.Fallback
import Provisioning.Proofs.DiskSupport
import Provisioning.Proofs.SizeLookups
import Provisioning.Proofs.ResourceCodecs
import Provisioning.Proofs.SpecCodecs
import Provisioning.Proofs.ControllerFile
import Provisioning.Proofs.AvailabilitySets
import Provisioning.Proofs.Paging
import Provisioning.Proofs.Patience
import Provisioning.Proofs.Tokens
import Provisioning.Proofs.Dispatch
import Provisioning.Proofs.Inspection
import Provisioning.Proofs.Base64
import Provisioning.Proofs.Utf8
import Provisioning.Proofs.Userdata
import Provisioning.Proofs.Integers
