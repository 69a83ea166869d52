import Provisioning.Azure.Desired
import Provisioning.Azure.Provider.Lookup

/-!
Creation of a machine. The finalizer of each resource is committed before the resource is put, and
every put is by a name derived from the machine's, so that a repeated creation repairs what an
interrupted one left.
-/

namespace Provisioning.Azure

open Provisioning.Text

/-- A configuration that cannot be used until somebody changes it. -/
def unusable (e : AzureError) : CloudError :=
  .terminal .invalidConfiguration s!"failed to parse MachineSpec, due to {e.message}"

namespace Create

/-- Puts a public address and gives its id. -/
def putPublicIp (c : Config) (name uid version : String) (dualStack : Bool) : Action String := do
  let put := Call.putPublicIp c.resourceGroup name (Desired.publicIp c uid version dualStack)
  let created ← (Action.call c put).context ("failed to create public IP " ++ quote name)
  pure (created.id.getD (Naming.publicIpId c.subscriptionId c.resourceGroup name))

/-- Owns and puts the public addresses that are asked for, and gives their ids. -/
def publicIps (c : Config) (nic uid : String) (dualStack : Bool) :
    Recorded Asking (Option String × Option String) := do
  if c.assignPublicIp then
    own [.publicIp]
    let first ← (putPublicIp c (Naming.publicIp nic) uid ipv4 dualStack).recorded
      AzureError.toCreateError
    if dualStack then
      own [.publicIpv6]
      let second ← (putPublicIp c (Naming.publicIpv6 nic) uid ipv6 dualStack).recorded
        AzureError.toCreateError
      pure (some first, some second)
    else pure (some first, none)
  else pure (none, none)

/-- Puts the network interface and gives its id. -/
def putNic (c : Config) (nic uid : String) (publicIps : Option String × Option String)
    (dualStack : Bool) : Action String := do
  let body := Desired.nic c uid publicIps.1 publicIps.2 dualStack
  let created ← (Action.call c (.putNic c.resourceGroup nic body)).context
    "failed to create main network interface"
  pure (created.id.getD (Naming.nicId c.subscriptionId c.resourceGroup nic))

/-- The machine's first SSH key, or one that nobody can use. -/
def sshKey (keys : List String) : Asking String :=
  match Config.sshKey? keys with
  | some key => pure key
  | none => do
      let bytes ← ask .throwawayBytes
      pure (Config.throwawayKey bytes)

/-- Reads back the virtual machine that was put. -/
def readBack (c : Config) (name : String) : Action Instance := do
  let vm ← (Action.call c (.getVm c.resourceGroup name)).context
    ("failed to retrieve updated data for VM " ++ quote name)
  Lookup.instanceOf c vm

/-- Creates everything a machine needs, in the order of the ledger. -/
def resources (c : Config) (e : Envelope) (name uid userdata : String) :
    Recorded Asking Instance := do
  let dualStack := e.ipFamily.isDualStack
  let nic := Naming.nic name
  let publicIps ← publicIps c nic uid dualStack
  own [.nic]
  let nicId ← (putNic c nic uid publicIps dualStack).recorded AzureError.toCreateError
  let storage ← settle ((c.storageProfile e.operatingSystem).mapError fun fault =>
    .terminal .invalidConfiguration fault.message)
  let key ← (sshKey e.sshPublicKeys : Asking String)
  let vm := Desired.vm c e.operatingSystem storage name uid nicId key userdata
  own [.disks, .vm]
  let _ ← ((Action.call c (.putVm c.resourceGroup name vm)).context
    "trying to create a VM").recorded AzureError.toCreateError
  (readBack c name).recorded AzureError.toCloud

end Create

/-- Creates a machine, or goes on with an interrupted creation. -/
def create (sources : Sources) (userdata : String) : Recorded Asking Instance := do
  let machine ← getThe Machine
  let (c, e) ← settle ((Config.resolve sources machine.providerSpec).mapError unusable)
  (Action.connect c).recorded AzureError.toCloud
  Create.resources c e machine.name machine.uid userdata

end Provisioning.Azure
