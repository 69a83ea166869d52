import Provisioning.Azure.Provider.Lookup

/-!
Teardown of a machine, backwards through the ledger. What to delete is found by the machine's tag;
a finalizer is taken off only when the deletion of what it stands for is confirmed.
-/

namespace Provisioning.Azure

open Provisioning.Text

namespace Cleanup

/-- Deletes one resource after the other. -/
def deleteAll (delete : String → Action Unit) : List String → Action Unit
  | [] => pure ()
  | name :: rest => do
      delete name
      deleteAll delete rest

/-- Deletes the virtual machines with a machine's tag in its resource group. -/
def deleteVms (c : Config) (uid : String) : Action Unit := do
  let vms ← Action.call c (.listVms c.resourceGroup)
  let names := (vms.filter fun vm => Naming.hasUid vm.tags uid).filterMap (·.name)
  deleteAll (fun name => Action.call c (.deleteVm c.resourceGroup name)) names

/-- Deletes the disks with a machine's tag in its resource group. -/
def deleteDisks (c : Config) (uid : String) : Action Unit := do
  let disks ← Action.call c (.listDisks c.resourceGroup)
  let names := (disks.filter fun disk => Naming.hasUid disk.tags uid).filterMap (·.name)
  deleteAll (fun name => Action.call c (.deleteDisk c.resourceGroup name)) names

/-- Deletes the network interfaces with a machine's tag in its resource group. -/
def deleteNics (c : Config) (uid : String) : Action Unit := do
  let nics ← Action.call c (.listNics c.resourceGroup)
  let names := (nics.filter fun nic => Naming.hasUid nic.tags uid).filterMap (·.name)
  deleteAll (fun name => Action.call c (.deleteNic c.resourceGroup name)) names

/-- Deletes the public addresses of a version with a machine's tag in its resource group. -/
def deletePublicIps (c : Config) (uid version : String) : Action Unit := do
  let addresses ← Action.call c (.listPublicIps c.resourceGroup)
  let names := (addresses.filter fun address =>
    Naming.hasUid address.tags uid && address.version == version).filterMap (·.name)
  deleteAll (fun name => Action.call c (.deletePublicIp c.resourceGroup name)) names

/-- Whether the machine is still found anywhere in the subscription. -/
def vmExists (c : Config) (uid : String) : Action Bool :=
  ExceptT.mk do
    match ← (Lookup.vm c uid).run with
    | .ok _ => pure (.ok true)
    | .error fault => pure (if fault.isInstanceNotFound then .ok false else .error fault)

/-- Deletes everything of a kind that a machine owns. -/
def delete (c : Config) (name uid : String) : Owned → Action Unit
  | .vm => do
      if ← vmExists c uid then
        (deleteVms c uid).context ("failed to delete instance for machine " ++ quote name)
      else pure ()
  | .disks => (deleteDisks c uid).context ("failed to remove disks of machine " ++ quote name)
  | .nic =>
      (deleteNics c uid).context
        ("failed to remove network interfaces of machine " ++ quote name)
  | .publicIpv6 =>
      (deletePublicIps c uid ipv6).context
        ("failed to remove public IPv6 addresses of machine " ++ quote name)
  | .publicIp =>
      (deletePublicIps c uid ipv4).context
        ("failed to remove public IP addresses of machine " ++ quote name)

/-- Deletes one kind after the other, each with its finalizer. -/
def tearDown (c : Config) (name uid : String) : List Owned → Recorded Asking Unit
  | [] => pure ()
  | owned :: rest => do
      (delete c name uid owned).recorded AzureError.toCloud
      disown owned
      tearDown c name uid rest

end Cleanup

/-- Deletes what a machine owns, and says whether nothing of it is left. -/
def cleanup (sources : Sources) : Recorded Asking Bool := do
  let machine ← getThe Machine
  let (c, _) ← settle ((Config.resolve sources machine.providerSpec).mapError fun fault =>
    (fault.context "failed to parse MachineSpec").toCloud)
  (Action.connect c).recorded AzureError.toCloud
  Cleanup.tearDown c machine.name machine.uid (Owned.remaining machine)
  let left ← getThe Machine
  pure (ledger.isClear left)

end Provisioning.Azure
