import Provisioning.Azure.Desired
import Provisioning.Azure.Provider.Create

/-!
Migration of a machine to a new identity: each resource that its record owns is given the new tag,
in the order of the ledger. Addresses and interfaces are put again; disks and the virtual machine
only change their tags.
-/

namespace Provisioning.Azure

open Provisioning.Text

namespace MigrateUid

/-- The id of a public address that the machine's record owns. -/
def publicIpId? (c : Config) (machine : Machine) (owned : Owned) (name : String) :
    Option String :=
  if owned.of machine then some (Naming.publicIpId c.subscriptionId c.resourceGroup name) else none

/-- Gives each of a list of disks the new tag; a disk without a name is left out. -/
def tagDisks (c : Config) (uid : String) : List Disk → Action Unit
  | [] => pure ()
  | disk :: rest =>
      match disk.name with
      | none => tagDisks c uid rest
      | some name => do
          (Action.call c (.tagDisk c.resourceGroup name (Naming.tags disk.tags uid))).context
            s!"failed to update UID for disk {name}"
          tagDisks c uid rest

/-- Gives what a machine owns of a kind the new tag. -/
def retag (c : Config) (dualStack : Bool) (machine : Machine) (uid : String) :
    Owned → Action Unit
  | .publicIp => do
      let name := Naming.publicIp (Naming.nic machine.name)
      let _ ← (Create.putPublicIp c name uid ipv4 dualStack).context
        "failed to update UID on public IP"
  | .publicIpv6 => do
      let name := Naming.publicIpv6 (Naming.nic machine.name)
      let _ ← (Create.putPublicIp c name uid ipv6 true).context
        "failed to update UID on public IPv6"
  | .nic => do
      let name := Naming.nic machine.name
      let body := Desired.nic c uid
        (publicIpId? c machine .publicIp (Naming.publicIp name))
        (publicIpId? c machine .publicIpv6 (Naming.publicIpv6 name)) dualStack
      let _ ← (Action.call c (.putNic c.resourceGroup name body)).context
        "failed to update UID on main network interface"
  | .disks => do
      let disks ← Action.call c (.listDisks c.resourceGroup)
      tagDisks c uid (disks.filter fun disk =>
        Naming.hasUid disk.tags machine.uid || Naming.hasUid disk.tags uid)
  | .vm =>
      (Action.call c (.tagVm c.resourceGroup machine.name (Naming.tags c.tags uid))).context
        "failed to update UID of the instance"

/-- Migrates one kind after the other. -/
def retagAll (c : Config) (dualStack : Bool) (machine : Machine) (uid : String) :
    List Owned → Action Unit
  | [] => pure ()
  | owned :: rest => do
      retag c dualStack machine uid owned
      retagAll c dualStack machine uid rest

/-- The error of a configuration that could not be resolved: a failed look-up may succeed later. -/
def unresolved (fault : AzureError) : CloudError :=
  if fault.isLookupFailure then fault.toCloud else unusable fault

end MigrateUid

/-- Gives the resources of a machine a new identity. -/
def migrateUid (sources : Sources) (machine : Machine) (uid : String) : Operation Unit := do
  let (c, e) ← liftExcept ((Config.resolve sources machine.providerSpec).mapError
    MigrateUid.unresolved)
  (Action.connect c).reporting AzureError.toCloud
  (MigrateUid.retagAll c e.ipFamily.isDualStack machine uid (Owned.present machine)).reporting
    AzureError.toCloud

end Provisioning.Azure
