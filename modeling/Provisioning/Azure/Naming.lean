import Provisioning.Azure.Resource.Basic
import Provisioning.Ledger

/-!
Names, ids and tags of the resources of a machine, and the finalizers that stand for them. Names
are derived from the machine's name; the tag `Machine-UID` tells which machine a resource belongs
to, whatever its name.
-/

namespace Provisioning.Azure

/-- The tag that ties a resource to its machine. -/
def machineUidTag : String := "Machine-UID"

/-- What a machine may own at the backend. -/
inductive Owned where
  | publicIp
  | publicIpv6
  | nic
  | disks
  | vm
  deriving DecidableEq, Repr

namespace Owned

def finalizer : Owned → String
  | .publicIp => "machina.io/cleanup-azure-public-ip"
  | .publicIpv6 => "machina.io/cleanup-azure-public-ipv6"
  | .nic => "machina.io/cleanup-azure-nic"
  | .disks => "machina.io/cleanup-azure-disks"
  | .vm => "machina.io/cleanup-azure-vm"

/-- In the order of creation. -/
def all : List Owned := [.publicIp, .publicIpv6, .nic, .disks, .vm]

/-- Whether a machine's record says that it may own something. -/
def of (machine : Machine) (owned : Owned) : Bool := machine.hasFinalizer owned.finalizer

/-- What a machine may own, in the order of creation. -/
def present (machine : Machine) : List Owned := all.filter (of machine)

/-- What a machine may own, in the order of teardown. -/
def remaining (machine : Machine) : List Owned := (present machine).reverse

end Owned

/-- The provider's finalizers in the order of creation. -/
def ledger : Ledger := ⟨Owned.all.map Owned.finalizer⟩

namespace Naming

def nic (machine : String) : String := machine ++ "-netiface"

def publicIp (nic : String) : String := nic ++ "-pubip"

def publicIpv6 (nic : String) : String := nic ++ "-pubipv6"

def osDisk (machine : String) : String := machine ++ "_OsDisk_1"

def dataDisk (machine : String) (lun : Int32) : String :=
  machine ++ "_DataDisk_" ++ toString lun.toInt

/-- The user's tags and the tag of the machine, which wins. -/
def tags (user : Tags) (uid : String) : Tags := user.insert machineUidTag uid

/-- Whether tags say that a resource belongs to a machine. -/
def hasUid (tags : Tags) (uid : String) : Bool := tags.get? machineUidTag == some uid

/-- The last segment of an id. -/
def nameOfIdList (id : List Char) : List Char := (id.reverse.takeWhile (· ≠ '/')).reverse

/-- The last segment of an id. -/
def nameOfId (id : String) : String := String.ofList (nameOfIdList id.toList)

def resourceGroupId (subscription group : String) : String :=
  "/subscriptions/" ++ subscription ++ "/resourceGroups/" ++ group

/-- The id of a resource of some kind in a resource group. -/
def resourceId (kind subscription group name : String) : String :=
  resourceGroupId subscription group ++ "/providers/" ++ kind ++ "/" ++ name

def availabilitySetId : (subscription group name : String) → String :=
  resourceId "Microsoft.Compute/availabilitySets"

def virtualNetworkId : (subscription group name : String) → String :=
  resourceId "Microsoft.Network/virtualNetworks"

def subnetId (subscription group network name : String) : String :=
  virtualNetworkId subscription group network ++ "/subnets/" ++ name

def securityGroupId : (subscription group name : String) → String :=
  resourceId "Microsoft.Network/networkSecurityGroups"

def publicIpId : (subscription group name : String) → String :=
  resourceId "Microsoft.Network/publicIPAddresses"

def nicId : (subscription group name : String) → String :=
  resourceId "Microsoft.Network/networkInterfaces"

def vmId : (subscription group name : String) → String :=
  resourceId "Microsoft.Compute/virtualMachines"

def diskId : (subscription group name : String) → String :=
  resourceId "Microsoft.Compute/disks"

end Naming

end Provisioning.Azure
