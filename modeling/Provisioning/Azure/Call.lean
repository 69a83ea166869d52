import Provisioning.Azure.Naming
import Provisioning.Azure.Resource.Compute
import Provisioning.Azure.Resource.Network
import Provisioning.Azure.Resource.Sku

/-!
The calls that a backend answers, and the type of the value each call gives when it succeeds. A put
creates or replaces the resource of a name; a deletion of what is not there succeeds.
-/

namespace Provisioning.Azure

inductive Call where
  | putPublicIp (group name : String) (body : PublicIpAddress)
  | getPublicIp (group name : String)
  | listPublicIps (group : String)
  | deletePublicIp (group name : String)
  | putNic (group name : String) (body : NetworkInterface)
  | getNic (group name : String)
  | listNics (group : String)
  | deleteNic (group name : String)
  | putVm (group name : String) (body : VirtualMachine)
  | getVm (group name : String)
  | listAllVms
  | listVms (group : String)
  | instanceView (group name : String)
  | tagVm (group name : String) (tags : Tags)
  | deleteVm (group name : String)
  | listDisks (group : String)
  | tagDisk (group name : String) (tags : Tags)
  | deleteDisk (group name : String)
  | getVirtualNetwork (group name : String)
  | getSubnet (group network name : String)
  | listVmSkus (location : String)
  | checkImage (location : String) (image : ImageReference)
  deriving DecidableEq

namespace Call

/-- What a call gives when it succeeds. -/
@[reducible] def Value : Call → Type
  | putPublicIp .. | getPublicIp .. => PublicIpAddress
  | listPublicIps _ => List PublicIpAddress
  | putNic .. | getNic .. => NetworkInterface
  | listNics _ => List NetworkInterface
  | putVm .. | getVm .. => VirtualMachine
  | listAllVms | listVms _ => List VirtualMachine
  | instanceView .. => InstanceView
  | listDisks _ => List Disk
  | getVirtualNetwork .. => VirtualNetwork
  | getSubnet .. => Subnet
  | listVmSkus _ => List ResourceSku
  | deletePublicIp .. | deleteNic .. | tagVm .. | deleteVm .. | tagDisk .. | deleteDisk ..
  | checkImage .. => Unit

/-- The name of the operation. -/
def operation : Call → String
  | putPublicIp .. => "put_public_ip"
  | getPublicIp .. => "get_public_ip"
  | listPublicIps .. => "list_public_ips"
  | deletePublicIp .. => "delete_public_ip"
  | putNic .. => "put_nic"
  | getNic .. => "get_nic"
  | listNics .. => "list_nics"
  | deleteNic .. => "delete_nic"
  | putVm .. => "put_vm"
  | getVm .. => "get_vm"
  | listAllVms => "list_all_vms"
  | listVms .. => "list_vms"
  | instanceView .. => "instance_view"
  | tagVm .. => "tag_vm"
  | deleteVm .. => "delete_vm"
  | listDisks .. => "list_disks"
  | tagDisk .. => "tag_disk"
  | deleteDisk .. => "delete_disk"
  | getVirtualNetwork .. => "get_virtual_network"
  | getSubnet .. => "get_subnet"
  | listVmSkus .. => "list_vm_skus"
  | checkImage .. => "check_image"

/-- What the operation is about: a name, or the group or location of a listing. -/
def target : Call → String
  | putPublicIp _ name _ | getPublicIp _ name | deletePublicIp _ name | putNic _ name _
  | getNic _ name | deleteNic _ name | putVm _ name _ | getVm _ name | instanceView _ name
  | tagVm _ name _ | deleteVm _ name | tagDisk _ name _ | deleteDisk _ name
  | getVirtualNetwork _ name | getSubnet _ _ name => name
  | listPublicIps group | listNics group | listVms group | listDisks group => group
  | listVmSkus location | checkImage location _ => location
  | listAllVms => ""

/-- A call in a log. -/
def text (c : Call) : String :=
  if c.target.isEmpty then c.operation else c.operation ++ " " ++ c.target

/-- Whether a call may change resources. -/
def isWrite : Call → Bool
  | putPublicIp .. | deletePublicIp .. | putNic .. | deleteNic .. | putVm .. | tagVm ..
  | deleteVm .. | tagDisk .. | deleteDisk .. => true
  | _ => false

end Call

end Provisioning.Azure
