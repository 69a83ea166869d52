import Provisioning.Azure.Backend.Resources
import Provisioning.Azure.Config

/-!
A backend in memory. Every call is logged; then a fault that was placed for its operation is used
up and reported, or the call is performed. Main statement: `serve_resources_of_error`, that a call
that fails leaves the resources as they were.
-/

namespace Provisioning.Azure

/-- A subnet of a virtual network. -/
structure SubnetKey where
  group : String
  network : String
  name : String
  deriving DecidableEq, Repr

/-- Resources, what surrounds them, and what was asked of the backend. -/
structure Backend where
  resources : Resources
  subnets : List SubnetKey
  sizes : List ResourceSku
  rejectsImages : Bool
  log : List Call
  faults : SortedMap String AzureError
  sizeLists : Nat
  clients : List Credentials

namespace Backend

def empty : Backend := ⟨.empty, [], [], false, [], ∅, 0, []⟩

/-- Adds a virtual network with one subnet. -/
def withSubnet (b : Backend) (subnet : SubnetKey) : Backend :=
  { b with subnets := b.subnets ++ [subnet] }

/-- Makes the next call of an operation fail. -/
def failNext (b : Backend) (operation : String) (fault : AzureError) : Backend :=
  { b with faults := b.faults.insert operation fault }

def setView (b : Backend) (key : ResourceKey) (view : InstanceView) : Backend :=
  { b with resources := { b.resources with views := b.resources.views.insert key view } }

/-- Reports a virtual machine as made and running. -/
def setRunning (b : Backend) (key : ResourceKey) : Backend :=
  b.setView key (.ofCodes ["ProvisioningState/succeeded", "PowerState/running"])

/-- The sizes offered in a location; a size without locations is offered everywhere. -/
def sizesIn (b : Backend) (location : String) : List ResourceSku :=
  b.sizes.filter fun sku => sku.locations.isEmpty || sku.locations.contains location

def virtualNetwork (b : Backend) (group name : String) : Except AzureError VirtualNetwork :=
  if b.subnets.any fun s => s.group == group && s.network == name then
    .ok ⟨some (Naming.virtualNetworkId Resources.subscription group name), some name⟩
  else .error (Resources.notFound "virtual network" name)

def subnet (b : Backend) (key : SubnetKey) : Except AzureError Subnet :=
  if b.subnets.contains key then
    .ok ⟨some (Naming.subnetId Resources.subscription key.group key.network key.name),
      some key.name⟩
  else .error (Resources.notFound "subnet" key.name)

def checkImage (b : Backend) (image : ImageReference) : Except AzureError Unit :=
  if b.rejectsImages then
    .error (Resources.notFound "image" ((image.id.or image.offer).getD ""))
  else .ok ()

/-- Answers a call from the resources and gives the next ones. -/
def perform (b : Backend) : (c : Call) → Except AzureError (c.Value × Resources)
  | .putPublicIp group name body => .ok (b.resources.putPublicIp ⟨group, name⟩ body)
  | .getPublicIp group name =>
      (Resources.look "public IP" b.resources.publicIps ⟨group, name⟩).map (·, b.resources)
  | .listPublicIps group => .ok (Resources.ofGroup b.resources.publicIps group, b.resources)
  | .deletePublicIp group name => (b.resources.deletePublicIp ⟨group, name⟩).map ((), ·)
  | .putNic group name body => b.resources.putNic ⟨group, name⟩ body
  | .getNic group name =>
      (Resources.look "network interface" b.resources.nics ⟨group, name⟩).map (·, b.resources)
  | .listNics group => .ok (Resources.ofGroup b.resources.nics group, b.resources)
  | .deleteNic group name => (b.resources.deleteNic ⟨group, name⟩).map ((), ·)
  | .putVm group name body => b.resources.putVm ⟨group, name⟩ body
  | .getVm group name =>
      (Resources.look "virtual machine" b.resources.vms ⟨group, name⟩).map (·, b.resources)
  | .listAllVms => .ok (b.resources.vms.values, b.resources)
  | .listVms group => .ok (Resources.ofGroup b.resources.vms group, b.resources)
  | .instanceView group name =>
      (b.resources.instanceView ⟨group, name⟩).map (·, b.resources)
  | .tagVm group name tags => (b.resources.tagVm ⟨group, name⟩ tags).map ((), ·)
  | .deleteVm group name => .ok ((), b.resources.deleteVm ⟨group, name⟩)
  | .listDisks group => .ok (Resources.ofGroup b.resources.disks group, b.resources)
  | .tagDisk group name tags => (b.resources.tagDisk ⟨group, name⟩ tags).map ((), ·)
  | .deleteDisk group name => (b.resources.deleteDisk ⟨group, name⟩).map ((), ·)
  | .getVirtualNetwork group name => (b.virtualNetwork group name).map (·, b.resources)
  | .getSubnet group network name => (b.subnet ⟨group, network, name⟩).map (·, b.resources)
  | .listVmSkus location => .ok (b.sizesIn location, b.resources)
  | .checkImage _ image => (b.checkImage image).map fun _ => ((), b.resources)

/-- Whether a call lists the sizes of a location. -/
def countsAsSizeList : Call → Bool
  | .listVmSkus _ => true
  | _ => false

/-- Logs a call and answers it, with a fault if one was placed for it. -/
def serve (c : Call) (b : Backend) : Except AzureError c.Value × Backend :=
  let logged := { b with log := b.log ++ [c] }
  match b.faults.get? c.operation with
  | some fault => (.error fault, { logged with faults := b.faults.erase c.operation })
  | none =>
      match b.perform c with
      | .error fault => (.error fault, logged)
      | .ok (value, resources) =>
          (.ok value,
            { logged with
              resources
              sizeLists := if countsAsSizeList c then b.sizeLists + 1 else b.sizeLists })

/-- Remembers whose client was made. -/
def connect (credentials : Credentials) (b : Backend) : Backend :=
  { b with clients := b.clients ++ [credentials] }

/-- The calls that may have changed resources. -/
def writes (b : Backend) : List Call := b.log.filter Call.isWrite

def clearLog (b : Backend) : Backend := { b with log := [] }

/-- A call that fails leaves the resources as they were. -/
theorem serve_resources_of_error {c : Call} {b : Backend} {fault : AzureError}
    (failed : (b.serve c).1 = .error fault) : (b.serve c).2.resources = b.resources := by
  unfold serve at *
  cases placed : b.faults.get? c.operation with
  | some fault' => rfl
  | none =>
      simp only [placed] at failed ⊢
      cases outcome : b.perform c with
      | error fault' => rfl
      | ok answer => simp [outcome] at failed

end Backend

end Provisioning.Azure
