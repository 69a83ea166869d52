import Provisioning.Azure.Call
import Provisioning.Azure.Rest.Client

/-!
Every call of a backend as requests to the management endpoint.
-/

namespace Provisioning.Azure.Rest.Client

def networkVersion : String := "2023-09-01"

def computeVersion : String := "2024-03-01"

def diskVersion : String := "2023-10-02"

def skuVersion : String := "2021-07-01"

def publicIpKind : String := "Microsoft.Network/publicIPAddresses"

def nicKind : String := "Microsoft.Network/networkInterfaces"

def networkKind : String := "Microsoft.Network/virtualNetworks"

def vmKind : String := "Microsoft.Compute/virtualMachines"

def diskKind : String := "Microsoft.Compute/disks"

/-- The address of the subscription. -/
def subscriptionUrl (c : Client) : String :=
  c.endpoints.management ++ "/subscriptions/" ++ c.credentials.subscriptionId

/-- The address of all resources of a kind in a group. -/
def kindUrl (c : Client) (kind group : String) : String :=
  c.endpoints.management ++ Naming.resourceGroupId c.credentials.subscriptionId group ++
    "/providers/" ++ kind

/-- The address of a resource. -/
def url (c : Client) (kind group name : String) : String := c.kindUrl kind group ++ "/" ++ name

/-- The sizes of virtual machines in a location. -/
def vmSkus (c : Client) (fuel : Nat) (location : String) : Talk (List ResourceSku) := do
  let offered ← c.pages ResourceSku.codec fuel
    (c.subscriptionUrl ++ "/providers/Microsoft.Compute/skus")
    (versionQuery skuVersion ++ [("$filter", "location eq '" ++ location ++ "'")])
  pure (offered.filter fun sku => sku.resourceType == some "virtualMachines")

/-- A part of an image's coordinates, which must not be empty. -/
def coordinate (name : String) (value : Option String) : Except AzureError String :=
  match value.filter fun text => !text.isEmpty with
  | some text => .ok text
  | none => .error (.invalidConfig s!"image reference has no {name}")

/-- All coordinates of an image. -/
def coordinates (image : ImageReference) :
    Except AzureError (String × String × String × String) := do
  let publisher ← coordinate "publisher" image.publisher
  let offer ← coordinate "offer" image.offer
  let sku ← coordinate "sku" image.sku
  let version ← coordinate "version" image.version
  .ok (publisher, offer, sku, version)

/-- The address of the versions of an image in a location. -/
def versionsUrl (c : Client) (location publisher offer sku : String) : String :=
  c.subscriptionUrl ++ "/providers/Microsoft.Compute/locations/" ++ location ++ "/publishers/" ++
    publisher ++ "/artifacttypes/vmimage/offers/" ++ offer ++ "/skus/" ++ sku ++ "/versions"

/-- Whether a version stands for whichever is the newest. -/
def isLatest (version : String) : Bool :=
  version.toList.map Char.toLower == ['l', 'a', 't', 'e', 's', 't']

/-- Checks that an image with coordinates exists. -/
def checkCoordinates (c : Client) (location : String) (image : ImageReference) : Talk Unit := do
  let (publisher, offer, sku, version) ← liftExcept ((coordinates image).mapError Halt.fault)
  let versions := c.versionsUrl location publisher offer sku
  if isLatest version then
    let found ← c.getValue (.list .json) versions computeVersion
    if found.isEmpty then fail (.notFound s!"no versions of image {publisher}:{offer}:{sku}")
    else pure ()
  else
    let _ ← c.getValue .json (versions ++ "/" ++ version) computeVersion

/-- Checks that an image exists: by its id, if it has one, or by its coordinates. -/
def checkImage (c : Client) (location : String) (image : ImageReference) : Talk Unit :=
  let id := image.id.getD ""
  if id.isEmpty then c.checkCoordinates location image
  else do
    let _ ← c.getValue .json (c.endpoints.management ++ id) computeVersion

/-- Answers a call. -/
def perform (c : Client) (fuel : Nat) : (call : Call) → Talk call.Value
  | .putPublicIp group name body =>
      c.put fuel PublicIpAddress.codec (c.url publicIpKind group name) networkVersion body
  | .getPublicIp group name =>
      c.getValue PublicIpAddress.codec (c.url publicIpKind group name) networkVersion
  | .listPublicIps group =>
      c.pages PublicIpAddress.codec fuel (c.kindUrl publicIpKind group)
        (versionQuery networkVersion)
  | .deletePublicIp group name => c.delete fuel (c.url publicIpKind group name) networkVersion
  | .putNic group name body =>
      c.put fuel NetworkInterface.codec (c.url nicKind group name) networkVersion body
  | .getNic group name =>
      c.getValue NetworkInterface.codec (c.url nicKind group name) networkVersion
  | .listNics group =>
      c.pages NetworkInterface.codec fuel (c.kindUrl nicKind group) (versionQuery networkVersion)
  | .deleteNic group name => c.delete fuel (c.url nicKind group name) networkVersion
  | .putVm group name body =>
      c.put fuel VirtualMachine.codec (c.url vmKind group name) computeVersion body
  | .getVm group name => c.getValue VirtualMachine.codec (c.url vmKind group name) computeVersion
  | .listAllVms =>
      c.pages VirtualMachine.codec fuel (c.subscriptionUrl ++ "/providers/" ++ vmKind)
        (versionQuery computeVersion)
  | .listVms group =>
      c.pages VirtualMachine.codec fuel (c.kindUrl vmKind group) (versionQuery computeVersion)
  | .instanceView group name =>
      c.getValue InstanceView.codec (c.url vmKind group name ++ "/instanceView") computeVersion
  | .tagVm group name tags => c.patchTags fuel (c.url vmKind group name) computeVersion tags
  | .deleteVm group name => c.delete fuel (c.url vmKind group name) computeVersion
  | .listDisks group =>
      c.pages Disk.codec fuel (c.kindUrl diskKind group) (versionQuery diskVersion)
  | .tagDisk group name tags => c.patchTags fuel (c.url diskKind group name) diskVersion tags
  | .deleteDisk group name => c.delete fuel (c.url diskKind group name) diskVersion
  | .getVirtualNetwork group name =>
      c.getValue VirtualNetwork.codec (c.url networkKind group name) networkVersion
  | .getSubnet group network name =>
      c.getValue Subnet.codec (c.url networkKind group network ++ "/subnets/" ++ name)
        networkVersion
  | .listVmSkus location => c.vmSkus fuel location
  | .checkImage location image => c.checkImage location image

end Provisioning.Azure.Rest.Client
