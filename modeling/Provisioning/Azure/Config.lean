import Provisioning.Azure.Naming
import Provisioning.Azure.Resource.Compute
import Provisioning.Azure.Settings
import Provisioning.Envelope
import Provisioning.Text.Base64
import Provisioning.Text.Utf8

/-!
The configuration of a machine with every variable resolved, and what follows from it alone: the
image, its plan, the disks, the availability set, the login user and its key.
-/

namespace Provisioning.Azure

open Provisioning.Text

/-- A service principal of a subscription. -/
structure Credentials where
  subscriptionId : String
  tenantId : String
  clientId : String
  clientSecret : String
  deriving DecidableEq, Repr

namespace Credentials

/-- The credentials for a log, without the secret. -/
def redacted (c : Credentials) : String :=
  "Credentials \x7b subscription_id: " ++ quote c.subscriptionId ++ ", tenant_id: " ++
    quote c.tenantId ++ ", client_id: " ++ quote c.clientId ++
    ", client_secret: \"<redacted>\" \x7d"

end Credentials

structure Config where
  subscriptionId : String
  tenantId : String
  clientId : String
  clientSecret : String
  location : String
  resourceGroup : String
  vnetResourceGroup : String
  vmSize : String
  vnetName : String
  subnetName : String
  loadBalancerSku : String
  routeTableName : String
  availabilitySet : String
  assignAvailabilitySet : Option Bool
  securityGroupName : String
  imageId : String
  imagePlan : Option ImagePlan
  imageReference : Option ImageCoordinates
  zones : List String
  tags : Tags
  osDiskSize : Int32
  osDiskSku : Option String
  dataDiskSize : Int32
  dataDiskSku : Option String
  assignPublicIp : Bool
  deriving DecidableEq

namespace Config

/-- Resolves the variables of the provider's section, in a fixed order. -/
def ofSettings (sources : Sources) (s : Settings) : Except CloudError Config := do
  let resourceGroup ← sources.string s.resourceGroup
  let vnetResourceGroup ← sources.string s.vnetResourceGroup
  let subscriptionId ← sources.stringOrEnv s.subscriptionId "AZURE_SUBSCRIPTION_ID"
  let tenantId ← sources.stringOrEnv s.tenantId "AZURE_TENANT_ID"
  let clientId ← sources.stringOrEnv s.clientId "AZURE_CLIENT_ID"
  let clientSecret ← sources.stringOrEnv s.clientSecret "AZURE_CLIENT_SECRET"
  let location ← sources.string s.location
  let vmSize ← sources.string s.vmSize
  let vnetName ← sources.string s.vnetName
  let subnetName ← sources.string s.subnetName
  let loadBalancerSku ← sources.string s.loadBalancerSku
  let routeTableName ← sources.string s.routeTableName
  let availabilitySet ← sources.string s.availabilitySet
  let securityGroupName ← sources.string s.securityGroupName
  let imageId ← sources.string s.imageId
  let assignPublicIp ← sources.bool s.assignPublicIp
  .ok {
    subscriptionId, tenantId, clientId, clientSecret, location, resourceGroup
    vnetResourceGroup := if vnetResourceGroup.isEmpty then resourceGroup else vnetResourceGroup
    vmSize, vnetName, subnetName, loadBalancerSku, routeTableName, availabilitySet
    assignAvailabilitySet := s.assignAvailabilitySet
    securityGroupName, imageId
    imagePlan := s.imagePlan
    imageReference := s.imageReference
    zones := s.zones
    tags := s.tags
    osDiskSize := s.osDiskSize
    osDiskSku := s.osDiskSku
    dataDiskSize := s.dataDiskSize
    dataDiskSku := s.dataDiskSku
    assignPublicIp := assignPublicIp.getD false }

/-- Reads and resolves a machine's configuration. -/
def resolve (sources : Sources) (spec : ProviderSpec) : Except AzureError (Config × Envelope) := do
  let envelope ← (Envelope.ofSpec spec).mapError .cloud
  let settings ← Settings.ofJson envelope.cloudProviderSpec
  let config ← (ofSettings sources settings).mapError .cloud
  .ok (config, envelope)

def credentials (c : Config) : Credentials :=
  ⟨c.subscriptionId, c.tenantId, c.clientId, c.clientSecret⟩

/-- The fields that must not be empty. -/
def requiredFields (c : Config) : List (String × String) :=
  [("subscriptionID", c.subscriptionId), ("tenantID", c.tenantId), ("clientID", c.clientId),
    ("clientSecret", c.clientSecret), ("resourceGroup", c.resourceGroup), ("vmSize", c.vmSize),
    ("vnetName", c.vnetName), ("subnetName", c.subnetName)]

/-- The first required field that is empty. -/
def missingField? (c : Config) : Option String :=
  (c.requiredFields.find? fun field => field.2.isEmpty).map (·.1)

/-- The availability set that the machine joins, if any. -/
def effectiveAvailabilitySet (c : Config) : Option String :=
  if c.availabilitySet.isEmpty || c.assignAvailabilitySet == some false then none
  else some c.availabilitySet

def availabilitySetId (c : Config) : Option String :=
  c.effectiveAvailabilitySet.map (Naming.availabilitySetId c.subscriptionId c.resourceGroup)

/-- The image of an operating system when the configuration names none. -/
def defaultImage : OperatingSystem → Except AzureError ImageReference
  | .centos => .ok (.marketplace "OpenLogic" "CentOS" "7_9" "latest")
  | .ubuntu => .ok (.marketplace "Canonical" "0001-com-ubuntu-server-focal" "20_04-lts" "latest")
  | .rhel => .ok (.marketplace "RedHat" "rhel-byos" "rhel-lvm83" "8.3.20201109")
  | .flatcar => .ok (.marketplace "kinvolk" "flatcar-container-linux" "stable" "2905.2.5")
  | .rockylinux =>
      .ok (.marketplace "procomputers" "rocky-linux-8-5" "rocky-linux-8-5" "8.5.20211118")
  | os => .error (.invalidConfig ("operating system " ++ quote os.name ++ " not supported"))

/-- The image to boot: its own id, or coordinates, or the default of the operating system. -/
def image (c : Config) (os : OperatingSystem) : Except AzureError ImageReference :=
  if c.imageId.isEmpty then
    match c.imageReference with
    | some r => .ok (.marketplace r.publisher r.offer r.sku r.version)
    | none => defaultImage os
  else .ok (.byId c.imageId)

/-- The purchase plan of an operating system's default image. -/
def defaultPlan : OperatingSystem → Option Plan
  | .flatcar => some ⟨"stable", "kinvolk", "flatcar-container-linux"⟩
  | .rhel => some ⟨"rhel-lvm83", "redhat", "rhel-byos"⟩
  | .rockylinux => some ⟨"rocky-linux-8-5", "procomputers", "rocky-linux-8-5"⟩
  | _ => none

/-- The purchase plan: the written one if it has a name, or the default one. -/
def plan (c : Config) (os : OperatingSystem) : Option Plan :=
  match c.imagePlan with
  | some p => if p.name.isEmpty then defaultPlan os else some ⟨p.name, p.publisher, p.product⟩
  | none => defaultPlan os

def managedDisk (sku : Option String) : Option ManagedDiskParameters := sku.map .mk

/-- The disks of the machine; a disk of size zero is left to the backend. -/
def storageProfile (c : Config) (os : OperatingSystem) : Except AzureError StorageProfile := do
  let image ← c.image os
  .ok {
    imageReference := some image
    osDisk := if c.osDiskSize = 0 then none
      else some ⟨"FromImage", some c.osDiskSize, managedDisk c.osDiskSku⟩
    dataDisks := if c.dataDiskSize = 0 then []
      else [⟨0, "Empty", some c.dataDiskSize, managedDisk c.dataDiskSku⟩] }

/-- The login user of an operating system's images. -/
def adminUsername : OperatingSystem → String
  | .flatcar => "core"
  | os => os.name

/-- The first SSH key that is not blank. -/
def sshKey? (keys : List String) : Option String :=
  keys.find? fun key => !(trimList key.toList).isEmpty

/-- Four bytes for a number, the highest first. -/
def bigEndian (n : Nat) : List UInt8 :=
  [UInt8.ofNat (n / 16777216), UInt8.ofNat (n / 65536), UInt8.ofNat (n / 256), UInt8.ofNat n]

/-- Bytes after their number. -/
def lengthPrefixed (bytes : List UInt8) : List UInt8 := bigEndian bytes.length ++ bytes

/-- An SSH key whose private half nobody keeps, for machines without a key of their own. -/
def throwawayKey (publicKey : List UInt8) : String :=
  let kind := "ssh-ed25519"
  kind ++ " " ++ Base64.encode (lengthPrefixed (Utf8.encode kind) ++ lengthPrefixed publicKey) ++
    " machina-throwaway"

/-- User data as the backend wants it. -/
def encodeCustomData (userdata : String) : String := Base64.encode (Utf8.encode userdata)

end Config

end Provisioning.Azure
