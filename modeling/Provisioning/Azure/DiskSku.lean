import Provisioning.Azure.Config
import Provisioning.Azure.Resource.Sku

/-!
Which disk SKUs a size of virtual machine supports. Premium disks need `PremiumIO`; ultra disks need
`UltraSSDAvailable`, in every requested zone if the size says anything about locations.
-/

namespace Provisioning.Azure.DiskSku

def standard : String := "Standard_LRS"

def standardSsd : String := "StandardSSD_LRS"

def premium : String := "Premium_LRS"

def ultra : String := "UltraSSD_LRS"

def forOsDisks : List String := [standard, standardSsd, premium]

def forDataDisks : List String := [standard, standardSsd, premium, ultra]

/-- Whether a capability is there and true. -/
def hasCapability (capabilities : List Capability) (name : String) : Bool :=
  capabilities.any fun c => c.name == name && c.value == "True"

/-- Whether the details of a location offer ultra disks in a zone. -/
def ultraInZone (info : LocationInfo) (zone : String) : Bool :=
  info.zoneDetails.any fun d =>
    d.names.contains zone && hasCapability d.capabilities "UltraSSDAvailable"

def unsupported (size sku : String) : AzureError :=
  .invalidConfig s!"VM SKU '{size}' does not support disk SKU '{sku}'"

/-- Checks a disk SKU against what a size of virtual machine offers. -/
def supports (vm : ResourceSku) (sku : String) (zones : List String) : Except AzureError Unit :=
  match vm.name, vm.capabilities with
  | some name, some capabilities =>
      if sku = premium then
        if hasCapability capabilities "PremiumIO" then .ok () else .error (unsupported name sku)
      else if sku = ultra then
        match vm.locationInfo with
        | [] =>
            if hasCapability capabilities "UltraSSDAvailable" then .ok ()
            else .error (unsupported name sku)
        | info :: _ =>
            match zones.find? fun zone => !ultraInZone info zone with
            | none => .ok ()
            | some zone =>
                .error (.invalidConfig
                  s!"VM SKU '{name}' does not support disk SKU '{sku}' in zone '{zone}'")
      else .ok ()
  | _, _ => .error (.invalidConfig "invalid VM SKU object")

/-- Checks the SKU of the system disk. -/
def checkOsDisk (vm : ResourceSku) (c : Config) : Except AzureError Unit :=
  match c.osDiskSku with
  | none => .ok ()
  | some sku =>
      if forOsDisks.contains sku then supports vm sku c.zones
      else .error (.invalidConfig s!"invalid OS disk SKU '{sku}'")

/-- Whether the configuration puts the machine into an availability set or asks for one. -/
def asksForAvailabilitySet (c : Config) : Bool :=
  c.assignAvailabilitySet == some true || !c.availabilitySet.isEmpty

/-- Checks the SKU of the data disk. -/
def checkDataDisk (vm : ResourceSku) (c : Config) : Except AzureError Unit :=
  match c.dataDiskSku with
  | none => .ok ()
  | some sku =>
      if !forDataDisks.contains sku then .error (.invalidConfig s!"invalid data disk SKU '{sku}'")
      else if sku = ultra && asksForAvailabilitySet c then
        .error (.invalidConfig s!"data disk SKU '{sku}' does not support availability sets")
      else supports vm sku c.zones

/-- Checks both disks. -/
def check (vm : ResourceSku) (c : Config) : Except AzureError Unit := do
  checkOsDisk vm c
  checkDataDisk vm c

/-- Names a look-up of what a size offers. -/
structure Key where
  subscriptionId : String
  location : String
  vmSize : String
  deriving DecidableEq, Repr

def Key.ofConfig (c : Config) : Key := ⟨c.subscriptionId, c.location, c.vmSize⟩

/-- Picks the size that a key names out of all that is offered. -/
def pick (key : Key) (offered : List ResourceSku) : Except AzureError ResourceSku :=
  match offered.find? fun sku =>
      sku.name == some key.vmSize && sku.resourceType.all (· == "virtualMachines") with
  | some sku => .ok sku
  | none =>
      .error (.invalidConfig
        s!"VM size '{key.vmSize}' is not available in location '{key.location}'")

end Provisioning.Azure.DiskSku
