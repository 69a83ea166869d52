import Provisioning.Azure.Call
import Provisioning.Azure.Error

/-!
The resources of a subscription kept in memory, by resource group and name, and what each call does
to them. A failing operation gives no next state, so it changes nothing. What is referred to by
another resource cannot be deleted; a virtual machine leaves its disks behind.
-/

namespace Provisioning.Azure

open Provisioning.Text

/-- A resource group and a name in it. -/
structure ResourceKey where
  group : String
  name : String
  deriving DecidableEq, Repr

/-- Keys are ordered by group and then by name. -/
instance : SortKey ResourceKey where
  before a b :=
    SortKey.before a.group b.group || (a.group == b.group && SortKey.before a.name b.name)
  irrefl a := by simp [SortKey.irrefl]
  trans {a b c} first second := by
    simp only [Bool.or_eq_true, Bool.and_eq_true, beq_iff_eq] at *
    rcases first with first | ⟨same, first⟩ <;> rcases second with second | ⟨same', second⟩
    · exact .inl (SortKey.trans first second)
    · exact .inl (same' ▸ first)
    · exact .inl (same ▸ second)
    · exact .inr ⟨same.trans same', SortKey.trans first second⟩
  total {a b} unordered distinct := by
    simp only [Bool.or_eq_false_iff, Bool.and_eq_false_iff, beq_eq_false_iff_ne, Bool.or_eq_true,
      Bool.and_eq_true, beq_iff_eq] at *
    obtain ⟨groups, names⟩ := unordered
    by_cases same : a.group = b.group
    · rcases names with different | names
      · exact absurd same different
      · refine .inr ⟨same.symm, SortKey.total names fun equal => distinct ?_⟩
        cases a; cases b; simp_all
    · exact .inl (SortKey.total groups same)

/-- Resources by key, and how many addresses were given out so far; runs are meant to stay below
`2 ^ 32` of them. -/
structure Resources where
  publicIps : SortedMap ResourceKey PublicIpAddress
  nics : SortedMap ResourceKey NetworkInterface
  vms : SortedMap ResourceKey VirtualMachine
  views : SortedMap ResourceKey InstanceView
  disks : SortedMap ResourceKey Disk
  addresses : Nat
  deriving DecidableEq

namespace Resources

def empty : Resources := ⟨∅, ∅, ∅, ∅, ∅, 0⟩

/-- The subscription that ids of stored resources name. -/
def subscription : String := "00000000-0000-0000-0000-000000000000"

/-- The resources of a group in the order of their names. -/
def ofGroup {α : Type} (resources : SortedMap ResourceKey α) (group : String) : List α :=
  (resources.filter fun key _ => key.group == group).values

/-- Whether no resource is left. -/
def isEmpty (r : Resources) : Bool :=
  r.publicIps.isEmpty && r.nics.isEmpty && r.vms.isEmpty && r.disks.isEmpty

def notFound (kind name : String) : AzureError :=
  .notFound (kind ++ " " ++ quote name ++ " not found")

def inUse (code what user : String) : AzureError :=
  .api 400 code (what ++ " is in use by " ++ quote user ++ " and cannot be deleted")

def danglingReference (id : String) : AzureError :=
  .api 400 "InvalidResourceReference" s!"resource {id} referenced by the request was not found"

/-- The resource of a key. -/
def look {α : Type} (kind : String) (resources : SortedMap ResourceKey α) (key : ResourceKey) :
    Except AzureError α :=
  match resources.get? key with
  | some found => .ok found
  | none => .error (notFound kind key.name)

/-- Whether a part occurs in a text. -/
def occursIn (part : List Char) : List Char → Bool
  | [] => part.isEmpty
  | c :: rest => part.isPrefixOf (c :: rest) || occursIn part rest

/-- Whether an id names a resource of a group, in any subscription; groups are compared without
regard to the case of ASCII letters. -/
def refersTo (id : String) (key : ResourceKey) : Bool :=
  Naming.nameOfId id == key.name &&
    occursIn (("/resourcegroups/" ++ key.group ++ "/").toList.map Char.toLower)
      (id.toList.map Char.toLower)

/-- The name of the first virtual machine with a network interface. -/
def nicUser? (r : Resources) (key : ResourceKey) : Option String :=
  (r.vms.values.find? fun vm => (vm.interfaces.filterMap (·.id)).any (refersTo · key)).map
    fun vm => vm.name.getD ""

/-- The name of the first network interface with a public address. -/
def publicIpUser? (r : Resources) (key : ResourceKey) : Option String :=
  (r.nics.values.find? fun nic => nic.publicAddressIds.any (refersTo · key)).map
    fun nic => nic.name.getD ""

/-- A number in lower-case hexadecimal. -/
def hex (n : Nat) : String := String.ofList (Nat.toDigits 16 n)

/-- The public address of a number. -/
def publicAddress (version : String) (n : Nat) : String :=
  if version = ipv6 then "2001:db8::" ++ hex n else s!"20.0.0.{n}"

/-- The private address of a number. -/
def privateAddress (version : Option String) (n : Nat) : String :=
  if version = some ipv6 then "fd00::" ++ hex n else s!"10.0.0.{n}"

/-- A stored public address: it keeps the address it had. -/
def putPublicIp (r : Resources) (key : ResourceKey) (body : PublicIpAddress) :
    PublicIpAddress × Resources :=
  let (address, count) := match r.publicIps.get? key with
    | some existing => (existing.properties.ipAddress, r.addresses)
    | none => (some (publicAddress body.version (r.addresses + 1)), r.addresses + 1)
  let stored : PublicIpAddress :=
    { body with
      id := some (Naming.publicIpId subscription key.group key.name)
      name := some key.name
      properties := { body.properties with
        ipAddress := address
        provisioningState := some "Succeeded" } }
  (stored, { r with publicIps := r.publicIps.insert key stored, addresses := count })

def deletePublicIp (r : Resources) (key : ResourceKey) : Except AzureError Resources :=
  match r.publicIpUser? key with
  | some user => .error (inUse "PublicIPAddressInUse" key.name user)
  | none => .ok { r with publicIps := r.publicIps.erase key }

/-- The private addresses of an interface by the names of its configurations. -/
def privateAddresses (nic : NetworkInterface) : SortedMap String String :=
  .ofList (nic.ipConfigurations.filterMap fun c =>
    match c.name, c.properties.privateAddress with
    | some name, some address => some (name, address)
    | _, _ => none)

/-- Gives every configuration a private address, the previous one of its name or the next number,
and counts on. -/
def assignAddresses (previous : SortedMap String String) :
    (count : Nat) → List IpConfiguration → List IpConfiguration × Nat
  | count, [] => ([], count)
  | count, c :: rest =>
      let (address, next) := match c.name.bind previous.get? with
        | some address => (address, count)
        | none => (privateAddress c.properties.addressVersion (count + 1), count + 1)
      let (others, total) := assignAddresses previous next rest
      ({ c with properties := { c.properties with privateAddress := some address } } :: others,
        total)

/-- A stored interface: its public addresses exist, and it keeps the private ones it had. -/
def putNic (r : Resources) (key : ResourceKey) (body : NetworkInterface) :
    Except AzureError (NetworkInterface × Resources) :=
  match body.publicAddressIds.find? fun id =>
      !r.publicIps.contains ⟨key.group, Naming.nameOfId id⟩ with
  | some id => .error (danglingReference id)
  | none =>
      let previous := ((r.nics.get? key).map privateAddresses).getD ∅
      let (configurations, count) := assignAddresses previous r.addresses body.ipConfigurations
      let stored : NetworkInterface :=
        { body with
          id := some (Naming.nicId subscription key.group key.name)
          name := some key.name
          properties := { body.properties with
            ipConfigurations := configurations
            provisioningState := some "Succeeded" } }
      .ok (stored, { r with nics := r.nics.insert key stored, addresses := count })

def deleteNic (r : Resources) (key : ResourceKey) : Except AzureError Resources :=
  match r.nicUser? key with
  | some user => .error (inUse "NicInUse" key.name user)
  | none => .ok { r with nics := r.nics.erase key }

/-- The names of the disks of a virtual machine. -/
def diskNames (name : String) (vm : VirtualMachine) : List String :=
  Naming.osDisk name ::
    match vm.properties.storageProfile with
    | some storage => storage.dataDisks.map fun disk => Naming.dataDisk name disk.lun
    | none => []

/-- Adds the disks of a virtual machine that are not there yet. -/
def addDisks (disks : SortedMap ResourceKey Disk) (group vmId : String) (vm : VirtualMachine) :
    List String → SortedMap ResourceKey Disk
  | [] => disks
  | name :: rest =>
      let key : ResourceKey := ⟨group, name⟩
      let disk : Disk :=
        ⟨some (Naming.diskId subscription group name), some name, vm.location, vm.tags, some vmId⟩
      addDisks (if disks.contains key then disks else disks.insert key disk) group vmId vm rest

/-- A stored virtual machine: its interfaces exist, and it has its disks and a view. -/
def putVm (r : Resources) (key : ResourceKey) (body : VirtualMachine) :
    Except AzureError (VirtualMachine × Resources) :=
  match (body.interfaces.map fun reference => reference.id.getD "").find? fun id =>
      !r.nics.contains ⟨key.group, Naming.nameOfId id⟩ with
  | some id => .error (danglingReference id)
  | none =>
      let vmId := Naming.vmId subscription key.group key.name
      let stored : VirtualMachine :=
        { body with
          id := some vmId
          name := some key.name
          properties := { body.properties with
            provisioningState := some "Succeeded"
            vmId := some ("vm-" ++ key.name) } }
      .ok (stored,
        { r with
          vms := r.vms.insert key stored
          views :=
            if r.views.contains key then r.views
            else r.views.insert key (.ofCodes ["ProvisioningState/creating"])
          disks := addDisks r.disks key.group vmId body (diskNames key.name body) })

/-- The view of a virtual machine, which may be empty. -/
def instanceView (r : Resources) (key : ResourceKey) : Except AzureError InstanceView :=
  if r.vms.contains key then .ok ((r.views.get? key).getD .empty)
  else .error (notFound "virtual machine" key.name)

def tagVm (r : Resources) (key : ResourceKey) (tags : Tags) : Except AzureError Resources := do
  let vm ← look "virtual machine" r.vms key
  .ok { r with vms := r.vms.insert key { vm with tags } }

/-- A disk without its virtual machine. -/
def detach (vmId : String) (disk : Disk) : Disk :=
  if disk.managedBy = some vmId then { disk with managedBy := none } else disk

def deleteVm (r : Resources) (key : ResourceKey) : Resources :=
  let vmId := Naming.vmId subscription key.group key.name
  { r with
    vms := r.vms.erase key
    views := r.views.erase key
    disks := if r.vms.contains key then r.disks.mapValues fun _ disk => detach vmId disk
      else r.disks }

def tagDisk (r : Resources) (key : ResourceKey) (tags : Tags) : Except AzureError Resources := do
  let disk ← look "disk" r.disks key
  .ok { r with disks := r.disks.insert key { disk with tags } }

def deleteDisk (r : Resources) (key : ResourceKey) : Except AzureError Resources :=
  match (r.disks.get? key).bind (·.managedBy) with
  | some owner =>
      .error (.api 409 "OperationNotAllowed"
        ("disk " ++ quote key.name ++ " is attached to " ++ owner))
  | none => .ok { r with disks := r.disks.erase key }

end Resources

end Provisioning.Azure
