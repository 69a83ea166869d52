import Mathlib.Data.List.Forall2
import Provisioning.Azure.Backend.Basic
import Provisioning.Proofs.Maps

/-!
What a put leaves at the backend. A resource is stored with the id and the name of its key and
keeps the addresses it had, so that what was put once can be put again without any change; and
what is put under another key does not disturb it.
-/

namespace Provisioning.Azure

/-- A public address as it is stored under a key. -/
def PublicIpAddress.stored (body : PublicIpAddress) (key : ResourceKey) (address : Option String) :
    PublicIpAddress :=
  { body with
    id := some (Naming.publicIpId Resources.subscription key.group key.name)
    name := some key.name
    properties := { body.properties with
      ipAddress := address
      provisioningState := some "Succeeded" } }

/-- A configuration with a private address. -/
def IpConfiguration.withAddress (c : IpConfiguration) (address : String) : IpConfiguration :=
  { c with properties := { c.properties with privateAddress := some address } }

/-- The configurations of an interface with private addresses. -/
def NetworkInterface.addressed (body : NetworkInterface) (addresses : List String) :
    List IpConfiguration :=
  body.ipConfigurations.zipWith .withAddress addresses

/-- An interface as it is stored under a key. -/
def NetworkInterface.stored (body : NetworkInterface) (key : ResourceKey)
    (addresses : List String) : NetworkInterface :=
  { body with
    id := some (Naming.nicId Resources.subscription key.group key.name)
    name := some key.name
    properties := { body.properties with
      ipConfigurations := body.addressed addresses
      provisioningState := some "Succeeded" } }

/-- A virtual machine as it is stored under a key. -/
def VirtualMachine.stored (body : VirtualMachine) (key : ResourceKey) : VirtualMachine :=
  { body with
    id := some (Naming.vmId Resources.subscription key.group key.name)
    name := some key.name
    properties := { body.properties with
      provisioningState := some "Succeeded"
      vmId := some ("vm-" ++ key.name) } }

/-- Every configuration has a name of its own. -/
structure NetworkInterface.Named (body : NetworkInterface) : Prop where
  named : ∀ c ∈ body.ipConfigurations, ∃ name, c.name = some name
  distinct : (body.ipConfigurations.filterMap (·.name)).Nodup

namespace Resources

variable {r : Resources} {key : ResourceKey}

/-- A public address that is there keeps its address. -/
theorem putPublicIp_of_some {existing : PublicIpAddress}
    (found : r.publicIps.get? key = some existing) (body : PublicIpAddress) :
    r.putPublicIp key body = (body.stored key existing.properties.ipAddress,
      { r with publicIps :=
        r.publicIps.insert key (body.stored key existing.properties.ipAddress) }) := by
  rw [putPublicIp, found]
  rfl

/-- A public address that is new gets the next address. -/
theorem putPublicIp_of_none (absent : r.publicIps.get? key = none) (body : PublicIpAddress) :
    r.putPublicIp key body = (body.stored key (some (publicAddress body.version (r.addresses + 1))),
      { r with
        publicIps := r.publicIps.insert key
          (body.stored key (some (publicAddress body.version (r.addresses + 1))))
        addresses := r.addresses + 1 }) := by
  rw [putPublicIp, absent]
  rfl

/-- What is stored already can be put again. -/
theorem putPublicIp_of_stored {body : PublicIpAddress} {address : Option String}
    (found : r.publicIps.get? key = some (body.stored key address)) :
    r.putPublicIp key body = (body.stored key address, r) := by
  rw [putPublicIp_of_some found]
  change (body.stored key address, { r with publicIps := r.publicIps.insert key (body.stored key
    address) }) = _
  rw [SortedMap.insert_of_get? found]

/-- Every configuration gets an address. -/
theorem exists_assignAddresses (previous : SortedMap String String) (count : Nat)
    (configurations : List IpConfiguration) :
    ∃ addresses total, addresses.length = configurations.length ∧
      assignAddresses previous count configurations =
        (configurations.zipWith .withAddress addresses, total) := by
  induction configurations generalizing count with
  | nil => exact ⟨[], count, rfl, rfl⟩
  | cons c rest ih =>
      cases known : c.name.bind previous.get? with
      | some address =>
          obtain ⟨addresses, total, length, assigned⟩ := ih count
          refine ⟨address :: addresses, total, by simp [length], ?_⟩
          simp only [assignAddresses, known, assigned]
          rfl
      | none =>
          obtain ⟨addresses, total, length, assigned⟩ := ih (count + 1)
          refine ⟨privateAddress c.properties.addressVersion (count + 1) :: addresses, total,
            by simp [length], ?_⟩
          simp only [assignAddresses, known, assigned]
          rfl

/-- Configurations whose addresses are known keep them. -/
theorem assignAddresses_of_known {previous : SortedMap String String}
    {configurations : List IpConfiguration} {addresses : List String}
    (known : List.Forall₂ (fun c address => c.name.bind previous.get? = some address)
      configurations addresses) (count : Nat) :
    assignAddresses previous count configurations =
      (configurations.zipWith .withAddress addresses, count) := by
  induction known with
  | nil => rfl
  | cons first _ ih =>
      simp only [assignAddresses, first, ih]
      rfl

/-- The addresses of a stored interface are known by the names of its configurations. -/
theorem known_of_addressed {body nic : NetworkInterface} (named : body.Named)
    {addresses : List String} (length : addresses.length = body.ipConfigurations.length)
    (same : nic.ipConfigurations = body.addressed addresses) :
    List.Forall₂ (fun c address => c.name.bind (privateAddresses nic).get? = some address)
      body.ipConfigurations addresses := by
  refine List.forall₂_iff_zip.2 ⟨length.symm, fun {c address} member => ?_⟩
  obtain ⟨name, own⟩ := named.named c (List.of_mem_zip member).1
  rw [own, Option.bind_some, privateAddresses, same, NetworkInterface.addressed]
  apply SortedMap.get?_ofList_of_mem
  · refine Eq.mpr (congrArg List.Nodup ?_) named.distinct
    rw [List.map_filterMap]
    clear same member
    generalize body.ipConfigurations = configurations at length
    induction configurations generalizing addresses with
    | nil => rfl
    | cons first rest ih =>
        cases addresses with
        | nil => cases length
        | cons next others =>
            rw [List.zipWith_cons_cons, List.filterMap_cons, List.filterMap_cons]
            rw [ih (Nat.succ.inj length)]
            cases unnamed : first.name <;> simp [IpConfiguration.withAddress, unnamed]
  · refine List.mem_filterMap.2 ⟨c.withAddress address, ?_, ?_⟩
    · rw [← List.map_uncurry_zip_eq_zipWith]
      exact List.mem_map_of_mem (f := Function.uncurry IpConfiguration.withAddress) member
    · simp [IpConfiguration.withAddress, own]

/-- An interface is stored only if its public addresses are there. Its private ones are assigned
from those it had. -/
theorem putNic_assigned {body value : NetworkInterface} {next : Resources}
    (performed : r.putNic key body = .ok (value, next)) {addresses : List String} {total : Nat}
    (assigned : assignAddresses (((r.nics.get? key).map privateAddresses).getD ∅) r.addresses
      body.ipConfigurations = (body.addressed addresses, total)) :
    (∀ id ∈ body.publicAddressIds,
      r.publicIps.contains ⟨key.group, Naming.nameOfId id⟩ = true) ∧
    value = body.stored key addresses ∧
    next = { r with nics := r.nics.insert key (body.stored key addresses)
                    addresses := total } := by
  unfold putNic at performed
  split at performed
  · cases performed
  · rename_i present
    rw [List.find?_eq_none] at present
    simp only [assigned, Except.ok.injEq, Prod.mk.injEq] at performed
    exact ⟨fun id member => by simpa using present id member, performed.1.symm, performed.2.symm⟩

/-- An interface is stored only if its public addresses are there; it is given some private
addresses, and nothing else is touched. -/
theorem putNic_eq_ok {body value : NetworkInterface} {next : Resources}
    (performed : r.putNic key body = .ok (value, next)) :
    (∀ id ∈ body.publicAddressIds,
      r.publicIps.contains ⟨key.group, Naming.nameOfId id⟩ = true) ∧
    ∃ addresses total, addresses.length = body.ipConfigurations.length ∧
      value = body.stored key addresses ∧
      next = { r with nics := r.nics.insert key (body.stored key addresses)
                      addresses := total } := by
  obtain ⟨addresses, total, length, assigned⟩ := exists_assignAddresses
    (((r.nics.get? key).map privateAddresses).getD ∅) r.addresses body.ipConfigurations
  obtain ⟨present, stored⟩ := putNic_assigned performed assigned
  exact ⟨present, addresses, total, length, stored⟩

/-- An interface is stored if its public addresses are there. -/
theorem exists_putNic {body : NetworkInterface} (present : ∀ id ∈ body.publicAddressIds,
    r.publicIps.contains ⟨key.group, Naming.nameOfId id⟩ = true) :
    ∃ value next, r.putNic key body = .ok (value, next) := by
  have none : (body.publicAddressIds.find? fun id =>
      !r.publicIps.contains ⟨key.group, Naming.nameOfId id⟩) = none :=
    List.find?_eq_none.2 fun id member => by simp [present id member]
  unfold putNic
  rw [none]
  exact ⟨_, _, rfl⟩

/-- An interface whose configurations are known by name keeps their addresses. -/
theorem putNic_of_addressed {body existing : NetworkInterface} {addresses : List String}
    (present : ∀ id ∈ body.publicAddressIds,
      r.publicIps.contains ⟨key.group, Naming.nameOfId id⟩ = true)
    (found : r.nics.get? key = some existing) (named : body.Named)
    (length : addresses.length = body.ipConfigurations.length)
    (same : existing.ipConfigurations = body.addressed addresses) :
    r.putNic key body = .ok (body.stored key addresses,
      { r with nics := r.nics.insert key (body.stored key addresses) }) := by
  have none : (body.publicAddressIds.find? fun id =>
      !r.publicIps.contains ⟨key.group, Naming.nameOfId id⟩) = none :=
    List.find?_eq_none.2 fun id member => by simp [present id member]
  have assigned := assignAddresses_of_known (known_of_addressed named length same) r.addresses
  unfold putNic
  rw [none, found]
  simp only [Option.map_some, Option.getD_some, assigned]
  rfl

/-- The resources after a virtual machine was stored. -/
def withVm (r : Resources) (key : ResourceKey) (body : VirtualMachine) : Resources :=
  { r with
    vms := r.vms.insert key (body.stored key)
    views :=
      if r.views.contains key then r.views
      else r.views.insert key (.ofCodes ["ProvisioningState/creating"])
    disks := addDisks r.disks key.group
      (Naming.vmId subscription key.group key.name) body (diskNames key.name body) }

/-- A virtual machine is stored exactly if its interfaces are there. -/
theorem putVm_eq_ok {body value : VirtualMachine} {next : Resources} :
    r.putVm key body = .ok (value, next) ↔
      (∀ reference ∈ body.interfaces,
        r.nics.contains ⟨key.group, Naming.nameOfId (reference.id.getD "")⟩ = true) ∧
      value = body.stored key ∧ next = r.withVm key body := by
  unfold putVm
  split
  · rename_i id missing
    refine ⟨nofun, fun ⟨present, _⟩ => ?_⟩
    have absent := List.find?_some missing
    obtain ⟨reference, member, rfl⟩ := List.mem_map.1 (List.mem_of_find?_eq_some missing)
    simp [present reference member] at absent
  · rename_i none
    have present : ∀ reference ∈ body.interfaces,
        r.nics.contains ⟨key.group, Naming.nameOfId (reference.id.getD "")⟩ = true := by
      intro reference member
      simpa using List.find?_eq_none.1 none _ (List.mem_map_of_mem member)
    constructor
    · intro performed
      cases performed
      exact ⟨present, rfl, rfl⟩
    · rintro ⟨_, rfl, rfl⟩
      rfl

/-- Each disk that is not there yet is added, and no other one is touched. -/
theorem get?_addDisks (disks : SortedMap ResourceKey Disk) (group vmId : String)
    (vm : VirtualMachine) (names : List String) (key : ResourceKey) :
    (addDisks disks group vmId vm names).get? key =
      (disks.get? key).or (if key.group = group ∧ key.name ∈ names then
        some ⟨some (Naming.diskId subscription group key.name), some key.name, vm.location, vm.tags,
          some vmId⟩ else none) := by
  induction names generalizing disks with
  | nil => simp [addDisks]
  | cons name rest ih =>
      rw [addDisks, ih]
      by_cases present : disks.contains ⟨group, name⟩ = true
      · rw [if_pos present]
        obtain ⟨disk, found⟩ := SortedMap.contains_iff.1 present
        by_cases same : key = ⟨group, name⟩
        · simp [same, found]
        · have other : ¬(key.group = group ∧ key.name = name) := by
            rintro ⟨rfl, rfl⟩
            exact same rfl
          congr 1
          grind
      · rw [if_neg present, SortedMap.get?_insert]
        have absent := SortedMap.contains_eq_false.1 (Bool.eq_false_iff.2 present)
        by_cases same : (⟨group, name⟩ : ResourceKey) = key
        · subst same
          simp [absent]
        · have other : ¬(key.group = group ∧ key.name = name) := by
            rintro ⟨rfl, rfl⟩
            exact same rfl
          rw [if_neg same]
          congr 1
          grind

/-- Disks are added to those that are there. -/
theorem contains_addDisks {disks : SortedMap ResourceKey Disk} {group vmId : String}
    {vm : VirtualMachine} {names : List String} {key : ResourceKey}
    (present : disks.contains key = true) :
    (addDisks disks group vmId vm names).contains key = true := by
  obtain ⟨disk, found⟩ := SortedMap.contains_iff.1 present
  rw [SortedMap.contains, get?_addDisks, found]
  rfl

/-- What differs in nothing but what its disks and interfaces do not depend on replaces what was
put before. -/
theorem withVm_withVm (r : Resources) (key : ResourceKey) (first last : VirtualMachine)
    (location : last.location = first.location) (tags : last.tags = first.tags)
    (storage : last.properties.storageProfile = first.properties.storageProfile) :
    (r.withVm key first).withVm key last = r.withVm key last := by
  have names : diskNames key.name last = diskNames key.name first := by
    unfold diskNames
    rw [storage]
  simp only [withVm, names, Resources.mk.injEq, true_and, and_true]
  refine ⟨SortedMap.insert_insert _ _ _ _, ?_, ?_⟩
  · by_cases present : r.views.contains key = true <;> simp [present]
  · apply SortedMap.ext_get?
    intro other
    simp only [get?_addDisks, location, tags, Option.or_assoc, Option.or_self]

/-- A virtual machine that is there as it is stored, with its view and its disks, can be stored
again without a change. -/
theorem withVm_of_stored {body : VirtualMachine}
    (found : r.vms.get? key = some (body.stored key)) (viewed : r.views.contains key = true)
    (disks : ∀ name ∈ diskNames key.name body, r.disks.contains ⟨key.group, name⟩ = true) :
    r.withVm key body = r := by
  have same : addDisks r.disks key.group (Naming.vmId subscription key.group key.name) body
      (diskNames key.name body) = r.disks := by
    apply SortedMap.ext_get?
    intro other
    rw [get?_addDisks]
    split
    · rename_i own
      obtain ⟨disk, stored⟩ := SortedMap.contains_iff.1 (own.1 ▸ disks other.name own.2)
      rw [stored, Option.some_or]
    · exact Option.or_none
  rw [withVm, same, SortedMap.insert_of_get? found, if_pos viewed]

end Resources

namespace Call

/-- What a call puts, if it is a put. -/
def target? : Call → Option (Owned × ResourceKey)
  | putPublicIp group name _ => some (.publicIp, ⟨group, name⟩)
  | putNic group name _ => some (.nic, ⟨group, name⟩)
  | putVm group name _ => some (.vm, ⟨group, name⟩)
  | _ => none

/-- A put that can be repeated: the configurations of an interface are told apart by name. -/
def IsPut : Call → Prop
  | putPublicIp .. | putVm .. => True
  | putNic _ _ body => body.Named
  | _ => False

/-- What a put has stored is there. -/
def Kept : Call → Resources → Prop
  | putPublicIp group name body, r =>
      ∃ address, r.publicIps.get? ⟨group, name⟩ = some (body.stored ⟨group, name⟩ address)
  | putNic group name body, r => body.Named ∧
      (∀ id ∈ body.publicAddressIds,
        r.publicIps.contains ⟨group, Naming.nameOfId id⟩ = true) ∧
      ∃ addresses, addresses.length = body.ipConfigurations.length ∧
        r.nics.get? ⟨group, name⟩ = some (body.stored ⟨group, name⟩ addresses)
  | putVm group name body, r =>
      (∀ reference ∈ body.interfaces,
        r.nics.contains ⟨group, Naming.nameOfId (reference.id.getD "")⟩ = true) ∧
      r.vms.get? ⟨group, name⟩ = some (body.stored ⟨group, name⟩) ∧
      r.views.contains ⟨group, name⟩ = true ∧
      ∀ disk ∈ Resources.diskNames name body, r.disks.contains ⟨group, disk⟩ = true
  | _, _ => False

/-- A public address is stored with some address, and nothing else is touched. -/
theorem exists_of_putPublicIp {b : Backend} {group name : String} {body value : PublicIpAddress}
    {next : Resources} (performed : b.perform (putPublicIp group name body) = .ok (value, next)) :
    ∃ address count, value = body.stored ⟨group, name⟩ address ∧
      next = { b.resources with
        publicIps := b.resources.publicIps.insert ⟨group, name⟩
          (body.stored ⟨group, name⟩ address)
        addresses := count } := by
  have put : b.resources.putPublicIp ⟨group, name⟩ body = (value, next) := Except.ok.inj performed
  cases found : b.resources.publicIps.get? ⟨group, name⟩ with
  | some existing =>
      cases (Resources.putPublicIp_of_some found body).symm.trans put
      exact ⟨_, _, rfl, rfl⟩
  | none =>
      cases (Resources.putPublicIp_of_none found body).symm.trans put
      exact ⟨_, _, rfl, rfl⟩

/-- A public address is answered with its id. -/
theorem id_of_putPublicIp {b : Backend} {group name : String} {body value : PublicIpAddress}
    {next : Resources} (performed : b.perform (putPublicIp group name body) = .ok (value, next)) :
    value.id = some (Naming.publicIpId Resources.subscription group name) := by
  obtain ⟨address, count, rfl, rfl⟩ := exists_of_putPublicIp performed
  rfl

/-- An interface is answered with its id. -/
theorem id_of_putNic {b : Backend} {group name : String} {body value : NetworkInterface}
    {next : Resources} (performed : b.perform (putNic group name body) = .ok (value, next)) :
    value.id = some (Naming.nicId Resources.subscription group name) := by
  obtain ⟨_, addresses, total, _, rfl, rfl⟩ := Resources.putNic_eq_ok performed
  rfl

/-- A put stores what it puts. -/
theorem kept_of_perform {b : Backend} {what : Call} {value : what.Value} {next : Resources}
    (put : what.IsPut) (performed : b.perform what = .ok (value, next)) : what.Kept next := by
  cases what with
  | putPublicIp group name body =>
      obtain ⟨address, count, rfl, rfl⟩ := exists_of_putPublicIp performed
      exact ⟨address, by simp⟩
  | putNic group name body =>
      obtain ⟨present, addresses, total, length, rfl, rfl⟩ := Resources.putNic_eq_ok performed
      exact ⟨put, present, addresses, length, by simp⟩
  | putVm group name body =>
      obtain ⟨present, rfl, rfl⟩ := Resources.putVm_eq_ok.1 performed
      refine ⟨present, by simp [Resources.withVm], ?_, fun disk member => ?_⟩
      · simp only [Resources.withVm]
        split <;> simp [*]
      · simp [Resources.withVm, SortedMap.contains, Resources.get?_addDisks, member]
  | _ => cases put

/-- What is kept can be put again without a change. -/
theorem perform_of_kept {b : Backend} {what : Call} (kept : what.Kept b.resources) :
    ∃ value, b.perform what = .ok (value, b.resources) := by
  cases what with
  | putPublicIp group name body =>
      obtain ⟨address, found⟩ := kept
      exact ⟨_, congrArg Except.ok (Resources.putPublicIp_of_stored found)⟩
  | putNic group name body =>
      obtain ⟨named, present, addresses, length, found⟩ := kept
      refine ⟨body.stored ⟨group, name⟩ addresses,
        (Resources.putNic_of_addressed present found named length rfl).trans ?_⟩
      rw [SortedMap.insert_of_get? found]
  | putVm group name body =>
      obtain ⟨present, found, viewed, disks⟩ := kept
      exact ⟨_, Resources.putVm_eq_ok.2
        ⟨present, rfl, (Resources.withVm_of_stored found viewed disks).symm⟩⟩
  | _ => cases kept

/-- What is kept stays kept when something else is put. -/
theorem Kept.perform {b : Backend} {what other : Call} (kept : what.Kept b.resources)
    {value : other.Value} {next : Resources} (put : other.IsPut)
    (apart : what.target? ≠ other.target?) (performed : b.perform other = .ok (value, next)) :
    what.Kept next := by
  cases other with
  | putPublicIp group name body =>
      obtain ⟨address, count, rfl, rfl⟩ := exists_of_putPublicIp performed
      cases what with
      | putPublicIp =>
          obtain ⟨earlier, found⟩ := kept
          exact ⟨earlier, SortedMap.get?_insert_of_ne found
            (fun same => apart (by rw [target?, same]; rfl)) _⟩
      | putNic =>
          obtain ⟨named, present, rest⟩ := kept
          exact ⟨named, fun id member => SortedMap.contains_insert_of (present id member) _ _, rest⟩
      | putVm => exact kept
      | _ => cases kept
  | putNic group name body =>
      obtain ⟨_, addresses, total, _, rfl, rfl⟩ := Resources.putNic_eq_ok performed
      cases what with
      | putPublicIp => exact kept
      | putNic =>
          obtain ⟨named, present, earlier, length, found⟩ := kept
          exact ⟨named, present, earlier, length,
            SortedMap.get?_insert_of_ne found (fun same => apart (by rw [target?, same]; rfl)) _⟩
      | putVm =>
          obtain ⟨present, rest⟩ := kept
          exact ⟨fun reference member =>
            SortedMap.contains_insert_of (present reference member) _ _, rest⟩
      | _ => cases kept
  | putVm group name body =>
      obtain ⟨_, rfl, rfl⟩ := Resources.putVm_eq_ok.1 performed
      cases what with
      | putPublicIp | putNic => exact kept
      | putVm =>
          obtain ⟨present, found, viewed, disks⟩ := kept
          refine ⟨present, SortedMap.get?_insert_of_ne found
            (fun same => apart (by rw [target?, same]; rfl)) _, ?_,
            fun disk member => Resources.contains_addDisks (disks disk member)⟩
          simp only [Resources.withVm]
          split
          · exact viewed
          · exact SortedMap.contains_insert_of viewed _ _
      | _ => cases kept
  | _ => cases put

end Call

end Provisioning.Azure
