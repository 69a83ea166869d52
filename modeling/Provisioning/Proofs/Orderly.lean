import Mathlib.Data.Set.List
import Provisioning.Proofs.Footprint
import Provisioning.Proofs.Numbering

/-!
What is true of the addresses at a backend as long as nothing but machines is put there. Main
statements: `Orderly.perform`, that what is put for a machine keeps addresses in order, and
`Orderly.portrays`, that an instance which is then seen has an entry for each address of its
interface and no other one.
-/

namespace Provisioning.Azure

/-- A virtual machine refers to one network interface. -/
def VirtualMachine.Single (vm : VirtualMachine) : Prop :=
  ∃ reference id, vm.interfaces = [reference] ∧ reference.id = some id ∧ id ≠ ""

/-- Every address is given out, and only once; no interface has a public address twice; and every
virtual machine lies in the group under its own name and has one interface. -/
structure Resources.Orderly (group : String) (r : Resources) : Prop where
  numbered : r.Numbered
  external : ∀ key address, r.publicIps.get? key = some address →
    ∃ text, address.properties.ipAddress = some text
  internal : ∀ key nic, r.nics.get? key = some nic → ∀ c ∈ nic.ipConfigurations,
    ∃ text, c.properties.privateAddress = some text
  attached : ∀ key nic, r.nics.get? key = some nic →
    (nic.publicAddressIds.map Naming.nameOfId).Nodup
  vms : ∀ key vm, r.vms.get? key = some vm →
    key.group = group ∧ vm.name = some key.name ∧ vm.Single

/-- A call that keeps addresses in order: the interfaces that it puts can be told apart by their
names, and the virtual machines lie in the group and have one interface. -/
def Call.Orderly (group : String) : Call → Prop
  | putNic _ _ body => body.Named ∧ (body.publicAddressIds.map Naming.nameOfId).Nodup
  | putVm place _ body => place = group ∧ body.Single
  | _ => True

theorem Call.orderly_of_read {what : Call} (read : what.isWrite = false) (group : String) :
    what.Orderly group := by
  cases what with
  | putNic | putVm => cases read
  | _ => trivial

theorem Call.orderly_removal (kind : Owned) (place name group : String) :
    (kind.removal place name).Orderly group := by
  cases kind <;> trivial

/-- What is put for a machine keeps addresses in order. -/
theorem Call.Puts.orderly {c : Config} {machine uid : String} {what : Call}
    (puts : what.Puts c machine uid) (whole : '/' ∉ machine.toList) :
    what.Orderly c.resourceGroup := by
  cases puts with
  | publicIp | publicIpv6 | tagVm => trivial
  | vm => exact ⟨rfl, _, _, rfl, rfl, Naming.resourceId_ne_empty _ _ _ _⟩
  | @nic first second dualStack ids idsV6 =>
      have names : ∀ id ∈ first, Naming.nameOfId id = Naming.publicIp (Naming.nic machine) := by
        intro id member
        obtain ⟨subscription, rfl⟩ := ids id member
        exact Naming.nameOfId_publicIpId whole _ _
      have namesV6 : ∀ id ∈ second,
          Naming.nameOfId id = Naming.publicIpv6 (Naming.nic machine) := by
        intro id member
        obtain ⟨subscription, rfl⟩ := idsV6 id member
        exact Naming.nameOfId_publicIpId_ipv6 whole _ _
      have different := Naming.publicIp_ne_publicIpv6 (Naming.nic machine) (Naming.nic machine)
      refine ⟨Desired.nic_named _ _ _ _ _, ?_⟩
      rw [Desired.publicAddressIds_nic]
      cases first <;> cases second <;> cases dualStack <;> simp_all

/-- An interface is stored with the public addresses that it was put with. -/
theorem NetworkInterface.publicAddressIds_stored {body : NetworkInterface} {key : ResourceKey}
    {addresses : List String} (length : addresses.length = body.ipConfigurations.length) :
    (body.stored key addresses).publicAddressIds = body.publicAddressIds := by
  change (body.ipConfigurations.zipWith IpConfiguration.withAddress addresses).filterMap
    IpConfiguration.publicAddressId? =
    body.ipConfigurations.filterMap IpConfiguration.publicAddressId?
  generalize body.ipConfigurations = configurations at length
  induction configurations generalizing addresses with
  | nil => rfl
  | cons c rest ih =>
      cases addresses with
      | nil => cases length
      | cons address others =>
          rw [List.zipWith_cons_cons, List.filterMap_cons, List.filterMap_cons,
            ih (Nat.succ.inj length)]
          rfl

namespace Resources.Orderly

variable {group : String} {r next : Resources} {b : Backend}

theorem of_isEmpty (empty : r.isEmpty = true) : r.Orderly group := by
  obtain ⟨publicIps, nics, vms, disks⟩ := isEmpty_iff.1 empty
  have nothing (slot : AddressSlot) : r.addressAt slot = none := by
    cases slot <;> simp [addressAt, publicIps, nics]
  exact
    { numbered := ⟨by simp [nothing], by simp [nothing]⟩
      external := by simp [publicIps]
      internal := by simp [nics]
      attached := by simp [nics]
      vms := by simp [vms] }

/-- Deletions leave the addresses of what is left. -/
theorem without (orderly : r.Orderly group) (key : ResourceKey) (kind : Owned) :
    (r.without key kind).Orderly group := by
  cases kind with
  | publicIp | publicIpv6 =>
      refine { orderly with
        numbered := orderly.numbered.of_aside (Nat.le_refl _) fun slot text held => ?_
        external := SortedMap.forall_erase orderly.external key }
      cases slot with
      | internal => exact held
      | external other =>
          obtain ⟨address, found, same⟩ := Option.bind_eq_some_iff.1 held
          exact Option.bind_eq_some_iff.2 ⟨address, (SortedMap.get?_of_erase found).2, same⟩
  | nic =>
      refine { orderly with
        numbered := orderly.numbered.of_aside (Nat.le_refl _) fun slot text held => ?_
        internal := SortedMap.forall_erase orderly.internal key
        attached := SortedMap.forall_erase orderly.attached key }
      cases slot with
      | external => exact held
      | internal other position =>
          obtain ⟨nic, found, same⟩ := Option.bind_eq_some_iff.1 held
          exact Option.bind_eq_some_iff.2 ⟨nic, (SortedMap.get?_of_erase found).2, same⟩
  | disks =>
      exact { orderly with
        numbered := orderly.numbered.of_same rfl rfl (Nat.le_refl _) }
  | vm =>
      exact { orderly with
        numbered := orderly.numbered.of_same rfl rfl (Nat.le_refl _)
        vms := SortedMap.forall_erase orderly.vms key }

theorem putPublicIp (orderly : r.Orderly group) (key : ResourceKey) (body : PublicIpAddress) :
    (r.putPublicIp key body).2.Orderly group := by
  have numbered := orderly.numbered.putPublicIp key body
  cases found : r.publicIps.get? key with
  | some existing =>
      rw [putPublicIp_of_some found] at numbered ⊢
      exact { orderly with
        numbered
        external := SortedMap.forall_insert orderly.external (orderly.external key existing found) }
  | none =>
      rw [putPublicIp_of_none found] at numbered ⊢
      exact { orderly with
        numbered
        external := SortedMap.forall_insert orderly.external ⟨_, rfl⟩ }

theorem putNic (orderly : r.Orderly group) {key : ResourceKey} {body value : NetworkInterface}
    (named : body.Named) (attached : (body.publicAddressIds.map Naming.nameOfId).Nodup)
    (performed : r.putNic key body = .ok (value, next)) : next.Orderly group := by
  have numbered := orderly.numbered.putNic named performed
  obtain ⟨_, addresses, total, length, _, rfl⟩ := putNic_eq_ok performed
  refine { orderly with
    numbered
    internal := SortedMap.forall_insert orderly.internal fun c member => ?_
    attached := SortedMap.forall_insert orderly.attached ?_ }
  · change c ∈ body.ipConfigurations.zipWith .withAddress addresses at member
    rw [← List.map_uncurry_zip_eq_zipWith] at member
    obtain ⟨⟨first, address⟩, _, rfl⟩ := List.mem_map.1 member
    exact ⟨address, rfl⟩
  · rw [NetworkInterface.publicAddressIds_stored length]
    exact attached

/-- Orderly calls keep addresses in order. -/
theorem perform (orderly : b.resources.Orderly group) {what : Call} {value : what.Value}
    (own : what.Orderly group) (performed : b.perform what = .ok (value, next)) :
    next.Orderly group := by
  cases what with
  | putPublicIp place name body =>
      have put : b.resources.putPublicIp ⟨place, name⟩ body = (value, next) :=
        Except.ok.inj performed
      have after := orderly.putPublicIp ⟨place, name⟩ body
      rwa [put] at after
  | putNic place name body => exact orderly.putNic own.1 own.2 performed
  | putVm place name body =>
      obtain ⟨rfl, single⟩ := own
      obtain ⟨_, _, rfl⟩ := putVm_eq_ok.1 performed
      exact { orderly with
        numbered := orderly.numbered.of_same rfl rfl (Nat.le_refl _)
        vms := SortedMap.forall_insert orderly.vms ⟨rfl, rfl, single⟩ }
  | tagVm place name tags =>
      obtain ⟨after, tagged, done⟩ := map_eq_ok.1 performed
      cases done
      obtain ⟨vm, found, rfl⟩ := exists_of_tagVm tagged
      exact { orderly with
        numbered := orderly.numbered.of_same rfl rfl (Nat.le_refl _)
        vms := SortedMap.forall_insert orderly.vms (orderly.vms _ vm found) }
  | tagDisk place name tags =>
      obtain ⟨after, tagged, done⟩ := map_eq_ok.1 performed
      cases done
      obtain ⟨disk, found, rfl⟩ := exists_of_tagDisk tagged
      exact { orderly with
        numbered := orderly.numbered.of_same rfl rfl (Nat.le_refl _) }
  | deletePublicIp => exact Backend.perform_removal .publicIp performed ▸ orderly.without _ _
  | deleteNic => exact Backend.perform_removal .nic performed ▸ orderly.without _ _
  | deleteDisk => exact Backend.perform_removal .disks performed ▸ orderly.without _ _
  | deleteVm => exact Backend.perform_removal .vm performed ▸ orderly.without _ _
  | getPublicIp | listPublicIps | getNic | listNics | getVm | listAllVms | listVms | instanceView
  | listDisks | getVirtualNetwork | getSubnet | listVmSkus | checkImage =>
      exact Backend.perform_of_read rfl performed ▸ orderly

end Resources.Orderly

/-- The addresses of an interface are the private ones of its configurations and the public ones
that are attached. -/
theorem NetworkInterface.addresses_perm (r : Resources) (group : String) (nic : NetworkInterface) :
    (nic.addresses r group).Perm
      (nic.ipConfigurations.map (fun c => (c.properties.privateAddress, .internal)) ++
        nic.publicAddressIds.map fun id => (r.publicText group id, .external)) := by
  rw [addresses, publicAddressIds]
  induction nic.ipConfigurations with
  | nil => exact .refl _
  | cons c rest ih =>
      rw [List.flatMap_cons, List.map_cons, IpConfiguration.addresses, List.cons_append,
        List.cons_append]
      refine List.Perm.cons _ ((ih.append_left _).trans ?_)
      cases attached : c.publicAddressId? with
      | none =>
          rw [List.filterMap_cons_none attached]
          exact .refl _
      | some id =>
          rw [List.filterMap_cons_some attached, Option.toList_some, List.map_singleton,
            List.singleton_append, List.map_cons]
          exact List.perm_middle.symm

/-- Addresses that were all given out, each once, are all entries of the map to which they are
added. -/
theorem Lookup.foldl_add_perm {addresses : List (Option String × AddressClass)}
    (given : ∀ address ∈ addresses, ∃ text, address.1 = some text)
    (distinct : (addresses.map (·.1)).Nodup) :
    ((addresses.foldl add ∅).toList.map fun entry => (some entry.1, entry.2)).Perm addresses := by
  have shown : addresses ∈ Set.range
      (List.map fun entry : String × AddressClass => (some entry.1, entry.2)) := by
    rw [Set.range_list_map]
    rintro ⟨_, cls⟩ member
    obtain ⟨text, rfl⟩ := given _ member
    exact ⟨(text, cls), rfl⟩
  obtain ⟨entries, rfl⟩ := shown
  rw [List.map_map] at distinct
  have keys : (entries.map (·.1)).Nodup := by
    refine List.Nodup.of_map some ?_
    rwa [List.map_map]
  rw [List.foldl_map]
  exact (SortedMap.toList_foldl_insert_perm ∅ keys).map _

/-- An instance shows a virtual machine under its name: it has one entry for the private address of
each configuration of the interface, one for each public address that is attached, and no other
one. -/
structure Resources.Portrays (r : Resources) (group : String) (vm : VirtualMachine)
    (i : Instance) : Prop where
  stored : r.vms.get? ⟨group, i.name⟩ = some vm
  addresses : ∃ id nic, vm.interfaces.filterMap (·.id) = [id] ∧
    r.nics.get? ⟨group, Naming.nameOfId id⟩ = some nic ∧
    (i.addresses.toList.map fun entry => (some entry.1, entry.2)).Perm
      (nic.ipConfigurations.map (fun c => (c.properties.privateAddress, .internal)) ++
        nic.publicAddressIds.map fun id => (r.publicText group id, .external))

namespace Resources.Orderly

variable {group : String} {r : Resources} {b : Backend} {key : ResourceKey}
  {nic : NetworkInterface}

/-- Each configuration of an interface holds an address. -/
theorem addressAt_internal (orderly : r.Orderly group) (found : r.nics.get? key = some nic)
    {position : Nat} {c : IpConfiguration} (there : nic.ipConfigurations[position]? = some c) :
    ∃ text, c.properties.privateAddress = some text ∧
      r.addressAt (.internal key position) = some text := by
  obtain ⟨text, given⟩ := orderly.internal key nic found c (List.mem_of_getElem? there)
  refine ⟨text, given, ?_⟩
  rw [addressAt, found, Option.bind_some, privateAt, there, Option.bind_some, given]

/-- Each public address that is attached holds an address. -/
theorem exists_publicText (orderly : r.Orderly group) {place id : String}
    (present : r.publicIps.contains ⟨place, Naming.nameOfId id⟩ = true) :
    ∃ text, r.publicText place id = some text := by
  obtain ⟨address, found⟩ := SortedMap.contains_iff.1 present
  obtain ⟨text, given⟩ := orderly.external _ address found
  exact ⟨text, by rw [publicText, found, Option.bind_some, given]⟩

/-- No address of an interface is there twice. -/
theorem nodup_addresses (orderly : r.Orderly group) (found : r.nics.get? key = some nic)
    {place : String} (present : r.HasPublic place nic.publicAddressIds) :
    (nic.ipConfigurations.map (·.properties.privateAddress) ++
      nic.publicAddressIds.map (r.publicText place)).Nodup := by
  rw [List.nodup_append]
  refine ⟨?_, ?_, ?_⟩
  · rw [List.nodup_iff_getElem?_ne_getElem?]
    intro first second before inside same
    rw [List.length_map] at inside
    have one := List.getElem?_eq_getElem (Nat.lt_trans before inside)
    have other := List.getElem?_eq_getElem inside
    obtain ⟨text, given, held⟩ := orderly.addressAt_internal found one
    obtain ⟨_, also, again⟩ := orderly.addressAt_internal found other
    rw [List.getElem?_map, List.getElem?_map, one, other, Option.map_some, Option.map_some, given,
      also, Option.some.injEq, Option.some.injEq] at same
    cases same
    cases orderly.numbered.apart _ _ _ held again
    exact Nat.lt_irrefl _ before
  · have names : (nic.publicAddressIds.map (r.publicText place)) =
        (nic.publicAddressIds.map Naming.nameOfId).map
          fun name => r.addressAt (.external ⟨place, name⟩) := by
      rw [List.map_map]
      rfl
    rw [names]
    refine List.Nodup.map_on ?_ (orderly.attached key nic found)
    intro first member second _ same
    obtain ⟨id, attached, rfl⟩ := List.mem_map.1 member
    obtain ⟨text, given⟩ := orderly.exists_publicText (present id attached)
    have held : r.addressAt (.external ⟨place, Naming.nameOfId id⟩) = some text := given
    cases orderly.numbered.apart _ _ _ held (same.symm.trans held)
    rfl
  · intro one first other second same
    obtain ⟨c, member, rfl⟩ := List.mem_map.1 first
    obtain ⟨id, attached, rfl⟩ := List.mem_map.1 second
    obtain ⟨position, there⟩ := List.getElem?_of_mem member
    obtain ⟨text, given, held⟩ := orderly.addressAt_internal found there
    have also : r.addressAt (.external ⟨place, Naming.nameOfId id⟩) = some text :=
      same.symm.trans given
    cases orderly.numbered.apart _ _ _ held also

/-- What is seen of a virtual machine shows all its addresses. -/
theorem portrays {c : Config} {vm : VirtualMachine} {i : Instance}
    (orderly : b.resources.Orderly c.resourceGroup) (stored : b.resources.vms.get? key = some vm)
    (seen : b.glimpse (Lookup.instanceOf c vm).run = .ok i) :
    i.name = key.name ∧ b.resources.Portrays c.resourceGroup vm i := by
  obtain ⟨inside, named, reference, id, single, refers, known⟩ := orderly.vms key vm stored
  obtain ⟨view, nic, _, found, present, rfl⟩ :=
    (Lookup.glimpse_instanceOf_eq_ok named single refers known).1 seen
  refine ⟨rfl, ?_, id, nic, by simp [single, refers], found, ?_⟩
  · rw [← inside]
    exact stored
  · have listed := nic.addresses_perm b.resources c.resourceGroup
    refine (Lookup.foldl_add_perm ?_ ?_).trans listed
    · intro address member
      rcases List.mem_append.1 (listed.mem_iff.1 member) with internal | external
      · obtain ⟨configuration, there, rfl⟩ := List.mem_map.1 internal
        exact orderly.internal _ nic found configuration there
      · obtain ⟨attached, there, rfl⟩ := List.mem_map.1 external
        exact orderly.exists_publicText (present attached there)
    · rw [(listed.map _).nodup_iff, List.map_append, List.map_map, List.map_map]
      exact orderly.nodup_addresses found present

end Resources.Orderly

end Provisioning.Azure
