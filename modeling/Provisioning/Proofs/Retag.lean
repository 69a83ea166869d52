import Provisioning.Proofs.Layout
import Provisioning.Proofs.Reading

/-!
Resources under a new identity: the tag of the machine is replaced wherever it is, and nothing
else. Main statements: `retag_on`, that a layout under one identity, retagged, is the layout under
the other, if nothing else carries the first; `glimpse_instanceOf_retag`, that an instance is seen
as before.
-/

namespace Provisioning.Azure

namespace Naming

/-- Tags that belong to one identity, given to another. -/
def retag (old new : String) (user : Tags) : Tags := if hasUid user old then tags user new else user

@[simp] theorem tags_tags (user : Tags) (old new : String) :
    tags (tags user old) new = tags user new :=
  SortedMap.insert_insert user machineUidTag old new

@[simp] theorem retag_tags (user : Tags) (old new : String) :
    retag old new (tags user old) = tags user new := by
  rw [retag, if_pos (hasUid_tags_iff.2 rfl), tags_tags]

theorem retag_of_unmarked {user : Tags} {old : String} (unmarked : hasUid user old = false)
    (new : String) : retag old new user = user := by
  rw [retag, unmarked]
  rfl

end Naming

namespace Resources

/-- Resources with the tag of one identity replaced by that of another. -/
def retag (old new : String) (r : Resources) : Resources :=
  { r with
    publicIps := r.publicIps.mapValues fun _ address =>
      { address with tags := Naming.retag old new address.tags }
    nics := r.nics.mapValues fun _ nic => { nic with tags := Naming.retag old new nic.tags }
    vms := r.vms.mapValues fun _ vm => { vm with tags := Naming.retag old new vm.tags }
    disks := r.disks.mapValues fun _ disk =>
      { disk with tags := Naming.retag old new disk.tags } }

/-- Nothing carries the tag of an identity. -/
structure Unmarked (r : Resources) (uid : String) : Prop where
  publicIps : ∀ key address, r.publicIps.get? key = some address →
    Naming.hasUid address.tags uid = false
  nics : ∀ key nic, r.nics.get? key = some nic → Naming.hasUid nic.tags uid = false
  vms : ∀ key vm, r.vms.get? key = some vm → Naming.hasUid vm.tags uid = false
  disks : ∀ key disk, r.disks.get? key = some disk → Naming.hasUid disk.tags uid = false

theorem Unmarked.of_isEmpty {r : Resources} {uid : String} (empty : r.isEmpty = true) :
    r.Unmarked uid := by
  obtain ⟨publicIps, nics, vms, disks⟩ := isEmpty_iff.1 empty
  constructor
  · intro key address found
    cases (publicIps key).symm.trans found
  · intro key nic found
    cases (nics key).symm.trans found
  · intro key vm found
    cases (vms key).symm.trans found
  · intro key disk found
    cases (disks key).symm.trans found

end Resources

/-- The public addresses of an interface under a new identity. -/
theorem mapValues_withAddresses {c : Config} {nic : String} {dualStack : Bool}
    {address addressV6 : Option String} {old new : String}
    {publicIps : SortedMap ResourceKey PublicIpAddress}
    (unmarked : ∀ key address, publicIps.get? key = some address →
      Naming.hasUid address.tags old = false) :
    (withAddresses c nic dualStack address addressV6 old old publicIps).mapValues
        (fun _ address => { address with tags := Naming.retag old new address.tags }) =
      withAddresses c nic dualStack address addressV6 new new publicIps := by
  have same : publicIps.mapValues
      (fun _ address => { address with tags := Naming.retag old new address.tags }) = publicIps :=
    SortedMap.mapValues_eq_self fun key address found => by
      rw [Naming.retag_of_unmarked (unmarked key address found)]
  unfold withAddresses
  cases c.assignPublicIp <;> cases dualStack <;>
    simp [same, SortedMap.mapValues_insert, PublicIpAddress.stored, Desired.publicIp]

namespace Layout

variable {l : Layout} {r : Resources} {old new : String}

theorem mapValues_disks (uids others : Owned → String)
    (unmarked : ∀ key disk, r.disks.get? key = some disk → Naming.hasUid disk.tags old = false)
    (first : uids .disks = old) (last : others .disks = new) :
    (l.disks r uids).mapValues
        (fun _ disk => { disk with tags := Naming.retag old new disk.tags }) =
      l.disks r others := by
  apply SortedMap.ext_get?
  intro key
  rw [SortedMap.get?_mapValues, get?_disks, get?_disks, first, last]
  cases found : r.disks.get? key with
  | some disk => simp [Naming.retag_of_unmarked (unmarked key disk found)]
  | none =>
      rw [Option.none_or, Option.none_or]
      split <;> simp [disk]

/-- A layout under one identity, retagged, is the layout under the other. -/
theorem retag_on (unmarked : r.Unmarked old) :
    (l.on r fun _ => old).retag old new = l.on r fun _ => new := by
  have nics : r.nics.mapValues
      (fun _ nic => { nic with tags := Naming.retag old new nic.tags }) = r.nics :=
    SortedMap.mapValues_eq_self fun key nic found => by
      rw [Naming.retag_of_unmarked (unmarked.nics key nic found)]
  have vms : r.vms.mapValues
      (fun _ vm => { vm with tags := Naming.retag old new vm.tags }) = r.vms :=
    SortedMap.mapValues_eq_self fun key vm found => by
      rw [Naming.retag_of_unmarked (unmarked.vms key vm found)]
  rw [Resources.retag, Resources.mk.injEq]
  refine ⟨mapValues_withAddresses unmarked.publicIps, ?_, ?_, rfl,
    mapValues_disks (fun _ => old) (fun _ => new) unmarked.disks rfl rfl, rfl⟩
  · rw [on, SortedMap.mapValues_insert, nics]
    exact congrArg (fun tags => r.nics.insert (l.keyOf l.nicName)
      { (l.nicBody old).stored (l.keyOf l.nicName) l.privates with tags })
      (Naming.retag_tags l.config.tags old new)
  · rw [on, SortedMap.mapValues_insert, vms]
    exact congrArg (fun tags => r.vms.insert (l.keyOf l.name)
      { (l.vmBody old).stored (l.keyOf l.name) with tags })
      (Naming.retag_tags l.config.tags old new)

end Layout

theorem Resources.look_mapValues {ν : Type} (kind : String) (m : SortedMap ResourceKey ν)
    (change : ResourceKey → ν → ν) (key : ResourceKey) :
    look kind (m.mapValues change) key = (look kind m key).map (change key) := by
  rw [look, look, SortedMap.get?_mapValues]
  cases m.get? key <;> rfl

/-- A backend whose resources have the tag of one identity replaced by that of another. -/
def Backend.retag (old new : String) (b : Backend) : Backend :=
  { b with resources := b.resources.retag old new }

namespace Lookup

variable (b : Backend) (old new : String) (c : Config)

/-- The addresses of configurations do not depend on tags. -/
theorem glimpse_configurationAddresses_retag (found : Addresses)
    (configurations : List IpConfiguration) :
    (b.retag old new).glimpse (configurationAddresses c found configurations).run =
      b.glimpse (configurationAddresses c found configurations).run := by
  induction configurations generalizing found with
  | nil => rfl
  | cons configuration rest ih =>
      rw [configurationAddresses]
      split
      · exact ih _
      · rename_i id _
        rw [Backend.glimpse_bind, Backend.glimpse_bind, Backend.glimpse_ofCall,
          Backend.glimpse_ofCall]
        change Except.bind (((Resources.look _ (b.resources.publicIps.mapValues _) _).map _).map _)
          _ = Except.bind (((Resources.look _ b.resources.publicIps _).map _).map _) _
        rw [Resources.look_mapValues]
        cases Resources.look "public IP" b.resources.publicIps
          ⟨c.resourceGroup, Naming.nameOfId id⟩ with
        | error fault => rfl
        | ok address => exact ih _

theorem glimpse_interfaceAddresses_retag (found : Addresses) (number : Nat)
    (references : List InterfaceReference) :
    (b.retag old new).glimpse (interfaceAddresses c found number references).run =
      b.glimpse (interfaceAddresses c found number references).run := by
  induction references generalizing found number with
  | nil => rfl
  | cons reference rest ih =>
      rw [interfaceAddresses]
      split
      · rfl
      · rw [Backend.glimpse_bind, Backend.glimpse_bind, Backend.glimpse_ofCall,
          Backend.glimpse_ofCall]
        change Except.bind (((Resources.look _ (b.resources.nics.mapValues _) _).map _).map _)
          _ = Except.bind (((Resources.look _ b.resources.nics _).map _).map _) _
        rw [Resources.look_mapValues]
        cases Resources.look "network interface" b.resources.nics
          ⟨c.resourceGroup, Naming.nameOfId (reference.id.getD "")⟩ with
        | error fault => rfl
        | ok nic =>
            change (b.retag old new).glimpse
                (configurationAddresses c found nic.ipConfigurations >>= fun found =>
                  interfaceAddresses c found (number + 1) rest : Action Addresses).run =
              b.glimpse (configurationAddresses c found nic.ipConfigurations >>= fun found =>
                interfaceAddresses c found (number + 1) rest : Action Addresses).run
            rw [Backend.glimpse_bind, Backend.glimpse_bind,
              glimpse_configurationAddresses_retag]
            congr 1
            funext found
            exact ih found _

/-- An instance is seen as before. -/
theorem glimpse_instanceOf_retag (vm : VirtualMachine) :
    (b.retag old new).glimpse (instanceOf c vm).run = b.glimpse (instanceOf c vm).run := by
  have addresses : (b.retag old new).glimpse (addresses c vm).run =
      b.glimpse (addresses c vm).run := by
    unfold Lookup.addresses
    split
    · rfl
    · exact glimpse_interfaceAddresses_retag b old new c ∅ 0 _
  have view (key : ResourceKey) :
      (b.resources.retag old new).instanceView key = b.resources.instanceView key := by
    simp [Resources.instanceView, Resources.retag]
  have viewed (name : String) : (b.retag old new).glimpse
        (Action.call c (.instanceView c.resourceGroup name)).run =
      b.glimpse (Action.call c (.instanceView c.resourceGroup name)).run := by
    rw [Backend.glimpse_ofCall, Backend.glimpse_ofCall]
    change (((b.resources.retag old new).instanceView _).map _).map _ =
      ((b.resources.instanceView _).map _).map _
    rw [view]
    cases b.resources.instanceView ⟨c.resourceGroup, name⟩ <;> rfl
  unfold instanceOf
  split
  · rfl
  · rw [instanceNamed, Backend.glimpse_bind, Backend.glimpse_bind,
      Backend.glimpse_context _ _ (.ofCall c rfl), Backend.glimpse_context _ _ (.ofCall c rfl),
      viewed]
    congr 1
    funext view
    rw [Backend.glimpse_bind, Backend.glimpse_bind,
      Backend.glimpse_context _ _ (addresses_reading c vm),
      Backend.glimpse_context _ _ (addresses_reading c vm), addresses]
    rfl

/-- The virtual machine with a tag is the first one in the listing of all. -/
theorem glimpse_vm (uid : String) : b.glimpse (vm c uid).run =
    match b.resources.vms.values.find? fun vm => Naming.hasUid vm.tags uid with
    | some found => .ok found
    | none => .error (.cloud .instanceNotFound) := by
  rw [vm, Backend.glimpse_bind, Backend.glimpse_ofCall]
  change b.glimpse (match b.resources.vms.values.find? fun vm => Naming.hasUid vm.tags uid with
    | some found => pure found
    | none => throw (.cloud .instanceNotFound) : Action VirtualMachine).run = _
  split <;> rfl

end Lookup

namespace Layout

variable {l : Layout} {r : Resources} {b : Backend} {uid : String}

/-- The machine is found by its tag, if no other virtual machine carries it. -/
theorem glimpse_vm_of_only (only : ∀ key, key ≠ l.keyOf l.name → ∀ vm,
    r.vms.get? key = some vm → Naming.hasUid vm.tags uid = false)
    (shown : b.resources = l.on r fun _ => uid) :
    b.glimpse (Lookup.vm l.config uid).run = .ok ((l.vmBody uid).stored (l.keyOf l.name)) := by
  have found : (l.on r fun _ => uid).vms.get? (l.keyOf l.name) =
      some ((l.vmBody uid).stored (l.keyOf l.name)) := by
    simp [on]
  have marked : Naming.hasUid ((l.vmBody uid).stored (l.keyOf l.name)).tags uid = true :=
    Naming.hasUid_tags_iff.2 rfl
  have first := SortedMap.find?_values (p := fun vm => Naming.hasUid vm.tags uid) found marked
    fun other apart vm stored => by
      rw [on, SortedMap.get?_insert, if_neg apart.symm] at stored
      exact only other apart vm stored
  rw [Lookup.glimpse_vm, shown, first]

/-- The machine is found by its tag, if nothing else carries it. -/
theorem glimpse_vm (unmarked : r.Unmarked uid) (shown : b.resources = l.on r fun _ => uid) :
    b.glimpse (Lookup.vm l.config uid).run = .ok ((l.vmBody uid).stored (l.keyOf l.name)) :=
  glimpse_vm_of_only (fun key _ vm stored => unmarked.vms key vm stored) shown

/-- Nobody is found by a tag that nothing carries. -/
theorem glimpse_vm_of_ne {old : String} (unmarked : r.Unmarked old) (different : uid ≠ old)
    (shown : b.resources = l.on r fun _ => uid) :
    b.glimpse (Lookup.vm l.config old).run = .error (.cloud .instanceNotFound) := by
  have absent : (l.on r fun _ => uid).vms.values.find? (fun vm => Naming.hasUid vm.tags old) =
      none := by
    refine List.find?_eq_none.2 fun vm listed => ?_
    obtain ⟨key, stored⟩ := SortedMap.mem_values_iff.1 listed
    rw [on, SortedMap.get?_insert] at stored
    split at stored
    · cases stored
      exact fun marked => different (Naming.hasUid_tags_iff.1 marked)
    · simp [unmarked.vms key vm stored]
  rw [Lookup.glimpse_vm, shown, absent]

/-- What a creation reads back is the instance of the machine. -/
theorem glimpse_readBack (shown : b.resources = l.on r fun _ => uid) :
    b.glimpse (Create.readBack l.config l.name).run =
      b.glimpse (Lookup.instanceOf l.config ((l.vmBody uid).stored (l.keyOf l.name))).run := by
  have found : b.resources.vms.get? ⟨l.config.resourceGroup, l.name⟩ =
      some ((l.vmBody uid).stored (l.keyOf l.name)) := by
    rw [shown]
    simp [on, keyOf]
  rw [Create.readBack, Backend.glimpse_bind, Backend.glimpse_context _ _ (.ofCall l.config rfl),
    Backend.glimpse_ofCall, Backend.perform, Resources.look, found]
  rfl

end Layout

end Provisioning.Azure
