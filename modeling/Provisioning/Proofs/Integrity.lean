import Provisioning.Proofs.Ownership

/-!
What resources refer to is there. An address that is attached to an interface, an interface of a
virtual machine and a virtual machine with a disk cannot be deleted while they are referred to,
whatever is asked for in whichever order. `Resources.Intact` says so, `Resources.Intact.perform`
that calls keep it. Main statement: `intact_of_events`.
-/

namespace Provisioning

namespace Azure

namespace Resources

/-- What stands in the middle of a text occurs in it. -/
theorem occursIn_append (front part back : List Char) :
    occursIn part (front ++ (part ++ back)) = true := by
  induction front with
  | nil =>
      cases whole : part ++ back with
      | nil =>
          have none := (List.append_eq_nil_iff.1 whole).1
          simp [none, occursIn]
      | cons c rest =>
          have first : part.isPrefixOf (c :: rest) = true := by
            rw [← whole]
            exact List.isPrefixOf_iff_prefix.2 (List.prefix_append part back)
          simp [occursIn, first]
  | cons c front ih => simp [occursIn, ih]

/-- What stands in the middle of a text occurs in it, whatever the case of its letters. -/
theorem occursIn_lower (front rest back : String) {part middle : String}
    (same : part.toList.map Char.toLower = middle.toList.map Char.toLower) :
    occursIn ((part ++ rest).toList.map Char.toLower)
      ((front ++ ((middle ++ rest) ++ back)).toList.map Char.toLower) = true := by
  simp only [String.toList_append, List.map_append, same]
  exact occursIn_append _ _ _

/-- The id of a resource refers to the resource, if the name is one segment. -/
theorem refersTo_resourceId {name : String} (segment : '/' ∉ name.toList) (kind group : String) :
    refersTo (Naming.resourceId kind subscription group name) ⟨group, name⟩ = true := by
  have named : Naming.nameOfId (Naming.resourceId kind subscription group name) = name :=
    Naming.nameOfId_resourceId segment kind subscription group
  have slash (rest : String) : "/providers/" ++ rest = "/" ++ ("providers/" ++ rest) :=
    (congrArg (· ++ rest) (by decide)).trans String.append_assoc
  have text : Naming.resourceId kind subscription group name =
      ("/subscriptions/" ++ subscription) ++ (("/resourceGroups/" ++ (group ++ "/")) ++
        ("providers/" ++ (kind ++ ("/" ++ name)))) := by
    change "/subscriptions/" ++ subscription ++ "/resourceGroups/" ++ group ++ "/providers/" ++
      kind ++ "/" ++ name = _
    simp only [String.append_assoc]
    exact congrArg (fun last => "/subscriptions/" ++ (subscription ++ ("/resourceGroups/" ++
      (group ++ last)))) (slash _)
  have folded : "/resourcegroups/".toList.map Char.toLower =
      "/resourceGroups/".toList.map Char.toLower := by decide
  rw [refersTo, named, beq_self_eq_true, Bool.true_and, text, String.append_assoc]
  exact occursIn_lower _ _ _ folded

end Resources

/-- An id of a resource of a group, whose name is one segment of it. -/
structure Naming.Names (idOf : (subscription group name : String) → String) (group id : String)
    (name : String) : Prop where
  segment : '/' ∉ name.toList
  id : id = idOf Resources.subscription group name

/-- What is named is found by the last segment of the id. -/
theorem Naming.Names.nameOfId {kind group id name : String}
    (names : Names (resourceId kind) group id name) : nameOfId id = name :=
  names.id ▸ nameOfId_resourceId names.segment kind Resources.subscription group

theorem Naming.Names.refersTo {kind group id name : String}
    (names : Names (resourceId kind) group id name) :
    Resources.refersTo id ⟨group, name⟩ = true :=
  names.id ▸ Resources.refersTo_resourceId names.segment kind group

/-- A deletion that succeeds deletes what nothing refers to. -/
theorem Backend.not_blocks_of_perform {b : Backend} {group name : String} (kind : Owned)
    {value : (kind.removal group name).Value} {next : Resources}
    (performed : b.perform (kind.removal group name) = .ok (value, next)) (user : ResourceKey) :
    ¬b.resources.Blocks ⟨group, name⟩ user kind := by
  intro blocks
  cases kind with
  | vm => exact blocks
  | publicIp | publicIpv6 =>
      obtain ⟨nic, stored, id, attached, refers⟩ := blocks
      obtain ⟨after, deleted, _⟩ := map_eq_ok.1 performed
      unfold Resources.deletePublicIp Resources.publicIpUser? at deleted
      split at deleted
      · cases deleted
      · rename_i unused
        have absent := List.find?_eq_none.1 (Option.map_eq_none_iff.1 unused) nic
          (SortedMap.mem_values_iff.2 ⟨user, stored⟩)
        exact absent (List.any_eq_true.2 ⟨id, attached, refers⟩)
  | nic =>
      obtain ⟨vm, stored, id, attached, refers⟩ := blocks
      obtain ⟨after, deleted, _⟩ := map_eq_ok.1 performed
      unfold Resources.deleteNic Resources.nicUser? at deleted
      split at deleted
      · cases deleted
      · rename_i unused
        have absent := List.find?_eq_none.1 (Option.map_eq_none_iff.1 unused) vm
          (SortedMap.mem_values_iff.2 ⟨user, stored⟩)
        exact absent (List.any_eq_true.2 ⟨id, attached, refers⟩)
  | disks =>
      obtain ⟨disk, stored, managed⟩ := blocks
      obtain ⟨after, deleted, _⟩ := map_eq_ok.1 performed
      unfold Resources.deleteDisk at deleted
      rw [stored, Option.bind_some, managed] at deleted
      cases deleted

/-- A disk keeps its id when a virtual machine is deleted. -/
theorem Resources.id_of_deleteVm {r : Resources} {deleted key : ResourceKey} {disk : Disk}
    (found : (r.deleteVm deleted).disks.get? key = some disk) :
    ∃ earlier, r.disks.get? key = some earlier ∧ disk.id = earlier.id := by
  simp only [deleteVm] at found
  split at found
  · rw [SortedMap.get?_mapValues] at found
    obtain ⟨earlier, stored, rfl⟩ := Option.map_eq_some_iff.1 found
    refine ⟨earlier, stored, ?_⟩
    unfold detach
    split <;> rfl
  · exact ⟨disk, found, rfl⟩

/-- Everything is stored under its own name and with the id of its key, and everything that is
referred to is there. -/
structure Resources.Intact (r : Resources) : Prop where
  filed : r.Filed
  publicIpIds : ∀ key address, r.publicIps.get? key = some address →
    address.id = some (Naming.publicIpId subscription key.group key.name)
  nicIds : ∀ key nic, r.nics.get? key = some nic →
    nic.id = some (Naming.nicId subscription key.group key.name)
  vmIds : ∀ key vm, r.vms.get? key = some vm →
    vm.id = some (Naming.vmId subscription key.group key.name)
  diskIds : ∀ key disk, r.disks.get? key = some disk →
    disk.id = some (Naming.diskId subscription key.group key.name)
  /-- The public addresses of an interface are there. -/
  addresses : ∀ key nic, r.nics.get? key = some nic → ∀ id ∈ nic.publicAddressIds,
    ∃ name, Naming.Names Naming.publicIpId key.group id name ∧
      r.publicIps.contains ⟨key.group, name⟩ = true
  /-- The interfaces of a virtual machine are there. -/
  interfaces : ∀ key vm, r.vms.get? key = some vm → ∀ id ∈ vm.interfaces.filterMap (·.id),
    ∃ name, Naming.Names Naming.nicId key.group id name ∧
      r.nics.contains ⟨key.group, name⟩ = true
  /-- The virtual machine with a disk is there. -/
  owners : ∀ key disk owner, r.disks.get? key = some disk → disk.managedBy = some owner →
    ∃ vm, r.vms.contains vm = true ∧ owner = Naming.vmId subscription vm.group vm.name
  /-- A virtual machine has a view. -/
  views : ∀ key vm, r.vms.get? key = some vm → r.views.contains key = true

/-- What a put refers to is named by the ids that the backend gives in the group of the call. -/
def Call.Refers : Call → Prop
  | putNic group _ body =>
      ∀ id ∈ body.publicAddressIds, ∃ name, Naming.Names Naming.publicIpId group id name
  | putVm group _ body =>
      ∀ id ∈ body.interfaces.filterMap (·.id), ∃ name, Naming.Names Naming.nicId group id name
  | _ => True

namespace Resources.Intact

variable {b : Backend} {r : Resources} {group name : String}

theorem of_isEmpty (empty : r.isEmpty = true) : r.Intact := by
  obtain ⟨publicIps, nics, vms, disks⟩ := isEmpty_iff.1 empty
  have filed : r.Filed := by constructor <;> simp [publicIps, nics, vms, disks]
  constructor <;> simp [filed, publicIps, nics, vms, disks]

theorem putPublicIp (intact : b.resources.Intact) {body value : PublicIpAddress} {next : Resources}
    (performed : b.perform (.putPublicIp group name body) = .ok (value, next)) : next.Intact := by
  have filed := intact.filed.perform performed
  obtain ⟨address, count, _, rfl⟩ := Call.exists_of_putPublicIp performed
  refine { intact with
    filed
    publicIpIds := SortedMap.forall_insert intact.publicIpIds rfl
    addresses := ?_ }
  intro key nic found id attached
  obtain ⟨target, names, present⟩ := intact.addresses key nic found id attached
  exact ⟨target, names, SortedMap.contains_insert_of present _ _⟩

/-- An interface is stored only if its public addresses are there. -/
theorem putNic (intact : b.resources.Intact) {body value : NetworkInterface} {next : Resources}
    (refers : (Call.putNic group name body).Refers)
    (performed : b.perform (.putNic group name body) = .ok (value, next)) : next.Intact := by
  have filed := intact.filed.perform performed
  obtain ⟨present, addresses, total, _, _, rfl⟩ := Resources.putNic_eq_ok performed
  refine { intact with
    filed
    nicIds := SortedMap.forall_insert intact.nicIds rfl
    addresses := SortedMap.forall_insert intact.addresses ?_
    interfaces := ?_ }
  · intro id attached
    have own := NetworkInterface.mem_publicAddressIds_stored attached
    obtain ⟨target, names⟩ := refers id own
    exact ⟨target, names, names.nameOfId ▸ present id own⟩
  · intro key vm found id attached
    obtain ⟨target, names, there⟩ := intact.interfaces key vm found id attached
    exact ⟨target, names, SortedMap.contains_insert_of there _ _⟩

/-- A virtual machine is stored only if its interfaces are there, with its disks and a view. -/
theorem putVm (intact : b.resources.Intact) {body value : VirtualMachine} {next : Resources}
    (refers : (Call.putVm group name body).Refers)
    (performed : b.perform (.putVm group name body) = .ok (value, next)) : next.Intact := by
  have filed := intact.filed.perform performed
  obtain ⟨present, _, rfl⟩ := Resources.putVm_eq_ok.1 performed
  -- A disk was there, or it is one of the machine's own.
  have either {key : ResourceKey} {disk : Disk}
      (found : (b.resources.withVm ⟨group, name⟩ body).disks.get? key = some disk) :
      b.resources.disks.get? key = some disk ∨
        disk.id = some (Naming.diskId subscription key.group key.name) ∧
        disk.managedBy = some (Naming.vmId subscription group name) := by
    rw [Resources.withVm, get?_addDisks] at found
    rcases Option.or_eq_some_iff.1 found with earlier | ⟨_, added⟩
    · exact .inl earlier
    · split at added
      · rename_i place
        cases added
        exact .inr ⟨congrArg (fun g => some (Naming.diskId subscription g key.name)) place.1.symm,
          rfl⟩
      · cases added
  refine { intact with
    filed
    vmIds := SortedMap.forall_insert intact.vmIds rfl
    diskIds := ?_
    interfaces := SortedMap.forall_insert intact.interfaces ?_
    owners := ?_
    views := ?_ }
  · intro key disk found
    rcases either found with earlier | ⟨id, _⟩
    · exact intact.diskIds key disk earlier
    · exact id
  · intro id attached
    obtain ⟨target, names⟩ := refers id attached
    obtain ⟨reference, member, own⟩ := List.mem_filterMap.1 attached
    have there := present reference member
    rw [own, Option.getD_some, names.nameOfId] at there
    exact ⟨target, names, there⟩
  · intro key disk owner found managed
    rcases either found with earlier | ⟨_, own⟩
    · obtain ⟨vm, there, id⟩ := intact.owners key disk owner earlier managed
      exact ⟨vm, SortedMap.contains_insert_of there _ _, id⟩
    · rw [own] at managed
      exact ⟨⟨group, name⟩, by simp [Resources.withVm], (Option.some.inj managed).symm⟩
  · intro key vm found
    rcases SortedMap.get?_of_insert found with ⟨same, _⟩ | ⟨_, earlier⟩
    · simp only [Resources.withVm, same]
      split <;> simp [*]
    · have viewed := intact.views key vm earlier
      simp only [Resources.withVm]
      split
      · exact viewed
      · exact SortedMap.contains_insert_of viewed _ _

theorem tagVm (intact : b.resources.Intact) {tags : Tags}
    {value : (Call.tagVm group name tags).Value} {next : Resources}
    (performed : b.perform (.tagVm group name tags) = .ok (value, next)) : next.Intact := by
  have filed := intact.filed.perform performed
  obtain ⟨_, tagged, same⟩ := map_eq_ok.1 performed
  cases same
  obtain ⟨vm, found, rfl⟩ := exists_of_tagVm tagged
  have id := intact.vmIds _ vm found
  have interfaces := intact.interfaces _ vm found
  have viewed := intact.views _ vm found
  refine { intact with
    filed
    vmIds := SortedMap.forall_insert intact.vmIds id
    interfaces := SortedMap.forall_insert intact.interfaces interfaces
    owners := ?_
    views := SortedMap.forall_insert intact.views viewed }
  intro key disk owner stored managed
  obtain ⟨vm, there, own⟩ := intact.owners key disk owner stored managed
  exact ⟨vm, SortedMap.contains_insert_of there _ _, own⟩

theorem tagDisk (intact : b.resources.Intact) {tags : Tags}
    {value : (Call.tagDisk group name tags).Value} {next : Resources}
    (performed : b.perform (.tagDisk group name tags) = .ok (value, next)) : next.Intact := by
  have filed := intact.filed.perform performed
  obtain ⟨_, tagged, same⟩ := map_eq_ok.1 performed
  cases same
  obtain ⟨disk, found, rfl⟩ := exists_of_tagDisk tagged
  have id := intact.diskIds _ disk found
  have owners owner := intact.owners _ disk owner found
  refine { intact with
    filed
    diskIds := SortedMap.forall_insert intact.diskIds id
    owners := ?_ }
  intro key stored owner entry managed
  rcases SortedMap.get?_of_insert entry with ⟨_, rfl⟩ | ⟨_, earlier⟩
  · exact owners owner managed
  · exact intact.owners key stored owner earlier managed

/-- What nothing refers to can go. -/
theorem without (intact : r.Intact) {key : ResourceKey} {kind : Owned}
    (free : ∀ user, ¬r.Blocks key user kind) : (r.without key kind).Intact := by
  have filed : (r.without key kind).Filed := intact.filed.without kind
  cases kind with
  | publicIp | publicIpv6 =>
      refine { intact with
        filed
        publicIpIds := SortedMap.forall_erase intact.publicIpIds key
        addresses := ?_ }
      intro user nic found id attached
      obtain ⟨name, names, there⟩ := intact.addresses user nic found id attached
      have different : key ≠ ⟨user.group, name⟩ := by
        rintro rfl
        exact free user ⟨nic, found, id, attached, names.refersTo⟩
      exact ⟨name, names, SortedMap.contains_erase_of_ne there different⟩
  | nic =>
      refine { intact with
        filed
        nicIds := SortedMap.forall_erase intact.nicIds key
        addresses := SortedMap.forall_erase intact.addresses key
        interfaces := ?_ }
      intro user vm found id attached
      obtain ⟨name, names, there⟩ := intact.interfaces user vm found id attached
      have different : key ≠ ⟨user.group, name⟩ := by
        rintro rfl
        exact free user ⟨vm, found, id, attached, names.refersTo⟩
      exact ⟨name, names, SortedMap.contains_erase_of_ne there different⟩
  | disks =>
      refine { intact with
        filed
        diskIds := SortedMap.forall_erase intact.diskIds key
        owners := ?_ }
      intro other disk owner found
      exact intact.owners other disk owner (SortedMap.get?_of_erase found).2
  | vm =>
      refine { intact with
        filed
        vmIds := SortedMap.forall_erase intact.vmIds key
        diskIds := ?_
        interfaces := SortedMap.forall_erase intact.interfaces key
        owners := ?_
        views := ?_ }
      · intro other disk found
        obtain ⟨earlier, stored, same⟩ := id_of_deleteVm found
        exact same ▸ intact.diskIds other earlier stored
      · intro other disk owner found managed
        obtain ⟨earlier, stored, _, _, kept⟩ := disk_of_deleteVm found
        obtain ⟨before, elsewhere⟩ := kept owner managed
        obtain ⟨vm, there, own⟩ := intact.owners other earlier owner stored before
        -- The disks of the machine that goes are detached.
        have different : key ≠ vm := by
          rintro rfl
          exact elsewhere there own
        exact ⟨vm, SortedMap.contains_erase_of_ne there different, own⟩
      · intro other vm found
        obtain ⟨different, earlier⟩ := SortedMap.get?_of_erase found
        exact SortedMap.contains_erase_of_ne (intact.views other vm earlier) different

/-- A call that refers to what the backend gave leaves nothing dangling. -/
theorem perform {what : Call} {value : what.Value} {next : Resources}
    (intact : b.resources.Intact) (refers : what.Refers)
    (performed : b.perform what = .ok (value, next)) : next.Intact := by
  cases what with
  | putPublicIp group name body => exact intact.putPublicIp performed
  | putNic group name body => exact intact.putNic refers performed
  | putVm group name body => exact intact.putVm refers performed
  | tagVm group name tags => exact intact.tagVm performed
  | tagDisk group name tags => exact intact.tagDisk performed
  | deletePublicIp group name =>
      exact Backend.perform_removal .publicIp performed ▸
        intact.without (Backend.not_blocks_of_perform .publicIp performed)
  | deleteNic group name =>
      exact Backend.perform_removal .nic performed ▸
        intact.without (Backend.not_blocks_of_perform .nic performed)
  | deleteDisk group name =>
      exact Backend.perform_removal .disks performed ▸
        intact.without (Backend.not_blocks_of_perform .disks performed)
  | deleteVm group name =>
      exact Backend.perform_removal .vm performed ▸
        intact.without (Backend.not_blocks_of_perform .vm performed)
  | getPublicIp | listPublicIps | getNic | listNics | getVm | listAllVms | listVms | instanceView
  | listDisks | getVirtualNetwork | getSubnet | listVmSkus | checkImage =>
      exact Backend.perform_of_read rfl performed ▸ intact

end Resources.Intact

/-- A call is performed, or it fails and leaves the resources as they were. -/
theorem Backend.serve_cases (b : Backend) (what : Call) :
    (∃ value, b.perform what = .ok (value, (b.serve what).2.resources)) ∨
      ∃ fault, (b.serve what).1 = .error fault ∧ (b.serve what).2.resources = b.resources := by
  cases answer : (b.serve what).1 with
  | error fault => exact .inr ⟨fault, rfl, Backend.serve_resources_of_error answer⟩
  | ok value =>
      unfold serve at answer ⊢
      cases placed : b.faults.get? what.operation with
      | some fault => simp [placed] at answer
      | none =>
          cases outcome : b.perform what with
          | error fault => simp [placed, outcome] at answer
          | ok performed => exact .inl ⟨performed.1, rfl⟩

/-- What can happen to a backend. -/
inductive Backend.Event where
  | call (what : Call)
  | fault (operation : String) (fault : AzureError)
  | view (key : ResourceKey) (view : InstanceView)

/-- A backend after something has happened to it. -/
def Backend.after (b : Backend) : Event → Backend
  | .call what => (b.serve what).2
  | .fault operation fault => b.failNext operation fault
  | .view key view => b.setView key view

/-- Calls of an event refer to nothing but what is named by the backend's ids. -/
def Backend.Event.Refers : Event → Prop
  | .call what => what.Refers
  | _ => True

/-- Whatever happens to a backend, what its resources refer to stays there. -/
theorem Resources.Intact.after {b : Backend} (intact : b.resources.Intact) {event : Backend.Event}
    (refers : event.Refers) : (b.after event).resources.Intact := by
  cases event with
  | fault operation fault => exact intact
  | view key view =>
      obtain ⟨publicIps, nics, vms, disks⟩ := intact.filed
      exact { intact with
        filed := ⟨publicIps, nics, vms, disks⟩
        views := fun other vm found =>
          SortedMap.contains_insert_of (intact.views other vm found) key view }
  | call what =>
      rcases b.serve_cases what with ⟨value, performed⟩ | ⟨fault, _, same⟩
      · exact intact.perform refers performed
      · exact (congrArg Resources.Intact same).mpr intact

theorem Resources.Intact.foldl_after {b : Backend} (intact : b.resources.Intact)
    {events : List Backend.Event} (refers : ∀ event ∈ events, event.Refers) :
    (events.foldl Backend.after b).resources.Intact := by
  induction events generalizing b with
  | nil => exact intact
  | cons event rest ih =>
      have first := intact.after (refers event List.mem_cons_self)
      exact ih first fun other member => refers other (List.mem_cons_of_mem event member)

/-- Calls in any order, with faults in between, leave a backend that began with no resources with
everything under its own name and id and with everything that is referred to; and a call that then
fails changes no resource. -/
theorem intact_of_events {b : Backend} (empty : b.resources.isEmpty = true)
    {events : List Backend.Event} (refers : ∀ event ∈ events, event.Refers) :
    (events.foldl Backend.after b).resources.Intact ∧
      ∀ (what : Call) (fault : AzureError),
        ((events.foldl Backend.after b).serve what).1 = .error fault →
        ((events.foldl Backend.after b).serve what).2.resources =
          (events.foldl Backend.after b).resources := by
  have intact := (Resources.Intact.of_isEmpty empty).foldl_after refers
  exact ⟨intact, fun what fault failed => Backend.serve_resources_of_error failed⟩

namespace Sample

/-- An interface with a public address. -/
def attachedNic : NetworkInterface :=
  ⟨none, none, none, ∅, ⟨[⟨none, some "first", { IpConfigurationProperties.empty with
    publicAddress := some ⟨some (Naming.publicIpId Resources.subscription "rg" "pip")⟩ }⟩],
    none, none⟩⟩

/-- A virtual machine with an interface. -/
def attachedVm : VirtualMachine :=
  ⟨none, none, none, ∅, none, [], { VirtualMachineProperties.empty with
    networkProfile := some ⟨[⟨some (Naming.nicId Resources.subscription "rg" "nic"), none⟩]⟩ }⟩

/-- An address, an interface and a virtual machine are put. The address is in use, and the machine
cannot be deleted at first; then it goes, and its disk is left. -/
def attachment : List Backend.Event :=
  [.call (.putPublicIp "rg" "pip" ⟨none, none, none, ∅, none, .empty⟩),
    .call (.putNic "rg" "nic" attachedNic),
    .call (.putVm "rg" "vm" attachedVm),
    .call (.deletePublicIp "RG" "pip"),
    .fault "delete_vm" (.api 500 "InternalError" "boom"),
    .call (.deleteVm "rg" "vm"),
    .call (.putVm "rg" "other" attachedVm),
    .call (.deleteVm "rg" "vm"),
    .call (.deleteNic "rg" "nic")]

def attached : Backend := attachment.foldl Backend.after .empty

end Sample

/-- The machine is gone, and its disk is left without it. Another machine still has the interface
and the interface its address, which is refused to be deleted. -/
theorem intact_of_events_attached :
    Backend.empty.resources.isEmpty = true ∧ (∀ event ∈ Sample.attachment, event.Refers) ∧
    Sample.attached.resources.vms.keys = [⟨"rg", "other"⟩] ∧
    (Sample.attached.resources.disks.get? ⟨"rg", "vm_OsDisk_1"⟩).map (·.managedBy) = some none ∧
    Sample.attached.resources.nics.keys = [⟨"rg", "nic"⟩] ∧
    Sample.attached.resources.Intact ∧
    ∃ fault, (Sample.attached.serve (.deletePublicIp "RG" "pip")).1 = .error fault ∧
      (Sample.attached.serve (.deletePublicIp "RG" "pip")).2.resources =
        Sample.attached.resources := by
  have nic : (Call.putNic "rg" "nic" Sample.attachedNic).Refers := by
    intro id attached
    cases List.mem_singleton.1 attached
    exact ⟨"pip", by decide, rfl⟩
  have vm (name : String) : (Call.putVm "rg" name Sample.attachedVm).Refers := by
    intro id attached
    cases List.mem_singleton.1 attached
    exact ⟨"nic", by decide, rfl⟩
  have refers : ∀ event ∈ Sample.attachment, event.Refers :=
    List.forall_mem_cons.2 ⟨trivial, List.forall_mem_cons.2 ⟨nic, List.forall_mem_cons.2 ⟨vm "vm",
      List.forall_mem_cons.2 ⟨trivial, List.forall_mem_cons.2 ⟨trivial,
      List.forall_mem_cons.2 ⟨trivial, List.forall_mem_cons.2 ⟨vm "other",
      List.forall_mem_cons.2 ⟨trivial, List.forall_mem_cons.2 ⟨trivial,
      List.forall_mem_nil _⟩⟩⟩⟩⟩⟩⟩⟩⟩
  have empty : Backend.empty.resources.isEmpty = true := rfl
  have kept : Sample.attached.resources.Intact ∧ ∀ (what : Call) (fault : AzureError),
      (Sample.attached.serve what).1 = .error fault →
      (Sample.attached.serve what).2.resources = Sample.attached.resources := by
    unfold Sample.attached
    exact intact_of_events empty refers
  have left : Sample.attached.resources.vms.keys = [⟨"rg", "other"⟩] ∧
      (Sample.attached.resources.disks.get? ⟨"rg", "vm_OsDisk_1"⟩).map (·.managedBy) = some none ∧
      Sample.attached.resources.nics.keys = [⟨"rg", "nic"⟩] ∧
      (Sample.attached.serve (.deletePublicIp "RG" "pip")).1.isOk = false := by decide +kernel
  obtain ⟨vms, disk, nics, refused⟩ := left
  refine ⟨empty, refers, vms, disk, nics, kept.1, ?_⟩
  cases answer : (Sample.attached.serve (.deletePublicIp "RG" "pip")).1 with
  | ok value =>
      rw [answer] at refused
      cases refused
  | error fault => exact ⟨fault, rfl, kept.2 _ fault answer⟩

end Azure

end Provisioning
