import Provisioning.Proofs.Arising

/-!
Several machines at one backend. Each of them puts and tags under the names that are derived from
its own, and deletes what carries its tag. As long as everything at the backend is under the names
and carries the tag of one of them, both are the same; a call for one machine keeps it so and leaves
the others alone.
-/

namespace Provisioning.Azure

/-- A machine as the backend knows it: its name, and every identity it ever has. -/
structure Party where
  name : String
  uids : String → Prop

namespace Naming

theorem osDisk_ne_dataDisk (first second : String) : osDisk first ≠ dataDisk second 0 :=
  append_ne (by decide) (by decide) (by decide) first (second ++ "_DataDisk_")

theorem vmId_injective {subscription group first second : String}
    (same : vmId subscription group first = vmId subscription group second) : first = second :=
  (String.append_right_inj _).1 same

/-- The last segment of an id is the name, if that is one segment. -/
theorem nameOfId_resourceId {name : String} (whole : '/' ∉ name.toList)
    (kind subscription group : String) :
    nameOfId (resourceId kind subscription group name) = name := by
  have reversed : ∀ c ∈ name.toList.reverse, decide (c ≠ '/') = true := by
    intro c member
    rw [decide_eq_true_eq]
    rintro rfl
    exact whole (List.mem_reverse.1 member)
  have text : (resourceId kind subscription group name).toList.reverse =
      name.toList.reverse ++ '/' ::
        (resourceGroupId subscription group ++ "/providers/" ++ kind).toList.reverse := by
    simp [resourceId]
  rw [nameOfId, nameOfIdList, text, List.takeWhile_append_of_pos reversed,
    List.takeWhile_cons_of_neg (by decide), List.append_nil, List.reverse_reverse,
    String.ofList_toList]

theorem resourceId_ne_empty (kind subscription group name : String) :
    resourceId kind subscription group name ≠ "" := by
  intro empty
  have length := congrArg String.length empty
  simp only [resourceId, String.length_append, String.length_empty] at length
  have slash : "/".length = 1 := by decide
  omega

end Naming

namespace Party

variable (p : Party)

/-- The names of the machine's resources of a kind. -/
def names : Owned → List String
  | .publicIp | .publicIpv6 =>
      [Naming.publicIp (Naming.nic p.name), Naming.publicIpv6 (Naming.nic p.name)]
  | .nic => [Naming.nic p.name]
  | .disks => [Naming.osDisk p.name, Naming.dataDisk p.name 0]
  | .vm => [p.name]

/-- Tags of something that belongs to the machine. -/
def Marks (tags : Tags) : Prop := ∃ uid, p.uids uid ∧ Naming.hasUid tags uid = true

/-- Machines of different names that never have an identity in common. -/
structure Apart (p q : Party) : Prop where
  names : p.name ≠ q.name
  uids : ∀ uid, p.uids uid → ¬q.uids uid

/-- The name is one segment of an id. -/
def Whole : Prop := '/' ∉ p.name.toList

variable {p} {q : Party} {kind : Owned} {name : String}

/-- Machines that share a name of a resource have the same name. -/
theorem eq_of_mem_names (first : name ∈ p.names kind) (second : name ∈ q.names kind) :
    p.name = q.name := by
  have nics : Naming.nic p.name = Naming.nic q.name → p.name = q.name :=
    (String.append_left_inj _).1
  have addresses := Naming.publicIp_ne_publicIpv6
  have disks := Naming.osDisk_ne_dataDisk
  cases kind with
  | publicIp | publicIpv6 =>
      simp only [names, List.mem_cons, List.not_mem_nil, or_false] at first second
      rcases first with rfl | rfl <;> rcases second with same | same
      · exact nics ((String.append_left_inj _).1 same)
      · exact absurd same (addresses _ _)
      · exact absurd same.symm (addresses _ _)
      · exact nics ((String.append_left_inj _).1 same)
  | nic =>
      simp only [names, List.mem_singleton] at first second
      exact nics (first.symm.trans second)
  | disks =>
      simp only [names, List.mem_cons, List.not_mem_nil, or_false] at first second
      rcases first with rfl | rfl <;> rcases second with same | same
      · exact (String.append_left_inj _).1 same
      · exact absurd same (disks _ _)
      · exact absurd same.symm (disks _ _)
      · exact (String.append_left_inj _).1 ((String.append_left_inj _).1 same)
  | vm =>
      simp only [names, List.mem_singleton] at first second
      exact first.symm.trans second

theorem names_eq (same : p.name = q.name) (kind : Owned) : p.names kind = q.names kind := by
  cases kind <;> simp only [names, same]

/-- Each name of a resource is one segment of an id. -/
theorem Whole.of_mem_names (whole : p.Whole) (member : name ∈ p.names kind) :
    '/' ∉ name.toList := by
  have nic : '/' ∉ (Naming.nic p.name).toList := by
    rw [Naming.nic, String.toList_append, List.mem_append, not_or]
    exact ⟨whole, by decide⟩
  cases kind with
  | publicIp | publicIpv6 =>
      simp only [names, List.mem_cons, List.not_mem_nil, or_false] at member
      rcases member with rfl | rfl
      · rw [Naming.publicIp, String.toList_append, List.mem_append, not_or]
        exact ⟨nic, by decide⟩
      · rw [Naming.publicIpv6, String.toList_append, List.mem_append, not_or]
        exact ⟨nic, by decide⟩
  | nic =>
      simp only [names, List.mem_singleton] at member
      exact member ▸ nic
  | disks =>
      simp only [names, List.mem_cons, List.not_mem_nil, or_false] at member
      rcases member with rfl | rfl
      · rw [Naming.osDisk, String.toList_append, List.mem_append, not_or]
        exact ⟨whole, by decide⟩
      · rw [Naming.dataDisk, String.toList_append, String.toList_append, List.mem_append,
          List.mem_append, not_or, not_or]
        exact ⟨⟨whole, by decide⟩, by decide⟩
  | vm =>
      simp only [names, List.mem_singleton] at member
      exact member ▸ whole

end Party

namespace Naming

variable {machine : String}

/-- The id of a resource of a machine ends with its name, whoever the machine is. -/
theorem nameOfId_of_mem_names (whole : '/' ∉ machine.toList) {uids : String → Prop} {kind : Owned}
    {name : String} (own : name ∈ (⟨machine, uids⟩ : Party).names kind)
    (type subscription group : String) :
    nameOfId (resourceId type subscription group name) = name := by
  have party : (⟨machine, uids⟩ : Party).Whole := whole
  exact nameOfId_resourceId (party.of_mem_names own) type subscription group

/-- The id of an interface ends with its name. -/
theorem nameOfId_nicId (whole : '/' ∉ machine.toList) (subscription group : String) :
    nameOfId (nicId subscription group (nic machine)) = nic machine := by
  have own : nic machine ∈ (⟨machine, fun _ => False⟩ : Party).names .nic := List.mem_cons_self
  exact nameOfId_of_mem_names whole own _ _ _

/-- The id of a public address ends with its name. -/
theorem nameOfId_publicIpId (whole : '/' ∉ machine.toList) (subscription group : String) :
    nameOfId (publicIpId subscription group (publicIp (nic machine))) =
      publicIp (nic machine) := by
  have own : publicIp (nic machine) ∈ (⟨machine, fun _ => False⟩ : Party).names .publicIp :=
    List.mem_cons_self
  exact nameOfId_of_mem_names whole own _ _ _

theorem nameOfId_publicIpId_ipv6 (whole : '/' ∉ machine.toList) (subscription group : String) :
    nameOfId (publicIpId subscription group (publicIpv6 (nic machine))) =
      publicIpv6 (nic machine) := by
  have own : publicIpv6 (nic machine) ∈ (⟨machine, fun _ => False⟩ : Party).names .publicIpv6 :=
    List.mem_cons_of_mem _ List.mem_cons_self
  exact nameOfId_of_mem_names whole own _ _ _

end Naming

/-- Something of a kind lies in the group under a name of the machine and carries its tag. -/
structure Party.Holds (p : Party) (group : String) (kind : Owned) (key : ResourceKey)
    (name : Option String) (tags : Tags) : Prop where
  group : key.group = group
  own : key.name ∈ p.names kind
  name : name = some key.name
  marked : p.Marks tags

/-- Everything at the backend belongs to one of several machines, and refers to nothing but what
belongs to the same one. -/
structure Divided {ι : Type} (group : String) (parties : ι → Party) (r : Resources) : Prop where
  publicIps : ∀ key address, r.publicIps.get? key = some address →
    ∃ i, (parties i).Holds group .publicIp key address.name address.tags
  nics : ∀ key nic, r.nics.get? key = some nic →
    ∃ i, (parties i).Holds group .nic key nic.name nic.tags ∧
      ∀ id ∈ nic.publicAddressIds, Naming.nameOfId id ∈ (parties i).names .publicIp
  vms : ∀ key vm, r.vms.get? key = some vm →
    ∃ i, (parties i).Holds group .vm key vm.name vm.tags ∧
      ∀ id ∈ vm.interfaces.filterMap (·.id), Naming.nameOfId id ∈ (parties i).names .nic
  disks : ∀ key disk, r.disks.get? key = some disk →
    ∃ i, (parties i).Holds group .disks key disk.name disk.tags ∧
      ∀ owner, disk.managedBy = some owner →
        owner = Naming.vmId Resources.subscription group (parties i).name

/-- A call for one machine: it puts, tags and deletes only under the machine's names, and whatever
it stores carries the machine's tag and refers to what is under its names. -/
def Call.For (group : String) (p : Party) : Call → Prop
  | putPublicIp place name body => place = group ∧ name ∈ p.names .publicIp ∧ p.Marks body.tags
  | putNic place name body => place = group ∧ name ∈ p.names .nic ∧ p.Marks body.tags ∧
      ∀ id ∈ body.publicAddressIds, Naming.nameOfId id ∈ p.names .publicIp
  | putVm place name body => place = group ∧ name ∈ p.names .vm ∧ p.Marks body.tags ∧
      (∀ id ∈ body.interfaces.filterMap (·.id), Naming.nameOfId id ∈ p.names .nic) ∧
      ∀ disk ∈ Resources.diskNames name body, disk ∈ p.names .disks
  | tagVm place name tags => place = group ∧ name ∈ p.names .vm ∧ p.Marks tags
  | tagDisk place name tags => place = group ∧ name ∈ p.names .disks ∧ p.Marks tags
  | deletePublicIp place name => place = group ∧ name ∈ p.names .publicIp
  | deleteNic place name => place = group ∧ name ∈ p.names .nic
  | deleteDisk place name => place = group ∧ name ∈ p.names .disks
  | deleteVm place name => place = group ∧ name ∈ p.names .vm
  | _ => True

/-- Of each kind, what is under certain names is the same. -/
structure Resources.Agree (names : Owned → String → Prop) (r s : Resources) : Prop where
  publicIps : ∀ key, names .publicIp key.name → s.publicIps.get? key = r.publicIps.get? key
  nics : ∀ key, names .nic key.name → s.nics.get? key = r.nics.get? key
  vms : ∀ key, names .vm key.name → s.vms.get? key = r.vms.get? key
  views : ∀ key, names .vm key.name → s.views.get? key = r.views.get? key
  disks : ∀ key, names .disks key.name → s.disks.get? key = r.disks.get? key

theorem Resources.Agree.refl (names : Owned → String → Prop) (r : Resources) : r.Agree names r :=
  ⟨fun _ _ => rfl, fun _ _ => rfl, fun _ _ => rfl, fun _ _ => rfl, fun _ _ => rfl⟩

theorem Resources.Agree.mono {many few : Owned → String → Prop} {r s : Resources}
    (agree : r.Agree many s) (implies : ∀ kind name, few kind name → many kind name) :
    r.Agree few s :=
  ⟨fun key here => agree.publicIps key (implies _ _ here),
    fun key here => agree.nics key (implies _ _ here),
    fun key here => agree.vms key (implies _ _ here),
    fun key here => agree.views key (implies _ _ here),
    fun key here => agree.disks key (implies _ _ here)⟩

theorem Call.for_of_read {what : Call} (read : what.isWrite = false) (group : String)
    (p : Party) : what.For group p := by
  cases what with
  | putPublicIp | deletePublicIp | putNic | deleteNic | putVm | tagVm | deleteVm | tagDisk
  | deleteDisk => cases read
  | _ => trivial

/-- What is stored under one name leaves what is under others. -/
theorem get?_insert_aside {ν : Type} {m : SortedMap ResourceKey ν} {place key : ResourceKey}
    {names : List String} (own : place.name ∈ names) (value : ν) (other : key.name ∉ names) :
    (m.insert place value).get? key = m.get? key := by
  have apart : place ≠ key := by
    rintro rfl
    exact other own
  rw [SortedMap.get?_insert, if_neg apart]

theorem get?_erase_aside {ν : Type} {m : SortedMap ResourceKey ν} {place key : ResourceKey}
    {names : List String} (own : place.name ∈ names) (other : key.name ∉ names) :
    (m.erase place).get? key = m.get? key := by
  have apart : place ≠ key := by
    rintro rfl
    exact other own
  rw [SortedMap.get?_erase, if_neg apart]

/-- An interface is stored with the public addresses that it was put with. -/
theorem NetworkInterface.mem_publicAddressIds_stored {body : NetworkInterface} {key : ResourceKey}
    {addresses : List String} {id : String}
    (member : id ∈ (body.stored key addresses).publicAddressIds) : id ∈ body.publicAddressIds := by
  obtain ⟨c, stored, attached⟩ := List.mem_filterMap.1 member
  change c ∈ body.ipConfigurations.zipWith .withAddress addresses at stored
  rw [← List.map_uncurry_zip_eq_zipWith] at stored
  obtain ⟨⟨first, address⟩, paired, rfl⟩ := List.mem_map.1 stored
  exact List.mem_filterMap.2 ⟨first, (List.of_mem_zip paired).1, attached⟩

namespace Divided

variable {ι : Type} {group : String} {parties : ι → Party} {r next : Resources} {b : Backend}
  {i j : ι}

theorem of_isEmpty (empty : r.isEmpty = true) : Divided group parties r := by
  obtain ⟨publicIps, nics, vms, disks⟩ := Resources.isEmpty_iff.1 empty
  constructor <;> simp [publicIps, nics, vms, disks]

/-- The disks of other machines are not detached when a virtual machine goes. -/
theorem disks_deleteVm (divided : Divided group parties r) {p : Party} {key : ResourceKey}
    (other : key.name ∉ p.names .disks) :
    (r.deleteVm ⟨group, p.name⟩).disks.get? key = r.disks.get? key := by
  unfold Resources.deleteVm
  simp only
  split
  · rw [SortedMap.get?_mapValues]
    cases found : r.disks.get? key with
    | none => rfl
    | some disk =>
        obtain ⟨j, holds, attached⟩ := divided.disks key disk found
        have elsewhere :
            disk.managedBy ≠ some (Naming.vmId Resources.subscription group p.name) := by
          intro same
          have names := Naming.vmId_injective (attached _ same)
          exact other (Party.names_eq names .disks ▸ holds.own)
        rw [Option.map_some, Resources.detach, if_neg elsewhere]
  · rfl

/-- A call for one machine leaves the others alone. -/
theorem aside (divided : Divided group parties b.resources) {what : Call} {value : what.Value}
    {p : Party} (own : what.For group p) (performed : b.perform what = .ok (value, next)) :
    b.resources.Agree (fun kind name => name ∉ p.names kind) next := by
  have same := Resources.Agree.refl (fun kind name => name ∉ p.names kind) b.resources
  cases what with
  | putPublicIp place name body =>
      obtain ⟨address, count, _, rfl⟩ := Call.exists_of_putPublicIp performed
      exact { same with publicIps := fun key => get?_insert_aside own.2.1 _ }
  | putNic place name body =>
      obtain ⟨_, addresses, total, _, _, rfl⟩ := Resources.putNic_eq_ok performed
      exact { same with nics := fun key => get?_insert_aside own.2.1 _ }
  | putVm place name body =>
      obtain ⟨rfl, named, _, _, disks⟩ := own
      obtain ⟨_, _, rfl⟩ := Resources.putVm_eq_ok.1 performed
      refine ⟨same.publicIps, same.nics, fun key => get?_insert_aside named _, fun key other => ?_,
        fun key other => ?_⟩
      · simp only [Resources.withVm]
        split
        · rfl
        · exact get?_insert_aside named _ other
      · have new : ¬(key.group = place ∧ key.name ∈ Resources.diskNames name body) :=
          fun new => other (disks _ new.2)
        rw [Resources.withVm, Resources.get?_addDisks, if_neg new, Option.or_none]
  | tagVm place name tags =>
      obtain ⟨after, tagged, done⟩ := map_eq_ok.1 performed
      cases done
      obtain ⟨vm, found, rfl⟩ := Resources.exists_of_tagVm tagged
      exact { same with vms := fun key => get?_insert_aside own.2.1 _ }
  | tagDisk place name tags =>
      obtain ⟨after, tagged, done⟩ := map_eq_ok.1 performed
      cases done
      obtain ⟨disk, found, rfl⟩ := Resources.exists_of_tagDisk tagged
      exact { same with disks := fun key => get?_insert_aside own.2.1 _ }
  | deletePublicIp place name =>
      rw [Backend.perform_removal .publicIp performed]
      exact { same with publicIps := fun key => get?_erase_aside own.2 }
  | deleteNic place name =>
      rw [Backend.perform_removal .nic performed]
      exact { same with nics := fun key => get?_erase_aside own.2 }
  | deleteDisk place name =>
      rw [Backend.perform_removal .disks performed]
      exact { same with disks := fun key => get?_erase_aside own.2 }
  | deleteVm place name =>
      obtain ⟨rfl, named⟩ := own
      rw [Backend.perform_removal .vm performed]
      cases List.mem_singleton.1 named
      exact { same with
        vms := fun key => get?_erase_aside named
        views := fun key => get?_erase_aside named
        disks := fun key => divided.disks_deleteVm }
  | getPublicIp | listPublicIps | getNic | listNics | getVm | listAllVms | listVms | instanceView
  | listDisks | getVirtualNetwork | getSubnet | listVmSkus | checkImage =>
      exact Backend.perform_of_read rfl performed ▸ same

/-- A call for one of the machines leaves the backend divided among them. -/
theorem perform (divided : Divided group parties b.resources) {what : Call} {value : what.Value}
    (own : what.For group (parties i)) (performed : b.perform what = .ok (value, next)) :
    Divided group parties next := by
  cases what with
  | putPublicIp place name body =>
      obtain ⟨rfl, named, marked⟩ := own
      obtain ⟨address, count, _, rfl⟩ := Call.exists_of_putPublicIp performed
      exact { divided with
        publicIps := SortedMap.forall_insert divided.publicIps ⟨i, rfl, named, rfl, marked⟩ }
  | putNic place name body =>
      obtain ⟨rfl, named, marked, addresses⟩ := own
      obtain ⟨_, privates, total, _, _, rfl⟩ := Resources.putNic_eq_ok performed
      have attached : ∀ id ∈ (body.stored ⟨place, name⟩ privates).publicAddressIds,
          Naming.nameOfId id ∈ (parties i).names .publicIp :=
        fun id member => addresses id (NetworkInterface.mem_publicAddressIds_stored member)
      exact { divided with
        nics := SortedMap.forall_insert divided.nics ⟨i, ⟨rfl, named, rfl, marked⟩, attached⟩ }
  | putVm place name body =>
      obtain ⟨rfl, named, marked, interfaces, disks⟩ := own
      obtain ⟨_, _, rfl⟩ := Resources.putVm_eq_ok.1 performed
      refine { divided with
        vms := SortedMap.forall_insert divided.vms ⟨i, ⟨rfl, named, rfl, marked⟩, interfaces⟩
        disks := fun key disk found => ?_ }
      rw [Resources.withVm, Resources.get?_addDisks] at found
      rcases Option.or_eq_some_iff.1 found with earlier | ⟨_, added⟩
      · exact divided.disks key disk earlier
      · split at added
        · rename_i new
          cases added
          refine ⟨i, ⟨new.1, disks _ new.2, rfl, marked⟩, fun owner attached => ?_⟩
          cases attached
          rw [List.mem_singleton.1 named]
        · cases added
  | tagVm place name tags =>
      obtain ⟨rfl, named, marked⟩ := own
      obtain ⟨after, tagged, done⟩ := map_eq_ok.1 performed
      cases done
      obtain ⟨vm, found, rfl⟩ := Resources.exists_of_tagVm tagged
      obtain ⟨j, holds, interfaces⟩ := divided.vms _ vm found
      have same := Party.eq_of_mem_names holds.own named
      rw [Party.names_eq same] at interfaces
      exact { divided with
        vms := SortedMap.forall_insert divided.vms
          ⟨i, ⟨rfl, named, holds.name, marked⟩, interfaces⟩ }
  | tagDisk place name tags =>
      obtain ⟨rfl, named, marked⟩ := own
      obtain ⟨after, tagged, done⟩ := map_eq_ok.1 performed
      cases done
      obtain ⟨disk, found, rfl⟩ := Resources.exists_of_tagDisk tagged
      obtain ⟨j, holds, attached⟩ := divided.disks _ disk found
      rw [Party.eq_of_mem_names holds.own named] at attached
      exact { divided with
        disks := SortedMap.forall_insert divided.disks
          ⟨i, ⟨rfl, named, holds.name, marked⟩, attached⟩ }
  | deletePublicIp place name =>
      rw [Backend.perform_removal .publicIp performed]
      exact { divided with publicIps := SortedMap.forall_erase divided.publicIps _ }
  | deleteNic place name =>
      rw [Backend.perform_removal .nic performed]
      exact { divided with nics := SortedMap.forall_erase divided.nics _ }
  | deleteDisk place name =>
      rw [Backend.perform_removal .disks performed]
      exact { divided with disks := SortedMap.forall_erase divided.disks _ }
  | deleteVm place name =>
      rw [Backend.perform_removal .vm performed]
      refine { divided with
        vms := SortedMap.forall_erase divided.vms _
        disks := fun key disk found => ?_ }
      obtain ⟨earlier, stored, name, tags, managed⟩ := Resources.disk_of_deleteVm found
      obtain ⟨j, holds, attached⟩ := divided.disks key earlier stored
      refine ⟨j, ⟨holds.group, holds.own, name.trans holds.name, tags ▸ holds.marked⟩, ?_⟩
      exact fun owner same => attached owner (managed owner same).1
  | getPublicIp | listPublicIps | getNic | listNics | getVm | listAllVms | listVms | instanceView
  | listDisks | getVirtualNetwork | getSubnet | listVmSkus | checkImage =>
      exact Backend.perform_of_read rfl performed ▸ divided

end Divided

/-- The kind of what can refer to something of a kind. -/
def Owned.user : Owned → Owned
  | .publicIp | .publicIpv6 => .nic
  | .nic | .disks | .vm => .vm

/-- Something refers to what is to be deleted: an interface to an address, or a virtual machine to
an interface or a disk. -/
def Resources.Blocks (r : Resources) (key user : ResourceKey) : Owned → Prop
  | .publicIp | .publicIpv6 => ∃ nic, r.nics.get? user = some nic ∧
      ∃ id ∈ nic.publicAddressIds, refersTo id key = true
  | .nic => ∃ vm, r.vms.get? user = some vm ∧
      ∃ id ∈ vm.interfaces.filterMap (·.id), refersTo id key = true
  | .disks => ∃ disk, r.disks.get? key = some disk ∧
      disk.managedBy = some (Naming.vmId subscription user.group user.name)
  | .vm => False

namespace Divided

variable {ι : Type} {group : String} {parties : ι → Party} {r : Resources} {i j : ι}
  {kind : Owned} {key user : ResourceKey}

/-- A deletion is refused only because something refers to what is to be deleted. -/
theorem exists_blocks {b : Backend} (divided : Divided group parties b.resources)
    {place name : String} {fault : AzureError}
    (refused : b.perform (kind.removal place name) = .error fault) :
    ∃ user, b.resources.Blocks ⟨place, name⟩ user kind := by
  cases kind with
  | vm => cases refused
  | publicIp | publicIpv6 =>
      change (b.resources.deletePublicIp ⟨place, name⟩).map _ = _ at refused
      unfold Resources.deletePublicIp Resources.publicIpUser? at refused
      cases found : b.resources.nics.values.find?
          fun nic => nic.publicAddressIds.any (Resources.refersTo · ⟨place, name⟩) with
      | none =>
          rw [found] at refused
          cases refused
      | some nic =>
          obtain ⟨user, stored⟩ := SortedMap.mem_values_iff.1 (List.mem_of_find?_eq_some found)
          have refers := List.find?_some found
          exact ⟨user, nic, stored, List.any_eq_true.1 refers⟩
  | nic =>
      change (b.resources.deleteNic ⟨place, name⟩).map _ = _ at refused
      unfold Resources.deleteNic Resources.nicUser? at refused
      cases found : b.resources.vms.values.find? fun vm =>
          (vm.interfaces.filterMap (·.id)).any (Resources.refersTo · ⟨place, name⟩) with
      | none =>
          rw [found] at refused
          cases refused
      | some vm =>
          obtain ⟨user, stored⟩ := SortedMap.mem_values_iff.1 (List.mem_of_find?_eq_some found)
          have refers := List.find?_some found
          exact ⟨user, vm, stored, List.any_eq_true.1 refers⟩
  | disks =>
      change (b.resources.deleteDisk ⟨place, name⟩).map _ = _ at refused
      unfold Resources.deleteDisk at refused
      cases attached : (b.resources.disks.get? ⟨place, name⟩).bind (·.managedBy) with
      | none =>
          rw [attached] at refused
          cases refused
      | some owner =>
          obtain ⟨disk, stored, managed⟩ := Option.bind_eq_some_iff.1 attached
          obtain ⟨k, _, known⟩ := divided.disks _ disk stored
          exact ⟨⟨group, (parties k).name⟩, disk, stored, known owner managed ▸ managed⟩

/-- Nothing of one machine refers to what is under the names of another. -/
theorem not_blocks (divided : Divided group parties r) (whole : ∀ i, (parties i).Whole)
    (apart : (parties i).name ≠ (parties j).name) (own : key.name ∈ (parties i).names kind)
    (blocks : r.Blocks key user kind) : user.name ∉ (parties j).names kind.user := by
  intro other
  have named {id : String} (refers : Resources.refersTo id key = true) :
      Naming.nameOfId id = key.name := by
    rw [Resources.refersTo, Bool.and_eq_true] at refers
    exact eq_of_beq refers.1
  -- What refers to something names it, so both belong to the machine whose name that is.
  cases kind with
  | vm => exact blocks
  | publicIp | publicIpv6 =>
      obtain ⟨nic, stored, id, attached, refers⟩ := blocks
      obtain ⟨k, holds, addresses⟩ := divided.nics user nic stored
      have first := Party.eq_of_mem_names (named refers ▸ addresses id attached) own
      exact apart (first.symm.trans (Party.eq_of_mem_names holds.own other))
  | nic =>
      obtain ⟨vm, stored, id, attached, refers⟩ := blocks
      obtain ⟨k, holds, interfaces⟩ := divided.vms user vm stored
      have first := Party.eq_of_mem_names (named refers ▸ interfaces id attached) own
      exact apart (first.symm.trans (Party.eq_of_mem_names holds.own other))
  | disks =>
      obtain ⟨disk, stored, managed⟩ := blocks
      obtain ⟨k, holds, attached⟩ := divided.disks key disk stored
      have first := Party.eq_of_mem_names holds.own own
      have segment := congrArg Naming.nameOfId (attached _ managed)
      rw [List.mem_singleton.1 other, first, Naming.vmId, Naming.nameOfId_resourceId (whole j),
        Naming.nameOfId_resourceId (whole i)] at segment
      exact apart segment.symm

end Divided

end Provisioning.Azure
