import Provisioning.Proofs.Finalizers
import Provisioning.Proofs.Outcomes
import Provisioning.Proofs.Stored

/-!
A backend that has nothing but what one machine's record accounts for. Every resource lies in the
machine's group under its own name, carries the machine's tag, and is of a kind whose finalizer the
record has; a disk is attached only to a virtual machine that is there. `Accounted.perform` says
that calls which fit the record keep this so.
-/

namespace Provisioning.Azure

namespace Owned

/-- The version of the addresses of a kind. -/
def version? : Owned → Option String
  | .publicIp => some ipv4
  | .publicIpv6 => some ipv6
  | _ => none

theorem ipv4_ne_ipv6 : ipv4 ≠ ipv6 := by decide

/-- Each version of addresses is of one kind. -/
theorem eq_of_version? (a b : Owned) {version : String} (first : a.version? = some version)
    (second : b.version? = some version) : a = b := by
  have distinct := ipv4_ne_ipv6
  cases a <;> cases b <;> simp_all [version?]

end Owned

namespace Resources

/-- Something of a kind with certain tags is stored under a key. -/
def Bears (r : Resources) (key : ResourceKey) (tags : Tags) : Owned → Prop
  | .publicIp => ∃ address, r.publicIps.get? key = some address ∧ address.tags = tags ∧
      address.version = ipv4
  | .publicIpv6 => ∃ address, r.publicIps.get? key = some address ∧ address.tags = tags ∧
      address.version = ipv6
  | .nic => ∃ nic, r.nics.get? key = some nic ∧ nic.tags = tags
  | .disks => ∃ disk, r.disks.get? key = some disk ∧ disk.tags = tags
  | .vm => ∃ vm, r.vms.get? key = some vm ∧ vm.tags = tags

/-- Whether something of a kind with a machine's tag is stored under a key. -/
def Tagged (r : Resources) (uid : String) (key : ResourceKey) : Owned → Prop
  | .publicIp => ∃ address, r.publicIps.get? key = some address ∧
      Naming.hasUid address.tags uid = true ∧ address.version = ipv4
  | .publicIpv6 => ∃ address, r.publicIps.get? key = some address ∧
      Naming.hasUid address.tags uid = true ∧ address.version = ipv6
  | .nic => ∃ nic, r.nics.get? key = some nic ∧ Naming.hasUid nic.tags uid = true
  | .disks => ∃ disk, r.disks.get? key = some disk ∧ Naming.hasUid disk.tags uid = true
  | .vm => ∃ vm, r.vms.get? key = some vm ∧ Naming.hasUid vm.tags uid = true

instance (r : Resources) (uid : String) (key : ResourceKey) :
    (owned : Owned) → Decidable (r.Tagged uid key owned)
  | .publicIp => decidable_of_iff ((r.publicIps.get? key).any fun address =>
      Naming.hasUid address.tags uid && address.version == ipv4)
      (by simp [Tagged, Option.any_eq_true])
  | .publicIpv6 => decidable_of_iff ((r.publicIps.get? key).any fun address =>
      Naming.hasUid address.tags uid && address.version == ipv6)
      (by simp [Tagged, Option.any_eq_true])
  | .nic => decidable_of_iff ((r.nics.get? key).any (Naming.hasUid ·.tags uid))
      (by simp [Tagged, Option.any_eq_true])
  | .disks => decidable_of_iff ((r.disks.get? key).any (Naming.hasUid ·.tags uid))
      (by simp [Tagged, Option.any_eq_true])
  | .vm => decidable_of_iff ((r.vms.get? key).any (Naming.hasUid ·.tags uid))
      (by simp [Tagged, Option.any_eq_true])

/-- Public addresses are of the kind of their version. -/
theorem tagged_iff_of_version? {r : Resources} {uid : String} {key : ResourceKey} {owned : Owned}
    {version : String} (kind : owned.version? = some version) :
    r.Tagged uid key owned ↔ ∃ address, r.publicIps.get? key = some address ∧
      Naming.hasUid address.tags uid = true ∧ address.version = version := by
  cases owned with
  | publicIp | publicIpv6 =>
      cases kind
      rfl
  | nic | disks | vm => cases kind

/-- What is tagged bears tags that say so. -/
theorem tagged_iff_bears {r : Resources} {uid : String} {key : ResourceKey} {kind : Owned} :
    r.Tagged uid key kind ↔ ∃ tags, r.Bears key tags kind ∧ Naming.hasUid tags uid = true := by
  cases kind with
  | publicIp | publicIpv6 =>
      constructor
      · rintro ⟨address, found, tagged, version⟩
        exact ⟨_, ⟨address, found, rfl, version⟩, tagged⟩
      · rintro ⟨_, ⟨address, found, rfl, version⟩, tagged⟩
        exact ⟨address, found, tagged, version⟩
  | nic | disks | vm =>
      constructor
      · rintro ⟨stored, found, tagged⟩
        exact ⟨_, ⟨stored, found, rfl⟩, tagged⟩
      · rintro ⟨_, ⟨stored, found, rfl⟩, tagged⟩
        exact ⟨stored, found, tagged⟩

/-- What keeps its tags stays tagged. -/
theorem Tagged.of_bears {r s : Resources} {uid : String} {key : ResourceKey} {kind : Owned}
    (tagged : s.Tagged uid key kind)
    (bore : ∀ tags, s.Bears key tags kind → r.Bears key tags kind) : r.Tagged uid key kind := by
  obtain ⟨tags, bears, own⟩ := tagged_iff_bears.1 tagged
  exact tagged_iff_bears.2 ⟨tags, bore tags bears, own⟩

end Resources

/-- A call that changes nothing leaves the resources as they are. -/
theorem Backend.perform_of_read {b : Backend} {what : Call} {value : what.Value} {r : Resources}
    (read : what.isWrite = false) (performed : b.perform what = .ok (value, r)) :
    r = b.resources := by
  cases what with
  | putPublicIp | deletePublicIp | putNic | deleteNic | putVm | tagVm | deleteVm | tagDisk
  | deleteDisk => cases read
  | listPublicIps | listNics | listAllVms | listVms | listDisks | listVmSkus =>
      cases performed
      rfl
  | getPublicIp | getNic | getVm | instanceView | getVirtualNetwork | getSubnet | checkImage =>
      obtain ⟨_, _, same⟩ := map_eq_ok.1 performed
      cases same
      rfl

/-- A call that deletes something. -/
def Call.isRemoval : Call → Bool
  | deletePublicIp .. | deleteNic .. | deleteVm .. | deleteDisk .. => true
  | _ => false

namespace Owned

/-- The call that deletes something of a kind. -/
def removal (group name : String) : Owned → Call
  | .publicIp | .publicIpv6 => .deletePublicIp group name
  | .nic => .deleteNic group name
  | .disks => .deleteDisk group name
  | .vm => .deleteVm group name

theorem isRemoval_removal (group name : String) (owned : Owned) :
    (owned.removal group name).isRemoval = true := by
  cases owned <;> rfl

end Owned

theorem Call.exists_removal {what : Call} (removal : what.isRemoval = true) :
    ∃ (owned : Owned) (group name : String), what = owned.removal group name := by
  cases what with
  | deletePublicIp group name => exact ⟨.publicIp, group, name, rfl⟩
  | deleteNic group name => exact ⟨.nic, group, name, rfl⟩
  | deleteDisk group name => exact ⟨.disks, group, name, rfl⟩
  | deleteVm group name => exact ⟨.vm, group, name, rfl⟩
  | _ => cases removal

namespace Resources

/-- The resources after something of a kind was deleted. -/
def without (r : Resources) (key : ResourceKey) : Owned → Resources
  | .publicIp | .publicIpv6 => { r with publicIps := r.publicIps.erase key }
  | .nic => { r with nics := r.nics.erase key }
  | .disks => { r with disks := r.disks.erase key }
  | .vm => r.deleteVm key

/-- The disks after a virtual machine was deleted: each was there with the same name and tags, and
is attached to what it was attached to, unless that was the machine. -/
theorem disk_of_deleteVm {r : Resources} {deleted key : ResourceKey} {disk : Disk}
    (found : (r.deleteVm deleted).disks.get? key = some disk) :
    ∃ earlier, r.disks.get? key = some earlier ∧ disk.name = earlier.name ∧
      disk.tags = earlier.tags ∧ ∀ owner, disk.managedBy = some owner →
        earlier.managedBy = some owner ∧
          (r.vms.contains deleted = true →
            owner ≠ Naming.vmId subscription deleted.group deleted.name) := by
  simp only [deleteVm] at found
  split at found
  · rw [SortedMap.get?_mapValues] at found
    obtain ⟨earlier, stored, rfl⟩ := Option.map_eq_some_iff.1 found
    refine ⟨earlier, stored, ?_⟩
    unfold detach
    split
    · exact ⟨rfl, rfl, fun owner managed => by cases managed⟩
    · rename_i elsewhere
      exact ⟨rfl, rfl, fun owner managed =>
        ⟨managed, fun _ same => elsewhere (managed.trans (congrArg some same))⟩⟩
  · rename_i absent
    exact ⟨disk, found, rfl, rfl, fun owner managed =>
      ⟨managed, fun present => absurd present absent⟩⟩

/-- What bears tags after a deletion bore them before, and is not what was deleted. -/
theorem Bears.of_without {r : Resources} {deleted key : ResourceKey} {tags : Tags}
    {removed kind : Owned} (bears : (r.without deleted removed).Bears key tags kind) :
    r.Bears key tags kind ∧ (removed = kind → key ≠ deleted) := by
  cases removed with
  | publicIp | publicIpv6 =>
      cases kind with
      | publicIp | publicIpv6 =>
          obtain ⟨address, found, rest⟩ := bears
          obtain ⟨different, found⟩ := SortedMap.get?_of_erase found
          exact ⟨⟨address, found, rest⟩, fun _ => different.symm⟩
      | nic | disks | vm => exact ⟨bears, nofun⟩
  | nic =>
      cases kind with
      | nic =>
          obtain ⟨nic, found, rest⟩ := bears
          obtain ⟨different, found⟩ := SortedMap.get?_of_erase found
          exact ⟨⟨nic, found, rest⟩, fun _ => different.symm⟩
      | publicIp | publicIpv6 | disks | vm => exact ⟨bears, nofun⟩
  | disks =>
      cases kind with
      | disks =>
          obtain ⟨disk, found, rest⟩ := bears
          obtain ⟨different, found⟩ := SortedMap.get?_of_erase found
          exact ⟨⟨disk, found, rest⟩, fun _ => different.symm⟩
      | publicIp | publicIpv6 | nic | vm => exact ⟨bears, nofun⟩
  | vm =>
      cases kind with
      | vm =>
          obtain ⟨vm, found, rest⟩ := bears
          obtain ⟨different, found⟩ := SortedMap.get?_of_erase found
          exact ⟨⟨vm, found, rest⟩, fun _ => different.symm⟩
      | disks =>
          obtain ⟨disk, found, rest⟩ := bears
          obtain ⟨earlier, stored, _, same, _⟩ := disk_of_deleteVm found
          exact ⟨⟨earlier, stored, same ▸ rest⟩, nofun⟩
      | publicIp | publicIpv6 | nic => exact ⟨bears, nofun⟩

/-- What is tagged after a deletion was tagged before, and is not what was deleted. -/
theorem Tagged.of_without {r : Resources} {uid : String} {deleted key : ResourceKey}
    {kind owned : Owned} (tagged : (r.without deleted kind).Tagged uid key owned) :
    r.Tagged uid key owned ∧ (kind = owned → key ≠ deleted) := by
  obtain ⟨tags, bears, own⟩ := tagged_iff_bears.1 tagged
  obtain ⟨earlier, apart⟩ := bears.of_without
  exact ⟨tagged_iff_bears.2 ⟨tags, earlier, own⟩, apart⟩

end Resources

/-- A deletion that succeeds deletes. -/
theorem Backend.perform_removal {b : Backend} {group name : String} (owned : Owned)
    {value : (owned.removal group name).Value} {next : Resources}
    (performed : b.perform (owned.removal group name) = .ok (value, next)) :
    next = b.resources.without ⟨group, name⟩ owned := by
  cases owned with
  | publicIp | publicIpv6 =>
      obtain ⟨after, deleted, same⟩ := map_eq_ok.1 performed
      cases same
      unfold Resources.deletePublicIp at deleted
      split at deleted
      · cases deleted
      · exact (Except.ok.inj deleted).symm
  | nic =>
      obtain ⟨after, deleted, same⟩ := map_eq_ok.1 performed
      cases same
      unfold Resources.deleteNic at deleted
      split at deleted
      · cases deleted
      · exact (Except.ok.inj deleted).symm
  | disks =>
      obtain ⟨after, deleted, same⟩ := map_eq_ok.1 performed
      cases same
      unfold Resources.deleteDisk at deleted
      split at deleted
      · cases deleted
      · exact (Except.ok.inj deleted).symm
  | vm =>
      cases performed
      rfl

/-- A resource lies in a group under its own name and carries a machine's tag. -/
structure Belongs (group uid : String) (key : ResourceKey) (name : Option String) (tags : Tags) :
    Prop where
  group : key.group = group
  name : name = some key.name
  tagged : Naming.hasUid tags uid = true

/-- A backend has nothing but what a machine's record accounts for. -/
structure Accounted (group : String) (m : Machine) (r : Resources) : Prop where
  publicIps : ∀ key address, r.publicIps.get? key = some address →
    Belongs group m.uid key address.name address.tags ∧
      ∃ owned, owned.version? = some address.version ∧ Owned.of m owned = true
  nics : ∀ key nic, r.nics.get? key = some nic →
    Belongs group m.uid key nic.name nic.tags ∧ Owned.of m .nic = true
  vms : ∀ key vm, r.vms.get? key = some vm →
    Belongs group m.uid key vm.name vm.tags ∧ Owned.of m .vm = true
  disks : ∀ key disk, r.disks.get? key = some disk →
    Belongs group m.uid key disk.name disk.tags ∧ Owned.of m .disks = true
  attached : ∀ key disk owner, r.disks.get? key = some disk → disk.managedBy = some owner →
    ∃ vm, r.vms.contains vm = true ∧
      owner = Naming.vmId Resources.subscription vm.group vm.name

/-- A call that may be made for a machine: it puts only what the record accounts for, and it
changes no tags. -/
def Call.Fits (group : String) (m : Machine) : Call → Prop
  | putPublicIp place _ body => place = group ∧ Naming.hasUid body.tags m.uid = true ∧
      ∃ owned : Owned, owned.version? = some body.version ∧ Owned.of m owned = true
  | putNic place _ body =>
      place = group ∧ Naming.hasUid body.tags m.uid = true ∧ Owned.of m .nic = true
  | putVm place _ body => place = group ∧ Naming.hasUid body.tags m.uid = true ∧
      Owned.of m .disks = true ∧ Owned.of m .vm = true
  | tagVm .. | tagDisk .. => False
  | _ => True

namespace Accounted

variable {group : String} {m : Machine} {r : Resources}

theorem of_isEmpty (empty : r.isEmpty = true) : Accounted group m r := by
  obtain ⟨publicIps, nics, vms, disks⟩ := Resources.isEmpty_iff.1 empty
  constructor <;> simp [publicIps, nics, vms, disks]

/-- A record accounts for whatever carries the machine's tag. -/
theorem of_tagged (accounted : Accounted group m r) {key : ResourceKey} {owned : Owned}
    (tagged : r.Tagged m.uid key owned) : Owned.of m owned = true := by
  cases owned with
  | vm =>
      obtain ⟨vm, found, _⟩ := tagged
      exact (accounted.vms key vm found).2
  | disks =>
      obtain ⟨disk, found, _⟩ := tagged
      exact (accounted.disks key disk found).2
  | nic =>
      obtain ⟨nic, found, _⟩ := tagged
      exact (accounted.nics key nic found).2
  | publicIp =>
      obtain ⟨address, found, _, version⟩ := tagged
      obtain ⟨_, owned, same, present⟩ := accounted.publicIps key address found
      rw [version] at same
      exact Owned.eq_of_version? owned .publicIp same rfl ▸ present
  | publicIpv6 =>
      obtain ⟨address, found, _, version⟩ := tagged
      obtain ⟨_, owned, same, present⟩ := accounted.publicIps key address found
      rw [version] at same
      exact Owned.eq_of_version? owned .publicIpv6 same rfl ▸ present

/-- Another record of the machine accounts for the same resources if it has the finalizer of each
kind that is there. -/
theorem transfer (accounted : Accounted group m r) {n : Machine} (uid : n.uid = m.uid)
    (owns : ∀ key owned, r.Tagged m.uid key owned → Owned.of n owned = true) :
    Accounted group n r where
  publicIps key address found := by
    obtain ⟨belongs, owned, version, _⟩ := accounted.publicIps key address found
    refine ⟨uid ▸ belongs, owned, version, owns key owned ?_⟩
    cases owned with
    | publicIp => exact ⟨address, found, belongs.tagged, (Option.some.inj version).symm⟩
    | publicIpv6 => exact ⟨address, found, belongs.tagged, (Option.some.inj version).symm⟩
    | nic | disks | vm => cases version
  nics key nic found := by
    obtain ⟨belongs, _⟩ := accounted.nics key nic found
    exact ⟨uid ▸ belongs, owns key .nic ⟨nic, found, belongs.tagged⟩⟩
  vms key vm found := by
    obtain ⟨belongs, _⟩ := accounted.vms key vm found
    exact ⟨uid ▸ belongs, owns key .vm ⟨vm, found, belongs.tagged⟩⟩
  disks key disk found := by
    obtain ⟨belongs, _⟩ := accounted.disks key disk found
    exact ⟨uid ▸ belongs, owns key .disks ⟨disk, found, belongs.tagged⟩⟩
  attached := accounted.attached

/-- Without finalizers of the provider there is nothing. -/
theorem isEmpty_of_clear (accounted : Accounted group m r) (clear : ledger.isClear m = true) :
    r.isEmpty = true := by
  have absent := isClear_iff.1 clear
  refine Resources.isEmpty_iff.2 ⟨fun key => ?_, fun key => ?_, fun key => ?_, fun key => ?_⟩
  · refine Option.eq_none_iff_forall_ne_some.2 fun address found => ?_
    obtain ⟨_, owned, _, present⟩ := accounted.publicIps key address found
    simp [absent] at present
  · refine Option.eq_none_iff_forall_ne_some.2 fun nic found => ?_
    simpa [absent] using (accounted.nics key nic found).2
  · refine Option.eq_none_iff_forall_ne_some.2 fun vm found => ?_
    simpa [absent] using (accounted.vms key vm found).2
  · refine Option.eq_none_iff_forall_ne_some.2 fun disk found => ?_
    simpa [absent] using (accounted.disks key disk found).2

/-- Address given out or kept, a public address is stored under its name with its tags. -/
theorem putPublicIp {b : Backend} (accounted : Accounted group m b.resources) {name : String}
    {body stored : PublicIpAddress} {next : Resources}
    (tagged : Naming.hasUid body.tags m.uid = true)
    (owned : ∃ owned : Owned, owned.version? = some body.version ∧ Owned.of m owned = true)
    (put : b.perform (.putPublicIp group name body) = .ok (stored, next)) :
    Accounted group m next := by
  obtain ⟨address, count, rfl, rfl⟩ := Call.exists_of_putPublicIp put
  refine ⟨fun key address found => ?_, accounted.nics, accounted.vms, accounted.disks,
    accounted.attached⟩
  rw [SortedMap.get?_insert] at found
  split at found
  · rename_i same
    cases found
    exact ⟨⟨same ▸ rfl, same ▸ rfl, tagged⟩, owned⟩
  · exact accounted.publicIps key address found

theorem putNic (accounted : Accounted group m r) {name : String} {body stored : NetworkInterface}
    {next : Resources} (tagged : Naming.hasUid body.tags m.uid = true)
    (owned : Owned.of m .nic = true) (put : r.putNic ⟨group, name⟩ body = .ok (stored, next)) :
    Accounted group m next := by
  obtain ⟨_, addresses, total, _, rfl, rfl⟩ := Resources.putNic_eq_ok put
  refine ⟨accounted.publicIps, fun key nic found => ?_, accounted.vms, accounted.disks,
    accounted.attached⟩
  rw [SortedMap.get?_insert] at found
  split at found
  · rename_i same
    cases found
    exact ⟨⟨same ▸ rfl, same ▸ rfl, tagged⟩, owned⟩
  · exact accounted.nics key nic found

/-- The disks that come with a virtual machine are attached to it and carry its tags. -/
theorem putVm (accounted : Accounted group m r) {name : String} {body stored : VirtualMachine}
    {next : Resources} (tagged : Naming.hasUid body.tags m.uid = true)
    (ownsDisks : Owned.of m .disks = true) (ownsVm : Owned.of m .vm = true)
    (put : r.putVm ⟨group, name⟩ body = .ok (stored, next)) : Accounted group m next := by
  obtain ⟨_, rfl, rfl⟩ := Resources.putVm_eq_ok.1 put
  refine ⟨accounted.publicIps, accounted.nics, fun key vm found => ?_, fun key disk found => ?_,
    fun key disk owner found owner_eq => ?_⟩
  · rw [Resources.withVm, SortedMap.get?_insert] at found
    split at found
    · rename_i same
      cases found
      exact ⟨⟨same ▸ rfl, same ▸ rfl, tagged⟩, ownsVm⟩
    · exact accounted.vms key vm found
  · rw [Resources.withVm, Resources.get?_addDisks] at found
    rcases Option.or_eq_some_iff.1 found with earlier | ⟨_, added⟩
    · exact accounted.disks key disk earlier
    · split at added
      · rename_i place
        cases added
        exact ⟨⟨place.1, rfl, tagged⟩, ownsDisks⟩
      · cases added
  · rw [Resources.withVm, Resources.get?_addDisks] at found
    rcases Option.or_eq_some_iff.1 found with earlier | ⟨_, added⟩
    · obtain ⟨vm, present, same⟩ := accounted.attached key disk owner earlier owner_eq
      exact ⟨vm, SortedMap.contains_insert_of present _ _, same⟩
    · split at added
      · cases added
        cases owner_eq
        exact ⟨⟨group, name⟩, by simp [Resources.withVm], rfl⟩
      · cases added

/-- A deletion leaves only what was there, and detaches the disks of a virtual machine that goes. -/
theorem without (accounted : Accounted group m r) (key : ResourceKey) (owned : Owned) :
    Accounted group m (r.without key owned) := by
  cases owned with
  | publicIp | publicIpv6 =>
      refine ⟨fun other address found => ?_, accounted.nics, accounted.vms, accounted.disks,
        accounted.attached⟩
      exact accounted.publicIps other address (SortedMap.get?_of_erase found).2
  | nic =>
      refine ⟨accounted.publicIps, fun other nic found => ?_, accounted.vms, accounted.disks,
        accounted.attached⟩
      exact accounted.nics other nic (SortedMap.get?_of_erase found).2
  | disks =>
      refine ⟨accounted.publicIps, accounted.nics, accounted.vms, fun other disk found => ?_,
        fun other disk owner found => ?_⟩
      · exact accounted.disks other disk (SortedMap.get?_of_erase found).2
      · exact accounted.attached other disk owner (SortedMap.get?_of_erase found).2
  | vm =>
      refine ⟨accounted.publicIps, accounted.nics, fun other vm found => ?_,
        fun other disk found => ?_, fun other disk owner found attached => ?_⟩
      · exact accounted.vms other vm (SortedMap.get?_of_erase found).2
      · obtain ⟨earlier, stored, same⟩ := Resources.disk_of_deleteVm found
        have belongs := accounted.disks other earlier stored
        rw [same.1, same.2.1]
        exact belongs
      · obtain ⟨earlier, stored, _, _, managed⟩ := Resources.disk_of_deleteVm found
        obtain ⟨kept, elsewhere⟩ := managed owner attached
        obtain ⟨vm, there, place⟩ := accounted.attached other earlier owner stored kept
        have different : key ≠ vm := by
          rintro rfl
          exact elsewhere there place
        exact ⟨vm, by simpa [Resources.without, Resources.deleteVm, SortedMap.contains, different]
          using there, place⟩

/-- A call that fits the record leaves only what the record accounts for. -/
theorem perform {b : Backend} {what : Call} {value : what.Value} {next : Resources}
    (accounted : Accounted group m b.resources) (fits : what.Fits group m)
    (performed : b.perform what = .ok (value, next)) : Accounted group m next := by
  cases what with
  | putPublicIp place name body =>
      obtain ⟨rfl, tagged, owned⟩ := fits
      exact accounted.putPublicIp tagged owned performed
  | putNic place name body =>
      obtain ⟨rfl, tagged, owned⟩ := fits
      exact accounted.putNic tagged owned performed
  | putVm place name body =>
      obtain ⟨rfl, tagged, disks, vm⟩ := fits
      exact accounted.putVm tagged disks vm performed
  | deletePublicIp place name =>
      exact Backend.perform_removal .publicIp performed ▸ accounted.without _ _
  | deleteNic place name =>
      exact Backend.perform_removal .nic performed ▸ accounted.without _ _
  | deleteDisk place name =>
      exact Backend.perform_removal .disks performed ▸ accounted.without _ _
  | deleteVm place name =>
      exact Backend.perform_removal .vm performed ▸ accounted.without _ _
  | tagVm | tagDisk => exact fits.elim
  | getPublicIp | listPublicIps | getNic | listNics | getVm | listAllVms | listVms | instanceView
  | listDisks | getVirtualNetwork | getSubnet | listVmSkus | checkImage =>
      exact Backend.perform_of_read rfl performed ▸ accounted

end Accounted

theorem Call.fits_of_isRemoval {what : Call} (removal : what.isRemoval = true) (group : String)
    (m : Machine) : what.Fits group m := by
  cases what <;> trivial

theorem Call.fits_of_read {what : Call} (read : what.isWrite = false) (group : String)
    (m : Machine) : what.Fits group m := by
  cases what <;> trivial

namespace Owned

/-- Nothing that a record still accounts for can refer to a resource of a kind. -/
def Unreferenced (m : Machine) : Owned → Prop
  | .vm => True
  | .disks | .nic => of m .vm = false
  | .publicIp | .publicIpv6 => of m .nic = false

/-- The first kind in the order of teardown is not referred to. -/
theorem unreferenced_of_first {m : Machine} {first : Owned} {rest : List Owned}
    (order : remaining m = first :: rest) : Unreferenced m first := by
  have listed : remaining m = [vm, disks, nic, publicIpv6, publicIp].filter (of m) := by
    rw [remaining, present, ← List.filter_reverse]
    rfl
  rw [listed] at order
  have member : first ∈ [vm, disks, nic, publicIpv6, publicIp].filter (of m) :=
    order ▸ List.mem_cons_self
  have owned := (List.mem_filter.1 member).2
  cases vmOwned : of m vm with
  | true =>
      rw [List.filter_cons_of_pos vmOwned, List.cons.injEq] at order
      exact order.1 ▸ trivial
  | false =>
      rw [List.filter_cons_of_neg (by simp [vmOwned])] at order
      cases first with
      | vm => trivial
      | disks | nic => exact vmOwned
      | publicIp | publicIpv6 =>
          cases nicOwned : of m nic with
          | false => exact nicOwned
          | true => cases disksOwned : of m disks <;> simp [disksOwned, nicOwned] at order

end Owned

namespace Accounted

variable {group : String} {m : Machine}

/-- What nothing refers to can be deleted. -/
theorem perform_removal_ne_error {b : Backend} (accounted : Accounted group m b.resources)
    {owned : Owned} (unreferenced : Owned.Unreferenced m owned) (place name : String)
    (fault : AzureError) : b.perform (owned.removal place name) ≠ .error fault := by
  intro failed
  have noVm (absent : Owned.of m .vm = false) (key : ResourceKey) :
      b.resources.vms.get? key = none := by
    refine Option.eq_none_iff_forall_ne_some.2 fun vm found => ?_
    simpa [absent] using (accounted.vms key vm found).2
  have noNic (absent : Owned.of m .nic = false) (key : ResourceKey) :
      b.resources.nics.get? key = none := by
    refine Option.eq_none_iff_forall_ne_some.2 fun nic found => ?_
    simpa [absent] using (accounted.nics key nic found).2
  cases owned with
  | vm => cases failed
  | disks =>
      have deleted : b.resources.deleteDisk ⟨place, name⟩ =
          .ok { b.resources with disks := b.resources.disks.erase ⟨place, name⟩ } := by
        unfold Resources.deleteDisk
        split
        · rename_i owner attached
          obtain ⟨disk, found, managed⟩ := Option.bind_eq_some_iff.1 attached
          obtain ⟨vm, present, _⟩ := accounted.attached _ disk owner found managed
          obtain ⟨_, found⟩ := SortedMap.contains_iff.1 present
          simp [noVm unreferenced] at found
        · rfl
      simp [Owned.removal, Backend.perform, deleted, Except.map] at failed
  | nic =>
      have unused : b.resources.nicUser? ⟨place, name⟩ = none := by
        rw [Resources.nicUser?, Option.map_eq_none_iff, List.find?_eq_none]
        intro vm member
        obtain ⟨key, found⟩ := SortedMap.mem_values_iff.1 member
        simp [noVm unreferenced] at found
      simp [Owned.removal, Backend.perform, Resources.deleteNic, unused, Except.map] at failed
  | publicIp | publicIpv6 =>
      have unused : b.resources.publicIpUser? ⟨place, name⟩ = none := by
        rw [Resources.publicIpUser?, Option.map_eq_none_iff, List.find?_eq_none]
        intro nic member
        obtain ⟨key, found⟩ := SortedMap.mem_values_iff.1 member
        simp [noNic unreferenced] at found
      simp [Owned.removal, Backend.perform, Resources.deletePublicIp, unused, Except.map] at failed

end Accounted

end Provisioning.Azure
