import Provisioning.Proofs.Arising

/-!
Which tags each call gives to what. Main statement: `Resources.Bears.of_perform`, that whatever
bears tags after a call bore them before and was left alone, unless the call gave it these tags.
-/

namespace Provisioning.Azure

namespace Call

/-- A call stores something of a kind with certain tags under a key, or gives it these tags. -/
def Gives (what : Call) (key : ResourceKey) (tags : Tags) (kind : Owned) : Prop :=
  match what with
  | putPublicIp group name body =>
      key = ⟨group, name⟩ ∧ kind.version? = some body.version ∧ tags = body.tags
  | putNic group name body => key = ⟨group, name⟩ ∧ kind = .nic ∧ tags = body.tags
  | putVm group name body =>
      ((key = ⟨group, name⟩ ∧ kind = .vm) ∨ (key.group = group ∧ kind = .disks)) ∧
        tags = body.tags
  | tagVm group name given => key = ⟨group, name⟩ ∧ kind = .vm ∧ tags = given
  | tagDisk group name given => key = ⟨group, name⟩ ∧ kind = .disks ∧ tags = given
  | _ => False

/-- A call stores or tags something of a kind under a key, whatever was there. -/
def Replaces (what : Call) (key : ResourceKey) (kind : Owned) : Prop :=
  match what with
  | putPublicIp group name _ => key = ⟨group, name⟩ ∧ kind.version?.isSome = true
  | putNic group name _ => key = ⟨group, name⟩ ∧ kind = .nic
  | putVm group name _ | tagVm group name _ => key = ⟨group, name⟩ ∧ kind = .vm
  | tagDisk group name _ => key = ⟨group, name⟩ ∧ kind = .disks
  | _ => False

end Call

namespace Resources.Bears

variable {r : Resources} {place key : ResourceKey} {tags : Tags} {kind : Owned} {count : Nat}

/-- What bears tags after a public address was stored is that address, or bore them before. -/
theorem of_insert_publicIp {stored : PublicIpAddress}
    (bears : { r with publicIps := r.publicIps.insert place stored, addresses := count }.Bears key
      tags kind) :
    (key = place ∧ kind.version? = some stored.version ∧ tags = stored.tags) ∨
      (r.Bears key tags kind ∧ ¬(key = place ∧ kind.version?.isSome = true)) := by
  cases kind with
  | publicIp | publicIpv6 =>
      obtain ⟨address, found, rfl, version⟩ := bears
      rcases SortedMap.get?_of_insert found with ⟨same, rfl⟩ | ⟨different, earlier⟩
      · exact .inl ⟨same, congrArg some version.symm, rfl⟩
      · exact .inr ⟨⟨address, earlier, rfl, version⟩, fun replaced => different replaced.1⟩
  | nic | disks | vm => exact .inr ⟨bears, fun replaced => by cases replaced.2⟩

/-- What bears tags after an interface was stored is that interface, or bore them before. -/
theorem of_insert_nic {stored : NetworkInterface}
    (bears : { r with nics := r.nics.insert place stored, addresses := count }.Bears key tags
      kind) :
    (key = place ∧ kind = .nic ∧ tags = stored.tags) ∨
      (r.Bears key tags kind ∧ ¬(key = place ∧ kind = .nic)) := by
  cases kind with
  | nic =>
      obtain ⟨nic, found, rfl⟩ := bears
      rcases SortedMap.get?_of_insert found with ⟨same, rfl⟩ | ⟨different, earlier⟩
      · exact .inl ⟨same, rfl, rfl⟩
      · exact .inr ⟨⟨nic, earlier, rfl⟩, fun replaced => different replaced.1⟩
  | publicIp | publicIpv6 | disks | vm => exact .inr ⟨bears, fun replaced => by cases replaced.2⟩

/-- What bears tags after a virtual machine was stored is that machine, or bore them before. -/
theorem of_insert_vm {stored : VirtualMachine}
    (bears : { r with vms := r.vms.insert place stored }.Bears key tags kind) :
    (key = place ∧ kind = .vm ∧ tags = stored.tags) ∨
      (r.Bears key tags kind ∧ ¬(key = place ∧ kind = .vm)) := by
  cases kind with
  | vm =>
      obtain ⟨vm, found, rfl⟩ := bears
      rcases SortedMap.get?_of_insert found with ⟨same, rfl⟩ | ⟨different, earlier⟩
      · exact .inl ⟨same, rfl, rfl⟩
      · exact .inr ⟨⟨vm, earlier, rfl⟩, fun replaced => different replaced.1⟩
  | publicIp | publicIpv6 | nic | disks =>
      exact .inr ⟨bears, fun replaced => by cases replaced.2⟩

/-- What bears tags after a disk was stored is that disk, or bore them before. -/
theorem of_insert_disk {stored : Disk}
    (bears : { r with disks := r.disks.insert place stored }.Bears key tags kind) :
    (key = place ∧ kind = .disks ∧ tags = stored.tags) ∨
      (r.Bears key tags kind ∧ ¬(key = place ∧ kind = .disks)) := by
  cases kind with
  | disks =>
      obtain ⟨disk, found, rfl⟩ := bears
      rcases SortedMap.get?_of_insert found with ⟨same, rfl⟩ | ⟨different, earlier⟩
      · exact .inl ⟨same, rfl, rfl⟩
      · exact .inr ⟨⟨disk, earlier, rfl⟩, fun replaced => different replaced.1⟩
  | publicIp | publicIpv6 | nic | vm => exact .inr ⟨bears, fun replaced => by cases replaced.2⟩

/-- With a virtual machine come disks in its group, which carry its tags. -/
theorem of_withVm {body : VirtualMachine} (bears : (r.withVm place body).Bears key tags kind) :
    (((key = place ∧ kind = .vm) ∨ (key.group = place.group ∧ kind = .disks)) ∧
        tags = body.tags) ∨
      (r.Bears key tags kind ∧ ¬(key = place ∧ kind = .vm)) := by
  cases kind with
  | disks =>
      obtain ⟨disk, found, rfl⟩ := bears
      rw [withVm, get?_addDisks] at found
      rcases Option.or_eq_some_iff.1 found with earlier | ⟨_, added⟩
      · exact .inr ⟨⟨disk, earlier, rfl⟩, fun replaced => by cases replaced.2⟩
      · split at added
        · rename_i inside
          cases added
          exact .inl ⟨.inr ⟨inside.1, rfl⟩, rfl⟩
        · cases added
  | vm =>
      have stored : { r with vms := r.vms.insert place (body.stored place) }.Bears key tags .vm :=
        bears
      rcases stored.of_insert_vm with ⟨same, kind, rfl⟩ | earlier
      · exact .inl ⟨.inl ⟨same, kind⟩, rfl⟩
      · exact .inr earlier
  | publicIp | publicIpv6 | nic => exact .inr ⟨bears, fun replaced => by cases replaced.2⟩

/-- What bears tags after a call was given them by the call, or bore them before and was left
alone. -/
theorem of_perform {b : Backend} {what : Call} {value : what.Value} {next : Resources}
    (performed : b.perform what = .ok (value, next)) (bears : next.Bears key tags kind) :
    what.Gives key tags kind ∨ (b.resources.Bears key tags kind ∧ ¬what.Replaces key kind) := by
  have removed {place : ResourceKey} {removed : Owned}
      (bears : (b.resources.without place removed).Bears key tags kind) :
      b.resources.Bears key tags kind := bears.of_without.1
  cases what with
  | putPublicIp group name body =>
      obtain ⟨address, count, _, rfl⟩ := Call.exists_of_putPublicIp performed
      exact bears.of_insert_publicIp
  | putNic group name body =>
      obtain ⟨_, addresses, total, _, _, rfl⟩ := Resources.putNic_eq_ok performed
      exact bears.of_insert_nic
  | putVm group name body =>
      obtain ⟨_, _, rfl⟩ := Resources.putVm_eq_ok.1 performed
      exact bears.of_withVm
  | tagVm group name given =>
      obtain ⟨next, tagged, same⟩ := map_eq_ok.1 performed
      cases same
      obtain ⟨vm, found, rfl⟩ := Resources.exists_of_tagVm tagged
      exact bears.of_insert_vm
  | tagDisk group name given =>
      obtain ⟨next, tagged, same⟩ := map_eq_ok.1 performed
      cases same
      obtain ⟨disk, found, rfl⟩ := Resources.exists_of_tagDisk tagged
      exact bears.of_insert_disk
  | deletePublicIp group name =>
      rw [Backend.perform_removal .publicIp performed] at bears
      exact .inr ⟨removed bears, not_false⟩
  | deleteNic group name =>
      rw [Backend.perform_removal .nic performed] at bears
      exact .inr ⟨removed bears, not_false⟩
  | deleteDisk group name =>
      rw [Backend.perform_removal .disks performed] at bears
      exact .inr ⟨removed bears, not_false⟩
  | deleteVm group name =>
      rw [Backend.perform_removal .vm performed] at bears
      exact .inr ⟨removed bears, not_false⟩
  | getPublicIp | listPublicIps | getNic | listNics | getVm | listAllVms | listVms | instanceView
  | listDisks | getVirtualNetwork | getSubnet | listVmSkus | checkImage =>
      rw [Backend.perform_of_read rfl performed] at bears
      exact .inr ⟨bears, not_false⟩

end Resources.Bears

end Provisioning.Azure
