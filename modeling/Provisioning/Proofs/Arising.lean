import Provisioning.Proofs.Accounted
import Provisioning.Proofs.Requests

/-!
Whatever a backend can come to have: it begins with nothing, calls are performed, and views of
virtual machines are reported, by whomever. Main statement: `Arises.filed`, that everything is then
stored under its own name.
-/

namespace Provisioning.Azure

open Program (Reaches)

namespace Resources

/-- What there can be at a backend that began with nothing. -/
inductive Arises : Resources → Prop where
  | empty : Arises .empty
  | perform {b : Backend} {what : Call} {value : what.Value} {next : Resources} :
      Arises b.resources → b.perform what = .ok (value, next) → Arises next
  | view {b : Backend} (key : ResourceKey) (view : InstanceView) :
      Arises b.resources → Arises (b.setView key view).resources

/-- Everything is stored under its own name. -/
structure Filed (r : Resources) : Prop where
  publicIps : ∀ key address, r.publicIps.get? key = some address → address.name = some key.name
  nics : ∀ key nic, r.nics.get? key = some nic → nic.name = some key.name
  vms : ∀ key vm, r.vms.get? key = some vm → vm.name = some key.name
  disks : ∀ key disk, r.disks.get? key = some disk → disk.name = some key.name

/-- Only a virtual machine that is there is tagged. -/
theorem exists_of_tagVm {r next : Resources} {key : ResourceKey} {tags : Tags}
    (tagged : r.tagVm key tags = .ok next) : ∃ vm, r.vms.get? key = some vm ∧
      next = { r with vms := r.vms.insert key { vm with tags } } := by
  unfold tagVm look at tagged
  cases found : r.vms.get? key with
  | none => simp [found, bind, Except.bind] at tagged
  | some vm =>
      rw [found] at tagged
      cases tagged
      exact ⟨vm, rfl, rfl⟩

/-- Only a disk that is there is tagged. -/
theorem exists_of_tagDisk {r next : Resources} {key : ResourceKey} {tags : Tags}
    (tagged : r.tagDisk key tags = .ok next) : ∃ disk, r.disks.get? key = some disk ∧
      next = { r with disks := r.disks.insert key { disk with tags } } := by
  unfold tagDisk look at tagged
  cases found : r.disks.get? key with
  | none => simp [found, bind, Except.bind] at tagged
  | some disk =>
      rw [found] at tagged
      cases tagged
      exact ⟨disk, rfl, rfl⟩

namespace Filed

variable {r : Resources} {key : ResourceKey}

theorem withVm (filed : r.Filed) (body : VirtualMachine) : (r.withVm key body).Filed := by
  refine ⟨filed.publicIps, filed.nics, SortedMap.forall_insert filed.vms rfl, ?_⟩
  intro other disk found
  rw [Resources.withVm, get?_addDisks] at found
  rcases Option.or_eq_some_iff.1 found with earlier | ⟨_, added⟩
  · exact filed.disks other disk earlier
  · split at added
    · cases added
      rfl
    · cases added

theorem without (filed : r.Filed) (owned : Owned) : (r.without key owned).Filed := by
  cases owned with
  | publicIp | publicIpv6 =>
      exact ⟨SortedMap.forall_erase filed.publicIps key, filed.nics, filed.vms, filed.disks⟩
  | nic =>
      exact ⟨filed.publicIps, SortedMap.forall_erase filed.nics key, filed.vms, filed.disks⟩
  | disks =>
      exact ⟨filed.publicIps, filed.nics, filed.vms, SortedMap.forall_erase filed.disks key⟩
  | vm =>
      refine ⟨filed.publicIps, filed.nics, SortedMap.forall_erase filed.vms key,
        fun other disk found => ?_⟩
      obtain ⟨earlier, stored, name, _⟩ := disk_of_deleteVm found
      rw [name]
      exact filed.disks other earlier stored

/-- No call stores anything under another name. -/
theorem perform {b : Backend} {what : Call} {value : what.Value} {next : Resources}
    (filed : b.resources.Filed) (performed : b.perform what = .ok (value, next)) :
    next.Filed := by
  cases what with
  | putPublicIp place name body =>
      obtain ⟨address, count, _, rfl⟩ := Call.exists_of_putPublicIp performed
      exact ⟨SortedMap.forall_insert filed.publicIps rfl, filed.nics, filed.vms, filed.disks⟩
  | putNic place name body =>
      obtain ⟨_, addresses, total, _, _, rfl⟩ := Resources.putNic_eq_ok performed
      exact ⟨filed.publicIps, SortedMap.forall_insert filed.nics rfl, filed.vms, filed.disks⟩
  | putVm place name body =>
      obtain ⟨_, _, rfl⟩ := Resources.putVm_eq_ok.1 performed
      exact filed.withVm body
  | tagVm place name tags =>
      obtain ⟨next, tagged, same⟩ := map_eq_ok.1 performed
      cases same
      obtain ⟨vm, found, rfl⟩ := exists_of_tagVm tagged
      have named : vm.name = some name := filed.vms _ vm found
      exact ⟨filed.publicIps, filed.nics, SortedMap.forall_insert filed.vms named, filed.disks⟩
  | tagDisk place name tags =>
      obtain ⟨next, tagged, same⟩ := map_eq_ok.1 performed
      cases same
      obtain ⟨disk, found, rfl⟩ := exists_of_tagDisk tagged
      have named : disk.name = some name := filed.disks _ disk found
      exact ⟨filed.publicIps, filed.nics, filed.vms, SortedMap.forall_insert filed.disks named⟩
  | deletePublicIp place name => exact Backend.perform_removal .publicIp performed ▸ filed.without _
  | deleteNic place name => exact Backend.perform_removal .nic performed ▸ filed.without _
  | deleteDisk place name => exact Backend.perform_removal .disks performed ▸ filed.without _
  | deleteVm place name => exact Backend.perform_removal .vm performed ▸ filed.without _
  | getPublicIp | listPublicIps | getNic | listNics | getVm | listAllVms | listVms | instanceView
  | listDisks | getVirtualNetwork | getSubnet | listVmSkus | checkImage =>
      exact Backend.perform_of_read rfl performed ▸ filed

end Filed

theorem Arises.filed {r : Resources} (arises : r.Arises) : r.Filed := by
  induction arises with
  | empty =>
      have none : Resources.empty.isEmpty = true := rfl
      obtain ⟨publicIps, nics, vms, disks⟩ := isEmpty_iff.1 none
      constructor <;> simp [publicIps, nics, vms, disks]
  | perform _ performed ih => exact ih.perform performed
  | view key view _ ih => exact ⟨ih.publicIps, ih.nics, ih.vms, ih.disks⟩

end Resources

/-- Whatever is requested, a backend has what it can come to have. -/
theorem Resources.Arises.serve {w : World Backend} (arises : w.backend.resources.Arises)
    (q : Request) : (World.serve Backend.service q w).2.backend.resources.Arises := by
  cases q with
  | call credentials what =>
      rcases serve_call credentials what w with ⟨value, _, answers⟩ | ⟨fault, _, refuses⟩
      · exact arises.perform answers.performed
      · exact refuses.resources ▸ arises
  | connect | commit | recallSize | rememberSize | throwawayBytes => exact arises

/-- Wherever a program is cut off, a backend has what it can come to have. -/
theorem Resources.Arises.reaches {α : Type} {rely : World Backend → World Backend → Prop}
    {p left : Asking α} {w v : World Backend} (arises : w.backend.resources.Arises)
    (reached : Reaches (World.serve Backend.service) rely p w left v)
    (stable : ∀ {s t}, s.backend.resources.Arises → rely s t → t.backend.resources.Arises) :
    v.backend.resources.Arises := by
  induction reached with
  | start => exact arises
  | outside _ change ih => exact stable ih change
  | request _ ih => exact ih.serve _

theorem Resources.Arises.faulted {possible : AzureError → Prop} {w v : World Backend}
    (arises : w.backend.resources.Arises) (change : Faulted possible w v) :
    v.backend.resources.Arises := by
  cases change <;> exact arises

theorem Resources.Arises.run {α : Type} {w : World Backend} (arises : w.backend.resources.Arises)
    (p : Asking α) : (World.run Backend.service p w).2.backend.resources.Arises := by
  have alone : Reaches (World.serve Backend.service) (fun _ _ => False) p w _ _ :=
    Program.reaches_run p w
  exact arises.reaches alone fun _ never => never.elim

end Provisioning.Azure
