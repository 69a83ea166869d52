import Provisioning.Proofs.Migration

/-!
A creation and a look-up see the same machine, although the one reads it back by its name and the
other finds it by its tag among all virtual machines. Main statement: `get_of_created`.
-/

namespace Provisioning.Azure

open Program (Reaches)

variable {m n copy : Machine} {c : Config} {e later : Envelope} {sources others : Sources}
  {userdata : String} {i : Instance} {w v : World Backend}

/-- A creation that has succeeded, whatever faults were placed in between, leaves a layout of the
machine and has ended with the instance that is then seen. -/
theorem exists_layout_of_created (stored : w.store.get? m.name = some m)
    (resolved : Config.resolve sources m.providerSpec = .ok (c, e))
    (created : Reaches (World.serve Backend.service) (Faulted fun _ => True)
      ((create sources userdata).run.run m) w (.done (.ok i, copy)) v) :
    ∃ (l : Layout) (h : Holdings), l.config = c ∧ l.name = m.name ∧
      h.backend.resources = (l.on w.backend.resources fun _ => m.uid) ∧
      Holds False w.store.records h v ∧
      h.backend.glimpse (Lookup.instanceOf l.config
        ((l.vmBody m.uid).stored (l.keyOf l.name))).run = .ok i := by
  have follows : Recorded.Meets (Hindered False) _ _ _ (create sources userdata) m w :=
    create_follows resolved (World.holds_holdings stored)
  obtain ⟨u, changes, last, creates, _, holds⟩ :=
    (created.weaken fun _ _ change => Hindered.of_faulted change).safe follows
  obtain ⟨storage, storable⟩ := creates.storage
  obtain ⟨l, rfl, _, name, _, made, _⟩ := exists_layout storable creates.carried
  have seen := creates.seen
  rw [← name, Layout.glimpse_readBack made] at seen
  exact ⟨l, last, rfl, name, made, holds.outside changes, seen⟩

/-- Whoever asks for a machine that was just created is given the instance with which the creation
ended, if no other virtual machine carried its tag before. -/
theorem get_of_created (stored : w.store.get? m.name = some m)
    (resolved : Config.resolve sources m.providerSpec = .ok (c, e))
    (only : ∀ key, key ≠ ⟨c.resourceGroup, m.name⟩ → ∀ vm,
      w.backend.resources.vms.get? key = some vm → Naming.hasUid vm.tags m.uid = false)
    (created : Reaches (World.serve Backend.service) (Faulted fun _ => True)
      ((create sources userdata).run.run m) w (.done (.ok i, copy)) v)
    (uid : n.uid = m.uid) (again : Config.resolve others n.providerSpec = .ok (c, later)) :
    (World.run Backend.service (get others n).run v.calm).1 = .ok i := by
  obtain ⟨l, h, rfl, name, made, holds, seen⟩ := exists_layout_of_created stored resolved created
  rw [← name] at only
  have found := Layout.glimpse_vm_of_only only made
  exact get_eq_ok holds.calmed again (uid ▸ found) seen

/-- The sample machine, whose user writes a tag `Machine-UID` of another identity, is found. -/
theorem get_of_created_made : ∃ i copy u,
    Reaches (World.serve Backend.service) (Faulted fun _ => True)
      ((create Sample.sources "data").run.run Sample.machine) Sample.world.calm
      (.done (.ok i, copy)) u ∧
    (∀ key, key ≠ ⟨Sample.resolved.1.resourceGroup, Sample.machine.name⟩ → ∀ vm,
      Sample.world.calm.backend.resources.vms.get? key = some vm →
        Naming.hasUid vm.tags Sample.machine.uid = false) ∧
    (World.run Backend.service (get Sample.sources Sample.machine).run u.calm).1 = .ok i := by
  obtain ⟨i, copy, u, made⟩ := Sample.exists_made
  have created : Reaches (World.serve Backend.service) (Faulted fun _ => True)
      ((create Sample.sources "data").run.run Sample.machine) Sample.world.calm
      (.done Sample.made.1) Sample.made.2 := Program.reaches_run _ _
  rw [made] at created
  have only : ∀ key, key ≠ ⟨Sample.resolved.1.resourceGroup, Sample.machine.name⟩ → ∀ vm,
      Sample.world.calm.backend.resources.vms.get? key = some vm →
        Naming.hasUid vm.tags Sample.machine.uid = false := by
    intro key _ vm found
    have absent := (Resources.isEmpty_iff.1 Sample.begins.empty).2.2.1 key
    cases absent.symm.trans found
  have stored : Sample.world.calm.store.get? Sample.machine.name = some Sample.machine :=
    Sample.begins.stored
  exact ⟨i, copy, u, created, only,
    get_of_created stored Sample.resolve_spec only created rfl Sample.resolve_spec⟩

end Provisioning.Azure
