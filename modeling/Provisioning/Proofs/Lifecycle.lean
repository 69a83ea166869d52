import Provisioning.Proofs.Custody
import Provisioning.Proofs.Upkeep

/-!
Teardown and creation of a machine, part by part. Main statements: `cleanup_meets`, that a
teardown keeps the record in charge, leaves nothing when it succeeds, and fails only when it is
disturbed; and `create_meets`, that a creation keeps the record in charge.
-/

namespace Provisioning.Azure

open Relation

variable {calm : Prop} {group : String} {m n : Machine} {w : World Backend} {c : Config}

theorem Accounted.group_of_tagged {r : Resources} (accounted : Accounted group n r)
    {key : ResourceKey} {owned : Owned} (tagged : r.Tagged n.uid key owned) :
    key.group = group := by
  cases owned with
  | publicIp | publicIpv6 =>
      obtain ⟨address, found, _⟩ := tagged
      exact (accounted.publicIps key address found).1.group
  | nic =>
      obtain ⟨nic, found, _⟩ := tagged
      exact (accounted.nics key nic found).1.group
  | disks =>
      obtain ⟨disk, found, _⟩ := tagged
      exact (accounted.disks key disk found).1.group
  | vm =>
      obtain ⟨vm, found, _⟩ := tagged
      exact (accounted.vms key vm found).1.group

/-- Deleting by a list of names that has the name of everything tagged in a group leaves nothing
tagged there, if each deletion leaves only what was tagged and has another name. -/
theorem Cleanup.deleteAll_clears {rely guarantee : World Backend → World Backend → Prop}
    {holds : World Backend → Prop} {fails : AzureError → World Backend → Prop} {uid : String}
    {kind : Owned} {delete : String → Action Unit} (names : List String)
    (deletes : ∀ name ∈ names, ∀ t, holds t → (delete name).Meets rely guarantee
      (fun _ u => holds u ∧ ∀ key, u.backend.resources.Tagged uid key kind →
        t.backend.resources.Tagged uid key kind ∧ key ≠ ⟨group, name⟩) fails t)
    (here : holds w)
    (listed : ∀ name, w.backend.resources.Tagged uid ⟨group, name⟩ kind → name ∈ names) :
    (deleteAll delete names).Meets rely guarantee
      (fun _ u => holds u ∧ ∀ name, ¬u.backend.resources.Tagged uid ⟨group, name⟩ kind) fails
      w := by
  induction names generalizing w with
  | nil => exact .pure ⟨here, fun name tagged => List.not_mem_nil (listed name tagged)⟩
  | cons name rest ih =>
      rw [List.forall_mem_cons] at deletes
      refine .bind ((deletes.1 w here).mono ?_ fun _ _ met => met)
      rintro _ u ⟨after, fewer⟩
      -- What is still tagged was listed, and is not what was just deleted.
      refine ih deletes.2 after fun other tagged => ?_
      obtain ⟨earlier, different⟩ := fewer _ tagged
      refine (List.mem_cons.1 (listed other earlier)).resolve_left fun same => different ?_
      rw [same]

/-- After a deletion by name the record is in charge, and of the kind only what had another name
can be left. -/
def Deleted (calm : Prop) (group : String) (n : Machine) (owned : Owned) (name : String)
    (w : World Backend) (_ : Unit) (u : World Backend) : Prop :=
  Tracked calm group n u ∧ ∀ key, u.backend.resources.Tagged n.uid key owned →
    w.backend.resources.Tagged n.uid key owned ∧ key ≠ ⟨group, name⟩

/-- The record is in charge, and nothing of a kind is left. -/
def Cleared (calm : Prop) (group : String) (n : Machine) (owned : Owned) (_ : Unit)
    (u : World Backend) : Prop :=
  Tracked calm group n u ∧ ∀ key, ¬u.backend.resources.Tagged n.uid key owned

/-- The record is in charge, and something came in between. -/
def Interrupted (calm : Prop) (group : String) (n : Machine) (_ : AzureError)
    (u : World Backend) : Prop :=
  Tracked calm group n u ∧ ¬calm

namespace Tracked

/-- A deletion of what nothing refers to succeeds unless it is disturbed. -/
theorem remove (tracked : Tracked calm group n w) (continues : Continues m n) (owned : Owned)
    (unreferenced : Owned.Unreferenced n owned) (name : String) :
    (Action.call c (owned.removal group name)).Meets (Outside calm) (InCharge group m)
      (fun _ => Deleted calm group n owned name w ()) (Interrupted calm group n) w := by
  refine tracked.call continues _
    (Call.fits_of_isRemoval (Owned.isRemoval_removal group name owned) group n) ?_ ?_
  · intro t value u changes _ answers after
    refine ⟨after, fun key tagged => ?_⟩
    rw [Backend.perform_removal owned answers.performed] at tagged
    exact ⟨tagged_of_outside changes tagged.of_without.1, tagged.of_without.2 rfl⟩
  · intro t fault u before refuses after
    exact ⟨after, fun quiet => before.accounted.perform_removal_ne_error unreferenced group name
      fault (refuses.of_calm (before.calm quiet))⟩

/-- Listing a kind and deleting what is tagged leaves nothing tagged. -/
theorem clear (tracked : Tracked calm group n w) (continues : Continues m n) (owned : Owned)
    (list : Call) {names : list.Value → List String} {delete : String → Action Unit}
    (read : list.isWrite = false)
    (listed : ∀ t, Tracked calm group n t → ∃ value,
      t.backend.perform list = .ok (value, t.backend.resources) ∧
        ∀ key, t.backend.resources.Tagged n.uid key owned → key.name ∈ names value)
    (deletes : ∀ name t, Tracked calm group n t →
      (delete name).Meets (Outside calm) (InCharge group m)
        (Deleted calm group n owned name t) (Interrupted calm group n) t) :
    (Action.call c list >>= fun found => Cleanup.deleteAll delete (names found)).Meets
      (Outside calm) (InCharge group m) (Cleared calm group n owned) (Interrupted calm group n)
      w := by
  refine .bind (tracked.call continues _ (Call.fits_of_read read group n) ?_ ?_)
  · intro t value u _ before answers after
    obtain ⟨found, performed, all⟩ := listed t before
    have same := answers.performed
    rw [performed, Except.ok.injEq, Prod.mk.injEq] at same
    have cleared := Cleanup.deleteAll_clears (names value)
      (fun name _ t before => deletes name t before) after fun name tagged => by
        rw [← same.2] at tagged
        exact same.1 ▸ all _ tagged
    refine cleared.mono (fun _ u clear => ⟨clear.1, fun key tagged => ?_⟩) fun _ _ met => met
    rw [← clear.1.accounted.group_of_tagged tagged] at clear
    exact clear.2 key.name tagged
  · intro t fault u before refuses after
    refine ⟨after, fun quiet => ?_⟩
    obtain ⟨found, performed, _⟩ := listed t before
    cases performed.symm.trans (refuses.of_calm (before.calm quiet))

theorem deleteVms (tracked : Tracked calm c.resourceGroup n w) (continues : Continues m n) :
    (Cleanup.deleteVms c n.uid).Meets (Outside calm) (InCharge c.resourceGroup m)
      (Cleared calm c.resourceGroup n .vm) (Interrupted calm c.resourceGroup n) w := by
  refine tracked.clear continues .vm (.listVms c.resourceGroup) rfl (fun t before => ?_)
    fun name t before => before.remove continues .vm trivial name
  refine ⟨_, rfl, fun key ⟨vm, found, tagged⟩ => ?_⟩
  obtain ⟨belongs, _⟩ := before.accounted.vms key vm found
  exact belongs.group ▸ Resources.name_mem_listed found belongs.name tagged

theorem deleteDisks (tracked : Tracked calm c.resourceGroup n w) (continues : Continues m n)
    (unreferenced : Owned.Unreferenced n .disks) :
    (Cleanup.deleteDisks c n.uid).Meets (Outside calm) (InCharge c.resourceGroup m)
      (Cleared calm c.resourceGroup n .disks) (Interrupted calm c.resourceGroup n) w := by
  refine tracked.clear continues .disks (.listDisks c.resourceGroup) rfl (fun t before => ?_)
    fun name t before => before.remove continues .disks unreferenced name
  refine ⟨_, rfl, fun key ⟨disk, found, tagged⟩ => ?_⟩
  obtain ⟨belongs, _⟩ := before.accounted.disks key disk found
  exact belongs.group ▸ Resources.name_mem_listed found belongs.name tagged

theorem deleteNics (tracked : Tracked calm c.resourceGroup n w) (continues : Continues m n)
    (unreferenced : Owned.Unreferenced n .nic) :
    (Cleanup.deleteNics c n.uid).Meets (Outside calm) (InCharge c.resourceGroup m)
      (Cleared calm c.resourceGroup n .nic) (Interrupted calm c.resourceGroup n) w := by
  refine tracked.clear continues .nic (.listNics c.resourceGroup) rfl (fun t before => ?_)
    fun name t before => before.remove continues .nic unreferenced name
  refine ⟨_, rfl, fun key ⟨nic, found, tagged⟩ => ?_⟩
  obtain ⟨belongs, _⟩ := before.accounted.nics key nic found
  exact belongs.group ▸ Resources.name_mem_listed found belongs.name tagged

/-- Public addresses are deleted by their version, which only one kind has. -/
theorem deletePublicIps (tracked : Tracked calm c.resourceGroup n w) (continues : Continues m n)
    {owned : Owned} {version : String} (kind : owned.version? = some version)
    (unreferenced : Owned.Unreferenced n owned) :
    (Cleanup.deletePublicIps c n.uid version).Meets (Outside calm) (InCharge c.resourceGroup m)
      (Cleared calm c.resourceGroup n owned) (Interrupted calm c.resourceGroup n) w := by
  refine tracked.clear continues owned (.listPublicIps c.resourceGroup) rfl (fun t before => ?_)
    fun name t before => ?_
  · refine ⟨_, rfl, fun key tagged => ?_⟩
    obtain ⟨address, found, same, version⟩ :=
      Resources.tagged_iff_of_version? kind |>.1 tagged
    obtain ⟨belongs, _⟩ := before.accounted.publicIps key address found
    exact belongs.group ▸ Resources.name_mem_listed found belongs.name (by simp [same, version])
  · have deletes := before.remove continues owned unreferenced name (c := c)
    cases owned with
    | publicIp | publicIpv6 => exact deletes
    | nic | disks | vm => cases kind

/-- A machine is found, or there is no virtual machine with its tag. -/
theorem lookup (tracked : Tracked calm group n w) (continues : Continues m n) :
    (Lookup.vm c n.uid).Meets (Outside calm) (InCharge group m)
      (fun _ u => Tracked calm group n u)
      (fun fault u => Tracked calm group n u ∧
        if fault.isInstanceNotFound then ∀ key, ¬u.backend.resources.Tagged n.uid key .vm
        else ¬calm) w := by
  refine .bind (tracked.call continues .listAllVms trivial ?_ ?_)
  · intro t all u _ before answers after
    obtain ⟨rfl, same⟩ : t.backend.resources.vms.values = all ∧
        t.backend.resources = u.backend.resources := by
      simpa [Backend.perform] using answers.performed
    split
    · exact .pure after
    · rename_i unfound
      refine .throw ⟨after, ?_⟩
      simp only [AzureError.isInstanceNotFound, if_true]
      rintro key ⟨vm, found, tagged⟩
      rw [← same] at found
      exact absurd tagged
        (List.find?_eq_none.1 unfound vm (SortedMap.mem_values_iff.2 ⟨key, found⟩))
  · intro t fault u before refuses after
    have genuine : fault.isInstanceNotFound = false := by
      rcases refuses.reason with placed | performed
      · have allowed := before.faults _ fault placed
        unfold AzureError.isInstanceNotFound
        split
        · exact absurd rfl allowed
        · rfl
      · cases performed
    refine ⟨after, ?_⟩
    rw [genuine, if_neg (by decide)]
    exact fun quiet => by cases refuses.of_calm (before.calm quiet)

theorem vmExists (tracked : Tracked calm group n w) (continues : Continues m n) :
    (Cleanup.vmExists c n.uid).Meets (Outside calm) (InCharge group m)
      (fun found u => Tracked calm group n u ∧
        (found = false → ∀ key, ¬u.backend.resources.Tagged n.uid key .vm))
      (Interrupted calm group n) w := by
  refine Program.Safe.bind (Program.Safe.mono ?_ (tracked.lookup (c := c) continues))
  rintro (fault | vm) u met
  · cases sentinel : fault.isInstanceNotFound with
    | true =>
        simp only [sentinel, if_true] at met ⊢
        exact ⟨met.1, fun _ => met.2⟩
    | false =>
        simp only [sentinel, Bool.false_eq_true, if_false] at met ⊢
        exact met
  · exact ⟨met, nofun⟩

/-- Each kind can be deleted when its turn has come. -/
theorem delete (tracked : Tracked calm c.resourceGroup n w) (continues : Continues m n)
    {owned : Owned} (unreferenced : Owned.Unreferenced n owned) (name : String) :
    (Cleanup.delete c name n.uid owned).Meets (Outside calm) (InCharge c.resourceGroup m)
      (Cleared calm c.resourceGroup n owned) (Interrupted calm c.resourceGroup n) w := by
  cases owned with
  | vm =>
      refine .bind ((tracked.vmExists continues).mono ?_ fun _ _ met => met)
      rintro found u ⟨after, absent⟩
      cases found with
      | true => exact (after.deleteVms continues).context
      | false => exact .pure ⟨after, absent rfl⟩
  | disks => exact (tracked.deleteDisks continues unreferenced).context
  | nic => exact (tracked.deleteNics continues unreferenced).context
  | publicIp => exact (tracked.deletePublicIps continues rfl unreferenced).context
  | publicIpv6 => exact (tracked.deletePublicIps continues rfl unreferenced).context

/-- Teardown takes one kind after the other off the record. -/
theorem tearDown (tracked : Tracked calm c.resourceGroup n w) (continues : Continues m n)
    {kinds : List Owned} (order : Owned.remaining n = kinds) :
    Recorded.Meets (Outside calm) (InCharge c.resourceGroup m)
      (fun _ p u => Tracked calm c.resourceGroup p u ∧ Continues m p ∧ Owned.remaining p = [])
      (fun _ p u => Tracked calm c.resourceGroup p u ∧ Continues m p ∧ ¬calm)
      (Cleanup.tearDown c m.name m.uid kinds) n w := by
  induction kinds generalizing n w with
  | nil => exact .pure ⟨tracked, continues, order⟩
  | cons owned rest ih =>
      have deleted := tracked.delete continues (Owned.unreferenced_of_first order) m.name
      rw [continues.uid] at deleted
      refine .bind (.recorded (deleted.mono ?_ ?_))
      · rintro _ u ⟨after, gone⟩
        refine .bind ((after.disown continues order (continues.uid ▸ gone)).mono ?_ ?_)
        · rintro _ p v ⟨later, still, left⟩
          exact ih later still left
        · exact fun _ _ _ met => met
      · rintro fault u ⟨after, restless⟩
        exact ⟨after, continues, restless⟩

end Tracked

/-- A teardown keeps the record in charge. When it succeeds it says so and leaves no finalizer of
the provider; it fails only when it is disturbed. -/
theorem cleanup_meets {sources : Sources} {e : Envelope}
    (resolved : Config.resolve sources m.providerSpec = .ok (c, e))
    (tracked : Tracked calm c.resourceGroup m w) :
    Recorded.Meets (Outside calm) (InCharge c.resourceGroup m)
      (fun clear p u => Tracked calm c.resourceGroup p u ∧ Continues m p ∧ clear = true ∧
        ledger.isClear p = true)
      (fun _ p u => Tracked calm c.resourceGroup p u ∧ Continues m p ∧ ¬calm)
      (cleanup sources) m w := by
  refine .copy (.settle ?_ ?_)
  · rw [resolved]
    rintro _ ⟨⟩
    refine .bind (.recorded ((tracked.connect (.refl m)).mono (fun _ u after => ?_)
      fun _ _ => False.elim))
    refine .bind ((after.tearDown (.refl m) rfl).mono ?_ fun _ _ _ met => met)
    rintro _ p v ⟨later, continues, left⟩
    have clear : ledger.isClear p = true := by
      refine isClear_iff.2 fun owned => Bool.eq_false_iff.2 fun present => ?_
      simpa [left] using Owned.mem_remaining.2 present
    exact .copy (.pure ⟨later, continues, clear, clear⟩)
  · rw [resolved]
    intro fault failed
    cases failed

/-- What makes something of a machine fits its record. -/
theorem Call.Makes.fits {what : Call} (makes : what.Makes group n) : what.Fits group n := by
  cases what with
  | putPublicIp place name body =>
      obtain ⟨kind, version, houses, present, tagged⟩ := makes
      refine ⟨?_, tagged, kind, version, present⟩
      cases kind with
      | publicIp | publicIpv6 => exact congrArg ResourceKey.group houses
      | nic | disks | vm => cases version
  | putNic place name body =>
      obtain ⟨houses, present, tagged⟩ := makes
      exact ⟨congrArg ResourceKey.group houses, tagged, present⟩
  | putVm place name body =>
      obtain ⟨houses, disks, vm, tagged⟩ := makes
      exact ⟨congrArg ResourceKey.group houses, tagged, disks, vm⟩
  | _ => exact Call.fits_of_read makes group n

/-- The stored record is kept in charge by what creates the machine. -/
theorem Tracked.upkeep (group : String) : Upkeep (Outside False) group (Tracked False group) where
  stored tracked := tracked.stored
  outside tracked change := tracked.disturbed change
  answered tracked makes answers := tracked.answered makes.fits answers
  added kinds tracked := by
    refine tracked.committed (.add (kinds.map Owned.finalizer)) fun key kind tagged => ?_
    rw [Owned.of_apply_add, tracked.accounted.of_tagged tagged, Bool.or_true]
  alike tracked resources faults records :=
    { stored := by rw [Store.get?, records, ← Store.get?, tracked.stored]
      accounted := resources ▸ tracked.accounted
      faults := fun operation fault found =>
        tracked.faults operation fault (faults operation fault found)
      calm := False.elim }

/-- A creation keeps the record in charge. -/
theorem create_meets {sources : Sources} {userdata : String} {e : Envelope}
    (resolved : Config.resolve sources m.providerSpec = .ok (c, e))
    (tracked : Tracked False c.resourceGroup m w) :
    Recorded.Meets (Outside False) (InCharge c.resourceGroup m)
      (fun _ p u => Tracked False c.resourceGroup p u ∧ Continues m p)
      (fun _ p u => Tracked False c.resourceGroup p u ∧ Continues m p)
      (create sources userdata) m w :=
  (Tracked.upkeep c.resourceGroup).create_meets tracked resolved

end Provisioning.Azure
