import Provisioning.Azure.Provider.Cleanup
import Provisioning.Proofs.Accounted
import Provisioning.Proofs.Requests

/-!
Creation and teardown of a machine keep its stored record in charge of everything at the backend,
after every request, whatever faults and rejections come in between, and also while resources are
deleted by somebody else. In a calm world a teardown goes through to its end.
-/

namespace Provisioning.Azure

open Relation

/-- Somebody else deletes a resource, and the backend lets it be. -/
inductive Removed : World Backend → World Backend → Prop where
  | call (w) {what : Call} {value : what.Value} : what.isRemoval = true →
      (w.backend.serve what).1 = .ok value →
      Removed w { w with backend := (w.backend.serve what).2 }

/-- What may happen between two requests: a fault is placed that is not the sentinel of a lost
instance, a rejection is ordered, or a resource is deleted. -/
def Disturbed (w v : World Backend) : Prop :=
  Faulted (· ≠ .cloud .instanceNotFound) w v ∨ Removed w v

/-- Disturbances, of which a calm world has none. -/
def Outside (calm : Prop) (w v : World Backend) : Prop := ¬calm ∧ Disturbed w v

/-- A stored record accounts for everything at the backend, and no placed fault looks like a lost
instance. -/
structure Tracked (calm : Prop) (group : String) (m : Machine) (w : World Backend) : Prop where
  stored : w.store.get? m.name = some m
  accounted : Accounted group m w.backend.resources
  faults : FaultsAre (· ≠ .cloud .instanceNotFound) w
  calm : calm → w.Calm

/-- After a request the stored record of a machine is in charge. -/
def InCharge (group : String) (m : Machine) (_ w : World Backend) : Prop :=
  ∃ n, Tracked False group n w ∧ Continues m n

variable {calm : Prop} {group : String} {m n : Machine} {w v : World Backend}

theorem Removed.answers (removed : Removed w v) :
    ∃ (what : Call) (value : what.Value), what.isRemoval = true ∧ Answers w what value v := by
  cases removed with
  | @call what value removal answer =>
      refine ⟨what, value, removal, ?_⟩
      rcases serve_call ⟨"", "", "", ""⟩ what w with ⟨other, same, answers⟩ | ⟨fault, same, _⟩
      · cases answer.symm.trans same
        exact answers
      · cases answer.symm.trans same

namespace Tracked

theorem answered (tracked : Tracked calm group n w) {what : Call} {value : what.Value}
    (fits : what.Fits group n) (answers : Answers w what value v) : Tracked calm group n v where
  stored := by rw [answers.store, tracked.stored]
  accounted := tracked.accounted.perform fits answers.performed
  faults operation fault found := tracked.faults operation fault (answers.faults ▸ found)
  calm quiet := answers.calm (tracked.calm quiet)

theorem refused (tracked : Tracked calm group n w) {what : Call} {fault : AzureError}
    (refuses : Refuses w what fault v) : Tracked calm group n v where
  stored := by rw [refuses.store, tracked.stored]
  accounted := refuses.resources ▸ tracked.accounted
  faults operation other found := tracked.faults operation other (refuses.faults _ _ found)
  calm quiet := refuses.calm (tracked.calm quiet)

theorem disturbed (tracked : Tracked calm group n w) (change : Outside calm w v) :
    Tracked calm group n v := by
  rcases change with ⟨restless, faulted | removed⟩
  · refine ⟨?_, ?_, tracked.faults.faulted faulted, fun quiet => absurd quiet restless⟩
    · cases faulted <;> exact tracked.stored
    · cases faulted <;> exact tracked.accounted
  · obtain ⟨what, value, removal, answers⟩ := removed.answers
    exact tracked.answered (Call.fits_of_isRemoval removal group n) answers

theorem outside (tracked : Tracked calm group n w)
    (changes : ReflTransGen (Outside calm) w v) : Tracked calm group n v := by
  induction changes with
  | refl => exact tracked
  | tail _ change ih => exact ih.disturbed change

theorem inCharge (tracked : Tracked calm group n w) (continues : Continues m n) :
    InCharge group m v w :=
  ⟨n, ⟨tracked.stored, tracked.accounted, tracked.faults, False.elim⟩, continues⟩

/-- A disturbance gives the machine's tag to nothing. -/
theorem tagged_of_outside {uid : String} {key : ResourceKey} {owned : Owned}
    (changes : ReflTransGen (Outside calm) w v)
    (tagged : v.backend.resources.Tagged uid key owned) :
    w.backend.resources.Tagged uid key owned := by
  induction changes with
  | refl => exact tagged
  | tail _ change ih =>
      refine ih ?_
      rcases change with ⟨_, faulted | removed⟩
      · cases faulted <;> exact tagged
      · obtain ⟨what, value, removal, answers⟩ := removed.answers
        obtain ⟨kind, place, name, rfl⟩ := Call.exists_removal removal
        rw [Backend.perform_removal kind answers.performed] at tagged
        exact tagged.of_without.1

/-- The record after an edit is in charge if it accounts for all that is tagged. -/
theorem committed (tracked : Tracked calm group n w) (edit : FinalizerEdit)
    (owns : ∀ key owned, w.backend.resources.Tagged n.uid key owned →
      Owned.of (edit.apply n) owned = true) :
    Tracked calm group (edit.apply n) { w with store := w.store.committed n edit } where
  stored := by rw [FinalizerEdit.apply_name, Store.get?_committed]
  accounted := tracked.accounted.transfer (FinalizerEdit.apply_uid edit n) owns
  faults := tracked.faults
  calm quiet := tracked.calm quiet

theorem rejected (tracked : Tracked calm group n w) (restless : ¬calm) (count : Nat) :
    Tracked calm group n { w with store := w.store.rejectNext count } :=
  ⟨tracked.stored, tracked.accounted, tracked.faults, fun quiet => absurd quiet restless⟩

variable {α : Type}

/-- A call that fits the record leaves the record in charge. -/
theorem call (tracked : Tracked calm group n w) (continues : Continues m n) {c : Config}
    (what : Call) (fits : what.Fits group n) {ok : what.Value → World Backend → Prop}
    {fails : AzureError → World Backend → Prop}
    (answered : ∀ t value u, ReflTransGen (Outside calm) w t → Tracked calm group n t →
      Answers t what value u → Tracked calm group n u → ok value u)
    (refused : ∀ t fault u, Tracked calm group n t → Refuses t what fault u →
      Tracked calm group n u → fails fault u) :
    (Action.call c what).Meets (Outside calm) (InCharge group m) ok fails w := by
  refine .call ?_ ?_
  · intro t value u changes answers
    have before := tracked.outside changes
    have after := before.answered fits answers
    exact ⟨after.inCharge continues, answered t value u changes before answers after⟩
  · intro t fault u changes refuses
    have before := tracked.outside changes
    have after := before.refused refuses
    exact ⟨after.inCharge continues, refused t fault u before refuses after⟩

theorem connect (tracked : Tracked calm group n w) (continues : Continues m n) {c : Config}
    {fails : AzureError → World Backend → Prop} :
    (Action.connect c).Meets (Outside calm) (InCharge group m)
      (fun _ u => Tracked calm group n u) fails w := by
  refine .connect ?_
  intro t u changes bare store faults _
  have before := tracked.outside changes
  have resources : u.backend.resources = t.backend.resources := by
    change u.backend.bare.resources = t.backend.bare.resources
    rw [bare]
  have after : Tracked calm group n u :=
    ⟨store ▸ before.stored, resources ▸ before.accounted,
      fun operation fault found => before.faults operation fault (faults ▸ found),
      fun quiet => ⟨faults.trans (before.calm quiet).1, store ▸ (before.calm quiet).2⟩⟩
  exact ⟨after.inCharge continues, after⟩

/-- The finalizer of what is gone can be taken off. -/
theorem disown (tracked : Tracked calm group n w) (continues : Continues m n) {owned : Owned}
    {rest : List Owned} (order : Owned.remaining n = owned :: rest)
    (gone : ∀ key, ¬w.backend.resources.Tagged n.uid key owned) :
    Recorded.Meets (Outside calm) (InCharge group m)
      (fun _ p u => Tracked calm group p u ∧ Continues m p ∧ Owned.remaining p = rest)
      (fun _ p u => Tracked calm group p u ∧ Continues m p ∧ ¬calm) (disown owned) n w := by
  have present : n.hasFinalizer owned.finalizer = true :=
    Owned.mem_remaining.1 (order ▸ List.mem_cons_self)
  refine .copy ?_
  rw [if_pos present]
  refine .update (fun t changes => (tracked.outside changes).stored) ?_ ?_
  · intro t changes
    -- The outside may have deleted more, but it tags nothing, so the kind is still gone.
    have after := (tracked.outside changes).committed (.remove owned.finalizer)
      fun key kind tagged => by
        have different : kind ≠ owned := by
          rintro rfl
          exact gone key (tagged_of_outside changes tagged)
        rw [Owned.of_apply_remove, (tracked.outside changes).accounted.of_tagged tagged]
        simp [different]
    exact ⟨after.inCharge (continues.remove owned), after, continues.remove owned,
      Owned.remaining_apply_remove order⟩
  · intro t fault changes rejecting
    have before := tracked.outside changes
    have restless : ¬calm := fun quiet => by
      have none := (before.calm quiet).2
      omega
    have after := before.rejected restless (t.store.rejections - 1)
    exact ⟨after.inCharge continues, after, continues, restless⟩

end Tracked

end Provisioning.Azure
