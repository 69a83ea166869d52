import Provisioning.Proofs.Finalizers

/-!
A ledger beside a store. A caller has a copy of a machine's record and changes its finalizers
through the store, which may reject a change; `Session.Synced` says that the copy is the record.
The history of a store can be replayed: `replay_changes`. Main statement: `tracks_of_operations`,
that whatever is done, the copy, the record and the history tell the same.
-/

namespace Provisioning

namespace FinalizerChange

/-- Finalizers after a committed change of one of them. -/
def replay (finalizers : List String) : FinalizerChange → List String
  | .added finalizer => finalizers ++ [finalizer]
  | .removed finalizer => finalizers.filter (· ≠ finalizer)

theorem foldl_replay_added (finalizers added : List String) :
    (added.map FinalizerChange.added).foldl replay finalizers = finalizers ++ added := by
  induction added generalizing finalizers with
  | nil => simp
  | cons first rest ih => simp [replay, ih]

/-- What was removed is not there to be removed again. -/
theorem foldl_replay_removed_again (finalizers : List String) (removed : String) (count : Nat) :
    ((List.replicate count removed).map FinalizerChange.removed).foldl replay
        (finalizers.filter (· ≠ removed)) = finalizers.filter (· ≠ removed) := by
  induction count with
  | zero => rfl
  | succ count ih =>
      have again : replay (finalizers.filter (· ≠ removed)) (.removed removed) =
          finalizers.filter (· ≠ removed) := by simp [replay]
      rw [List.replicate_succ, List.map_cons, List.foldl_cons, again]
      exact ih

/-- A removal is noted for each occurrence. -/
theorem foldl_replay_removed (finalizers : List String) (removed : String) :
    ((List.replicate (finalizers.count removed) removed).map FinalizerChange.removed).foldl replay
        finalizers = finalizers.filter (· ≠ removed) := by
  cases occurrences : finalizers.count removed with
  | zero =>
      have absent : removed ∉ finalizers := List.count_eq_zero.1 occurrences
      refine (List.filter_eq_self.2 fun finalizer member => ?_).symm
      rw [decide_eq_true_eq]
      rintro rfl
      exact absent member
  | succ count =>
      rw [List.replicate_succ, List.map_cons, List.foldl_cons]
      exact foldl_replay_removed_again finalizers removed count

end FinalizerChange

namespace FinalizerEdit

/-- What a store notes of an edit leads from the finalizers before it to those after it. -/
theorem replay_changes (edit : FinalizerEdit) (m : Machine) :
    (Store.changes m (edit.apply m)).foldl FinalizerChange.replay m.finalizers =
      (edit.apply m).finalizers := by
  cases edit with
  | add finalizers =>
      obtain ⟨added, same, _, fresh⟩ := exists_added finalizers m
      have old : m.finalizers.filter (fun f => !m.hasFinalizer f) = [] := by
        simp [List.filter_eq_nil_iff, Machine.hasFinalizer]
      have new : added.filter (fun f => !m.hasFinalizer f) = added := by
        refine List.filter_eq_self.2 fun finalizer member => ?_
        simp [Machine.hasFinalizer, (fresh finalizer member).2]
      have gone : m.finalizers.filter (fun f => !((add finalizers).apply m).hasFinalizer f) =
          [] := by
        rw [List.filter_eq_nil_iff]
        intro finalizer member
        simp [Machine.hasFinalizer, same, member]
      rw [Store.changes, gone, same, List.filter_append, old, new, List.nil_append, List.map_nil,
        List.append_nil, FinalizerChange.foldl_replay_added]
  | remove finalizer =>
      change (Store.changes m (m.removeFinalizer finalizer)).foldl _ _ = _
      rw [Store.changes_remove, FinalizerChange.foldl_replay_removed]
      rfl

end FinalizerEdit

namespace Ledger

/-- A caller's copy of a machine's record beside the store. -/
structure Session where
  copy : Machine
  store : Store

namespace Session

/-- The record of the machine. -/
def record? (s : Session) : Option Machine := s.store.get? s.copy.name

/-- The copy is the record. -/
def Synced (s : Session) : Prop := s.record? = some s.copy

/-- Commits a change to the store. -/
def commit (name : String) (edit : FinalizerEdit) : StateM Store (Except CloudError Machine) :=
  fun store => store.commit name edit

/-- Performs an action on the copy and the store. -/
def perform (s : Session) (action : Recorded (StateM Store) Unit) :
    Except CloudError Unit × Session :=
  let ((outcome, copy), store) := (action.run.run s.copy).run s.store
  (outcome, ⟨copy, store⟩)

end Session

/-- What can be done with a record through a ledger and with the store itself. -/
inductive Operation where
  | ensure (finalizers : List String)
  | discharge (finalizer : String)
  | rejectNext (count : Nat)

namespace Operation

def perform : Operation → Session → Except CloudError Unit × Session
  | .ensure finalizers, s => s.perform (Ledger.ensure Session.commit finalizers)
  | .discharge finalizer, s => s.perform (Ledger.discharge Session.commit finalizer)
  | .rejectNext count, s => (.ok (), { s with store := s.store.rejectNext count })

/-- The change that is asked of the store, if the copy calls for one. -/
def edit? : Operation → Machine → Option FinalizerEdit
  | .ensure finalizers, m => if finalizers.all m.hasFinalizer then none else some (.add finalizers)
  | .discharge finalizer, m => if m.hasFinalizer finalizer then some (.remove finalizer) else none
  | .rejectNext _, _ => none

/-- The finalizers that an operation is about. -/
def named : Operation → List String
  | .ensure finalizers => finalizers
  | .discharge finalizer => [finalizer]
  | .rejectNext _ => []

end Operation

/-- Of a store only its answer counts. -/
theorem Session.perform_update_eq (s : Session) (edit : FinalizerEdit)
    (commit : String → FinalizerEdit → StateM Store (Except CloudError Machine)) :
    s.perform (Ledger.update commit edit) =
      s.perform (Ledger.update (fun _ _ _ => commit s.copy.name edit s.store) edit) :=
  rfl

/-- A change is committed, and the copy follows the record, or it is rejected. -/
theorem Session.perform_update {s : Session} (synced : s.Synced) (edit : FinalizerEdit) :
    (0 < s.store.rejections ∧ ∃ fault, s.perform (Ledger.update Session.commit edit) =
      (.error fault, { s with store := s.store.rejectNext (s.store.rejections - 1) })) ∨
    (s.store.rejections = 0 ∧ s.perform (Ledger.update Session.commit edit) =
      (.ok (), ⟨edit.apply s.copy, s.store.committed s.copy edit⟩)) := by
  have performed := s.perform_update_eq edit Session.commit
  rw [Session.commit] at performed
  rcases Store.commit_cases synced edit with ⟨rejecting, fault, outcome⟩ | ⟨none, outcome⟩
  · rw [outcome] at performed
    exact .inl ⟨rejecting, fault, performed⟩
  · rw [outcome] at performed
    exact .inr ⟨none, performed⟩

/-- An operation leaves everything as it is if the copy calls for no change; else the change is
committed or rejected. -/
theorem Operation.perform_cases {s : Session} (synced : s.Synced) (operation : Operation) :
    (operation.edit? s.copy = none ∧ ∃ count,
      operation.perform s = (.ok (), { s with store := s.store.rejectNext count })) ∨
    ∃ edit, operation.edit? s.copy = some edit ∧ edit.named = operation.named ∧
      ((0 < s.store.rejections ∧ ∃ fault, operation.perform s =
        (.error fault, { s with store := s.store.rejectNext (s.store.rejections - 1) })) ∨
      (s.store.rejections = 0 ∧ operation.perform s =
        (.ok (), ⟨edit.apply s.copy, s.store.committed s.copy edit⟩))) := by
  cases operation with
  | rejectNext count => exact .inl ⟨rfl, count, rfl⟩
  | ensure finalizers =>
      have performed : (Operation.ensure finalizers).perform s =
          s.perform (if finalizers.all s.copy.hasFinalizer then pure ()
            else Ledger.update Session.commit (.add finalizers)) := rfl
      by_cases present : finalizers.all s.copy.hasFinalizer = true
      · rw [if_pos present] at performed
        exact .inl ⟨if_pos present, s.store.rejections, performed⟩
      · rw [if_neg present] at performed
        rw [performed]
        exact .inr ⟨.add finalizers, if_neg present, rfl, Session.perform_update synced _⟩
  | discharge finalizer =>
      have performed : (Operation.discharge finalizer).perform s =
          s.perform (if s.copy.hasFinalizer finalizer then
            Ledger.update Session.commit (.remove finalizer) else pure ()) := rfl
      by_cases present : s.copy.hasFinalizer finalizer = true
      · rw [if_pos present] at performed
        rw [performed]
        exact .inr ⟨.remove finalizer, if_pos present, rfl, Session.perform_update synced _⟩
      · rw [if_neg present] at performed
        exact .inl ⟨if_neg present, s.store.rejections, performed⟩

/-- A later session with the same machine: what its copy, its record and its history tell. -/
structure Tracks (ledger : Ledger) (first last : Session) : Prop where
  synced : last.Synced
  copy : last.copy = { first.copy with finalizers := last.copy.finalizers }
  nodup : first.copy.finalizers.Nodup → last.copy.finalizers.Nodup
  replayed : ∃ committed, last.store.history = first.store.history ++ committed ∧
    committed.foldl FinalizerChange.replay first.copy.finalizers = last.copy.finalizers
  remaining : ledger.remaining last.copy =
    ledger.steps.reverse.filter (· ∈ last.copy.finalizers)
  once : (ledger.remaining last.copy).Nodup
  others : ∀ name, name ≠ first.copy.name → last.store.get? name = first.store.get? name

/-- What an operation has done when it is over. -/
structure Operation.Does (operation : Operation) (before : Session)
    (outcome : Except CloudError Unit) (after : Session) : Prop where
  /-- It fails if a change is called for and the store rejects the next one. -/
  fails_iff : (∃ fault, outcome = .error fault) ↔
    0 < before.store.rejections ∧ (operation.edit? before.copy).isSome = true
  unchanged : ∀ fault, outcome = .error fault → after.copy = before.copy ∧
    after.record? = before.record? ∧ after.store.history = before.store.history
  ensured : ∀ finalizers, operation = .ensure finalizers → outcome = .ok () →
    ∃ record, after.record? = some record ∧ finalizers ⊆ record.finalizers
  discharged : ∀ finalizer, operation = .discharge finalizer → outcome = .ok () →
    ∃ record, after.record? = some record ∧ finalizer ∉ record.finalizers
  /-- Finalizers that it is not about keep their order. -/
  others : ∀ keep : String → Bool, (∀ finalizer ∈ operation.named, keep finalizer = false) →
    after.copy.finalizers.filter keep = before.copy.finalizers.filter keep
  /-- What is added stands behind what was there. -/
  behind : ∀ finalizers, operation = .ensure finalizers →
    before.copy.finalizers <+: after.copy.finalizers

/-- A session after operations, one after the other. -/
def Session.after (s : Session) (operations : List Operation) : Session :=
  operations.foldl (fun s operation => (operation.perform s).2) s

theorem remaining_eq (ledger : Ledger) (m : Machine) :
    ledger.remaining m = ledger.steps.reverse.filter (· ∈ m.finalizers) := by
  have same : m.hasFinalizer = fun finalizer => decide (finalizer ∈ m.finalizers) := by
    funext finalizer
    simp [Machine.hasFinalizer]
  rw [remaining, present, same, List.filter_reverse]

theorem remaining_nodup {ledger : Ledger} (distinct : ledger.steps.Nodup) (m : Machine) :
    (ledger.remaining m).Nodup := by
  rw [remaining_eq]
  exact (List.nodup_reverse.2 distinct).filter _

variable {ledger : Ledger} {first last : Session}

theorem Tracks.refl (distinct : ledger.steps.Nodup) (synced : first.Synced) :
    ledger.Tracks first first where
  synced := synced
  copy := rfl
  nodup := id
  replayed := ⟨[], (List.append_nil _).symm, rfl⟩
  remaining := remaining_eq ledger first.copy
  once := remaining_nodup distinct first.copy
  others _ _ := rfl

/-- A committed change keeps a session on track. -/
theorem Tracks.commit (distinct : ledger.steps.Nodup) (tracks : ledger.Tracks first last)
    (edit : FinalizerEdit) :
    ledger.Tracks first ⟨edit.apply last.copy, last.store.committed last.copy edit⟩ where
  synced := by
    change (last.store.committed last.copy edit).get? (edit.apply last.copy).name = _
    rw [FinalizerEdit.apply_name]
    exact Store.get?_committed last.store last.copy edit
  copy := by
    change edit.apply last.copy = _
    rw [FinalizerEdit.apply_eq, tracks.copy]
  nodup distinct := edit.nodup_apply (tracks.nodup distinct)
  replayed := by
    obtain ⟨committed, history, same⟩ := tracks.replayed
    refine ⟨committed ++ Store.changes last.copy (edit.apply last.copy), ?_, ?_⟩
    · change last.store.history ++ _ = _
      rw [history, List.append_assoc]
    · rw [List.foldl_append, same]
      exact edit.replay_changes last.copy
  remaining := remaining_eq ledger _
  once := remaining_nodup distinct _
  others name different := by
    have own : last.copy.name ≠ name := by
      rw [tracks.copy]
      exact different.symm
    change (last.store.records.insert last.copy.name _).get? name = _
    rw [SortedMap.get?_insert, if_neg own]
    exact tracks.others name different

theorem Tracks.perform (distinct : ledger.steps.Nodup) (tracks : ledger.Tracks first last)
    (operation : Operation) : ledger.Tracks first (operation.perform last).2 := by
  rcases operation.perform_cases tracks.synced with
    ⟨_, count, done⟩ | ⟨edit, _, _, ⟨_, fault, done⟩ | ⟨_, done⟩⟩
  · rw [done]
    exact { tracks with }
  · rw [done]
    exact { tracks with }
  · rw [done]
    exact tracks.commit distinct edit

theorem Tracks.after (distinct : ledger.steps.Nodup) (tracks : ledger.Tracks first last)
    (operations : List Operation) : ledger.Tracks first (last.after operations) := by
  induction operations generalizing last with
  | nil => exact tracks
  | cons operation rest ih => exact ih (tracks.perform distinct operation)

namespace Operation

variable {finalizers : List String} {finalizer : String} {m : Machine}

theorem edit?_ensure_eq_none :
    (ensure finalizers).edit? m = none ↔ finalizers ⊆ m.finalizers := by
  simp [edit?, Machine.hasFinalizer, List.subset_def]

theorem edit?_discharge_eq_none :
    (discharge finalizer).edit? m = none ↔ finalizer ∉ m.finalizers := by
  simp [edit?, Machine.hasFinalizer]

/-- A record has what was ensured. -/
theorem subset_of_edit? {edit : FinalizerEdit} (asked : (ensure finalizers).edit? m = some edit) :
    finalizers ⊆ (edit.apply m).finalizers := by
  simp only [edit?] at asked
  split at asked
  · cases asked
  · cases asked
    intro finalizer member
    have has : ((FinalizerEdit.add finalizers).apply m).hasFinalizer finalizer = true := by
      simp [member]
    simpa [Machine.hasFinalizer] using has

/-- What a record had stays in front of what is ensured. -/
theorem prefix_of_edit? {edit : FinalizerEdit}
    (asked : (ensure finalizers).edit? m = some edit) :
    m.finalizers <+: (edit.apply m).finalizers := by
  simp only [edit?] at asked
  split at asked
  · cases asked
  · cases asked
    obtain ⟨added, same, _, _⟩ := FinalizerEdit.exists_added finalizers m
    exact ⟨added, same.symm⟩

/-- A record does not have what was discharged. -/
theorem not_mem_of_edit? {edit : FinalizerEdit}
    (asked : (discharge finalizer).edit? m = some edit) :
    finalizer ∉ (edit.apply m).finalizers := by
  simp only [edit?] at asked
  split at asked
  · cases asked
    intro member
    have kept := (List.mem_filter.1 member).2
    simp at kept
  · cases asked

/-- Every operation does what it says, whether it asks the store or not. -/
theorem does {s : Session} (synced : s.Synced) (operation : Operation) :
    operation.Does s (operation.perform s).1 (operation.perform s).2 := by
  rcases operation.perform_cases synced with
    ⟨nothing, count, done⟩ | ⟨edit, asked, named, ⟨rejecting, fault, done⟩ | ⟨calm, done⟩⟩
  · rw [done]
    refine ⟨by simp [nothing], nofun, ?_, ?_, fun _ _ => rfl, fun _ _ => List.prefix_rfl⟩
    · rintro finalizers rfl _
      exact ⟨s.copy, synced, edit?_ensure_eq_none.1 nothing⟩
    · rintro finalizer rfl _
      exact ⟨s.copy, synced, edit?_discharge_eq_none.1 nothing⟩
  · rw [done]
    exact ⟨by simp [asked, rejecting], fun _ _ => ⟨rfl, rfl, rfl⟩, nofun, nofun, fun _ _ => rfl,
      fun _ _ => List.prefix_rfl⟩
  · rw [done]
    have record : Session.record? ⟨edit.apply s.copy, s.store.committed s.copy edit⟩ =
        some (edit.apply s.copy) := by
      rw [Session.record?, FinalizerEdit.apply_name]
      exact Store.get?_committed s.store s.copy edit
    refine ⟨by simp [calm], nofun, ?_, ?_, ?_, ?_⟩
    · rintro finalizers rfl _
      exact ⟨_, record, subset_of_edit? asked⟩
    · rintro finalizer rfl _
      exact ⟨_, record, not_mem_of_edit? asked⟩
    · intro keep others
      exact edit.filter_apply s.copy (named ▸ others)
    · rintro finalizers rfl
      exact prefix_of_edit? asked

end Operation

/-- Finalizers that no operation is about keep their order. -/
theorem Tracks.others_after (distinct : ledger.steps.Nodup) (tracks : ledger.Tracks first last)
    {operations : List Operation} {keep : String → Bool}
    (others : ∀ operation ∈ operations, ∀ finalizer ∈ operation.named, keep finalizer = false) :
    (last.after operations).copy.finalizers.filter keep = last.copy.finalizers.filter keep := by
  induction operations generalizing last with
  | nil => rfl
  | cons operation rest ih =>
      have now := (operation.does tracks.synced).others keep (others operation List.mem_cons_self)
      have later := ih (tracks.perform distinct operation) fun other member =>
        others other (List.mem_cons_of_mem operation member)
      exact later.trans now

/-- Whatever is done with a record, one operation after the other, the copy is the record, the
history replayed from the first finalizers gives the last ones, and what remains of the ledger is
read off the record. Finalizers that no operation is about, those foreign to the ledger among them,
are left alone; and whatever is done next does what it says, or fails and changes nothing. -/
theorem tracks_of_operations (distinct : ledger.steps.Nodup) (synced : first.Synced)
    (operations : List Operation) :
    ledger.Tracks first (first.after operations) ∧
    (∀ keep : String → Bool,
      (∀ operation ∈ operations, ∀ finalizer ∈ operation.named, keep finalizer = false) →
      (first.after operations).copy.finalizers.filter keep =
        first.copy.finalizers.filter keep) ∧
    ∀ next : Operation, next.Does (first.after operations)
      (next.perform (first.after operations)).1 (next.perform (first.after operations)).2 := by
  have start : ledger.Tracks first first := .refl distinct synced
  have tracks := start.after distinct operations
  exact ⟨tracks, fun _ => start.others_after distinct, fun next => next.does tracks.synced⟩

namespace Sample

def steps : Ledger := ⟨["ip", "nic", "disks", "vm"]⟩

/-- A record with a finalizer of somebody else. -/
def shared : Machine := ⟨"node", "uid", ⟨none⟩, ["other.io/keep", "nic"]⟩

def begun : Session := ⟨shared, Store.empty.insert shared⟩

/-- The second request is rejected. -/
def operations : List Operation :=
  [.ensure ["ip", "nic"], .rejectNext 1, .ensure ["disks", "vm"], .ensure ["vm"],
    .discharge "nic", .discharge "nic"]

end Sample

/-- What was rejected is not in the history, and neither is what asked for no change. -/
theorem tracks_of_operations_shared :
    Sample.steps.steps.Nodup ∧ Sample.begun.Synced ∧
    Sample.steps.Tracks Sample.begun (Sample.begun.after Sample.operations) ∧
    (Sample.begun.after Sample.operations).copy.finalizers = ["other.io/keep", "ip", "vm"] ∧
    (Sample.begun.after Sample.operations).store.history =
      [.added "ip", .added "vm", .removed "nic"] ∧
    Sample.steps.remaining (Sample.begun.after Sample.operations).copy = ["vm", "ip"] := by
  have distinct : Sample.steps.steps.Nodup := by decide
  have synced : Sample.begun.Synced := rfl
  obtain ⟨tracks, _, _⟩ := tracks_of_operations distinct synced Sample.operations
  exact ⟨distinct, synced, tracks, by decide +kernel, by decide +kernel, by decide +kernel⟩

end Ledger

end Provisioning
