import Mathlib.Data.List.Nodup
import Provisioning.Azure.Naming

/-!
What the edits of a record do to its finalizers, which of them are the provider's own, and what a
store does with an edit: it commits it whole or rejects it and keeps what it had.
-/

namespace Provisioning

namespace Machine

@[simp] theorem hasFinalizer_addFinalizer (m : Machine) (added finalizer : String) :
    (m.addFinalizer added).hasFinalizer finalizer =
      (decide (finalizer = added) || m.hasFinalizer finalizer) := by
  unfold addFinalizer
  split
  · rename_i present
    by_cases same : finalizer = added
    · subst same
      simp [present]
    · simp [same]
  · simp only [hasFinalizer, List.contains_append, List.contains_cons, List.contains_nil,
      Bool.or_false, beq_eq_decide]
    exact Bool.or_comm _ _

@[simp] theorem hasFinalizer_removeFinalizer (m : Machine) (removed finalizer : String) :
    (m.removeFinalizer removed).hasFinalizer finalizer =
      (decide (finalizer ≠ removed) && m.hasFinalizer finalizer) := by
  rw [Bool.eq_iff_iff]
  simp [hasFinalizer, removeFinalizer, and_comm]

end Machine

namespace FinalizerEdit

@[simp] theorem hasFinalizer_apply_add (finalizers : List String) (m : Machine)
    (finalizer : String) :
    ((add finalizers).apply m).hasFinalizer finalizer =
      (finalizers.contains finalizer || m.hasFinalizer finalizer) := by
  change (finalizers.foldl Machine.addFinalizer m).hasFinalizer finalizer = _
  induction finalizers generalizing m with
  | nil => simp
  | cons first rest ih =>
      rw [List.foldl_cons, ih, Machine.hasFinalizer_addFinalizer, List.contains_cons]
      simp only [beq_eq_decide]
      exact Bool.or_left_comm _ _ _ |>.trans (Bool.or_assoc _ _ _).symm

@[simp] theorem hasFinalizer_apply_remove (removed : String) (m : Machine) (finalizer : String) :
    ((remove removed).apply m).hasFinalizer finalizer =
      (decide (finalizer ≠ removed) && m.hasFinalizer finalizer) :=
  m.hasFinalizer_removeFinalizer removed finalizer

/-- An edit changes nothing but the finalizers. -/
theorem apply_eq (edit : FinalizerEdit) (m : Machine) :
    edit.apply m = { m with finalizers := (edit.apply m).finalizers } := by
  cases edit with
  | remove removed => rfl
  | add finalizers =>
      change finalizers.foldl Machine.addFinalizer m =
        { m with finalizers := (finalizers.foldl Machine.addFinalizer m).finalizers }
      induction finalizers generalizing m with
      | nil => rfl
      | cons first rest ih =>
          rw [List.foldl_cons, ih]
          unfold Machine.addFinalizer
          split <;> rfl

@[simp] theorem apply_name (edit : FinalizerEdit) (m : Machine) : (edit.apply m).name = m.name := by
  rw [apply_eq]

@[simp] theorem apply_uid (edit : FinalizerEdit) (m : Machine) : (edit.apply m).uid = m.uid := by
  rw [apply_eq]

@[simp] theorem apply_providerSpec (edit : FinalizerEdit) (m : Machine) :
    (edit.apply m).providerSpec = m.providerSpec := by
  rw [apply_eq]

/-- Adding what is there changes nothing. -/
theorem apply_add_of_all {finalizers : List String} {m : Machine}
    (present : finalizers.all m.hasFinalizer = true) : (add finalizers).apply m = m := by
  change finalizers.foldl Machine.addFinalizer m = m
  induction finalizers with
  | nil => rfl
  | cons first rest ih =>
      rw [List.all_cons, Bool.and_eq_true] at present
      rw [List.foldl_cons, Machine.addFinalizer, if_pos present.1]
      exact ih present.2

/-- The finalizers that an edit is about. -/
def named : FinalizerEdit → List String
  | .add finalizers => finalizers
  | .remove finalizer => [finalizer]

/-- What an addition adds stands behind the others, once each. -/
theorem exists_added (finalizers : List String) (m : Machine) :
    ∃ added, ((add finalizers).apply m).finalizers = m.finalizers ++ added ∧ added.Nodup ∧
      ∀ finalizer ∈ added, finalizer ∈ finalizers ∧ finalizer ∉ m.finalizers := by
  change ∃ added, (finalizers.foldl Machine.addFinalizer m).finalizers = _ ∧ _
  induction finalizers generalizing m with
  | nil => exact ⟨[], by simp, List.nodup_nil, by simp⟩
  | cons first rest ih =>
      rw [List.foldl_cons]
      obtain ⟨added, same, distinct, fresh⟩ := ih (m.addFinalizer first)
      by_cases present : m.hasFinalizer first = true
      · have unchanged : m.addFinalizer first = m := if_pos present
        rw [unchanged] at same fresh ⊢
        refine ⟨added, same, distinct, fun finalizer member => ?_⟩
        obtain ⟨requested, absent⟩ := fresh finalizer member
        exact ⟨List.mem_cons_of_mem first requested, absent⟩
      · have appended : (m.addFinalizer first).finalizers = m.finalizers ++ [first] := by
          simp [Machine.addFinalizer, present]
        have missing : first ∉ m.finalizers := by
          simpa [Machine.hasFinalizer] using present
        rw [appended] at same fresh
        refine ⟨first :: added, by rw [same]; simp, ?_, ?_⟩
        · refine List.nodup_cons.2 ⟨fun member => ?_, distinct⟩
          exact (fresh first member).2 (by simp)
        · intro finalizer member
          rcases List.mem_cons.1 member with rfl | later
          · exact ⟨List.mem_cons_self, missing⟩
          · obtain ⟨requested, absent⟩ := fresh finalizer later
            refine ⟨List.mem_cons_of_mem first requested, fun earlier => absent ?_⟩
            exact List.mem_append_left [first] earlier

/-- Finalizers that an edit is not about keep their order. -/
theorem filter_apply (edit : FinalizerEdit) (m : Machine) {keep : String → Bool}
    (others : ∀ finalizer ∈ edit.named, keep finalizer = false) :
    (edit.apply m).finalizers.filter keep = m.finalizers.filter keep := by
  cases edit with
  | add finalizers =>
      obtain ⟨added, same, _, fresh⟩ := exists_added finalizers m
      have none : added.filter keep = [] := by
        rw [List.filter_eq_nil_iff]
        intro finalizer member
        simp [others finalizer (fresh finalizer member).1]
      rw [same, List.filter_append, none, List.append_nil]
  | remove finalizer =>
      have dropped : keep finalizer = false := others finalizer List.mem_cons_self
      change (m.finalizers.filter (· ≠ finalizer)).filter keep = _
      rw [List.filter_filter]
      apply List.filter_congr
      intro other _
      by_cases same : other = finalizer
      · subst same
        simp [dropped]
      · simp [same]

/-- An edit does not repeat a finalizer. -/
theorem nodup_apply (edit : FinalizerEdit) {m : Machine} (distinct : m.finalizers.Nodup) :
    (edit.apply m).finalizers.Nodup := by
  cases edit with
  | add finalizers =>
      obtain ⟨added, same, once, fresh⟩ := exists_added finalizers m
      rw [same, List.nodup_append]
      refine ⟨distinct, once, ?_⟩
      rintro first earlier second later rfl
      exact (fresh first later).2 earlier
  | remove finalizer => exact distinct.filter _

end FinalizerEdit

namespace Store

/-- The store after a committed edit of a record. -/
def committed (s : Store) (m : Machine) (edit : FinalizerEdit) : Store :=
  { s with
    records := s.records.insert m.name (edit.apply m)
    history := s.history ++ changes m (edit.apply m) }

/-- A store that has a record rejects an edit or commits it. -/
theorem commit_cases {s : Store} {m : Machine} (stored : s.get? m.name = some m)
    (edit : FinalizerEdit) :
    (0 < s.rejections ∧ ∃ fault,
      s.commit m.name edit = (.error fault, { s with rejections := s.rejections - 1 })) ∨
    (s.rejections = 0 ∧ s.commit m.name edit = (.ok (edit.apply m), s.committed m edit)) := by
  unfold commit committed
  by_cases rejecting : 0 < s.rejections
  · exact .inl ⟨rejecting, _, if_pos rejecting⟩
  · refine .inr ⟨by omega, ?_⟩
    rw [if_neg rejecting, stored]
    simp

@[simp] theorem get?_committed (s : Store) (m : Machine) (edit : FinalizerEdit) :
    (s.committed m edit).get? m.name = some (edit.apply m) := by
  simp [committed, get?]

/-- Nothing has changed in a record that is as it was. -/
theorem changes_self (m : Machine) : changes m m = [] := by
  have none : m.finalizers.filter (fun finalizer => !m.hasFinalizer finalizer) = [] := by
    rw [List.filter_eq_nil_iff]
    intro finalizer member
    simpa [Machine.hasFinalizer] using member
  rw [changes, none]
  rfl

/-- Every occurrence of a finalizer that is taken off is noted. -/
theorem changes_remove (m : Machine) (removed : String) :
    changes m (m.removeFinalizer removed) =
      (List.replicate (m.finalizers.count removed) removed).map .removed := by
  have added : (m.removeFinalizer removed).finalizers.filter
      (fun finalizer => !m.hasFinalizer finalizer) = [] := by
    rw [List.filter_eq_nil_iff]
    intro finalizer member
    have earlier := (List.mem_filter.1 member).1
    simpa [Machine.hasFinalizer] using earlier
  have taken : m.finalizers.filter
      (fun finalizer => !(m.removeFinalizer removed).hasFinalizer finalizer) =
      List.replicate (m.finalizers.count removed) removed := by
    rw [← List.filter_beq]
    apply List.filter_congr
    intro finalizer member
    have here : m.hasFinalizer finalizer = true := by simpa [Machine.hasFinalizer] using member
    simp [here, beq_eq_decide]
  rw [changes, added, taken, List.map_nil, List.nil_append]

/-- One finalizer is taken off a record that has no finalizer twice. -/
theorem changes_removeFinalizer {m : Machine} {removed : String} (distinct : m.finalizers.Nodup)
    (present : m.hasFinalizer removed = true) :
    changes m (m.removeFinalizer removed) = [.removed removed] := by
  have once := List.count_eq_one_of_mem distinct (by simpa [Machine.hasFinalizer] using present)
  rw [changes_remove, once]
  rfl

end Store

namespace Azure

namespace Owned

theorem finalizer_injective : Function.Injective finalizer := by
  intro a b same
  cases a <;> cases b <;> first | rfl | exact absurd same (by decide)

theorem mem_all (owned : Owned) : owned ∈ all := by
  cases owned <;> decide

theorem mem_ledger (owned : Owned) : owned.finalizer ∈ ledger.steps :=
  List.mem_map_of_mem (mem_all owned)

/-- Adding finalizers of the provider adds what they stand for and nothing else. -/
@[simp] theorem of_apply_add (added : List Owned) (m : Machine) (owned : Owned) :
    of ((FinalizerEdit.add (added.map finalizer)).apply m) owned =
      (decide (owned ∈ added) || of m owned) := by
  rw [of, FinalizerEdit.hasFinalizer_apply_add]
  congr 1
  rw [Bool.eq_iff_iff]
  simp only [List.contains_iff_mem, decide_eq_true_eq]
  exact List.mem_map_of_injective finalizer_injective

@[simp] theorem of_apply_remove (removed : Owned) (m : Machine) (owned : Owned) :
    of ((FinalizerEdit.remove removed.finalizer).apply m) owned =
      (decide (owned ≠ removed) && of m owned) := by
  rw [of, FinalizerEdit.hasFinalizer_apply_remove]
  congr 1
  simp only [ne_eq, finalizer_injective.eq_iff]

theorem present_nodup (m : Machine) : (present m).Nodup := List.Nodup.filter _ (by decide)

theorem remaining_nodup (m : Machine) : (remaining m).Nodup :=
  List.nodup_reverse.2 (present_nodup m)

theorem mem_remaining {m : Machine} {owned : Owned} :
    owned ∈ remaining m ↔ of m owned = true := by
  simp [remaining, present, mem_all]

/-- After the first kind in the order of teardown comes the rest of that order. -/
theorem remaining_apply_remove {m : Machine} {first : Owned} {rest : List Owned}
    (order : remaining m = first :: rest) :
    remaining ((FinalizerEdit.remove first.finalizer).apply m) = rest := by
  have distinct := remaining_nodup m
  have filtered : remaining ((FinalizerEdit.remove first.finalizer).apply m) =
      (remaining m).filter (· ≠ first) := by
    unfold remaining present
    rw [List.filter_reverse, List.filter_filter]
    congr 2
    funext owned
    rw [of_apply_remove]
  rw [order, List.nodup_cons] at distinct
  rw [filtered, order, List.filter_cons_of_neg (by simp)]
  apply List.filter_eq_self.2
  intro owned member
  have different : owned ≠ first := fun same => distinct.1 (same ▸ member)
  simp [different]

end Owned

/-- The finalizers of a record that are not the provider's. -/
def foreign (m : Machine) : List String := m.finalizers.filter (· ∉ ledger.steps)

/-- An edit of the provider's finalizers leaves the others alone. -/
theorem foreign_apply {edit : FinalizerEdit} (own : edit.named ⊆ ledger.steps) (m : Machine) :
    foreign (edit.apply m) = foreign m :=
  edit.filter_apply m fun finalizer member => by simpa using own member

/-- A record without finalizers of the provider has only the others. -/
theorem finalizers_of_clear {m : Machine} (clear : ledger.isClear m = true) :
    m.finalizers = foreign m := by
  refine (List.filter_eq_self.2 ?_).symm
  intro finalizer member
  simp only [Ledger.isClear, Bool.not_eq_true', List.any_eq_false] at clear
  have absent : finalizer ∉ ledger.steps := by
    intro own
    have present : m.hasFinalizer finalizer = true := by simpa [Machine.hasFinalizer] using member
    exact clear finalizer own present
  simpa using absent

theorem isClear_iff {m : Machine} :
    ledger.isClear m = true ↔ ∀ owned, Owned.of m owned = false := by
  simp only [Ledger.isClear, ledger, Bool.not_eq_true', List.any_eq_false, List.mem_map,
    Bool.not_eq_true, forall_exists_index, and_imp, forall_apply_eq_imp_iff₂, Owned.of]
  exact ⟨fun clear owned => clear owned (Owned.mem_all owned), fun clear owned _ => clear owned⟩

/-- A later record of a machine, which may differ in finalizers of the provider. -/
structure Continues (first last : Machine) : Prop where
  name : last.name = first.name
  uid : last.uid = first.uid
  providerSpec : last.providerSpec = first.providerSpec
  foreign : foreign last = foreign first

theorem Continues.refl (m : Machine) : Continues m m := ⟨rfl, rfl, rfl, rfl⟩

theorem Continues.add {first last : Machine} (continues : Continues first last)
    (owned : List Owned) :
    Continues first ((FinalizerEdit.add (owned.map Owned.finalizer)).apply last) where
  name := by rw [FinalizerEdit.apply_name, continues.name]
  uid := by rw [FinalizerEdit.apply_uid, continues.uid]
  providerSpec := by rw [FinalizerEdit.apply_providerSpec, continues.providerSpec]
  foreign := by
    have own : (FinalizerEdit.add (owned.map Owned.finalizer)).named ⊆ ledger.steps := by
      intro finalizer member
      obtain ⟨kind, _, rfl⟩ := List.mem_map.1 member
      exact kind.mem_ledger
    rw [foreign_apply own, continues.foreign]

theorem Continues.remove {first last : Machine} (continues : Continues first last)
    (owned : Owned) :
    Continues first ((FinalizerEdit.remove owned.finalizer).apply last) where
  name := by rw [FinalizerEdit.apply_name, continues.name]
  uid := by rw [FinalizerEdit.apply_uid, continues.uid]
  providerSpec := by rw [FinalizerEdit.apply_providerSpec, continues.providerSpec]
  foreign := by
    have own : (FinalizerEdit.remove owned.finalizer).named ⊆ ledger.steps :=
      List.cons_subset.2 ⟨owned.mem_ledger, List.nil_subset _⟩
    rw [foreign_apply own, continues.foreign]

theorem Continues.trans {first next last : Machine} (earlier : Continues first next)
    (later : Continues next last) : Continues first last :=
  ⟨later.name.trans earlier.name, later.uid.trans earlier.uid,
    later.providerSpec.trans earlier.providerSpec, later.foreign.trans earlier.foreign⟩

/-- A record without finalizers of the provider has only those of others. -/
theorem Continues.eq_of_clear {first last : Machine} (continues : Continues first last)
    (clear : ledger.isClear last = true) :
    last = { first with finalizers := Azure.foreign first } := by
  have only := finalizers_of_clear clear
  obtain ⟨name, uid, providerSpec, others⟩ := continues
  rw [others] at only
  cases last
  subst name uid providerSpec only
  rfl

end Azure

end Provisioning
