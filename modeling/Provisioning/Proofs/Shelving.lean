import Mathlib.Data.List.Nodup
import Mathlib.Logic.Function.Basic
import Provisioning.Cache.Schedule

/-!
Keys and their slots. `Cache.view` is the slot that a key has or would get, with what becomes of it
when keys are looked up, slots change, and some keys lose theirs. A slot that a key loses is free
and holds nothing fresh, so nobody can tell it from an empty one: `Slot.Alike`.
-/

namespace Provisioning

variable {κ ν ε : Type}

namespace Slot

variable {slot : Slot ν} {now later : Nat}

theorem fresh?_eq_some_iff {value : ν} :
    slot.fresh? now = some value ↔
      ∃ expiresAt, slot.entry = some ⟨value, expiresAt⟩ ∧ now < expiresAt := by
  simp only [fresh?, Option.map_eq_some_iff, Option.filter_eq_some_iff, decide_eq_true_eq]
  constructor
  · rintro ⟨⟨_, expiresAt⟩, ⟨found, fresh⟩, rfl⟩
    exact ⟨expiresAt, found, fresh⟩
  · rintro ⟨expiresAt, found, fresh⟩
    exact ⟨_, ⟨found, fresh⟩, rfl⟩

theorem fresh?_eq_none_of_le (stale : slot.fresh? now = none) (le : now ≤ later) :
    slot.fresh? later = none := by
  rw [Option.eq_none_iff_forall_ne_some] at stale ⊢
  intro value fresh
  obtain ⟨expiresAt, found, before⟩ := fresh?_eq_some_iff.1 fresh
  exact stale value (fresh?_eq_some_iff.2 ⟨expiresAt, found, by omega⟩)

/-- Nobody can tell the slots apart from a moment on. -/
structure Alike (now : Nat) (s t : Slot ν) : Prop where
  holder : s.holder = t.holder
  waiting : s.waiting = t.waiting
  fresh? : ∀ later, now ≤ later → s.fresh? later = t.fresh? later

namespace Alike

variable {s t : Slot ν}

theorem mono (alike : s.Alike now t) (le : now ≤ later) : s.Alike later t :=
  ⟨alike.holder, alike.waiting, fun after behind => alike.fresh? after (Nat.le_trans le behind)⟩

theorem request (alike : s.Alike now t) (task : Nat) :
    (s.request task).Alike now (t.request task) := by
  obtain ⟨holder, waiting, fresh⟩ := alike
  unfold Slot.request
  rw [holder]
  cases t.holder with
  | none => exact ⟨rfl, waiting, fresh⟩
  | some other => exact ⟨rfl, congrArg (· ++ [task]) waiting, fresh⟩

theorem release (alike : s.Alike now t) : s.release.Alike now t.release :=
  ⟨congrArg List.head? alike.waiting, congrArg List.tail alike.waiting, alike.fresh?⟩

theorem fill (alike : s.Alike now t) (value : ν) (expiresAt : Nat) :
    (s.fill value expiresAt).Alike now (t.fill value expiresAt) :=
  ⟨alike.holder, alike.waiting, fun _ _ => rfl⟩

/-- A slot that nobody uses and that holds nothing fresh is like an empty one. -/
theorem empty (free : s.holder = none) (queued : s.waiting = []) (stale : s.fresh? now = none) :
    s.Alike now .empty :=
  ⟨free, queued, fun _ le => fresh?_eq_none_of_le stale le⟩

theorem survives (alike : s.Alike now t) : s.survives now = t.survives now := by
  unfold Slot.survives
  rw [alike.holder, alike.fresh? now (Nat.le_refl now)]

end Alike

end Slot

namespace Cache

/-- Every key has at most one slot, which exists and which no other key has. -/
structure Shelved (c : Cache κ ν) : Prop where
  keys : (c.numbers.map (·.1)).Nodup
  numbers : (c.numbers.map (·.2)).Nodup
  shelf : ∀ entry ∈ c.numbers, entry.2 < c.shelf.length

variable {c : Cache κ ν} {key other : κ} {number : Nat}

theorem Shelved.empty (ttl : Nat) : (Cache.empty ttl : Cache κ ν).Shelved :=
  ⟨List.nodup_nil, List.nodup_nil, nofun⟩

theorem Shelved.modify (shelved : c.Shelved) (number : Nat) (change : Slot ν → Slot ν) :
    (c.modify number change).Shelved where
  keys := shelved.keys
  numbers := shelved.numbers
  shelf entry member := by
    rw [Cache.modify, List.length_modify]
    exact shelved.shelf entry member

theorem Shelved.purge (shelved : c.Shelved) (now : Nat) : (c.purge now).Shelved where
  keys := (List.filter_sublist.map _).nodup shelved.keys
  numbers := (List.filter_sublist.map _).nodup shelved.numbers
  shelf entry member := shelved.shelf entry (List.mem_of_mem_filter member)

variable [DecidableEq κ]

/-- The slot that a key has, or else the one that it would get. -/
def view (c : Cache κ ν) (key : κ) : Slot ν := (c.number? key).elim .empty c.slot

theorem view_of_number? (named : c.number? key = some number) : c.view key = c.slot number := by
  rw [view, named, Option.elim_some]

theorem number?_eq_none_iff : c.number? key = none ↔ key ∉ c.numbers.map (·.1) := by
  simp only [number?, Option.map_eq_none_iff, List.find?_eq_none, decide_eq_true_eq, List.mem_map,
    not_exists, not_and]

theorem number?_find (c : Cache κ ν) (key other : κ) :
    (c.find key).2.number? other =
      if other = key then some (c.find key).1 else c.number? other := by
  cases named : c.number? key with
  | some number =>
      simp only [find, named]
      split
      · rename_i same
        exact same ▸ named
      · rfl
  | none =>
      have absent : c.numbers.find? (fun entry => entry.1 = key) = none := by
        simpa [number?] using named
      simp only [find, named]
      split
      · rename_i same
        simp [number?, List.find?_append, same, absent]
      · rename_i differ
        simp [number?, List.find?_append, Ne.symm differ]

/-- Whoever has a slot keeps it when a key is looked up. -/
theorem number?_find_of_some (named : c.number? other = some number) (key : κ) :
    (c.find key).2.number? other = some number := by
  rw [number?_find]
  split
  · rename_i same
    cases same
    rw [find, named]
  · exact named

theorem slot_find (made : number < c.shelf.length) (key : κ) :
    (c.find key).2.slot number = c.slot number := by
  unfold find
  cases c.number? key with
  | some _ => rfl
  | none => rw [slot, slot, List.getElem?_append_left made]

namespace Shelved

theorem number?_eq_some_iff (shelved : c.Shelved) :
    c.number? key = some number ↔ (key, number) ∈ c.numbers := by
  constructor
  · intro named
    obtain ⟨entry, found, rfl⟩ := Option.map_eq_some_iff.1 named
    have same := List.find?_some found
    simp only [decide_eq_true_eq] at same
    exact same ▸ List.mem_of_find?_eq_some found
  · intro member
    cases named : c.number? key with
    | none => exact absurd (List.mem_map_of_mem member) (number?_eq_none_iff.1 named)
    | some other =>
        obtain ⟨entry, found, rfl⟩ := Option.map_eq_some_iff.1 named
        have same := List.find?_some found
        simp only [decide_eq_true_eq] at same
        rw [List.inj_on_of_nodup_map shelved.keys (List.mem_of_find?_eq_some found) member same]

/-- No two keys have one slot. -/
theorem key_unique (shelved : c.Shelved) (one : c.number? key = some number)
    (two : c.number? other = some number) : key = other :=
  congrArg Prod.fst (List.inj_on_of_nodup_map shelved.numbers (shelved.number?_eq_some_iff.1 one)
    (shelved.number?_eq_some_iff.1 two) rfl)

theorem find (shelved : c.Shelved) (key : κ) : (c.find key).2.Shelved := by
  unfold Cache.find
  cases named : c.number? key with
  | some _ => exact shelved
  | none =>
      constructor
      · rw [List.map_append]
        exact shelved.keys.append (List.nodup_singleton _)
          (List.disjoint_singleton.2 (number?_eq_none_iff.1 named))
      · rw [List.map_append]
        refine shelved.numbers.append (List.nodup_singleton _) (List.disjoint_singleton.2 ?_)
        intro taken
        obtain ⟨entry, member, same⟩ := List.mem_map.1 taken
        have below := shelved.shelf entry member
        rw [same] at below
        exact Nat.lt_irrefl _ below
      · intro entry member
        rw [List.length_append, List.length_singleton]
        rcases List.mem_append.1 member with before | added
        · exact Nat.lt_succ_of_lt (shelved.shelf entry before)
        · rw [List.mem_singleton.1 added]
          exact Nat.lt_succ_self _

theorem view_find (shelved : c.Shelved) (key other : κ) :
    (c.find key).2.view other = c.view other := by
  unfold view
  rw [number?_find]
  by_cases same : other = key
  · rw [if_pos same, same, Option.elim_some]
    unfold Cache.find
    cases named : c.number? key with
    | some _ => rfl
    | none => simp [slot]
  · rw [if_neg same]
    cases named : c.number? other with
    | none => rfl
    | some number =>
        exact slot_find (shelved.shelf _ (shelved.number?_eq_some_iff.1 named)) key

theorem view_modify (shelved : c.Shelved) (named : c.number? key = some number)
    (change : Slot ν → Slot ν) :
    (c.modify number change).view = Function.update c.view key (change (c.view key)) := by
  have made : number < c.shelf.length :=
    shelved.shelf _ (shelved.number?_eq_some_iff.1 named)
  funext other
  by_cases same : other = key
  · rw [same, Function.update_self, view_of_number? named,
      view_of_number? (show (c.modify number change).number? key = some number from named)]
    simp [slot, Cache.modify, made]
  · rw [Function.update_of_ne same]
    cases found : c.number? other with
    | none =>
        have still : (c.modify number change).number? other = none := found
        simp only [view, found, still, Option.elim_none]
    | some another =>
        have differ : number ≠ another := fun one =>
          same (shelved.key_unique found (one ▸ named))
        rw [view_of_number? found,
          view_of_number? (show (c.modify number change).number? other = some another from found)]
        simp [slot, Cache.modify, differ]

/-- A slot survives a purge with its key. -/
theorem number?_purge (shelved : c.Shelved) (now : Nat) :
    (c.purge now).number? key = some number ↔
      c.number? key = some number ∧ (c.slot number).survives now := by
  rw [(shelved.purge now).number?_eq_some_iff, shelved.number?_eq_some_iff]
  exact List.mem_filter

/-- A purge leaves a key with the slot from before, or with none. -/
theorem view_purge (shelved : c.Shelved) (now : Nat) (key : κ) :
    (c.purge now).view key = if (c.view key).survives now then c.view key else .empty := by
  cases named : c.number? key with
  | none =>
      have absent : (c.purge now).number? key = none := by
        rw [Option.eq_none_iff_forall_ne_some]
        intro number found
        have before := ((shelved.number?_purge now).1 found).1
        rw [named] at before
        cases before
      simp only [view, named, absent, Option.elim_none, ite_self]
  | some number =>
      by_cases kept : (c.slot number).survives now
      · have still := (shelved.number?_purge now).2 ⟨named, kept⟩
        rw [view_of_number? named, view_of_number? still, if_pos kept]
        rfl
      · have absent : (c.purge now).number? key = none := by
          rw [Option.eq_none_iff_forall_ne_some]
          intro other found
          obtain ⟨before, survives⟩ := (shelved.number?_purge now).1 found
          cases named.symm.trans before
          exact kept survives
        rw [view_of_number? named, if_neg kept, view, absent, Option.elim_none]

end Shelved

/-- Whoever finds a fresh value for a key finds it in its slot. -/
theorem fresh?_eq_view (c : Cache κ ν) (key : κ) (now : Nat) :
    c.fresh? key now = (c.view key).fresh? now := by
  unfold Cache.fresh? view
  cases c.number? key with
  | none => rfl
  | some number => rfl

theorem ttl_fill (c : Cache κ ν) (key : κ) (value : ν) (now : Nat) :
    (c.fill key value now).ttl = c.ttl := by
  unfold fill find
  cases c.number? key with
  | none => rfl
  | some number => rfl

namespace Shelved

/-- A cached value goes into the slot of its key and into no other. -/
theorem view_fill (shelved : c.Shelved) (key : κ) (value : ν) (now : Nat) :
    (c.fill key value now).view =
      Function.update c.view key ((c.view key).fill value (now + c.ttl)) := by
  have named : (c.find key).2.number? key = some (c.find key).1 := by
    rw [number?_find, if_pos rfl]
  have same : (c.find key).2.view = c.view := funext (shelved.view_find key)
  rw [Cache.fill, (shelved.find key).view_modify named, same]

theorem fill (shelved : c.Shelved) (key : κ) (value : ν) (now : Nat) :
    (c.fill key value now).Shelved :=
  (shelved.find key).modify _ _

end Shelved

end Cache

end Provisioning
