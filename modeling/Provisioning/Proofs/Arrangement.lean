import Provisioning.Proofs.Maps

/-!
In which order the members of an object stand does not belong to its meaning. An arrangement puts
the members of every object into some order; that of the text and the sorted one are arrangements.
Values are plain if they hold no number but integers of sixty-four bits and are nested to at most
a given depth, and any arrangement of a plain value is plain.
-/

namespace Provisioning.Json

open Provisioning.Text

theorem canonicalItems_eq_map (items : List Json) :
    canonicalItems items = items.map canonical := by
  induction items with
  | nil => rfl
  | cons item rest ih => rw [canonicalItems, ih, List.map_cons]

theorem canonicalMembers_eq_map (members : List (String × Json)) :
    canonicalMembers members = members.map fun m => (m.1, m.2.canonical) := by
  induction members with
  | nil => rfl
  | cons member rest ih =>
      obtain ⟨name, value⟩ := member
      rw [canonicalMembers, ih, List.map_cons]

theorem canonical_array (items : List Json) :
    canonical (.array items) = .array (items.map canonical) := by
  rw [canonical, canonicalItems_eq_map]

theorem canonical_object (members : List (String × Json)) :
    canonical (.object members) =
      .object (sortMembers (members.map fun m => (m.1, m.2.canonical))) := by
  rw [canonical, canonicalMembers_eq_map]

theorem sortMembers_subset (members : List (String × Json)) : sortMembers members ⊆ members := by
  intro member listed
  exact SortedMap.mem_of_get?_ofList (SortedMap.mem_toList_iff.1 listed)

theorem sortMembers_perm {members : List (String × Json)}
    (distinct : (members.map (·.1)).Nodup) : (sortMembers members).Perm members :=
  SortedMap.toList_foldl_insert_perm SortedMap.empty distinct

theorem sortMembers_sortMembers (members : List (String × Json)) :
    sortMembers (sortMembers members) = sortMembers members := by
  unfold sortMembers
  rw [SortedMap.ofList_toList]

/-- Sorting members whose values are sorted leaves the values as they are. -/
theorem canonical_object_of_settled {members : List (String × Json)}
    (settled : ∀ m ∈ members, m.2.canonical = m.2) :
    canonical (.object (sortMembers members)) = .object (sortMembers members) := by
  have same : (sortMembers members).map (fun m => (m.1, m.2.canonical)) = sortMembers members := by
    refine (List.map_congr_left ?_).trans (List.map_id' _)
    intro m member
    rw [settled m (sortMembers_subset members member)]
  rw [canonical_object, same, sortMembers_sortMembers]

mutual

theorem canonical_canonical : ∀ value : Json, value.canonical.canonical = value.canonical
  | .null | .bool _ | .number _ | .string _ => rfl
  | .array items => by
      rw [canonical, canonical_array, List.map_congr_left (canonicalItems_settled items),
        List.map_id']
  | .object members => by
      rw [canonical, canonical_object_of_settled (canonicalMembers_settled members)]

theorem canonicalItems_settled : ∀ items : List Json,
    ∀ item ∈ canonicalItems items, item.canonical = item
  | [], _, member => nomatch member
  | item :: rest, other, member => by
      rcases List.mem_cons.1 member with rfl | later
      · exact canonical_canonical item
      · exact canonicalItems_settled rest other later

theorem canonicalMembers_settled : ∀ members : List (String × Json),
    ∀ m ∈ canonicalMembers members, m.2.canonical = m.2
  | [], _, member => nomatch member
  | (_, value) :: rest, other, member => by
      rcases List.mem_cons.1 member with rfl | later
      · exact canonical_canonical value
      · exact canonicalMembers_settled rest other later

end

/-- A way to arrange the members of objects, at every depth. Of several members of one name some
may go, but of members of distinct names none does. -/
structure Arrangement where
  apply : Json → Json
  null : apply .null = .null
  bool : ∀ value, apply (.bool value) = .bool value
  number : ∀ value, apply (.number value) = .number value
  string : ∀ value, apply (.string value) = .string value
  array : ∀ items, apply (.array items) = .array (items.map apply)
  object : ∀ members, ∃ moved, apply (.object members) = .object moved ∧
    (moved ⊆ members.map fun m => (m.1, apply m.2)) ∧
    ((members.map (·.1)).Nodup → moved.Perm (members.map fun m => (m.1, apply m.2)))
  idem : ∀ value, apply (apply value) = apply value

namespace Arrangement

/-- The order of the text. -/
def written : Arrangement where
  apply value := value
  null := rfl
  bool _ := rfl
  number _ := rfl
  string _ := rfl
  array items := congrArg Json.array (List.map_id' items).symm
  object members := ⟨members, rfl, by simp, fun _ => by simp⟩
  idem _ := rfl

/-- The order of the names. -/
def sorted : Arrangement where
  apply := canonical
  null := rfl
  bool _ := rfl
  number _ := rfl
  string _ := rfl
  array := canonical_array
  object members := by
    refine ⟨_, canonical_object members, sortMembers_subset _, fun distinct => ?_⟩
    apply sortMembers_perm
    rw [List.map_map]
    exact distinct
  idem := canonical_canonical

variable (order : Arrangement)

/-- No value becomes null. -/
theorem apply_ne_null {value : Json} (present : value ≠ .null) : order.apply value ≠ .null := by
  intro null
  cases value with
  | null => exact present rfl
  | bool value => cases (order.bool value).symm.trans null
  | number value => cases (order.number value).symm.trans null
  | string value => cases (order.string value).symm.trans null
  | array items => cases (order.array items).symm.trans null
  | object members =>
      obtain ⟨moved, arranged, _⟩ := order.object members
      cases arranged.symm.trans null

variable {order}

/-- The items of a list that is arranged already are so too. -/
theorem apply_item {items : List Json} (arranged : order.apply (.array items) = .array items) :
    ∀ item ∈ items, order.apply item = item := by
  rw [order.array] at arranged
  have same : items.map order.apply = items.map fun item => item := by
    rw [List.map_id']
    exact Json.array.inj arranged
  exact List.map_inj_left.1 same

/-- The members of an object that is arranged already are so too. -/
theorem apply_member {members : List (String × Json)}
    (arranged : order.apply (.object members) = .object members) :
    ∀ m ∈ members, order.apply m.2 = m.2 := by
  intro m member
  obtain ⟨moved, same, subset, _⟩ := order.object members
  cases arranged.symm.trans same
  obtain ⟨earlier, _, rfl⟩ := List.mem_map.1 (subset member)
  exact order.idem earlier.2

end Arrangement

/-- An integer of sixty-four bits, with a sign or without one. -/
def IsWord (value : Int) : Prop :=
  -((Integer.greatestSigned : Int) + 1) ≤ value ∧ value ≤ Integer.greatestUnsigned

/-- A value holds no number but integers of sixty-four bits, and lists and objects are nested to
no more than a depth. -/
def Plain : Nat → Json → Prop
  | _, .null | _, .bool _ | _, .string _ => True
  | _, .number (.int value) => IsWord value
  | _, .number (.float _) => False
  | depth + 1, .array items => ∀ item ∈ items, item.Plain depth
  | depth + 1, .object members => ∀ m ∈ members, m.2.Plain depth
  | 0, .array _ | 0, .object _ => False

@[simp] theorem plain_null (depth : Nat) : Json.null.Plain depth := by
  cases depth <;> trivial

@[simp] theorem plain_bool (depth : Nat) (value : Bool) : (Json.bool value).Plain depth := by
  cases depth <;> trivial

@[simp] theorem plain_string (depth : Nat) (value : String) : (Json.string value).Plain depth := by
  cases depth <;> trivial

@[simp] theorem plain_int {depth : Nat} {value : Int} :
    (Json.int value).Plain depth ↔ IsWord value := by
  cases depth <;> exact Iff.rfl

theorem Arrangement.plain_apply (order : Arrangement) : ∀ {depth : Nat} {value : Json},
    value.Plain depth → (order.apply value).Plain depth
  | _, .null, plain => by rwa [order.null]
  | _, .bool _, plain => by rwa [order.bool]
  | _, .number _, plain => by rwa [order.number]
  | _, .string _, plain => by rwa [order.string]
  | 0, .array _, plain | 0, .object _, plain => False.elim plain
  | depth + 1, .array items, plain => by
      rw [order.array]
      intro item member
      obtain ⟨earlier, listed, rfl⟩ := List.mem_map.1 member
      exact order.plain_apply (plain earlier listed)
  | depth + 1, .object members, plain => by
      obtain ⟨moved, arranged, subset, _⟩ := order.object members
      rw [arranged]
      intro m member
      obtain ⟨earlier, listed, rfl⟩ := List.mem_map.1 (subset member)
      exact order.plain_apply (plain earlier listed)

end Provisioning.Json
