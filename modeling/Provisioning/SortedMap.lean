/-!
Finite maps kept in strictly increasing key order, so that two maps with the same content are
equal and every listing comes out sorted. Main statements: `get?_insert`, `get?_erase` and
`ext_get?`, which says that a map is determined by its lookups.
-/

namespace Provisioning

/-- Keys with a strict linear order that can be tested. -/
class SortKey (κ : Type) where
  before : κ → κ → Bool
  irrefl : ∀ a, before a a = false
  trans : ∀ {a b c}, before a b = true → before b c = true → before a c = true
  total : ∀ {a b}, before a b = false → a ≠ b → before b a = true

namespace SortKey

variable {κ : Type} [SortKey κ]

theorem asymm {a b : κ} (first : before a b = true) : before b a = false := by
  cases second : before b a with
  | false => rfl
  | true => simpa [irrefl] using trans first second

theorem ne_of_before {a b : κ} (first : before a b = true) : a ≠ b := by
  intro same
  subst same
  simp [irrefl] at first

end SortKey

/-- Text is ordered by code points. -/
instance : SortKey String where
  before a b := decide (a < b)
  irrefl a := by simp
  trans first second := by
    simp only [decide_eq_true_eq] at *
    exact String.lt_trans first second
  total {a b} unordered distinct := by
    simp only [decide_eq_false_iff_not, decide_eq_true_eq] at *
    rcases Std.lt_trichotomy a b with less | same | more
    · exact absurd less unordered
    · exact absurd same distinct
    · exact more

/-- Entries in strictly increasing key order. -/
structure SortedMap (κ ν : Type) [SortKey κ] where
  toList : List (κ × ν)
  sorted : toList.Pairwise fun a b => SortKey.before a.1 b.1 = true

namespace SortedMap

variable {κ ν μ : Type} [SortKey κ]

theorem ext {m n : SortedMap κ ν} (same : m.toList = n.toList) : m = n := by
  cases m; cases n; cases same; rfl

def empty : SortedMap κ ν := ⟨[], .nil⟩

instance : EmptyCollection (SortedMap κ ν) := ⟨empty⟩
instance : Inhabited (SortedMap κ ν) := ⟨empty⟩

def keys (m : SortedMap κ ν) : List κ := m.toList.map (·.1)
def values (m : SortedMap κ ν) : List ν := m.toList.map (·.2)
def size (m : SortedMap κ ν) : Nat := m.toList.length
def isEmpty (m : SortedMap κ ν) : Bool := m.toList.isEmpty

variable [DecidableEq κ]

instance [DecidableEq ν] : DecidableEq (SortedMap κ ν) := fun m n =>
  if same : m.toList = n.toList then isTrue (ext same)
  else isFalse fun equal => same (equal ▸ rfl)

/-- The value of the first entry with a key. -/
def find {κ ν : Type} [DecidableEq κ] (key : κ) : List (κ × ν) → Option ν
  | [] => none
  | (k, v) :: rest => if k = key then some v else find key rest

/-- The value stored under a key. -/
def get? (m : SortedMap κ ν) (key : κ) : Option ν := find key m.toList

def contains (m : SortedMap κ ν) (key : κ) : Bool := (m.get? key).isSome

/-- Places an entry in order, replacing an entry of the same key. -/
def place (key : κ) (value : ν) : List (κ × ν) → List (κ × ν)
  | [] => [(key, value)]
  | (k, v) :: rest =>
      if k = key then (key, value) :: rest
      else if SortKey.before key k then (key, value) :: (k, v) :: rest
      else (k, v) :: place key value rest

theorem mem_place {key : κ} {value : ν} {entries : List (κ × ν)} {e : κ × ν} :
    e ∈ place key value entries → e = (key, value) ∨ e ∈ entries := by
  induction entries with
  | nil => simp [place]
  | cons entry rest ih =>
      obtain ⟨k, v⟩ := entry
      simp only [place]
      split
      · simp only [List.mem_cons]
        rintro (rfl | found) <;> simp_all
      · split
        · simp [List.mem_cons]
        · simp only [List.mem_cons]
          rintro (rfl | found)
          · simp
          · rcases ih found with rfl | found <;> simp_all

theorem place_sorted (key : κ) (value : ν) {entries : List (κ × ν)}
    (sorted : entries.Pairwise fun a b => SortKey.before a.1 b.1 = true) :
    (place key value entries).Pairwise fun a b => SortKey.before a.1 b.1 = true := by
  induction entries with
  | nil => simp [place]
  | cons entry rest ih =>
      obtain ⟨k, v⟩ := entry
      rw [List.pairwise_cons] at sorted
      simp only [place]
      split
      · rename_i same
        subst same
        exact List.pairwise_cons.2 ⟨fun e member => sorted.1 e member, sorted.2⟩
      · split
        · rename_i distinct first
          refine List.pairwise_cons.2 ⟨?_, List.pairwise_cons.2 sorted⟩
          intro e member
          rcases List.mem_cons.1 member with rfl | member
          · exact first
          · exact SortKey.trans first (sorted.1 e member)
        · rename_i distinct unordered
          refine List.pairwise_cons.2 ⟨?_, ih sorted.2⟩
          intro e member
          rcases mem_place member with rfl | member
          · exact SortKey.total (by simpa using unordered) (Ne.symm distinct)
          · exact sorted.1 e member

/-- Stores a value under a key, replacing what was there. -/
def insert (m : SortedMap κ ν) (key : κ) (value : ν) : SortedMap κ ν :=
  ⟨place key value m.toList, place_sorted key value m.sorted⟩

/-- Keeps the entries that pass a test. -/
def filter (keep : κ → ν → Bool) (m : SortedMap κ ν) : SortedMap κ ν :=
  ⟨m.toList.filter fun e => keep e.1 e.2, m.sorted.filter _⟩

/-- Removes the entry of a key. -/
def erase (m : SortedMap κ ν) (key : κ) : SortedMap κ ν :=
  m.filter fun k _ => k ≠ key

/-- Changes every value and no key. -/
def mapValues (change : κ → ν → μ) (m : SortedMap κ ν) : SortedMap κ μ :=
  ⟨m.toList.map fun e => (e.1, change e.1 e.2),
    m.sorted.map (fun e : κ × ν => (e.1, change e.1 e.2)) fun _ _ ordered => ordered⟩

/-- Later entries replace earlier ones of the same key. -/
def ofList (entries : List (κ × ν)) : SortedMap κ ν :=
  entries.foldl (fun m e => m.insert e.1 e.2) empty

/-- Adds the entries of the second map, which win over those of the first. -/
def union (m n : SortedMap κ ν) : SortedMap κ ν :=
  n.toList.foldl (fun m e => m.insert e.1 e.2) m

theorem find_place (key other : κ) (value : ν) (entries : List (κ × ν)) :
    find other (place key value entries) =
      if key = other then some value else find other entries := by
  induction entries with
  | nil => simp [place, find]
  | cons entry rest ih =>
      obtain ⟨k, v⟩ := entry
      simp only [place]
      split
      · rename_i same
        subst same
        by_cases h : k = other <;> simp [find, h]
      · split
        · by_cases h : key = other <;> simp [find, h]
        · by_cases h : key = other
          · subst h
            simp_all [find]
          · by_cases h' : k = other <;> simp_all [find]

@[simp] theorem get?_insert (m : SortedMap κ ν) (key other : κ) (value : ν) :
    (m.insert key value).get? other = if key = other then some value else m.get? other :=
  find_place key other value m.toList

@[simp] theorem get?_empty (key : κ) : (empty : SortedMap κ ν).get? key = none := rfl

theorem mem_of_find {κ ν : Type} [DecidableEq κ] {key : κ} {value : ν}
    {entries : List (κ × ν)} (found : find key entries = some value) :
    (key, value) ∈ entries := by
  induction entries with
  | nil => simp [find] at found
  | cons entry rest ih =>
      obtain ⟨k, v⟩ := entry
      by_cases same : k = key
      · simp_all [find]
      · simp only [find, same, if_false] at found
        exact List.mem_cons_of_mem _ (ih found)

/-- A key that comes before every entry is not found. -/
theorem find_of_all_after {key : κ} {entries : List (κ × ν)}
    (later : ∀ e ∈ entries, SortKey.before key e.1 = true) : find key entries = none := by
  cases found : find key entries with
  | none => rfl
  | some value => simpa [SortKey.irrefl] using later _ (mem_of_find found)

theorem find_filter (key : κ) (keep : κ → ν → Bool) {entries : List (κ × ν)}
    (sorted : entries.Pairwise fun a b => SortKey.before a.1 b.1 = true) :
    find key (entries.filter fun e => keep e.1 e.2) =
      (find key entries).filter (keep key) := by
  induction entries with
  | nil => rfl
  | cons entry rest ih =>
      obtain ⟨k, v⟩ := entry
      rw [List.pairwise_cons] at sorted
      by_cases same : k = key
      · subst same
        by_cases kept : keep k v
        · simp [find, kept, Option.filter]
        · simp only [List.filter_cons, kept, find, if_true]
          rw [if_neg (by simp), find_of_all_after]
          · simp [Option.filter, kept]
          · intro e member
            exact sorted.1 e (List.mem_filter.1 member).1
      · by_cases kept : keep k v <;> simp [find, same, kept, ih sorted.2]

@[simp] theorem get?_filter (m : SortedMap κ ν) (keep : κ → ν → Bool) (key : κ) :
    (m.filter keep).get? key = (m.get? key).filter (keep key) :=
  find_filter key keep m.sorted

@[simp] theorem get?_erase (m : SortedMap κ ν) (key other : κ) :
    (m.erase key).get? other = if key = other then none else m.get? other := by
  rw [erase, get?_filter]
  by_cases same : key = other
  · subst same
    cases m.get? key <;> simp [Option.filter]
  · have : other ≠ key := Ne.symm same
    cases m.get? other <;> simp [Option.filter, same, this]

theorem find_of_mem {key : κ} {value : ν} {entries : List (κ × ν)}
    (sorted : entries.Pairwise fun a b => SortKey.before a.1 b.1 = true)
    (member : (key, value) ∈ entries) : find key entries = some value := by
  induction entries with
  | nil => simp at member
  | cons entry rest ih =>
      obtain ⟨k, v⟩ := entry
      rw [List.pairwise_cons] at sorted
      rcases List.mem_cons.1 member with same | member
      · cases same; simp [find]
      · have distinct : k ≠ key := SortKey.ne_of_before (sorted.1 _ member)
        simp only [find, distinct, if_false]
        exact ih sorted.2 member

/-- An entry is listed exactly when its key looks it up. -/
theorem mem_toList_iff {m : SortedMap κ ν} {key : κ} {value : ν} :
    (key, value) ∈ m.toList ↔ m.get? key = some value :=
  ⟨find_of_mem m.sorted, mem_of_find⟩

/-- A map is determined by its lookups. -/
theorem ext_get? {m n : SortedMap κ ν} (same : ∀ key, m.get? key = n.get? key) : m = n := by
  have lists : ∀ a b : List (κ × ν),
      a.Pairwise (fun x y => SortKey.before x.1 y.1 = true) →
      b.Pairwise (fun x y => SortKey.before x.1 y.1 = true) →
      (∀ key, find key a = find key b) → a = b := by
    intro a
    induction a with
    | nil =>
        intro b _ _ agree
        cases b with
        | nil => rfl
        | cons entry rest => simpa [find] using agree entry.1
    | cons entry rest ih =>
        intro b sortedA sortedB agree
        obtain ⟨k, v⟩ := entry
        cases b with
        | nil => simpa [find] using agree k
        | cons entry' rest' =>
            obtain ⟨k', v'⟩ := entry'
            have tailA := (List.pairwise_cons.1 sortedA).1
            have tailB := (List.pairwise_cons.1 sortedB).1
            have here : find k ((k', v') :: rest') = some v := by
              rw [← agree k]; simp [find]
            have there : find k' ((k, v) :: rest) = some v' := by
              rw [agree k']; simp [find]
            have keys : k = k' := by
              rcases List.mem_cons.1 (mem_of_find here) with equal | inRest'
              · exact congrArg Prod.fst equal
              · rcases List.mem_cons.1 (mem_of_find there) with equal | inRest
                · exact (congrArg Prod.fst equal).symm
                · have first := tailB _ inRest'
                  have second := tailA _ inRest
                  simp [SortKey.asymm first] at second
            subst keys
            have values : v' = v := by simpa [find] using here
            subst values
            congr 1
            refine ih rest' (List.pairwise_cons.1 sortedA).2 (List.pairwise_cons.1 sortedB).2 ?_
            intro key
            have step := agree key
            by_cases same : k = key
            · subst same
              rw [find_of_all_after tailA, find_of_all_after tailB]
            · simpa [find, same] using step
  exact ext (lists m.toList n.toList m.sorted n.sorted same)

end SortedMap

end Provisioning
