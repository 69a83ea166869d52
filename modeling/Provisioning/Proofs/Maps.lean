import Provisioning.Azure.Backend.Resources

/-!
More on sorted maps: what each listing contains, and which operations change nothing. All of it is
read off lookups, by `SortedMap.ext_get?` where maps are equal.
-/

namespace Provisioning

namespace SortedMap

variable {κ ν μ : Type} [SortKey κ] [DecidableEq κ]

theorem find_map {κ ν μ : Type} [DecidableEq κ] (change : κ → ν → μ) (key : κ)
    (entries : List (κ × ν)) :
    find key (entries.map fun e => (e.1, change e.1 e.2)) =
      (find key entries).map (change key) := by
  induction entries with
  | nil => rfl
  | cons entry rest ih =>
      obtain ⟨k, v⟩ := entry
      by_cases same : k = key
      · subst same
        simp [find]
      · simp [find, same, ih]

@[simp] theorem get?_mapValues (m : SortedMap κ ν) (change : κ → ν → μ) (key : κ) :
    (m.mapValues change).get? key = (m.get? key).map (change key) :=
  find_map change key m.toList

@[simp] theorem contains_mapValues (m : SortedMap κ ν) (change : κ → ν → μ) (key : κ) :
    (m.mapValues change).contains key = m.contains key := by
  rw [contains, contains, get?_mapValues, Option.isSome_map]

@[simp] theorem contains_insert (m : SortedMap κ ν) (key other : κ) (value : ν) :
    (m.insert key value).contains other = (decide (key = other) || m.contains other) := by
  rw [contains, get?_insert]
  by_cases same : key = other <;> simp [same, contains]

theorem contains_erase_of_ne {m : SortedMap κ ν} {key erased : κ} (present : m.contains key = true)
    (different : erased ≠ key) : (m.erase erased).contains key = true := by
  rw [contains, get?_erase, if_neg different]
  exact present

theorem contains_iff {m : SortedMap κ ν} {key : κ} :
    m.contains key = true ↔ ∃ value, m.get? key = some value := by
  rw [contains, Option.isSome_iff_exists]

theorem contains_eq_false {m : SortedMap κ ν} {key : κ} :
    m.contains key = false ↔ m.get? key = none := by
  rw [contains, Option.isSome_eq_false_iff, Option.isNone_iff_eq_none]

/-- The listing of a map contains what some key looks up. -/
theorem mem_values_iff {m : SortedMap κ ν} {value : ν} :
    value ∈ m.values ↔ ∃ key, m.get? key = some value := by
  simp only [values, List.mem_map, ← mem_toList_iff]
  constructor
  · rintro ⟨entry, member, rfl⟩
    exact ⟨entry.1, member⟩
  · rintro ⟨key, member⟩
    exact ⟨_, member, rfl⟩

/-- The only entry with a property is the first one. -/
theorem find?_values {m : SortedMap κ ν} {key : κ} {value : ν} {p : ν → Bool}
    (found : m.get? key = some value) (holds : p value = true)
    (only : ∀ other, other ≠ key → ∀ value, m.get? other = some value → p value = false) :
    m.values.find? p = some value := by
  cases first : m.values.find? p with
  | none =>
      have absent := List.find?_eq_none.1 first value (mem_values_iff.2 ⟨key, found⟩)
      exact absurd holds absent
  | some earlier =>
      obtain ⟨other, stored⟩ := mem_values_iff.1 (List.mem_of_find?_eq_some first)
      by_cases same : other = key
      · subst same
        exact stored.symm.trans found
      · have fails := only other same earlier stored
        rw [List.find?_some first] at fails
        cases fails

theorem isEmpty_iff {m : SortedMap κ ν} : m.isEmpty = true ↔ ∀ key, m.get? key = none := by
  rw [isEmpty, List.isEmpty_iff]
  constructor
  · intro none key
    rw [get?, none, find]
  · intro absent
    apply List.eq_nil_iff_forall_not_mem.2
    intro entry member
    have found := mem_toList_iff.1 (show (entry.1, entry.2) ∈ m.toList from member)
    rw [absent] at found
    cases found

/-- What is found after an erasure was there before, under another key. -/
theorem get?_of_erase {m : SortedMap κ ν} {erased key : κ} {value : ν}
    (found : (m.erase erased).get? key = some value) :
    erased ≠ key ∧ m.get? key = some value := by
  rw [get?_erase] at found
  split at found
  · cases found
  · rename_i different
    exact ⟨different, found⟩

/-- What is found after an entry was stored is that entry, or was there before under another
key. -/
theorem get?_of_insert {m : SortedMap κ ν} {place key : κ} {stored value : ν}
    (found : (m.insert place stored).get? key = some value) :
    (key = place ∧ value = stored) ∨ (key ≠ place ∧ m.get? key = some value) := by
  rw [get?_insert] at found
  split at found
  · rename_i same
    exact .inl ⟨same.symm, (Option.some.inj found).symm⟩
  · rename_i different
    exact .inr ⟨fun same => different same.symm, found⟩

/-- Another entry leaves one as it is. -/
theorem get?_insert_of_ne {m : SortedMap κ ν} {key other : κ} {stored : ν}
    (found : m.get? key = some stored) (apart : key ≠ other) (value : ν) :
    (m.insert other value).get? key = some stored := by
  rw [get?_insert, if_neg apart.symm, found]

theorem contains_insert_of {m : SortedMap κ ν} {key : κ} (present : m.contains key = true)
    (other : κ) (value : ν) : (m.insert other value).contains key = true := by
  rw [contains_insert, present, Bool.or_true]

/-- What holds of every entry and of a new one holds of all that is then there. -/
theorem forall_insert {m : SortedMap κ ν} {good : κ → ν → Prop}
    (earlier : ∀ key value, m.get? key = some value → good key value) {place : κ} {stored : ν}
    (own : good place stored) :
    ∀ key value, (m.insert place stored).get? key = some value → good key value := by
  intro key value found
  rw [get?_insert] at found
  split at found
  · rename_i same
    cases found
    exact same ▸ own
  · exact earlier key value found

theorem forall_erase {m : SortedMap κ ν} {good : κ → ν → Prop}
    (earlier : ∀ key value, m.get? key = some value → good key value) (place : κ) :
    ∀ key value, (m.erase place).get? key = some value → good key value :=
  fun key value found => earlier key value (get?_of_erase found).2

theorem insert_insert (m : SortedMap κ ν) (key : κ) (first last : ν) :
    (m.insert key first).insert key last = m.insert key last := by
  apply ext_get?
  intro other
  by_cases same : key = other <;> simp [same]

/-- Storing what is stored changes nothing. -/
theorem insert_of_get? {m : SortedMap κ ν} {key : κ} {value : ν}
    (found : m.get? key = some value) : m.insert key value = m := by
  apply ext_get?
  intro other
  by_cases same : key = other
  · subst same
    simp [found]
  · simp [same]

theorem mapValues_insert (m : SortedMap κ ν) (change : κ → ν → μ) (key : κ) (value : ν) :
    (m.insert key value).mapValues change = (m.mapValues change).insert key (change key value) := by
  apply ext_get?
  intro other
  by_cases same : key = other
  · subst same
    simp
  · simp [same]

/-- A change that leaves every entry as it is changes nothing. -/
theorem mapValues_eq_self {m : SortedMap κ ν} {change : κ → ν → ν}
    (same : ∀ key value, m.get? key = some value → change key value = value) :
    m.mapValues change = m := by
  apply ext_get?
  intro key
  rw [get?_mapValues]
  cases found : m.get? key with
  | none => rfl
  | some value => exact congrArg some (same key value found)

/-- The last of two entries replaces an earlier one of its key. -/
theorem insert_insert_insert (m : SortedMap κ ν) {key other : κ} (apart : key ≠ other)
    (first last value : ν) :
    ((m.insert key first).insert other value).insert key last =
      (m.insert key last).insert other value := by
  apply ext_get?
  intro place
  by_cases same : key = place
  · subst same
    simp [apart.symm]
  · simp [same]

theorem get?_foldl_insert (m : SortedMap κ ν) (key : κ) (entries : List (κ × ν))
    (absent : key ∉ entries.map (·.1)) :
    (entries.foldl (fun m e => m.insert e.1 e.2) m).get? key = m.get? key := by
  induction entries generalizing m with
  | nil => rfl
  | cons entry rest ih =>
      rw [List.map_cons, List.mem_cons, not_or] at absent
      rw [List.foldl_cons, ih _ absent.2, get?_insert, if_neg (Ne.symm absent.1)]

/-- Entries of distinct keys are all found. -/
theorem get?_ofList_of_mem {entries : List (κ × ν)} {key : κ} {value : ν}
    (distinct : (entries.map (·.1)).Nodup) (member : (key, value) ∈ entries) :
    (ofList entries).get? key = some value := by
  unfold ofList
  generalize (empty : SortedMap κ ν) = m
  induction entries generalizing m with
  | nil => cases member
  | cons entry rest ih =>
      rw [List.map_cons, List.nodup_cons] at distinct
      rw [List.foldl_cons]
      rcases List.mem_cons.1 member with same | later
      · subst same
        rw [get?_foldl_insert _ _ _ distinct.1, get?_insert, if_pos rfl]
      · exact ih distinct.2 later _

/-- What is found after entries were stored is one of them, or was there before. -/
theorem get?_of_foldl_insert {m : SortedMap κ ν} {entries : List (κ × ν)} {key : κ} {value : ν}
    (found : (entries.foldl (fun m e => m.insert e.1 e.2) m).get? key = some value) :
    (key, value) ∈ entries ∨ m.get? key = some value := by
  induction entries generalizing m with
  | nil => exact .inr found
  | cons entry rest ih =>
      rcases ih found with later | here
      · exact .inl (List.mem_cons_of_mem _ later)
      · rcases get?_of_insert here with ⟨rfl, rfl⟩ | ⟨_, earlier⟩
        · exact .inl List.mem_cons_self
        · exact .inr earlier

/-- What is found in a map that is filled with entries is one of them. -/
theorem mem_of_get?_ofList {entries : List (κ × ν)} {key : κ} {value : ν}
    (found : (ofList entries).get? key = some value) : (key, value) ∈ entries := by
  rcases get?_of_foldl_insert found with member | nothing
  · exact member
  · cases (get?_empty key).symm.trans nothing

/-- A map has one entry for each of its keys. -/
theorem nodup_keys {κ ν : Type} [SortKey κ] (m : SortedMap κ ν) : (m.toList.map (·.1)).Nodup :=
  List.pairwise_map.2 (m.sorted.imp SortKey.ne_of_before)

/-- The entries of a map fill the same map in any order. -/
theorem ofList_of_perm {m : SortedMap κ ν} {entries : List (κ × ν)}
    (perm : entries.Perm m.toList) : ofList entries = m := by
  have distinct : (entries.map (·.1)).Nodup := (perm.map (·.1)).nodup_iff.2 m.nodup_keys
  apply ext_get?
  intro key
  cases found : m.get? key with
  | some value => exact get?_ofList_of_mem distinct (perm.symm.subset (mem_toList_iff.2 found))
  | none =>
      cases filled : (ofList entries).get? key with
      | none => rfl
      | some value =>
          have listed := perm.subset (mem_of_get?_ofList filled)
          cases found.symm.trans (mem_toList_iff.1 listed)

/-- A map that is filled with the entries of another one is that one. -/
theorem ofList_toList (m : SortedMap κ ν) : ofList m.toList = m := ofList_of_perm (.refl _)

theorem empty_union (m : SortedMap κ ν) : (∅ : SortedMap κ ν).union m = m := ofList_toList m

/-- An entry of a new key is placed among the others. -/
theorem place_perm {key : κ} (value : ν) {entries : List (κ × ν)}
    (absent : key ∉ entries.map (·.1)) :
    (place key value entries).Perm ((key, value) :: entries) := by
  induction entries with
  | nil => exact .refl _
  | cons entry rest ih =>
      obtain ⟨k, v⟩ := entry
      rw [List.map_cons, List.mem_cons, not_or] at absent
      rw [place, if_neg (Ne.symm absent.1)]
      split
      · exact .refl _
      · exact ((ih absent.2).cons (k, v)).trans (.swap ..)

/-- Entries of new keys are added to those that are there. -/
theorem toList_foldl_insert_perm (m : SortedMap κ ν) {entries : List (κ × ν)}
    (distinct : (m.toList.map (·.1) ++ entries.map (·.1)).Nodup) :
    (entries.foldl (fun m e => m.insert e.1 e.2) m).toList.Perm (m.toList ++ entries) := by
  induction entries generalizing m with
  | nil => simp
  | cons entry rest ih =>
      obtain ⟨key, value⟩ := entry
      have later : (m.toList.map (·.1) ++ key :: rest.map (·.1)).Nodup := distinct
      rw [List.perm_middle.nodup_iff, List.nodup_cons, List.mem_append, not_or] at later
      have placed : (m.insert key value).toList.Perm ((key, value) :: m.toList) :=
        place_perm value later.1.1
      have still : ((m.insert key value).toList.map (·.1) ++ rest.map (·.1)).Nodup := by
        refine (((placed.map (·.1)).append_right _).nodup_iff).2 ?_
        exact List.nodup_cons.2 ⟨by simpa using later.1, later.2⟩
      exact (ih (m.insert key value) still).trans
        ((placed.append_right rest).trans List.perm_middle.symm)

end SortedMap

namespace Azure

/-- A name ends as its last part does. -/
theorem Naming.getLast?_append {first last : String} (present : last ≠ "") :
    (first ++ last).toList.getLast? = last.toList.getLast? := by
  have nonempty : last.toList ≠ [] := fun empty => present (String.toList_inj.1 empty)
  rw [String.toList_append, List.getLast?_append]
  cases ended : last.toList.getLast? with
  | none => exact absurd (List.getLast?_eq_none_iff.1 ended) nonempty
  | some c => rfl

/-- Names with parts that end differently are different. -/
theorem Naming.append_ne {part other : String}
    (apart : part.toList.getLast? ≠ other.toList.getLast?) (present : part ≠ "")
    (also : other ≠ "") (first second : String) : first ++ part ≠ second ++ other := by
  intro same
  have ended := congrArg (fun name => String.toList name |>.getLast?) same
  simp only [getLast?_append present, getLast?_append also] at ended
  exact apart ended

theorem Naming.publicIp_ne_publicIpv6 (first second : String) :
    publicIp first ≠ publicIpv6 second :=
  append_ne (by decide) (by decide) (by decide) first second

/-- The machine's tag wins over whatever tags the user wrote. -/
theorem Naming.hasUid_tags_iff {user : Tags} {uid other : String} :
    hasUid (tags user uid) other = true ↔ uid = other := by
  simp [hasUid, tags]

/-- Tags say of one machine that a resource belongs to it. -/
theorem Naming.uid_unique {tags : Tags} {first second : String} (one : hasUid tags first = true)
    (other : hasUid tags second = true) : first = second := by
  unfold hasUid at one other
  have same := (eq_of_beq one).symm.trans (eq_of_beq other)
  exact Option.some.inj same

namespace Resources

/-- The listing of a group contains what its keys look up. -/
theorem mem_ofGroup_iff {ν : Type} {m : SortedMap ResourceKey ν} {group : String} {value : ν} :
    value ∈ ofGroup m group ↔ ∃ key, key.group = group ∧ m.get? key = some value := by
  rw [ofGroup, SortedMap.mem_values_iff]
  simp only [SortedMap.get?_filter, Option.filter_eq_some_iff, beq_iff_eq]
  exact exists_congr fun key => And.comm

/-- What lies in a group under its own name is among the names that are listed. -/
theorem name_mem_listed {ν : Type} {map : SortedMap ResourceKey ν} {keep : ν → Bool}
    {name : ν → Option String} {key : ResourceKey} {value : ν}
    (found : map.get? key = some value) (named : name value = some key.name)
    (kept : keep value = true) :
    key.name ∈ ((ofGroup map key.group).filter keep).filterMap name :=
  List.mem_filterMap.2
    ⟨value, List.mem_filter.2 ⟨mem_ofGroup_iff.2 ⟨key, rfl, found⟩, kept⟩, named⟩

/-- A name that is listed is that of something in the group. -/
theorem exists_of_mem_listed {ν : Type} {map : SortedMap ResourceKey ν} {keep : ν → Bool}
    {label : ν → Option String} {group name : String}
    (member : name ∈ ((ofGroup map group).filter keep).filterMap label) :
    ∃ key value, key.group = group ∧ map.get? key = some value ∧ keep value = true ∧
      label value = some name := by
  obtain ⟨value, kept, labelled⟩ := List.mem_filterMap.1 member
  obtain ⟨listed, keeps⟩ := List.mem_filter.1 kept
  obtain ⟨key, inside, stored⟩ := mem_ofGroup_iff.1 listed
  exact ⟨key, value, inside, stored, keeps, labelled⟩

/-- Where everything is stored under its own name, what is listed is what is stored. -/
theorem mem_listed_iff {ν : Type} {map : SortedMap ResourceKey ν} {keep : ν → Bool}
    {label : ν → Option String} {group name : String}
    (named : ∀ key value, map.get? key = some value → label value = some key.name) :
    name ∈ ((ofGroup map group).filter keep).filterMap label ↔
      ∃ value, map.get? ⟨group, name⟩ = some value ∧ keep value = true := by
  constructor
  · intro member
    obtain ⟨⟨place, own⟩, value, inside, stored, keeps, labelled⟩ := exists_of_mem_listed member
    cases inside
    cases (named _ value stored).symm.trans labelled
    exact ⟨value, stored, keeps⟩
  · rintro ⟨value, stored, keeps⟩
    exact name_mem_listed stored (named _ value stored) keeps

theorem isEmpty_iff {r : Resources} : r.isEmpty = true ↔
    (∀ key, r.publicIps.get? key = none) ∧ (∀ key, r.nics.get? key = none) ∧
      (∀ key, r.vms.get? key = none) ∧ ∀ key, r.disks.get? key = none := by
  simp only [isEmpty, Bool.and_eq_true, SortedMap.isEmpty_iff, and_assoc]

end Resources

end Azure

end Provisioning
