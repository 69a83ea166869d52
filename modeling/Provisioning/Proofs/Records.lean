import Provisioning.Json.Decode
import Provisioning.Proofs.Arrangement
import Provisioning.Proofs.Outcomes

/-!
How records are read. A value of a field returns if reading what was written for it gives it back,
and so does a default where nothing was written. Main statements: `Record.decode_toMembers`, which
says that a record whose values return is read back from its members in any arrangement, and
`Record.Each.returns_of_decode`, which says that the values of a record that was read return if
every field reads only values that do.
-/

namespace Provisioning

open Json (Arrangement)

section Members

variable {name : String} {known : List String} {members : List (String × Json)} {value : Json}

theorem placeOf?_eq_none (absent : name ∉ members.map (·.1)) (start : Nat) :
    placeOf? name start members = none := by
  induction members generalizing start with
  | nil => rfl
  | cons member rest ih =>
      rw [List.map_cons, List.mem_cons, not_or] at absent
      rw [placeOf?, if_neg (Ne.symm absent.1), ih absent.2]

theorem locate?_eq_none (absent : name ∉ members.map (·.1)) (start : Nat) :
    locate? name start members = none := by
  induction members generalizing start with
  | nil => rfl
  | cons member rest ih =>
      rw [List.map_cons, List.mem_cons, not_or] at absent
      rw [locate?, if_neg (Ne.symm absent.1), ih absent.2]

/-- Among members of distinct names, each is the only one of its name. -/
theorem locate?_of_mem (distinct : (members.map (·.1)).Nodup) (member : (name, value) ∈ members)
    (start : Nat) : ∃ place, locate? name start members = some ⟨place, value, none⟩ := by
  induction members generalizing start with
  | nil => cases member
  | cons first rest ih =>
      rw [List.map_cons, List.nodup_cons] at distinct
      rcases List.mem_cons.1 member with rfl | later
      · refine ⟨start, ?_⟩
        rw [locate?, if_pos rfl, placeOf?_eq_none distinct.1]
      · have other : first.1 ≠ name := fun same =>
          distinct.1 (List.mem_map.2 ⟨_, later, same.symm⟩)
        rw [locate?, if_neg other]
        exact ih distinct.2 later (start + 1)

theorem mem_of_locate? {start : Nat} {located : Located}
    (found : locate? name start members = some located) : (name, located.value) ∈ members := by
  induction members generalizing start with
  | nil => cases found
  | cons first rest ih =>
      by_cases same : first.1 = name
      · rw [locate?, if_pos same] at found
        cases found
        subst same
        exact List.mem_cons_self
      · rw [locate?, if_neg same] at found
        exact List.mem_cons_of_mem _ (ih found)

theorem stranger?_eq_none (familiar : ∀ m ∈ members, m.1 ∈ known) (start : Nat) :
    stranger? known start members = none := by
  induction members generalizing start with
  | nil => rfl
  | cons member rest ih =>
      rw [stranger?, if_pos (List.contains_iff_mem.2 (familiar member List.mem_cons_self))]
      exact ih (fun m later => familiar m (List.mem_cons_of_mem _ later)) (start + 1)

theorem Placed.both_eq_ok {α β : Type} {first : Placed α} {second : Placed β} {a : α} {b : β} :
    first.both second = .ok (a, b) ↔ first = .ok a ∧ second = .ok b := by
  cases first <;> cases second <;> simp [Placed.both]

end Members

variable {α τ : Type}

namespace Field

/-- Reading what was written for a value gives the value back; if nothing was written, the default
does. -/
def Returns (order : Arrangement) (f : Field α) (value : α) : Prop :=
  match f.encode value with
  | some written => f.decode (order.apply written) = .ok value
  | none => f.absentMember = some value

variable {order : Arrangement} {f : Field α} {value : α} {members : List (String × Json)}

theorem fromMembers_of_mem {written : Json} (distinct : (members.map (·.1)).Nodup)
    (member : (f.name, written) ∈ members) (read : f.decode written = .ok value) :
    f.fromMembers members = .ok value := by
  obtain ⟨place, located⟩ := locate?_of_mem distinct member 0
  simp only [fromMembers, located, read]

theorem fromMembers_of_absent (absent : f.name ∉ members.map (·.1))
    (default : f.absentMember = some value) : f.fromMembers members = .ok value := by
  simp only [fromMembers, locate?_eq_none absent, default]

/-- A field is read from the first member of its name, or it is its default. -/
theorem located_of_fromMembers_eq_ok (read : f.fromMembers members = .ok value) :
    (∃ located, locate? f.name 0 members = some located ∧ f.decode located.value = .ok value) ∨
      f.absentMember = some value := by
  unfold fromMembers at read
  split at read
  next missing =>
    split at read
    next default absent =>
      cases read
      exact .inr absent
    next => cases read
  next located found =>
    split at read
    next => cases read
    next other decoded =>
      split at read
      next => cases read
      next =>
        cases read
        exact .inl ⟨located, found, decoded⟩

/-- A field is read from a member of its name, or it is its default. -/
theorem of_fromMembers_eq_ok (read : f.fromMembers members = .ok value) :
    (∃ written, (f.name, written) ∈ members ∧ f.decode written = .ok value) ∨
      f.absentMember = some value := by
  rcases located_of_fromMembers_eq_ok read with ⟨located, found, decoded⟩ | absent
  · exact .inl ⟨located.value, mem_of_locate? found, decoded⟩
  · exact .inr absent

end Field

namespace Record

/-- The values of all fields return. -/
def Returns (order : Arrangement) : {τ : Type} → Record τ → τ → Prop
  | _, .nil, _ => True
  | _, .cons field rest, (value, others) =>
      field.Returns order value ∧ rest.Returns order others

variable {order : Arrangement}

/-- Members are written in the order of the fields. -/
theorem toMembers_sublist (r : Record τ) (values : τ) :
    ((r.toMembers values).map (·.1)).Sublist r.names := by
  induction r with
  | nil => exact .refl _
  | cons field rest ih =>
      obtain ⟨value, others⟩ := values
      rw [toMembers, names]
      split
      next => exact (ih others).cons_cons field.name
      next => exact (ih others).cons field.name

/-- A record is read from members that are, for the names of its fields, those that were written. -/
theorem fromMembers_of_agree {r : Record τ} {values : τ} {members : List (String × Json)}
    (distinct : (members.map (·.1)).Nodup) (names : r.names.Nodup)
    (returns : r.Returns order values)
    (agree : ∀ name ∈ r.names, ∀ value, (name, value) ∈ members ↔
      (name, value) ∈ (r.toMembers values).map fun m => (m.1, order.apply m.2)) :
    r.fromMembers members = .ok values := by
  induction r with
  | nil => rfl
  | cons field rest ih =>
      obtain ⟨value, others⟩ := values
      obtain ⟨here, there⟩ := returns
      obtain ⟨fresh, further⟩ := List.nodup_cons.1 names
      have unwritten (written : Json) : (field.name, written) ∉
          (rest.toMembers others).map fun m => (m.1, order.apply m.2) := by
        intro member
        apply fresh
        apply (rest.toMembers_sublist others).subset
        simpa using List.mem_map_of_mem (f := (·.1)) member
      have own := agree field.name List.mem_cons_self
      have apart (name : String) (member : name ∈ rest.names) : name ≠ field.name := by
        intro same
        exact fresh (same ▸ member)
      rw [fromMembers, Placed.both_eq_ok]
      unfold Field.Returns at here
      rw [toMembers] at agree own
      split at here
      next written encoded =>
        simp only [encoded, List.map_cons] at agree own
        constructor
        · exact Field.fromMembers_of_mem distinct ((own _).2 List.mem_cons_self) here
        · apply ih further there
          intro name member value
          rw [agree name (List.mem_cons_of_mem _ member), List.mem_cons]
          simp [apart name member]
      next encoded =>
        simp only [encoded] at agree own
        constructor
        · apply Field.fromMembers_of_absent _ here
          intro member
          obtain ⟨m, listed, same⟩ := List.mem_map.1 member
          exact unwritten m.2 ((own m.2).1 (same ▸ listed))
        · apply ih further there
          intro name member
          exact agree name (List.mem_cons_of_mem _ member)

/-- A record whose values return is written as members from which, in any arrangement, it is read
back, also if it is strict. -/
theorem exists_moved {r : Record τ} {values : τ} (names : r.names.Nodup)
    (returns : r.Returns order values) :
    ∃ moved, order.apply (.object (r.toMembers values)) = .object moved ∧
      ∀ title strict, r.decode title strict (.object moved) = .ok values := by
  have written : ((r.toMembers values).map (·.1)).Nodup := (r.toMembers_sublist values).nodup names
  obtain ⟨moved, arranged, _, perm⟩ := order.object (r.toMembers values)
  have same := perm written
  have keys : (moved.map (·.1)).Perm ((r.toMembers values).map (·.1)) := by
    have mapped := same.map (·.1)
    rw [List.map_map] at mapped
    exact mapped
  have read : r.fromMembers moved = .ok values :=
    fromMembers_of_agree (keys.nodup_iff.2 written) names returns fun _ _ _ => same.mem_iff
  have familiar : stranger? r.names 0 moved = none := by
    apply stranger?_eq_none
    intro m member
    exact (r.toMembers_sublist values).subset (keys.subset (List.mem_map_of_mem member))
  refine ⟨moved, arranged, fun title strict => ?_⟩
  simp only [decode, familiar, read, ite_self, Placed.both]

theorem decode_toMembers {r : Record τ} {values : τ} (names : r.names.Nodup)
    (returns : r.Returns order values) (title : String) (strict : Bool) :
    r.decode title strict (order.apply (.object (r.toMembers values))) = .ok values := by
  obtain ⟨moved, arranged, read⟩ := exists_moved names returns
  rw [arranged, read]

/-- Every field of a record has a property. -/
inductive Each (law : ∀ {α : Type}, Field α → Prop) : {τ : Type} → Record τ → Prop
  | nil : Each law .nil
  | cons {α τ : Type} {field : Field α} {rest : Record τ} :
      law field → Each law rest → Each law (.cons field rest)

end Record

/-- Whatever a field reads returns, and so does its default. -/
structure Field.Stable (f : Field α) : Prop where
  read : ∀ order found value, order.apply found = found → f.decode found = .ok value →
    f.Returns order value
  member : ∀ order value, f.absentMember = some value → f.Returns order value
  item : ∀ order value, f.absentItem = some value → f.Returns order value

namespace Record

variable {order : Arrangement} {r : Record τ} {values : τ}

theorem Each.returns_of_fromMembers (each : Each Field.Stable r) {members : List (String × Json)}
    (settled : ∀ m ∈ members, order.apply m.2 = m.2) (read : r.fromMembers members = .ok values) :
    r.Returns order values := by
  induction each with
  | nil => trivial
  | cons stable _ ih =>
      obtain ⟨value, others⟩ := values
      obtain ⟨here, there⟩ := Placed.both_eq_ok.1 read
      refine ⟨?_, ih there⟩
      rcases Field.of_fromMembers_eq_ok here with ⟨written, member, decoded⟩ | absent
      · exact stable.read order written value (settled _ member) decoded
      · exact stable.member order value absent

theorem Each.returns_of_fromItems (each : Each Field.Stable r) {place : Nat} {short : String}
    {items left : List Json} (settled : ∀ item ∈ items, order.apply item = item)
    (read : r.fromItems place short items = .ok (values, left)) : r.Returns order values := by
  induction each generalizing place items left with
  | nil => trivial
  | cons stable _ ih =>
      obtain ⟨value, others⟩ := values
      cases items with
      | nil =>
          rw [fromItems] at read
          split at read
          next first default =>
            rw [ok_bind, bind_eq_ok] at read
            obtain ⟨⟨second, rest⟩, further, same⟩ := read
            cases same
            exact ⟨stable.item order value default, ih settled further⟩
          next => cases read
      | cons item items =>
          rw [fromItems] at read
          obtain ⟨first, decoded, read⟩ := bind_eq_ok.1 read
          obtain ⟨⟨second, rest⟩, further, same⟩ := bind_eq_ok.1 read
          cases same
          have later : ∀ other ∈ items, order.apply other = other := fun other member =>
            settled other (List.mem_cons_of_mem _ member)
          refine ⟨?_, ih later further⟩
          exact stable.read order item value (settled item List.mem_cons_self) decoded

/-- The values of a record that was read, from an object or from a list, return. -/
theorem Each.returns_of_decode (each : Each Field.Stable r) {title : String} {strict : Bool}
    {found : Json} (settled : order.apply found = found)
    (read : r.decode title strict found = .ok values) : r.Returns order values := by
  unfold decode at read
  split at read
  next members =>
    simp only at read
    split at read
    next nothing fields all =>
      cases read
      exact each.returns_of_fromMembers (Arrangement.apply_member settled)
        (Placed.both_eq_ok.1 all).2
    next => cases read
  next items =>
    obtain ⟨⟨values, left⟩, listed, read⟩ := bind_eq_ok.1 read
    simp only at read
    split at read
    next =>
      cases read
      exact each.returns_of_fromItems (Arrangement.apply_item settled) listed
    next => cases read
  next => cases read

end Record

end Provisioning
