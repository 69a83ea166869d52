import Mathlib.Data.List.Perm.Basic
import Provisioning.Json.Parser
import Provisioning.Proofs.Records

/-!
Codecs that read back what they write, with the members of objects in any arrangement. A lawful
codec does so for every value; a stable one does for every value that it reads. Both laws are
proved once for each way to build a codec, so that the law of a structure follows from those of its
fields.
-/

namespace Provisioning

open Provisioning.Text
open Json (Arrangement)

variable {α β σ τ : Type} {depth : Nat}

namespace Codec

/-- Reading what was written for a value gives the value back. -/
def Returns (order : Arrangement) (c : Codec α) (value : α) : Prop :=
  c.decode (order.apply (c.encode value)) = .ok value

/-- Every value returns, none is written as null, and what is written is plain to a depth. -/
structure Lawful (c : Codec α) (depth : Nat) : Prop where
  returns : ∀ order value, c.Returns order value
  present : ∀ value, c.encode value ≠ .null
  plain : ∀ value, (c.encode value).Plain depth

/-- Every value that was read from something in an arrangement returns in that arrangement. -/
def Stable (c : Codec α) : Prop :=
  ∀ order found value, order.apply found = found → c.decode found = .ok value →
    c.Returns order value

theorem Lawful.stable {c : Codec α} (lawful : c.Lawful Json.depthLimit) : c.Stable :=
  fun order _ value _ _ => lawful.returns order value

theorem json_stable : Codec.json.Stable := by
  intro order found value settled read
  cases read
  unfold Returns json
  rw [settled]

theorem string_lawful : Codec.string.Lawful depth where
  returns order value := by
    unfold Returns string
    rw [order.string]
  present _ := nofun
  plain := Json.plain_string depth

theorem bool_lawful : Codec.bool.Lawful depth where
  returns order value := by
    unfold Returns bool
    rw [order.bool]
  present _ := nofun
  plain := Json.plain_bool depth

theorem int32_lawful : Codec.int32.Lawful depth where
  returns order value := by
    have least := value.le_toInt
    have most := value.toInt_lt
    unfold Returns int32 Json.int
    rw [order.number]
    have fits : -2147483648 ≤ value.toInt ∧ value.toInt ≤ 2147483647 := by omega
    simp only [if_pos fits, Int32.ofInt_toInt]
  present _ := nofun
  plain value := by
    have least := value.le_toInt
    have most := value.toInt_lt
    have signed : (Integer.greatestSigned : Int) = 9223372036854775807 := rfl
    have unsigned : (Integer.greatestUnsigned : Int) = 18446744073709551615 := rfl
    apply Json.plain_int.2
    unfold Json.IsWord
    omega

theorem names_lawful {table : List (String × α)} {name : α → String}
    (found : ∀ value, (table.find? fun entry => entry.1 == name value).map (·.2) = some value) :
    (Codec.names table name).Lawful depth where
  returns order value := by
    obtain ⟨entry, listed, rfl⟩ := Option.map_eq_some_iff.1 (found value)
    unfold Returns names
    rw [order.string]
    simp only [listed]
  present _ := nofun
  plain value := Json.plain_string depth (name value)

theorem decodeList_map {c : Codec α} {order : Arrangement} {values : List α}
    (returns : ∀ value ∈ values, c.Returns order value) :
    decodeList c.decode ((values.map c.encode).map order.apply) = .ok values := by
  induction values with
  | nil => rfl
  | cons value rest ih =>
      have first : c.decode (order.apply (c.encode value)) = .ok value :=
        returns value List.mem_cons_self
      have others := ih fun later member => returns later (List.mem_cons_of_mem _ member)
      simp only [List.map_cons, decodeList, first, others, ok_bind]

theorem list_lawful {c : Codec α} (lawful : c.Lawful depth) :
    (Codec.list c).Lawful (depth + 1) where
  returns order values := by
    unfold Returns list
    rw [order.array]
    exact decodeList_map fun value _ => lawful.returns order value
  present _ := nofun
  plain values := by
    intro item member
    obtain ⟨value, _, rfl⟩ := List.mem_map.1 member
    exact lawful.plain value

/-- Entries are read one by one. -/
theorem decodeEntries_of_forall₂ {decode : Json → Except DecodeError α}
    {members : List (String × Json)} {entries : List (String × α)}
    (each : List.Forall₂ (fun m e => m.1 = e.1 ∧ decode m.2 = .ok e.2) members entries) :
    decodeEntries decode members = .ok entries := by
  induction each with
  | nil => rfl
  | @cons m e _ _ here _ ih =>
      obtain ⟨name, value⟩ := m
      obtain ⟨same, read⟩ := here
      subst same
      simp only [decodeEntries, read, ih, ok_bind]

theorem map_lawful {c : Codec α} (lawful : c.Lawful depth) :
    (Codec.map c).Lawful (depth + 1) where
  returns order entries := by
    let written := entries.toList.map fun e => (e.1, c.encode e.2)
    obtain ⟨moved, arranged, _, perm⟩ := order.object written
    have distinct : (written.map (·.1)).Nodup := by
      rw [List.map_map]
      exact entries.nodup_keys
    have each : List.Forall₂ (fun (m : String × Json) e => m.1 = e.1 ∧ c.decode m.2 = .ok e.2)
        (written.map fun m => (m.1, order.apply m.2)) entries.toList := by
      rw [List.map_map, List.forall₂_map_left_iff, List.forall₂_same]
      intro entry _
      exact ⟨rfl, lawful.returns order entry.2⟩
    obtain ⟨read, each, same⟩ := List.perm_comp_forall₂ (perm distinct) each
    change (Codec.map c).decode (order.apply (.object written)) = .ok entries
    rw [arranged]
    simp only [Codec.map, decodeEntries_of_forall₂ each, ok_map, SortedMap.ofList_of_perm same]
  present _ := nofun
  plain entries := by
    intro member listed
    obtain ⟨entry, _, rfl⟩ := List.mem_map.1 listed
    exact lawful.plain entry.2

theorem nullable_returns {c : Codec α} {order : Arrangement} {value : Option α}
    (present : ∀ v ∈ value, c.encode v ≠ .null) (returns : ∀ v ∈ value, c.Returns order v) :
    c.nullable.Returns order value := by
  cases value with
  | none =>
      change c.nullable.decode (order.apply .null) = .ok none
      rw [order.null]
      rfl
  | some v =>
      have read : c.decode (order.apply (c.encode v)) = .ok v := returns v rfl
      have there := order.apply_ne_null (present v rfl)
      change c.nullable.decode (order.apply (c.encode v)) = .ok (some v)
      unfold nullable
      simp only [read, ok_map]

/-- A value that was read where null stands for an absent one was not read from null. -/
theorem of_decode_nullable {c : Codec α} {found : Json} {value : Option α}
    (read : c.nullable.decode found = .ok value) : ∀ v ∈ value, found ≠ .null ∧
      c.decode found = .ok v := by
  intro v member
  cases member
  unfold nullable at read
  simp only at read
  split at read
  next => cases read
  next other =>
    obtain ⟨v', decoded, same⟩ := map_eq_ok.1 read
    cases same
    exact ⟨other, decoded⟩

end Codec

namespace Field

/-- Every value returns, and what is written is plain to a depth. -/
structure Lawful (depth : Nat) (f : Field α) : Prop where
  returns : ∀ order value, f.Returns order value
  plain : ∀ value, ∀ written ∈ f.encode value, written.Plain depth

theorem Lawful.stable {f : Field α} (lawful : f.Lawful Json.depthLimit) : f.Stable :=
  ⟨fun order _ value _ _ => lawful.returns order value, fun order value _ =>
    lawful.returns order value, fun order value _ => lawful.returns order value⟩

variable {c : Codec α} {name : String}

theorem required_lawful (lawful : c.Lawful depth) : (Field.required name c).Lawful depth where
  returns := lawful.returns
  plain value written member := by
    cases member
    exact lawful.plain value

theorem required_stable (stable : c.Stable) : (Field.required name c).Stable where
  read := stable
  member _ _ absent := nomatch absent
  item _ _ absent := nomatch absent

theorem defaulted_lawful (lawful : c.Lawful depth) (default : α) :
    (Field.defaulted name c default).Lawful depth where
  returns := lawful.returns
  plain value written member := by
    cases member
    exact lawful.plain value

theorem defaulted_stable (stable : c.Stable) {default : α}
    (returns : ∀ order, c.Returns order default) : (Field.defaulted name c default).Stable where
  read := stable
  member order value absent := by
    cases absent
    exact returns order
  item order value absent := by
    cases absent
    exact returns order

/-- A field that is written only if it is not empty; only the default is empty. -/
theorem sparse_lawful (lawful : c.Lawful depth) {default : α} {isEmpty : α → Bool}
    (only : ∀ value, isEmpty value = true → value = default) :
    (Field.sparse name c default isEmpty).Lawful depth where
  returns order value := by
    unfold Returns sparse
    simp only
    split
    next written given =>
      split at given
      · cases given
      · cases given
        exact lawful.returns order value
    next given =>
      split at given
      next empty => rw [only value empty]
      next => cases given
  plain value written member := by
    unfold sparse at member
    simp only at member
    split at member
    · cases member
    · cases member
      exact lawful.plain value

theorem optional_returns {order : Arrangement} {value : Option α}
    (present : ∀ v ∈ value, c.encode v ≠ .null) (returns : ∀ v ∈ value, c.Returns order v) :
    (Field.optional name c).Returns order value := by
  cases value with
  | none => rfl
  | some v => exact Codec.nullable_returns present returns

theorem optional_lawful (lawful : c.Lawful depth) : (Field.optional name c).Lawful depth where
  returns order value := optional_returns (fun v _ => lawful.present v) fun v _ =>
    lawful.returns order v
  plain value written member := by
    obtain ⟨v, _, rfl⟩ := Option.map_eq_some_iff.1 member
    exact lawful.plain v

theorem optional_stable (stable : c.Stable) (present : ∀ value, c.encode value ≠ .null) :
    (Field.optional name c).Stable where
  read order found value settled read := optional_returns (fun v _ => present v) fun v member =>
    stable order found v settled (Codec.of_decode_nullable read v member).2
  member _ _ absent := by
    cases absent
    rfl
  item _ _ absent := by
    cases absent
    rfl

theorem nullable_lawful (lawful : c.Lawful depth) : (Field.nullable name c).Lawful depth where
  returns order value := Codec.nullable_returns (fun v _ => lawful.present v) fun v _ =>
    lawful.returns order v
  plain value written member := by
    cases member
    cases value with
    | none => exact Json.plain_null depth
    | some v => exact lawful.plain v

end Field

namespace Record

variable {r : Record τ} {title : String} {split : σ → τ} {join : τ → σ}

theorem Each.returns {r : Record τ} (each : Each (Field.Lawful depth) r) (order : Arrangement)
    (values : τ) : r.Returns order values := by
  induction each with
  | nil => trivial
  | cons lawful _ ih => exact ⟨lawful.returns order values.1, ih values.2⟩

theorem Each.plain {r : Record τ} (each : Each (Field.Lawful depth) r) (values : τ) :
    ∀ m ∈ r.toMembers values, m.2.Plain depth := by
  induction each with
  | nil => exact nofun
  | cons lawful _ ih =>
      obtain ⟨value, others⟩ := values
      intro m member
      rw [toMembers] at member
      split at member
      next written encoded =>
        rcases List.mem_cons.1 member with rfl | later
        · exact lawful.plain value written encoded
        · exact ih others m later
      next => exact ih others m member

/-- The codec of a structure is lawful if its fields are, be it strict or not. -/
theorem lawful_of_each {c : Codec σ} (strict : Bool)
    (codec : c = ⟨fun value => .object (r.toMembers (split value)),
      fun found => (r.decode title strict found).map join⟩)
    (names : r.names.Nodup) (same : ∀ value, join (split value) = value)
    (each : Each (Field.Lawful depth) r) : c.Lawful (depth + 1) := by
  subst codec
  refine ⟨?_, fun _ => nofun, fun value => each.plain (split value)⟩
  intro order value
  unfold Codec.Returns
  simp only [decode_toMembers names (each.returns order _), ok_map, same]

theorem codec_lawful (names : r.names.Nodup) (same : ∀ value, join (split value) = value)
    (each : Each (Field.Lawful depth) r) :
    (Record.codec title r split join).Lawful (depth + 1) :=
  lawful_of_each false rfl names same each

theorem strictCodec_lawful (names : r.names.Nodup) (same : ∀ value, join (split value) = value)
    (each : Each (Field.Lawful depth) r) :
    (Record.strictCodec title r split join).Lawful (depth + 1) :=
  lawful_of_each true rfl names same each

theorem codec_stable (names : r.names.Nodup) (same : ∀ values, split (join values) = values)
    (each : Each Field.Stable r) : (Record.codec title r split join).Stable := by
  intro order found value settled read
  obtain ⟨values, decoded, rfl⟩ := map_eq_ok.1 read
  have returns := each.returns_of_decode settled decoded
  unfold Codec.Returns codec
  simp only [same, decode_toMembers names returns, ok_map]

end Record

end Provisioning
