import Mathlib.Data.List.Induction
import Provisioning.Proofs.Records
import Provisioning.Proofs.Resolution
import Provisioning.Registry

/-!
Which provider a configuration selects. The tag of the provider is read in two ways: as a field of
the whole envelope, which may be written as an object or as a list of its fields, and by itself, as
a member of an object. Main statement: `selects_iff_object`, that both ways agree exactly on
objects, where the provider registered last under the tag is selected.
-/

namespace Provisioning

variable {π : Type}

/-! ### Registered providers -/

/-- A provider was registered last under a name. -/
def RegisteredLast (entries : List (String × π)) (name : String) (provider : π) : Prop :=
  ∃ earlier later, entries = earlier ++ (name, provider) :: later ∧ name ∉ later.map (·.1)

section Entries

variable {entries : List (String × π)} {entry : String × π} {name : String} {provider : π}

theorem registeredLast_snoc : RegisteredLast (entries ++ [entry]) name provider ↔
    entry = (name, provider) ∨ (entry.1 ≠ name ∧ RegisteredLast entries name provider) := by
  constructor
  · rintro ⟨earlier, later, same, absent⟩
    rcases List.eq_nil_or_concat later with rfl | ⟨later, last, rfl⟩
    · have ends := (List.append_inj' same rfl).2
      exact .inl (List.singleton_inj.1 ends)
    · have split : entries ++ [entry] = (earlier ++ (name, provider) :: later) ++ [last] := by
        simpa using same
      obtain ⟨rfl, ends⟩ := List.append_inj' split rfl
      cases List.singleton_inj.1 ends
      rw [List.concat_eq_append, List.map_append, List.mem_append, not_or] at absent
      refine .inr ⟨fun other => absent.2 ?_, earlier, later, rfl, absent.1⟩
      exact List.mem_singleton.2 other.symm
  · rintro (rfl | ⟨other, earlier, later, rfl, absent⟩)
    · exact ⟨entries, [], rfl, nofun⟩
    · refine ⟨earlier, later ++ [entry], by simp, ?_⟩
      rw [List.map_append, List.mem_append, not_or]
      exact ⟨absent, fun last => other (List.mem_singleton.1 last).symm⟩

theorem RegisteredLast.mem (registered : RegisteredLast entries name provider) :
    name ∈ entries.map (·.1) := by
  obtain ⟨earlier, later, rfl, _⟩ := registered
  exact List.mem_map.2 ⟨_, List.mem_append_right _ List.mem_cons_self, rfl⟩

/-- Of what was registered under a name, something was registered last. -/
theorem exists_registeredLast (member : name ∈ entries.map (·.1)) :
    ∃ provider, RegisteredLast entries name provider := by
  induction entries using List.reverseRecOn with
  | nil => cases member
  | append_singleton entries entry ih =>
      simp only [registeredLast_snoc]
      by_cases same : entry.1 = name
      · exact ⟨entry.2, .inl (by rw [← same])⟩
      · rw [List.map_append, List.mem_append] at member
        rcases member with earlier | last
        · obtain ⟨provider, registered⟩ := ih earlier
          exact ⟨provider, .inr ⟨same, registered⟩⟩
        · exact absurd (List.mem_singleton.1 last).symm same

end Entries

namespace Registry

/-- The registry after providers were registered one after the other. -/
def ofEntries (entries : List (String × π)) : Registry π :=
  entries.foldl (fun r e => r.register e.1 e.2) empty

variable {entries : List (String × π)} {name : String}

theorem ofEntries_snoc (entry : String × π) :
    ofEntries (entries ++ [entry]) = (ofEntries entries).register entry.1 entry.2 := by
  rw [ofEntries, List.foldl_append]
  rfl

/-- A name looks up the provider that was registered last under it. -/
theorem get?_ofEntries {provider : π} : (ofEntries entries).providers.get? name = some provider ↔
    RegisteredLast entries name provider := by
  induction entries using List.reverseRecOn with
  | nil =>
      refine iff_of_false nofun ?_
      rintro ⟨earlier, later, same, _⟩
      exact List.append_ne_nil_of_right_ne_nil _ (List.cons_ne_nil _ _) same.symm
  | append_singleton entries entry ih =>
      obtain ⟨own, registered⟩ := entry
      rw [ofEntries_snoc, register, SortedMap.get?_insert, registeredLast_snoc, ← ih, Prod.mk.injEq]
      by_cases same : own = name
      · simp [same]
      · simp [same]

theorem mem_names : name ∈ (ofEntries entries).names ↔ name ∈ entries.map (·.1) := by
  constructor
  · intro member
    obtain ⟨⟨_, provider⟩, listed, rfl⟩ := List.mem_map.1 member
    exact (get?_ofEntries.1 (SortedMap.mem_toList_iff.1 listed)).mem
  · intro member
    obtain ⟨provider, registered⟩ := exists_registeredLast member
    have listed := SortedMap.mem_toList_iff.2 (get?_ofEntries.2 registered)
    exact List.mem_map_of_mem (f := (·.1)) listed

/-- The names are listed once each, in increasing order. -/
theorem sorted_names (r : Registry π) : r.names.Pairwise (· < ·) :=
  List.pairwise_map.2 (r.providers.sorted.imp of_decide_eq_true)

theorem get_of_registeredLast {provider : π} (registered : RegisteredLast entries name provider) :
    (ofEntries entries).get name = .ok provider := by
  rw [get, get?_ofEntries.2 registered]

theorem get_of_unregistered (unknown : name ∉ entries.map (·.1)) :
    (ofEntries entries).get name = .error (.providerNotFound name) := by
  have absent : (ofEntries entries).providers.get? name = none := by
    rw [Option.eq_none_iff_forall_ne_some]
    exact fun provider found => unknown (get?_ofEntries.1 found).mem
  rw [get, absent]

/-- A configuration selects the provider that was registered last under a tag, if there is one. -/
structure Selects (entries : List (String × π)) (spec : ProviderSpec) (tag : String) : Prop where
  registered : ∀ provider, RegisteredLast entries tag provider →
    (ofEntries entries).forSpec spec = .ok provider
  unknown : tag ∉ entries.map (·.1) →
    (ofEntries entries).forSpec spec = .error (.providerNotFound tag)

theorem selects_of_providerTag {spec : ProviderSpec} {tag : String}
    (read : Envelope.providerTag spec = .ok tag) : Selects entries spec tag where
  registered provider last := by
    rw [forSpec, read, ok_bind]
    exact get_of_registeredLast last
  unknown absent := by
    rw [forSpec, read, ok_bind]
    exact get_of_unregistered absent

end Registry

/-! ### Tags -/

/-- The first member of a name is the one that the name looks up. -/
theorem Json.get?_object (name : String) (members : List (String × Json)) (start : Nat) :
    (Json.object members).get? name = (locate? name start members).map (·.value) := by
  induction members generalizing start with
  | nil => rfl
  | cons member rest ih =>
      rw [Json.get?, List.find?_cons, locate?]
      by_cases same : member.1 = name
      · rw [if_pos same, beq_iff_eq.2 same]
        rfl
      · rw [if_neg same, beq_eq_false_iff_ne.2 same]
        exact ih (start + 1)

theorem Codec.string_eq_ok {found : Json} {value : String} :
    Codec.string.decode found = .ok value ↔ found = .string value := by
  cases found <;> simp [Codec.string]

namespace Record

variable {α τ : Type} {field : Field α} {rest : Record τ} {title : String} {strict : Bool}
  {values : α × τ}

/-- The first field of a record is read from the members of an object. -/
theorem head_of_decode_object {members : List (String × Json)}
    (read : (cons field rest).decode title strict (.object members) = .ok values) :
    field.fromMembers members = .ok values.1 := by
  simp only [decode] at read
  split at read
  next nothing fields all =>
    cases read
    exact (Placed.both_eq_ok.1 (Placed.both_eq_ok.1 all).2).1
  next => cases read

/-- A first field without a default is read from the first item of a list. -/
theorem head_of_decode_array {items : List Json} (needed : field.absentItem = none)
    (read : (cons field rest).decode title strict (.array items) = .ok values) :
    ∃ item others, items = item :: others ∧ field.decode item = .ok values.1 := by
  obtain ⟨⟨fields, left⟩, listed, read⟩ := bind_eq_ok.1 read
  have same : fields = values := by
    simp only at read
    split at read
    next =>
      cases read
      rfl
    next => cases read
  subst same
  cases items with
  | nil =>
      rw [fromItems, needed] at listed
      cases listed
  | cons item others =>
      rw [fromItems] at listed
      obtain ⟨first, decoded, listed⟩ := bind_eq_ok.1 listed
      obtain ⟨second, _, same⟩ := bind_eq_ok.1 listed
      cases same
      exact ⟨item, others, rfl, decoded⟩

end Record

namespace Envelope

variable {spec : ProviderSpec} {e : Envelope}

/-- An envelope is read from an object by the first member of the tag's name. -/
theorem get?_of_decode {members : List (String × Json)}
    (decoded : codec.decode (.object members) = .ok e) :
    (Json.object members).get? "cloudProvider" = some (.string e.cloudProvider) := by
  obtain ⟨values, read, rfl⟩ := map_eq_ok.1 decoded
  have tag := Record.head_of_decode_object read
  rcases Field.located_of_fromMembers_eq_ok tag with ⟨located, found, text⟩ | absent
  · have first : locate? "cloudProvider" 0 members = some located := found
    have written : located.value = .string values.1 := Codec.string_eq_ok.1 text
    rw [Json.get?_object _ _ 0, first, Option.map_some, written]
  · cases absent

theorem exists_items_of_decode {items : List Json}
    (decoded : codec.decode (.array items) = .ok e) :
    ∃ others, items = .string e.cloudProvider :: others := by
  obtain ⟨values, read, rfl⟩ := map_eq_ok.1 decoded
  obtain ⟨item, others, rfl, text⟩ := Record.head_of_decode_array rfl read
  exact ⟨others, by rw [← Codec.string_eq_ok.1 text]⟩

end Envelope

namespace ProviderSpec

/-- The configuration is written as an object. -/
def IsObject (spec : ProviderSpec) : Prop := ∃ members, spec.value = some (.object members)

/-- The configuration is written as a list that begins with the tag. -/
def Lists (spec : ProviderSpec) (tag : String) : Prop :=
  ∃ others, spec.value = some (.array (.string tag :: others))

variable {spec : ProviderSpec} {e : Envelope}

theorem providerTag_of_isObject (parsed : Envelope.ofSpec spec = .ok e) (object : spec.IsObject) :
    Envelope.providerTag spec = .ok e.cloudProvider := by
  obtain ⟨members, written⟩ := object
  obtain ⟨⟨value, same, decoded⟩, _⟩ := Azure.ofSpec_eq_ok.1 parsed
  cases written.symm.trans same
  simp only [Envelope.providerTag, written, Option.bind_some, Envelope.get?_of_decode decoded,
    Json.asString?]

/-- What is read as an envelope and is no object is a list of the fields. -/
theorem lists_of_not_isObject (parsed : Envelope.ofSpec spec = .ok e) (other : ¬spec.IsObject) :
    spec.Lists e.cloudProvider := by
  obtain ⟨⟨value, written, decoded⟩, _⟩ := Azure.ofSpec_eq_ok.1 parsed
  cases value with
  | object members => exact absurd ⟨members, written⟩ other
  | array items =>
      obtain ⟨others, rfl⟩ := Envelope.exists_items_of_decode decoded
      exact ⟨others, written⟩
  | null | bool | number | string => cases decoded

/-- A tag is read by itself from an object alone. -/
theorem providerTag_of_lists {tag : String} (listed : spec.Lists tag) :
    Envelope.providerTag spec = .error (.invalidConfig "cloudProvider is missing") := by
  obtain ⟨others, written⟩ := listed
  rw [Envelope.providerTag, written]
  rfl

end ProviderSpec

/-- The names of a registry are those under which something was registered, in increasing order. A
configuration that can be read as an envelope selects by the tag of the envelope if it is an object:
then the provider that was registered last under the tag is found. If it is a list of the fields,
its tag is not found. -/
theorem selects_iff_object (entries : List (String × π)) :
    (Registry.ofEntries entries).names.Pairwise (· < ·) ∧
    (∀ name, name ∈ (Registry.ofEntries entries).names ↔ name ∈ entries.map (·.1)) ∧
    ∀ spec e, Envelope.ofSpec spec = .ok e →
      (spec.IsObject → Envelope.providerTag spec = .ok e.cloudProvider ∧
        Registry.Selects entries spec e.cloudProvider) ∧
      (¬spec.IsObject → spec.Lists e.cloudProvider ∧
        Envelope.providerTag spec = .error (.invalidConfig "cloudProvider is missing") ∧
        (Registry.ofEntries entries).forSpec spec =
          .error (.invalidConfig "cloudProvider is missing")) := by
  refine ⟨Registry.sorted_names _, fun name => Registry.mem_names, fun spec e parsed => ⟨?_, ?_⟩⟩
  · intro object
    have read := ProviderSpec.providerTag_of_isObject parsed object
    exact ⟨read, Registry.selects_of_providerTag read⟩
  · intro other
    have listed := ProviderSpec.lists_of_not_isObject parsed other
    have missing := ProviderSpec.providerTag_of_lists listed
    refine ⟨listed, missing, ?_⟩
    rw [Registry.forSpec, missing]
    rfl

namespace ProviderSpec

/-- A configuration as a list of the fields. -/
def asList : ProviderSpec :=
  ⟨some (.array [.string "azure", .object [], .string "ubuntu", .object []])⟩

/-- A configuration as an object, with a strange member. -/
def asObject : ProviderSpec :=
  ⟨some (.object [("cloudProvider", .string "azure"), ("operatingSystem", .string "ubuntu"),
    ("operatingSystemSpec", .object []), ("region", .null)])⟩

end ProviderSpec

open ProviderSpec (asList asObject)

/-- Of two providers of one name the last one is selected. -/
theorem selects_iff_object_renewed :
    let entries := [("azure", 1), ("hetzner", 2), ("azure", 3)]
    let e : Envelope := ⟨"azure", .null, .ubuntu, .object [], none, []⟩
    Envelope.ofSpec asObject = .ok e ∧ asObject.IsObject ∧
      (Registry.ofEntries entries).forSpec asObject = .ok 3 := by
  intro entries e
  have parsed : Envelope.ofSpec asObject = .ok e := rfl
  have object : asObject.IsObject := ⟨_, rfl⟩
  have last : RegisteredLast entries e.cloudProvider 3 :=
    ⟨[("azure", 1), ("hetzner", 2)], [], rfl, nofun⟩
  have agrees := ((selects_iff_object entries).2.2 asObject e parsed).1 object
  exact ⟨parsed, object, agrees.2.registered 3 last⟩

/-- A list of the fields is read as an envelope, and the provider of its tag is not found. -/
theorem exists_unselected : ¬∀ (entries : List (String × Nat)) spec e,
    Envelope.ofSpec spec = .ok e → Envelope.providerTag spec = .ok e.cloudProvider ∧
      Registry.Selects entries spec e.cloudProvider := by
  intro agrees
  have selects := (agrees [("azure", 1)] asList _ rfl).2.registered 1 ⟨[], [], rfl, nofun⟩
  cases selects

end Provisioning
