import Provisioning.Azure.Settings
import Provisioning.Envelope
import Provisioning.Instance
import Provisioning.Proofs.Codecs
import Provisioning.Proofs.ResourceCodecs

/-!
Configurations and records as they are written. What was read from an accepted text is read back
from what is then written for it, be it read from a bare value, an object or a list. Variables and
the provider's section are read back whatever they hold; an address family or a section that the
envelope keeps as it is may be read as another value, but what was read is not. Main statement:
`specs_settle`.
-/

namespace Provisioning

open Provisioning.Codec Provisioning.Field
open Json (Arrangement)

variable {depth : Nat}

theorem KeyRef.codec_lawful : KeyRef.codec.Lawful (depth + 1) :=
  Record.codec_lawful (by decide) (fun _ => rfl)
    (.cons (required_lawful string_lawful) <|
      .cons (required_lawful string_lawful) <|
      .cons (required_lawful string_lawful) .nil)

/-! ### Variables -/

theorem StringVar.record_lawful : StringVar.record.Each (Field.Lawful (depth + 1)) :=
  .cons (sparse_lawful string_lawful fun _ => String.isEmpty_iff.1) <|
    .cons (optional_lawful KeyRef.codec_lawful) <|
    .cons (optional_lawful KeyRef.codec_lawful) <|
    .cons (optional_lawful string_lawful) .nil

/-- A variable is written as an object, which is not taken for a text. -/
theorem StringVar.codec_lawful : StringVar.codec.Lawful (depth + 2) where
  returns order v := by
    have each : record.Each (Field.Lawful (depth + 1)) := record_lawful
    obtain ⟨moved, arranged, read⟩ := Record.exists_moved (by decide) (each.returns order
      (v.value, v.secretKeyRef, v.configMapKeyRef, v.envVar, ()))
    unfold Codec.Returns codec
    simp only [arranged, read]
    rfl
  present _ := nofun
  plain _ := record_lawful.plain _

theorem BoolVar.record_lawful : BoolVar.record.Each (Field.Lawful (depth + 1)) :=
  .cons (optional_lawful bool_lawful) <|
    .cons (optional_lawful KeyRef.codec_lawful) <|
    .cons (optional_lawful KeyRef.codec_lawful) .nil

/-- A variable is written as an object, which is not taken for a truth value. -/
theorem BoolVar.codec_lawful : BoolVar.codec.Lawful (depth + 2) where
  returns order v := by
    have each : record.Each (Field.Lawful (depth + 1)) := record_lawful
    obtain ⟨moved, arranged, read⟩ := Record.exists_moved (by decide) (each.returns order
      (v.value, v.secretKeyRef, v.configMapKeyRef, ()))
    unfold Codec.Returns codec
    simp only [arranged, read]
    rfl
  present _ := nofun
  plain _ := record_lawful.plain _

/-! ### Envelopes -/

theorem OperatingSystem.codec_lawful : OperatingSystem.codec.Lawful depth :=
  names_lawful fun os => by cases os <;> rfl

/-- A family that a text was read as has a text of its own that names it again. -/
theorem IpFamily.ofText_text_ofText (name : String) : ofText (ofText name).text = ofText name := by
  by_cases nameless : name = ""
  · rw [nameless]
    rfl
  by_cases four : name = "IPv4"
  · rw [four]
    rfl
  by_cases six : name = "IPv6"
  · rw [six]
    rfl
  by_cases both : name = "IPv4+IPv6"
  · rw [both]
    rfl
  have unknown : ofText name = .unknown name := by
    rw [ofText, if_neg nameless, if_neg four, if_neg six, if_neg both]
  rw [unknown]
  exact unknown

theorem IpFamily.codec_stable : IpFamily.codec.Stable := by
  intro order found family _ read
  obtain ⟨name, _, rfl⟩ := map_eq_ok.1 read
  unfold Codec.Returns codec via
  simp only [string, order.string, ok_map, ofText_text_ofText]

theorem IpFamily.unspecified_returns (order : Arrangement) :
    codec.Returns order unspecified := by
  unfold Codec.Returns codec via
  simp only [string, order.string]
  rfl

theorem DnsConfig.codec_lawful : DnsConfig.codec.Lawful (depth + 2) :=
  Record.codec_lawful (by decide) (fun _ => rfl)
    (.cons (defaulted_lawful (list_lawful string_lawful) []) .nil)

theorem NetworkConfig.codec_stable : NetworkConfig.codec.Stable :=
  Record.codec_stable (by decide) (fun _ => rfl)
    (.cons (defaulted_lawful StringVar.codec_lawful .unset).stable <|
      .cons (defaulted_lawful StringVar.codec_lawful .unset).stable <|
      .cons (defaulted_lawful DnsConfig.codec_lawful .empty).stable <|
      .cons (defaulted_stable IpFamily.codec_stable IpFamily.unspecified_returns) .nil)

/-- A section is kept as it is, also if it is null. -/
theorem section_stable (name : String) : (Field.defaulted name .json .null).Stable :=
  defaulted_stable json_stable fun order => by
    unfold Codec.Returns json
    rw [order.null]

theorem Envelope.codec_stable : Envelope.codec.Stable :=
  Record.codec_stable (by decide) (fun _ => rfl)
    (.cons (required_lawful string_lawful).stable <|
      .cons (section_stable _) <|
      .cons (required_lawful OperatingSystem.codec_lawful).stable <|
      .cons (section_stable _) <|
      .cons (optional_stable NetworkConfig.codec_stable fun _ => nofun) <|
      .cons (defaulted_lawful (list_lawful string_lawful) []).stable .nil)

/-! ### Records of machines and instances -/

/-- What a machine's configuration holds is kept as it is; null stands for none and is not held. -/
theorem ProviderSpec.codec_stable : ProviderSpec.codec.Stable := by
  apply Record.codec_stable (by decide) (fun _ => rfl)
  refine .cons ⟨?_, ?_, nofun⟩ .nil
  · intro order found value settled read
    apply nullable_returns
    · intro held member
      obtain ⟨other, same⟩ := of_decode_nullable read held member
      cases same
      exact other
    · intro held member
      exact json_stable order found held settled (of_decode_nullable read held member).2
  · intro order value absent
    cases absent
    exact nullable_returns nofun nofun

theorem Machine.codec_stable : Machine.codec.Stable :=
  Record.codec_stable (by decide) (fun _ => rfl)
    (.cons (required_lawful string_lawful).stable <|
      .cons (required_lawful string_lawful).stable <|
      .cons (required_stable ProviderSpec.codec_stable) <|
      .cons (defaulted_lawful (list_lawful string_lawful) []).stable .nil)

theorem InstanceStatus.codec_lawful : InstanceStatus.codec.Lawful depth :=
  names_lawful fun status => by cases status <;> rfl

theorem AddressClass.codec_lawful : AddressClass.codec.Lawful depth :=
  names_lawful fun cls => by cases cls <;> rfl

theorem Instance.codec_lawful : Instance.codec.Lawful (depth + 2) :=
  Record.codec_lawful (by decide) (fun _ => rfl)
    (.cons (required_lawful string_lawful) <|
      .cons (required_lawful string_lawful) <|
      .cons (required_lawful (map_lawful AddressClass.codec_lawful)) <|
      .cons (required_lawful InstanceStatus.codec_lawful) .nil)

namespace Azure

/-! ### The provider's section -/

theorem ImagePlan.codec_lawful : ImagePlan.codec.Lawful (depth + 1) :=
  Record.codec_lawful (by decide) (fun _ => rfl)
    (.cons (defaulted_lawful string_lawful "") <|
      .cons (defaulted_lawful string_lawful "") <|
      .cons (defaulted_lawful string_lawful "") .nil)

theorem ImageCoordinates.codec_lawful : ImageCoordinates.codec.Lawful (depth + 1) :=
  Record.codec_lawful (by decide) (fun _ => rfl)
    (.cons (defaulted_lawful string_lawful "") <|
      .cons (defaulted_lawful string_lawful "") <|
      .cons (defaulted_lawful string_lawful "") <|
      .cons (defaulted_lawful string_lawful "") .nil)

theorem Settings.variableField_lawful (name : String) :
    (variableField name).Lawful (depth + 2) :=
  defaulted_lawful StringVar.codec_lawful .unset

theorem Settings.codec_lawful : Settings.codec.Lawful (depth + 3) :=
  Record.strictCodec_lawful (by decide) (fun _ => rfl)
    (.cons (variableField_lawful _) <|
      .cons (variableField_lawful _) <|
      .cons (variableField_lawful _) <|
      .cons (variableField_lawful _) <|
      .cons (variableField_lawful _) <|
      .cons (variableField_lawful _) <|
      .cons (variableField_lawful _) <|
      .cons (variableField_lawful _) <|
      .cons (variableField_lawful _) <|
      .cons (variableField_lawful _) <|
      .cons (variableField_lawful _) <|
      .cons (variableField_lawful _) <|
      .cons (variableField_lawful _) <|
      .cons (optional_lawful bool_lawful) <|
      .cons (variableField_lawful _) <|
      .cons (variableField_lawful _) <|
      .cons (optional_lawful ImagePlan.codec_lawful) <|
      .cons (optional_lawful ImageCoordinates.codec_lawful) <|
      .cons (defaulted_lawful (list_lawful string_lawful) []) <|
      .cons tagsField_lawful <|
      .cons (defaulted_lawful int32_lawful 0) <|
      .cons (textField_lawful _) <|
      .cons (defaulted_lawful int32_lawful 0) <|
      .cons (textField_lawful _) <|
      .cons (defaulted_lawful BoolVar.codec_lawful .unset) .nil)

end Azure

/-- What was read from anything that is accepted is read back from what is then written for it; if
the members of what was read were sorted, they may be so in what is written. -/
structure Codec.Settles {α : Type} (c : Codec α) : Prop where
  written : ∀ found value, c.decode found = .ok value → c.decode (c.encode value) = .ok value
  sorted : ∀ found value, found.canonical = found → c.decode found = .ok value →
    c.decode (c.encode value).canonical = .ok value

theorem Codec.Stable.settles {α : Type} {c : Codec α} (stable : c.Stable) : c.Settles where
  written found value := stable .written found value rfl
  sorted := stable .sorted

open Azure (Settings)

/-- Whatever is accepted as part of a specification, what was read is read back from what is
written for it. Variables and the provider's section, in which no strange member is accepted, are
read back whatever they hold, with their members in any order. -/
theorem specs_settle :
    (KeyRef.codec.Settles ∧ StringVar.codec.Settles ∧ BoolVar.codec.Settles ∧
      NetworkConfig.codec.Settles ∧ Envelope.codec.Settles ∧ ProviderSpec.codec.Settles ∧
      Machine.codec.Settles ∧ Instance.codec.Settles ∧ Settings.codec.Settles) ∧
    ∀ order : Arrangement,
      (∀ v, StringVar.codec.decode (order.apply (StringVar.codec.encode v)) = .ok v) ∧
      (∀ v, BoolVar.codec.decode (order.apply (BoolVar.codec.encode v)) = .ok v) ∧
      ∀ s, Settings.ofJson (order.apply (Settings.codec.encode s)) = .ok s := by
  constructor
  · refine ⟨?_, ?_, ?_, ?_, ?_, ?_, ?_, ?_, ?_⟩
    · exact KeyRef.codec_lawful.stable.settles
    · exact StringVar.codec_lawful.stable.settles
    · exact BoolVar.codec_lawful.stable.settles
    · exact NetworkConfig.codec_stable.settles
    · exact Envelope.codec_stable.settles
    · exact ProviderSpec.codec_stable.settles
    · exact Machine.codec_stable.settles
    · exact Instance.codec_lawful.stable.settles
    · exact Settings.codec_lawful.stable.settles
  · intro order
    have texts : StringVar.codec.Lawful Json.depthLimit := StringVar.codec_lawful
    have truths : BoolVar.codec.Lawful Json.depthLimit := BoolVar.codec_lawful
    have sections : Settings.codec.Lawful Json.depthLimit := Settings.codec_lawful
    refine ⟨texts.returns order, truths.returns order, ?_⟩
    intro s
    have returns : Settings.codec.decode (order.apply (Settings.codec.encode s)) = .ok s :=
      sections.returns order s
    rw [Settings.ofJson, returns]

/-- A network that is read from a list with a bare text, a list for a key, a strange member and an
address family that is not known is read back. -/
theorem specs_settle_network :
    let found : Json := .array [.string "10.0.0.0/8",
      .object [("secretKeyRef", .array [.string "machines", .string "network", .string "gateway"])],
      .object [("zone", .null), ("servers", .strings ["10.0.0.1"])], .string "IPv5"]
    let network : NetworkConfig :=
      ⟨.literal "10.0.0.0/8", .secret ⟨"machines", "network", "gateway"⟩, ⟨["10.0.0.1"]⟩,
        .unknown "IPv5"⟩
    NetworkConfig.codec.decode found = .ok network ∧
      NetworkConfig.codec.decode (NetworkConfig.codec.encode network) = .ok network := by
  intro found network
  have read : NetworkConfig.codec.decode found = .ok network := rfl
  exact ⟨read, specs_settle.1.2.2.2.1.written found network read⟩

end Provisioning
