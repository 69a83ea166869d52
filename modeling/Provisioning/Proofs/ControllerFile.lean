import Provisioning.Azure.Provider.Inspect
import Provisioning.Proofs.Codecs
import Provisioning.Proofs.Spelling

/-!
The configuration file of the cloud controller. Main statement: `ControllerConfig.decode_render`,
that the text of a file is read back as what was written, whatever its fields hold.
-/

namespace Provisioning.Azure

open Provisioning.Codec Provisioning.Field
open Json (Arrangement)

namespace ControllerConfig

variable {depth : Nat} {sources : Sources} {spec : ProviderSpec} {file : CloudConfig}

/-- The fields have distinct names, and each is always written and reads back. -/
theorem codec_lawful : codec.Lawful (depth + 1) := by
  have text (name : String) : (Field.required name .string).Lawful depth :=
    required_lawful string_lawful
  exact Record.codec_lawful (by decide) (fun _ => rfl)
    (.cons (text _) <| .cons (text _) <| .cons (text _) <| .cons (text _) <| .cons (text _) <|
      .cons (text _) <| .cons (text _) <| .cons (text _) <| .cons (text _) <| .cons (text _) <|
      .cons (text _) <| .cons (text _) <| .cons (text _) <| .cons (required_lawful bool_lawful) <|
      .cons (text _) .nil)

theorem parse?_render (c : ControllerConfig) : Json.parse? c.render = some (codec.encode c) :=
  Json.parse?_pretty (codec_lawful.plain c)

theorem returns_encode (order : Arrangement) (c : ControllerConfig) :
    codec.decode (order.apply (codec.encode c)) = .ok c := by
  have lawful : codec.Lawful 1 := codec_lawful
  exact lawful.returns order c

/-- The text of a file, with its members in any arrangement, is read as what was written, so files
of the same text are the same. -/
theorem decode_render (c : ControllerConfig) :
    (∃ value, Json.parse? c.render = some value ∧
      ∀ order : Arrangement, codec.decode (order.apply value) = .ok c) ∧
    ∀ d : ControllerConfig, d.render = c.render ↔ d = c := by
  refine ⟨⟨_, parse?_render c, fun order => returns_encode order c⟩, fun d => ⟨?_, congrArg _⟩⟩
  intro same
  have written : codec.encode d = codec.encode c :=
    Option.some.inj ((parse?_render d).symm.trans (same ▸ parse?_render c))
  have read := returns_encode .written d
  rw [written, returns_encode] at read
  exact (Except.ok.inj read).symm

/-- What the provider writes for a cluster is read as the configuration of that cluster. -/
theorem decode_cloudConfig (written : cloudConfig sources spec = .ok file) :
    ∃ c e value, Config.resolve sources spec = .ok (c, e) ∧ Json.parse? file.text = some value ∧
      codec.decode value = .ok (ofConfig c) := by
  obtain ⟨⟨c, e⟩, resolved, rendered⟩ := bind_eq_ok.1 written
  cases rendered
  exact ⟨c, e, codec.encode (ofConfig c), mapError_eq_ok.1 resolved, parse?_render _,
    returns_encode .written _⟩

end ControllerConfig

end Provisioning.Azure
