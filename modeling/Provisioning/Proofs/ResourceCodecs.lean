import Provisioning.Azure.Resource.Compute
import Provisioning.Azure.Resource.Network
import Provisioning.Azure.Resource.Sku
import Provisioning.Azure.Rest.Message
import Provisioning.Proofs.Codecs
import Provisioning.Proofs.Spelling
import Provisioning.Proofs.Utf8

/-!
Resources as they stand in requests and answers. Every codec is lawful because its fields are, at
the depth to which its parts are nested. Main statement: `resources_restored`, by which a resource
is read back from what was written for it, also from the body of an answer.
-/

namespace Provisioning.Azure

open Provisioning.Codec Provisioning.Field
open Provisioning.Text
open Json (Arrangement)

variable {depth : Nat}

theorem tagsField_lawful : tagsField.Lawful (depth + 1) :=
  defaulted_lawful (map_lawful string_lawful) ∅

theorem textField_lawful (name : String) : (textField name).Lawful depth :=
  optional_lawful string_lawful

theorem SubResource.codec_lawful : SubResource.codec.Lawful (depth + 1) :=
  Record.codec_lawful (by decide) (fun _ => rfl) (.cons (textField_lawful _) .nil)

/-! ### Networks -/

theorem AddressTier.codec_lawful : AddressTier.codec.Lawful (depth + 1) :=
  Record.codec_lawful (by decide) (fun _ => rfl) (.cons (required_lawful string_lawful) .nil)

theorem PublicIpProperties.codec_lawful : PublicIpProperties.codec.Lawful (depth + 1) :=
  Record.codec_lawful (by decide) (fun _ => rfl)
    (.cons (textField_lawful _) <|
      .cons (textField_lawful _) <|
      .cons (textField_lawful _) <|
      .cons (textField_lawful _) .nil)

theorem PublicIpAddress.codec_lawful : PublicIpAddress.codec.Lawful (depth + 2) :=
  Record.codec_lawful (by decide) (fun _ => rfl)
    (.cons (textField_lawful _) <|
      .cons (textField_lawful _) <|
      .cons (textField_lawful _) <|
      .cons tagsField_lawful <|
      .cons (optional_lawful AddressTier.codec_lawful) <|
      .cons (defaulted_lawful PublicIpProperties.codec_lawful .empty) .nil)

theorem IpConfigurationProperties.codec_lawful :
    IpConfigurationProperties.codec.Lawful (depth + 2) :=
  Record.codec_lawful (by decide) (fun _ => rfl)
    (.cons (optional_lawful SubResource.codec_lawful) <|
      .cons (textField_lawful _) <|
      .cons (textField_lawful _) <|
      .cons (textField_lawful _) <|
      .cons (optional_lawful SubResource.codec_lawful) <|
      .cons (optional_lawful bool_lawful) .nil)

theorem IpConfiguration.codec_lawful : IpConfiguration.codec.Lawful (depth + 3) :=
  Record.codec_lawful (by decide) (fun _ => rfl)
    (.cons (textField_lawful _) <|
      .cons (textField_lawful _) <|
      .cons (defaulted_lawful IpConfigurationProperties.codec_lawful .empty) .nil)

theorem NetworkInterfaceProperties.codec_lawful :
    NetworkInterfaceProperties.codec.Lawful (depth + 5) :=
  Record.codec_lawful (by decide) (fun _ => rfl)
    (.cons (defaulted_lawful (list_lawful IpConfiguration.codec_lawful) []) <|
      .cons (optional_lawful SubResource.codec_lawful) <|
      .cons (textField_lawful _) .nil)

theorem NetworkInterface.codec_lawful : NetworkInterface.codec.Lawful (depth + 6) :=
  Record.codec_lawful (by decide) (fun _ => rfl)
    (.cons (textField_lawful _) <|
      .cons (textField_lawful _) <|
      .cons (textField_lawful _) <|
      .cons tagsField_lawful <|
      .cons (defaulted_lawful NetworkInterfaceProperties.codec_lawful .empty) .nil)

theorem VirtualNetwork.codec_lawful : VirtualNetwork.codec.Lawful (depth + 1) :=
  Record.codec_lawful (by decide) (fun _ => rfl)
    (.cons (nullable_lawful string_lawful) <| .cons (nullable_lawful string_lawful) .nil)

theorem Subnet.codec_lawful : Subnet.codec.Lawful (depth + 1) :=
  Record.codec_lawful (by decide) (fun _ => rfl)
    (.cons (nullable_lawful string_lawful) <| .cons (nullable_lawful string_lawful) .nil)

/-! ### Virtual machines -/

theorem Plan.codec_lawful : Plan.codec.Lawful (depth + 1) :=
  Record.codec_lawful (by decide) (fun _ => rfl)
    (.cons (required_lawful string_lawful) <|
      .cons (required_lawful string_lawful) <|
      .cons (required_lawful string_lawful) .nil)

theorem HardwareProfile.codec_lawful : HardwareProfile.codec.Lawful (depth + 1) :=
  Record.codec_lawful (by decide) (fun _ => rfl) (.cons (required_lawful string_lawful) .nil)

theorem ImageReference.codec_lawful : ImageReference.codec.Lawful (depth + 1) :=
  Record.codec_lawful (by decide) (fun _ => rfl)
    (.cons (textField_lawful _) <|
      .cons (textField_lawful _) <|
      .cons (textField_lawful _) <|
      .cons (textField_lawful _) <|
      .cons (textField_lawful _) .nil)

theorem ManagedDiskParameters.codec_lawful : ManagedDiskParameters.codec.Lawful (depth + 1) :=
  Record.codec_lawful (by decide) (fun _ => rfl) (.cons (required_lawful string_lawful) .nil)

theorem OsDisk.codec_lawful : OsDisk.codec.Lawful (depth + 2) :=
  Record.codec_lawful (by decide) (fun _ => rfl)
    (.cons (required_lawful string_lawful) <|
      .cons (optional_lawful int32_lawful) <|
      .cons (optional_lawful ManagedDiskParameters.codec_lawful) .nil)

theorem DataDisk.codec_lawful : DataDisk.codec.Lawful (depth + 2) :=
  Record.codec_lawful (by decide) (fun _ => rfl)
    (.cons (required_lawful int32_lawful) <|
      .cons (required_lawful string_lawful) <|
      .cons (optional_lawful int32_lawful) <|
      .cons (optional_lawful ManagedDiskParameters.codec_lawful) .nil)

theorem StorageProfile.codec_lawful : StorageProfile.codec.Lawful (depth + 4) :=
  Record.codec_lawful (by decide) (fun _ => rfl)
    (.cons (optional_lawful ImageReference.codec_lawful) <|
      .cons (optional_lawful OsDisk.codec_lawful) <|
      .cons (sparse_lawful (list_lawful DataDisk.codec_lawful) fun _ => List.isEmpty_iff.1) .nil)

theorem SshPublicKey.codec_lawful : SshPublicKey.codec.Lawful (depth + 1) :=
  Record.codec_lawful (by decide) (fun _ => rfl)
    (.cons (required_lawful string_lawful) <| .cons (required_lawful string_lawful) .nil)

theorem SshConfiguration.codec_lawful : SshConfiguration.codec.Lawful (depth + 3) :=
  Record.codec_lawful (by decide) (fun _ => rfl)
    (.cons (defaulted_lawful (list_lawful SshPublicKey.codec_lawful) []) .nil)

theorem LinuxConfiguration.codec_lawful : LinuxConfiguration.codec.Lawful (depth + 4) :=
  Record.codec_lawful (by decide) (fun _ => rfl)
    (.cons (required_lawful bool_lawful) <|
      .cons (required_lawful SshConfiguration.codec_lawful) .nil)

theorem OsProfile.codec_lawful : OsProfile.codec.Lawful (depth + 5) :=
  Record.codec_lawful (by decide) (fun _ => rfl)
    (.cons (required_lawful string_lawful) <|
      .cons (required_lawful string_lawful) <|
      .cons (textField_lawful _) <|
      .cons (optional_lawful LinuxConfiguration.codec_lawful) .nil)

theorem InterfaceReferenceProperties.codec_lawful :
    InterfaceReferenceProperties.codec.Lawful (depth + 1) :=
  Record.codec_lawful (by decide) (fun _ => rfl)
    (.cons (defaulted_lawful bool_lawful false) .nil)

theorem InterfaceReference.codec_lawful : InterfaceReference.codec.Lawful (depth + 2) :=
  Record.codec_lawful (by decide) (fun _ => rfl)
    (.cons (textField_lawful _) <|
      .cons (optional_lawful InterfaceReferenceProperties.codec_lawful) .nil)

theorem NetworkProfile.codec_lawful : NetworkProfile.codec.Lawful (depth + 4) :=
  Record.codec_lawful (by decide) (fun _ => rfl)
    (.cons (defaulted_lawful (list_lawful InterfaceReference.codec_lawful) []) .nil)

theorem VirtualMachineProperties.codec_lawful :
    VirtualMachineProperties.codec.Lawful (depth + 6) :=
  Record.codec_lawful (by decide) (fun _ => rfl)
    (.cons (optional_lawful HardwareProfile.codec_lawful) <|
      .cons (optional_lawful StorageProfile.codec_lawful) <|
      .cons (optional_lawful OsProfile.codec_lawful) <|
      .cons (optional_lawful NetworkProfile.codec_lawful) <|
      .cons (optional_lawful SubResource.codec_lawful) <|
      .cons (textField_lawful _) <|
      .cons (textField_lawful _) .nil)

theorem VirtualMachine.codec_lawful : VirtualMachine.codec.Lawful (depth + 7) :=
  Record.codec_lawful (by decide) (fun _ => rfl)
    (.cons (textField_lawful _) <|
      .cons (textField_lawful _) <|
      .cons (textField_lawful _) <|
      .cons tagsField_lawful <|
      .cons (optional_lawful Plan.codec_lawful) <|
      .cons (sparse_lawful (list_lawful string_lawful) fun _ => List.isEmpty_iff.1) <|
      .cons (defaulted_lawful VirtualMachineProperties.codec_lawful .empty) .nil)

theorem ViewStatus.codec_lawful : ViewStatus.codec.Lawful (depth + 1) :=
  Record.codec_lawful (by decide) (fun _ => rfl)
    (.cons (textField_lawful _) <|
      .cons (textField_lawful _) <|
      .cons (textField_lawful _) .nil)

theorem InstanceView.codec_lawful : InstanceView.codec.Lawful (depth + 3) :=
  Record.codec_lawful (by decide) (fun _ => rfl)
    (.cons (optional_lawful (list_lawful ViewStatus.codec_lawful)) .nil)

theorem Disk.codec_lawful : Disk.codec.Lawful (depth + 2) :=
  Record.codec_lawful (by decide) (fun _ => rfl)
    (.cons (textField_lawful _) <|
      .cons (textField_lawful _) <|
      .cons (textField_lawful _) <|
      .cons tagsField_lawful <|
      .cons (textField_lawful _) .nil)

/-! ### Sizes -/

theorem Capability.codec_lawful : Capability.codec.Lawful (depth + 1) :=
  Record.codec_lawful (by decide) (fun _ => rfl)
    (.cons (required_lawful string_lawful) <| .cons (required_lawful string_lawful) .nil)

theorem ZoneDetails.codec_lawful : ZoneDetails.codec.Lawful (depth + 3) :=
  Record.codec_lawful (by decide) (fun _ => rfl)
    (.cons (defaulted_lawful (list_lawful string_lawful) []) <|
      .cons (defaulted_lawful (list_lawful Capability.codec_lawful) []) .nil)

theorem LocationInfo.codec_lawful : LocationInfo.codec.Lawful (depth + 5) :=
  Record.codec_lawful (by decide) (fun _ => rfl)
    (.cons (nullable_lawful string_lawful) <|
      .cons (defaulted_lawful (list_lawful string_lawful) []) <|
      .cons (defaulted_lawful (list_lawful ZoneDetails.codec_lawful) []) .nil)

theorem ResourceSku.codec_lawful : ResourceSku.codec.Lawful (depth + 7) :=
  Record.codec_lawful (by decide) (fun _ => rfl)
    (.cons (optional_lawful string_lawful) <|
      .cons (optional_lawful string_lawful) <|
      .cons (defaulted_lawful (list_lawful string_lawful) []) <|
      .cons (defaulted_lawful (list_lawful LocationInfo.codec_lawful) []) <|
      .cons (optional_lawful (list_lawful Capability.codec_lawful)) .nil)

/-! ### Requests and answers -/

/-- A value is read back from what was written for it, the members of objects in any order: as
JSON, and as the body of an answer. -/
structure Rest.Restored {α : Type} (c : Codec α) : Prop where
  value : ∀ (order : Arrangement) (x : α), c.decode (order.apply (c.encode x)) = .ok x
  body : ∀ (order : Arrangement) (x : α) (r : Rest.Response),
    r.body = Utf8.encode (order.apply (c.encode x)).render → r.decode? .strict c = some x

theorem Rest.Reader.strict_read? {α : Type} (codec : Codec α) (body : List UInt8) :
    Reader.strict.read? codec body = (Utf8.text? body).bind fun text =>
      (Json.parse? text).bind fun value => (codec.decode value).toOption := rfl

/-- A body that is text is read as what the text is parsed to. -/
theorem Rest.Reader.strict_encode {α : Type} {text : String} {written : Json}
    (parsed : Json.parse? text = some written) (codec : Codec α) :
    Reader.strict.read? codec (Utf8.encode text) = (codec.decode written).toOption := by
  rw [strict_read?, Utf8.text?_eq_some.2 rfl, Option.bind_some, parsed, Option.bind_some]

/-- A lawful codec that nests no deeper than texts may restores its values. -/
theorem Rest.restored_of_lawful {α : Type} {c : Codec α} (lawful : c.Lawful Json.depthLimit) :
    Restored c where
  value := lawful.returns
  body order x r same := by
    have returns : c.decode (order.apply (c.encode x)) = .ok x := lawful.returns order x
    have parsed := Json.parse?_render (order.plain_apply (lawful.plain x))
    rw [Rest.Response.decode?, same, Rest.Reader.strict_encode parsed, returns]
    rfl

open Rest (Restored restored_of_lawful)

/-- Whatever a resource holds, it is read back from what was written for it, also if this was the
body of an answer. -/
theorem resources_restored :
    Restored PublicIpAddress.codec ∧ Restored NetworkInterface.codec ∧
      Restored VirtualMachine.codec ∧ Restored StorageProfile.codec ∧ Restored OsProfile.codec ∧
      Restored InstanceView.codec ∧ Restored Disk.codec ∧ Restored VirtualNetwork.codec ∧
      Restored Subnet.codec ∧ Restored ResourceSku.codec ∧ Restored SubResource.codec := by
  refine ⟨?_, ?_, ?_, ?_, ?_, ?_, ?_, ?_, ?_, ?_, ?_⟩
  · exact restored_of_lawful PublicIpAddress.codec_lawful
  · exact restored_of_lawful NetworkInterface.codec_lawful
  · exact restored_of_lawful VirtualMachine.codec_lawful
  · exact restored_of_lawful StorageProfile.codec_lawful
  · exact restored_of_lawful OsProfile.codec_lawful
  · exact restored_of_lawful InstanceView.codec_lawful
  · exact restored_of_lawful Disk.codec_lawful
  · exact restored_of_lawful VirtualNetwork.codec_lawful
  · exact restored_of_lawful Subnet.codec_lawful
  · exact restored_of_lawful ResourceSku.codec_lawful
  · exact restored_of_lawful SubResource.codec_lawful

/-- A disk with a quote in its name and a tag is read from an answer whose members are sorted. -/
theorem resources_restored_disk :
    let disk : Disk := ⟨none, some "worker \"1\"", some "westeurope",
      SortedMap.ofList [("team", "infra")], none⟩
    let answer : Rest.Response := ⟨200, [], Utf8.encode (Disk.codec.encode disk).canonical.render⟩
    answer.body = Utf8.encode (Arrangement.sorted.apply (Disk.codec.encode disk)).render ∧
      answer.decode? .strict Disk.codec = some disk := by
  intro disk answer
  have sorted (written : Json) : written.canonical = Arrangement.sorted.apply written := rfl
  have body : answer.body =
      Utf8.encode (Arrangement.sorted.apply (Disk.codec.encode disk)).render := by
    rw [← sorted]
  obtain ⟨_, _, _, _, _, _, disks, _⟩ := resources_restored
  exact ⟨body, disks.body .sorted disk answer body⟩

end Provisioning.Azure
