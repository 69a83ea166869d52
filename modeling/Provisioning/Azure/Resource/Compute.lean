import Provisioning.Azure.Resource.Basic

/-!
Compute resources: virtual machines with their profiles, instance views and managed disks. Only the
properties that the provider reads or writes are kept.
-/

namespace Provisioning.Azure

/-- The purchase plan of a marketplace image. -/
structure Plan where
  name : String
  publisher : String
  product : String
  deriving DecidableEq, Repr

namespace Plan

def codec : Codec Plan :=
  Record.codec "Plan"
    (.cons (.required "name" .string) <|
      .cons (.required "publisher" .string) <|
      .cons (.required "product" .string) .nil)
    (fun p => (p.name, p.publisher, p.product, ()))
    (fun (name, publisher, product, ()) => ⟨name, publisher, product⟩)

end Plan

structure HardwareProfile where
  vmSize : String
  deriving DecidableEq, Repr

namespace HardwareProfile

def codec : Codec HardwareProfile :=
  Record.codec "HardwareProfile" (.cons (.required "vmSize" .string) .nil)
    (fun p => (p.vmSize, ())) (fun (size, ()) => ⟨size⟩)

end HardwareProfile

/-- An image to boot from: an id of its own, or coordinates on the marketplace. -/
structure ImageReference where
  id : Option String
  publisher : Option String
  offer : Option String
  sku : Option String
  version : Option String
  deriving DecidableEq, Repr

namespace ImageReference

def byId (id : String) : ImageReference := ⟨some id, none, none, none, none⟩

def marketplace (publisher offer sku version : String) : ImageReference :=
  ⟨none, some publisher, some offer, some sku, some version⟩

def codec : Codec ImageReference :=
  Record.codec "ImageReference"
    (.cons (textField "id") <|
      .cons (textField "publisher") <|
      .cons (textField "offer") <|
      .cons (textField "sku") <|
      .cons (textField "version") .nil)
    (fun r => (r.id, r.publisher, r.offer, r.sku, r.version, ()))
    (fun (id, publisher, offer, sku, version, ()) => ⟨id, publisher, offer, sku, version⟩)

end ImageReference

structure ManagedDiskParameters where
  storageAccountType : String
  deriving DecidableEq, Repr

namespace ManagedDiskParameters

def codec : Codec ManagedDiskParameters :=
  Record.codec "ManagedDiskParameters" (.cons (.required "storageAccountType" .string) .nil)
    (fun p => (p.storageAccountType, ())) (fun (kind, ()) => ⟨kind⟩)

end ManagedDiskParameters

structure OsDisk where
  createOption : String
  sizeGb : Option Int32
  managedDisk : Option ManagedDiskParameters
  deriving DecidableEq, Repr

namespace OsDisk

def codec : Codec OsDisk :=
  Record.codec "OsDisk"
    (.cons (.required "createOption" .string) <|
      .cons (.optional "diskSizeGB" .int32) <|
      .cons (.optional "managedDisk" ManagedDiskParameters.codec) .nil)
    (fun d => (d.createOption, d.sizeGb, d.managedDisk, ()))
    (fun (option, size, managed, ()) => ⟨option, size, managed⟩)

end OsDisk

structure DataDisk where
  lun : Int32
  createOption : String
  sizeGb : Option Int32
  managedDisk : Option ManagedDiskParameters
  deriving DecidableEq, Repr

namespace DataDisk

def codec : Codec DataDisk :=
  Record.codec "DataDisk"
    (.cons (.required "lun" .int32) <|
      .cons (.required "createOption" .string) <|
      .cons (.optional "diskSizeGB" .int32) <|
      .cons (.optional "managedDisk" ManagedDiskParameters.codec) .nil)
    (fun d => (d.lun, d.createOption, d.sizeGb, d.managedDisk, ()))
    (fun (lun, option, size, managed, ()) => ⟨lun, option, size, managed⟩)

end DataDisk

structure StorageProfile where
  imageReference : Option ImageReference
  osDisk : Option OsDisk
  dataDisks : List DataDisk
  deriving DecidableEq, Repr

namespace StorageProfile

def codec : Codec StorageProfile :=
  Record.codec "StorageProfile"
    (.cons (.optional "imageReference" ImageReference.codec) <|
      .cons (.optional "osDisk" OsDisk.codec) <|
      .cons (.sparse "dataDisks" (.list DataDisk.codec) [] List.isEmpty) .nil)
    (fun p => (p.imageReference, p.osDisk, p.dataDisks, ()))
    (fun (image, osDisk, dataDisks, ()) => ⟨image, osDisk, dataDisks⟩)

end StorageProfile

structure SshPublicKey where
  path : String
  keyData : String
  deriving DecidableEq, Repr

namespace SshPublicKey

def codec : Codec SshPublicKey :=
  Record.codec "SshPublicKey"
    (.cons (.required "path" .string) <| .cons (.required "keyData" .string) .nil)
    (fun k => (k.path, k.keyData, ())) (fun (path, data, ()) => ⟨path, data⟩)

end SshPublicKey

structure SshConfiguration where
  publicKeys : List SshPublicKey
  deriving DecidableEq, Repr

namespace SshConfiguration

def codec : Codec SshConfiguration :=
  Record.codec "SshConfiguration"
    (.cons (.defaulted "publicKeys" (.list SshPublicKey.codec) []) .nil)
    (fun c => (c.publicKeys, ())) (fun (keys, ()) => ⟨keys⟩)

end SshConfiguration

structure LinuxConfiguration where
  disablePasswordAuthentication : Bool
  ssh : SshConfiguration
  deriving DecidableEq, Repr

namespace LinuxConfiguration

def codec : Codec LinuxConfiguration :=
  Record.codec "LinuxConfiguration"
    (.cons (.required "disablePasswordAuthentication" .bool) <|
      .cons (.required "ssh" SshConfiguration.codec) .nil)
    (fun c => (c.disablePasswordAuthentication, c.ssh, ()))
    (fun (disable, ssh, ()) => ⟨disable, ssh⟩)

end LinuxConfiguration

structure OsProfile where
  computerName : String
  adminUsername : String
  customData : Option String
  linuxConfiguration : Option LinuxConfiguration
  deriving DecidableEq, Repr

namespace OsProfile

def codec : Codec OsProfile :=
  Record.codec "OsProfile"
    (.cons (.required "computerName" .string) <|
      .cons (.required "adminUsername" .string) <|
      .cons (textField "customData") <|
      .cons (.optional "linuxConfiguration" LinuxConfiguration.codec) .nil)
    (fun p => (p.computerName, p.adminUsername, p.customData, p.linuxConfiguration, ()))
    (fun (computer, admin, data, linux, ()) => ⟨computer, admin, data, linux⟩)

end OsProfile

structure InterfaceReferenceProperties where
  primary : Bool
  deriving DecidableEq, Repr

namespace InterfaceReferenceProperties

def codec : Codec InterfaceReferenceProperties :=
  Record.codec "NetworkInterfaceReferenceProperties"
    (.cons (.defaulted "primary" .bool false) .nil)
    (fun p => (p.primary, ())) (fun (primary, ()) => ⟨primary⟩)

end InterfaceReferenceProperties

structure InterfaceReference where
  id : Option String
  properties : Option InterfaceReferenceProperties
  deriving DecidableEq, Repr

namespace InterfaceReference

def codec : Codec InterfaceReference :=
  Record.codec "NetworkInterfaceReference"
    (.cons (textField "id") <|
      .cons (.optional "properties" InterfaceReferenceProperties.codec) .nil)
    (fun r => (r.id, r.properties, ())) (fun (id, properties, ()) => ⟨id, properties⟩)

end InterfaceReference

structure NetworkProfile where
  interfaces : List InterfaceReference
  deriving DecidableEq, Repr

namespace NetworkProfile

def codec : Codec NetworkProfile :=
  Record.codec "NetworkProfile"
    (.cons (.defaulted "networkInterfaces" (.list InterfaceReference.codec) []) .nil)
    (fun p => (p.interfaces, ())) (fun (interfaces, ()) => ⟨interfaces⟩)

end NetworkProfile

structure VirtualMachineProperties where
  hardwareProfile : Option HardwareProfile
  storageProfile : Option StorageProfile
  osProfile : Option OsProfile
  networkProfile : Option NetworkProfile
  availabilitySet : Option SubResource
  provisioningState : Option String
  vmId : Option String
  deriving DecidableEq, Repr

namespace VirtualMachineProperties

def empty : VirtualMachineProperties := ⟨none, none, none, none, none, none, none⟩

def codec : Codec VirtualMachineProperties :=
  Record.codec "VirtualMachineProperties"
    (.cons (.optional "hardwareProfile" HardwareProfile.codec) <|
      .cons (.optional "storageProfile" StorageProfile.codec) <|
      .cons (.optional "osProfile" OsProfile.codec) <|
      .cons (.optional "networkProfile" NetworkProfile.codec) <|
      .cons (.optional "availabilitySet" SubResource.codec) <|
      .cons (textField "provisioningState") <|
      .cons (textField "vmId") .nil)
    (fun p => (p.hardwareProfile, p.storageProfile, p.osProfile, p.networkProfile,
      p.availabilitySet, p.provisioningState, p.vmId, ()))
    (fun (hardware, storage, os, network, availability, state, vmId, ()) =>
      ⟨hardware, storage, os, network, availability, state, vmId⟩)

end VirtualMachineProperties

structure VirtualMachine where
  id : Option String
  name : Option String
  location : Option String
  tags : Tags
  plan : Option Plan
  zones : List String
  properties : VirtualMachineProperties
  deriving DecidableEq

namespace VirtualMachine

/-- The references to network interfaces. -/
def interfaces (vm : VirtualMachine) : List InterfaceReference :=
  match vm.properties.networkProfile with
  | some profile => profile.interfaces
  | none => []

def codec : Codec VirtualMachine :=
  Record.codec "VirtualMachine"
    (.cons (textField "id") <|
      .cons (textField "name") <|
      .cons (textField "location") <|
      .cons tagsField <|
      .cons (.optional "plan" Plan.codec) <|
      .cons (.sparse "zones" (.list .string) [] List.isEmpty) <|
      .cons (.defaulted "properties" VirtualMachineProperties.codec .empty) .nil)
    (fun m => (m.id, m.name, m.location, m.tags, m.plan, m.zones, m.properties, ()))
    (fun (id, name, location, tags, plan, zones, properties, ()) =>
      ⟨id, name, location, tags, plan, zones, properties⟩)

end VirtualMachine

structure ViewStatus where
  code : Option String
  level : Option String
  displayStatus : Option String
  deriving DecidableEq, Repr

namespace ViewStatus

def ofCode (code : String) : ViewStatus := ⟨some code, none, none⟩

def codec : Codec ViewStatus :=
  Record.codec "InstanceViewStatus"
    (.cons (textField "code") <|
      .cons (textField "level") <|
      .cons (textField "displayStatus") .nil)
    (fun s => (s.code, s.level, s.displayStatus, ()))
    (fun (code, level, display, ()) => ⟨code, level, display⟩)

end ViewStatus

/-- What the backend says about the state of a virtual machine. -/
structure InstanceView where
  statuses : Option (List ViewStatus)
  deriving DecidableEq, Repr

namespace InstanceView

def empty : InstanceView := ⟨none⟩

def ofCodes (codes : List String) : InstanceView := ⟨some (codes.map .ofCode)⟩

def codec : Codec InstanceView :=
  Record.codec "InstanceView" (.cons (.optional "statuses" (.list ViewStatus.codec)) .nil)
    (fun v => (v.statuses, ())) (fun (statuses, ()) => ⟨statuses⟩)

end InstanceView

/-- A managed disk. -/
structure Disk where
  id : Option String
  name : Option String
  location : Option String
  tags : Tags
  managedBy : Option String
  deriving DecidableEq

namespace Disk

def codec : Codec Disk :=
  Record.codec "Disk"
    (.cons (textField "id") <|
      .cons (textField "name") <|
      .cons (textField "location") <|
      .cons tagsField <|
      .cons (textField "managedBy") .nil)
    (fun d => (d.id, d.name, d.location, d.tags, d.managedBy, ()))
    (fun (id, name, location, tags, managedBy, ()) => ⟨id, name, location, tags, managedBy⟩)

end Disk

end Provisioning.Azure
