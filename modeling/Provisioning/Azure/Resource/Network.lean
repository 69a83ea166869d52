import Provisioning.Azure.Resource.Basic

/-!
Network resources: public addresses, network interfaces, virtual networks and subnets. Only the
properties that the provider reads or writes are kept.
-/

namespace Provisioning.Azure

def ipv4 : String := "IPv4"

def ipv6 : String := "IPv6"

/-- The price tier of a public address. -/
structure AddressTier where
  name : String
  deriving DecidableEq, Repr

namespace AddressTier

def codec : Codec AddressTier :=
  Record.codec "Sku" (.cons (.required "name" .string) .nil)
    (fun s => (s.name, ())) (fun (name, ()) => ⟨name⟩)

end AddressTier

structure PublicIpProperties where
  allocationMethod : Option String
  addressVersion : Option String
  ipAddress : Option String
  provisioningState : Option String
  deriving DecidableEq, Repr

namespace PublicIpProperties

def empty : PublicIpProperties := ⟨none, none, none, none⟩

def codec : Codec PublicIpProperties :=
  Record.codec "PublicIpProperties"
    (.cons (textField "publicIPAllocationMethod") <|
      .cons (textField "publicIPAddressVersion") <|
      .cons (textField "ipAddress") <|
      .cons (textField "provisioningState") .nil)
    (fun p => (p.allocationMethod, p.addressVersion, p.ipAddress, p.provisioningState, ()))
    (fun (allocation, version, address, state, ()) => ⟨allocation, version, address, state⟩)

end PublicIpProperties

structure PublicIpAddress where
  id : Option String
  name : Option String
  location : Option String
  tags : Tags
  tier : Option AddressTier
  properties : PublicIpProperties
  deriving DecidableEq

namespace PublicIpAddress

/-- The version of the address, IPv4 unless it says otherwise. -/
def version (a : PublicIpAddress) : String := a.properties.addressVersion.getD ipv4

def codec : Codec PublicIpAddress :=
  Record.codec "PublicIpAddress"
    (.cons (textField "id") <|
      .cons (textField "name") <|
      .cons (textField "location") <|
      .cons tagsField <|
      .cons (.optional "sku" AddressTier.codec) <|
      .cons (.defaulted "properties" PublicIpProperties.codec .empty) .nil)
    (fun a => (a.id, a.name, a.location, a.tags, a.tier, a.properties, ()))
    (fun (id, name, location, tags, tier, properties, ()) =>
      ⟨id, name, location, tags, tier, properties⟩)

end PublicIpAddress

structure IpConfigurationProperties where
  subnet : Option SubResource
  allocationMethod : Option String
  privateAddress : Option String
  addressVersion : Option String
  publicAddress : Option SubResource
  primary : Option Bool
  deriving DecidableEq, Repr

namespace IpConfigurationProperties

def empty : IpConfigurationProperties := ⟨none, none, none, none, none, none⟩

def codec : Codec IpConfigurationProperties :=
  Record.codec "IpConfigurationProperties"
    (.cons (.optional "subnet" SubResource.codec) <|
      .cons (textField "privateIPAllocationMethod") <|
      .cons (textField "privateIPAddress") <|
      .cons (textField "privateIPAddressVersion") <|
      .cons (.optional "publicIPAddress" SubResource.codec) <|
      .cons (.optional "primary" .bool) .nil)
    (fun p => (p.subnet, p.allocationMethod, p.privateAddress, p.addressVersion,
      p.publicAddress, p.primary, ()))
    (fun (subnet, allocation, address, version, publicAddress, primary, ()) =>
      ⟨subnet, allocation, address, version, publicAddress, primary⟩)

end IpConfigurationProperties

structure IpConfiguration where
  id : Option String
  name : Option String
  properties : IpConfigurationProperties
  deriving DecidableEq, Repr

namespace IpConfiguration

/-- The id of the public address that is attached, if any. -/
def publicAddressId? (c : IpConfiguration) : Option String :=
  c.properties.publicAddress.bind (·.id)

def codec : Codec IpConfiguration :=
  Record.codec "IpConfiguration"
    (.cons (textField "id") <|
      .cons (textField "name") <|
      .cons (.defaulted "properties" IpConfigurationProperties.codec .empty) .nil)
    (fun c => (c.id, c.name, c.properties, ()))
    (fun (id, name, properties, ()) => ⟨id, name, properties⟩)

end IpConfiguration

structure NetworkInterfaceProperties where
  ipConfigurations : List IpConfiguration
  networkSecurityGroup : Option SubResource
  provisioningState : Option String
  deriving DecidableEq, Repr

namespace NetworkInterfaceProperties

def empty : NetworkInterfaceProperties := ⟨[], none, none⟩

def codec : Codec NetworkInterfaceProperties :=
  Record.codec "NetworkInterfaceProperties"
    (.cons (.defaulted "ipConfigurations" (.list IpConfiguration.codec) []) <|
      .cons (.optional "networkSecurityGroup" SubResource.codec) <|
      .cons (textField "provisioningState") .nil)
    (fun p => (p.ipConfigurations, p.networkSecurityGroup, p.provisioningState, ()))
    (fun (configurations, group, state, ()) => ⟨configurations, group, state⟩)

end NetworkInterfaceProperties

structure NetworkInterface where
  id : Option String
  name : Option String
  location : Option String
  tags : Tags
  properties : NetworkInterfaceProperties
  deriving DecidableEq

namespace NetworkInterface

def ipConfigurations (n : NetworkInterface) : List IpConfiguration := n.properties.ipConfigurations

/-- The ids of all public addresses that are attached. -/
def publicAddressIds (n : NetworkInterface) : List String :=
  n.ipConfigurations.filterMap (·.publicAddressId?)

def codec : Codec NetworkInterface :=
  Record.codec "NetworkInterface"
    (.cons (textField "id") <|
      .cons (textField "name") <|
      .cons (textField "location") <|
      .cons tagsField <|
      .cons (.defaulted "properties" NetworkInterfaceProperties.codec .empty) .nil)
    (fun n => (n.id, n.name, n.location, n.tags, n.properties, ()))
    (fun (id, name, location, tags, properties, ()) => ⟨id, name, location, tags, properties⟩)

end NetworkInterface

structure VirtualNetwork where
  id : Option String
  name : Option String
  deriving DecidableEq, Repr

namespace VirtualNetwork

def codec : Codec VirtualNetwork :=
  Record.codec "VirtualNetwork"
    (.cons (.nullable "id" .string) <| .cons (.nullable "name" .string) .nil)
    (fun n => (n.id, n.name, ())) (fun (id, name, ()) => ⟨id, name⟩)

end VirtualNetwork

structure Subnet where
  id : Option String
  name : Option String
  deriving DecidableEq, Repr

namespace Subnet

def codec : Codec Subnet :=
  Record.codec "Subnet"
    (.cons (.nullable "id" .string) <| .cons (.nullable "name" .string) .nil)
    (fun n => (n.id, n.name, ())) (fun (id, name, ()) => ⟨id, name⟩)

end Subnet

end Provisioning.Azure
