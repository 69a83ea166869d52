import Provisioning.ConfigVar
import Provisioning.Machine.Basic

/-!
The envelope of a provider's configuration, which is the same for all providers: the tag that
selects the provider, the operating system, the network and the SSH keys, and one section that
only the selected provider understands.
-/

namespace Provisioning

open Provisioning.Text

/-- The operating system of a machine's image. -/
inductive OperatingSystem where
  | ubuntu
  | centos
  | rhel
  | flatcar
  | rockylinux
  | amzn2
  | sles
  deriving DecidableEq, Repr

namespace OperatingSystem

def name : OperatingSystem → String
  | .ubuntu => "ubuntu"
  | .centos => "centos"
  | .rhel => "rhel"
  | .flatcar => "flatcar"
  | .rockylinux => "rockylinux"
  | .amzn2 => "amzn2"
  | .sles => "sles"

def all : List OperatingSystem := [.ubuntu, .centos, .rhel, .flatcar, .rockylinux, .amzn2, .sles]

def codec : Codec OperatingSystem := .names (all.map fun os => (os.name, os)) name

end OperatingSystem

/-- The address family a machine's network asks for. A text that names none is kept. -/
inductive IpFamily where
  | unspecified
  | ipv4
  | ipv6
  | dualStack
  | unknown (text : String)
  deriving DecidableEq, Repr

namespace IpFamily

def ofText (text : String) : IpFamily :=
  if text = "" then .unspecified
  else if text = "IPv4" then .ipv4
  else if text = "IPv6" then .ipv6
  else if text = "IPv4+IPv6" then .dualStack
  else .unknown text

def text : IpFamily → String
  | .unspecified => ""
  | .ipv4 => "IPv4"
  | .ipv6 => "IPv6"
  | .dualStack => "IPv4+IPv6"
  | .unknown text => text

def codec : Codec IpFamily := .via .string text ofText

def isDualStack (f : IpFamily) : Bool := f == .dualStack

/-- Refuses a text that names no family. -/
def ensureKnown : IpFamily → Except CloudError Unit
  | .unknown text =>
      .error (.invalidConfig
        ("Unknown IP family " ++ quote text ++ " only IPv4,IPv6,IPv4+IPv6 are valid."))
  | _ => .ok ()

/-- Refuses a network of IPv6 alone. -/
def ensureNotIpv6Only : IpFamily → Except CloudError Unit
  | .ipv6 => .error (.invalidConfig "IPv6 only network family not supported")
  | _ => .ok ()

end IpFamily

/-- Name servers of a machine. -/
structure DnsConfig where
  servers : List String
  deriving DecidableEq, Repr

namespace DnsConfig

def empty : DnsConfig := ⟨[]⟩

def codec : Codec DnsConfig :=
  Record.codec "DnsConfig" (.cons (.defaulted "servers" (.list .string) []) .nil)
    (fun d => (d.servers, ())) (fun (servers, ()) => ⟨servers⟩)

end DnsConfig

/-- Network settings of a machine. -/
structure NetworkConfig where
  cidr : StringVar
  gateway : StringVar
  dns : DnsConfig
  ipFamily : IpFamily
  deriving DecidableEq, Repr

namespace NetworkConfig

def codec : Codec NetworkConfig :=
  Record.codec "NetworkConfig"
    (.cons (.defaulted "cidr" StringVar.codec .unset) <|
      .cons (.defaulted "gateway" StringVar.codec .unset) <|
      .cons (.defaulted "dns" DnsConfig.codec .empty) <|
      .cons (.defaulted "ipFamily" IpFamily.codec .unspecified) .nil)
    (fun n => (n.cidr, n.gateway, n.dns, n.ipFamily, ()))
    (fun (cidr, gateway, dns, ipFamily, ()) => ⟨cidr, gateway, dns, ipFamily⟩)

end NetworkConfig

/-- The envelope. -/
structure Envelope where
  cloudProvider : String
  cloudProviderSpec : Json
  operatingSystem : OperatingSystem
  operatingSystemSpec : Json
  network : Option NetworkConfig
  sshPublicKeys : List String

namespace Envelope

def codec : Codec Envelope :=
  Record.codec "ProviderConfig"
    (.cons (.required "cloudProvider" .string) <|
      .cons (.defaulted "cloudProviderSpec" .json .null) <|
      .cons (.required "operatingSystem" OperatingSystem.codec) <|
      .cons (.defaulted "operatingSystemSpec" .json .null) <|
      .cons (.optional "network" NetworkConfig.codec) <|
      .cons (.defaulted "sshPublicKeys" (.list .string) []) .nil)
    (fun e => (e.cloudProvider, e.cloudProviderSpec, e.operatingSystem, e.operatingSystemSpec,
      e.network, e.sshPublicKeys, ()))
    (fun (provider, spec, os, osSpec, network, keys, ()) =>
      ⟨provider, spec, os, osSpec, network, keys⟩)

/-- Reads the envelope of a configuration; the operating system's section must not be null. -/
def ofSpec (spec : ProviderSpec) : Except CloudError Envelope :=
  match spec.value with
  | none => .error (.invalidConfig "machine.spec.providerconfig.value is nil")
  | some value =>
      match codec.decode value with
      | .error fault =>
          .error (.invalidConfig ("failed to parse provider spec: " ++ fault.message))
      | .ok envelope =>
          if envelope.operatingSystemSpec.isNull then
            .error (.invalidConfig
              "operatingSystemSpec in the MachineDeployment cannot be empty")
          else .ok envelope

def ipFamily (e : Envelope) : IpFamily :=
  match e.network with
  | some network => network.ipFamily
  | none => .unspecified

/-- Reads only the tag of the provider, whatever the rest looks like. -/
def providerTag (spec : ProviderSpec) : Except CloudError String :=
  match (spec.value.bind fun value => value.get? "cloudProvider").bind Json.asString? with
  | some tag => .ok tag
  | none => .error (.invalidConfig "cloudProvider is missing")

end Envelope

end Provisioning
