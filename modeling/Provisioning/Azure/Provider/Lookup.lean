import Provisioning.Azure.Provider.Basic
import Provisioning.Azure.Status
import Provisioning.Text.Quoted

/-!
How a machine is found at the backend and seen as an instance. A machine is the first virtual
machine of the subscription with its tag; its addresses are those of all its network interfaces.
-/

namespace Provisioning.Azure.Lookup

open Provisioning.Text

/-- The virtual machine with a machine's tag, anywhere in the subscription. -/
def vm (c : Config) (uid : String) : Action VirtualMachine := do
  let all ← Action.call c .listAllVms
  match all.find? fun vm => Naming.hasUid vm.tags uid with
  | some found => pure found
  | none => throw (.cloud .instanceNotFound)

def invalidResponse (detail : String) : AzureError := .api 200 "InvalidResponse" detail

/-- Adds a private address. -/
def addInternal (found : Addresses) (configuration : IpConfiguration) : Addresses :=
  match configuration.properties.privateAddress with
  | some address => found.insert address .internal
  | none => found

/-- Adds a public address, if it was given out. -/
def addExternal (found : Addresses) (address : PublicIpAddress) : Addresses :=
  match address.properties.ipAddress with
  | some text => found.insert text .external
  | none => found

/-- Adds the private address of each configuration, and the public one that is attached to it. -/
def configurationAddresses (c : Config) (found : Addresses) :
    List IpConfiguration → Action Addresses
  | [] => pure found
  | configuration :: rest => do
      let found := addInternal found configuration
      match configuration.publicAddressId? with
      | none => configurationAddresses c found rest
      | some id =>
          let address ← Action.call c (.getPublicIp c.resourceGroup (Naming.nameOfId id))
          configurationAddresses c (addExternal found address) rest

/-- Adds the addresses of each network interface; the first one has the given number. -/
def interfaceAddresses (c : Config) (found : Addresses) :
    (number : Nat) → List InterfaceReference → Action Addresses
  | _, [] => pure found
  | number, reference :: rest => do
      let id := reference.id.getD ""
      if id.isEmpty then throw (invalidResponse s!"interface {number} has no ID")
      else
        let nic ← Action.call c (.getNic c.resourceGroup (Naming.nameOfId id))
        let found ← configurationAddresses c found nic.ipConfigurations
        interfaceAddresses c found (number + 1) rest

/-- All addresses of a virtual machine. -/
def addresses (c : Config) (vm : VirtualMachine) : Action Addresses :=
  match vm.interfaces with
  | [] => throw (invalidResponse "machine has no network interfaces")
  | interfaces => interfaceAddresses c ∅ 0 interfaces

/-- A virtual machine with a name as an instance. -/
def instanceNamed (c : Config) (vm : VirtualMachine) (name : String) : Action Instance := do
  let view ← (Action.call c (.instanceView c.resourceGroup name)).context
    ("failed to get instance view for machine " ++ quote name)
  let found ← (addresses c vm).context ("failed to retrieve IP addresses for VM " ++ quote name)
  pure (((Instance.named (vm.id.getD name) name).withStatus view.status).withAddresses found)

/-- A virtual machine as an instance. -/
def instanceOf (c : Config) (vm : VirtualMachine) : Action Instance :=
  match vm.name with
  | none => throw (invalidResponse "VM has no name")
  | some name => instanceNamed c vm name

end Provisioning.Azure.Lookup
