import Provisioning.Json.Decode

/-!
A compute instance as it is seen at the backend: its identity, its addresses and its status.
-/

namespace Provisioning

/-- What every provider says about the state of an instance. -/
inductive InstanceStatus where
  | unknown
  | creating
  | running
  | deleting
  deriving DecidableEq, Repr

namespace InstanceStatus

def name : InstanceStatus → String
  | .unknown => "unknown"
  | .creating => "creating"
  | .running => "running"
  | .deleting => "deleting"

def codec : Codec InstanceStatus :=
  .names ([.unknown, .creating, .running, .deleting].map fun s => (s.name, s)) name

end InstanceStatus

/-- From where an address can be reached. -/
inductive AddressClass where
  | internal
  | external
  deriving DecidableEq, Repr

namespace AddressClass

def name : AddressClass → String
  | .internal => "InternalIP"
  | .external => "ExternalIP"

def codec : Codec AddressClass :=
  .names ([.internal, .external].map fun c => (c.name, c)) name

end AddressClass

/-- Addresses and their classes. -/
abbrev Addresses := SortedMap String AddressClass

structure Instance where
  id : String
  name : String
  addresses : Addresses
  status : InstanceStatus
  deriving DecidableEq

namespace Instance

/-- An instance without addresses, of unknown status. -/
def named (id name : String) : Instance := ⟨id, name, ∅, .unknown⟩

def withStatus (i : Instance) (status : InstanceStatus) : Instance := { i with status }

/-- Adds addresses, which win over equal ones already there. -/
def withAddresses (i : Instance) (more : Addresses) : Instance :=
  { i with addresses := i.addresses.union more }

/-- The addresses of a class in increasing order. -/
def addressesOf (i : Instance) (cls : AddressClass) : List String :=
  (i.addresses.filter fun _ c => c == cls).keys

def externalAddresses (i : Instance) : List String := i.addressesOf .external

def internalAddresses (i : Instance) : List String := i.addressesOf .internal

def codec : Codec Instance :=
  Record.codec "Instance"
    (.cons (.required "id" .string) <|
      .cons (.required "name" .string) <|
      .cons (.required "addresses" (.map AddressClass.codec)) <|
      .cons (.required "status" InstanceStatus.codec) .nil)
    (fun i => (i.id, i.name, i.addresses, i.status, ()))
    (fun (id, name, addresses, status, ()) => ⟨id, name, addresses, status⟩)

end Instance

end Provisioning
