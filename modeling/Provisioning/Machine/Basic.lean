import Provisioning.Json.Decode

/-!
The record of a machine: its name, its stable identity, the provider's configuration, and the
finalizers, each of which stands for something at the backend that may have to be cleaned up.
-/

namespace Provisioning

/-- The provider's configuration as written, if any. -/
structure ProviderSpec where
  value : Option Json
  deriving Inhabited

namespace ProviderSpec

def codec : Codec ProviderSpec :=
  Record.codec "ProviderSpec"
    (.cons { Field.nullable "value" .json with absentItem := none } .nil)
    (fun spec => (spec.value, ())) (fun (value, ()) => ⟨value⟩)

end ProviderSpec

structure Machine where
  name : String
  uid : String
  providerSpec : ProviderSpec
  finalizers : List String
  deriving Inhabited

namespace Machine

def codec : Codec Machine :=
  Record.codec "Machine"
    (.cons (.required "name" .string) <|
      .cons (.required "uid" .string) <|
      .cons (.required "provider_spec" ProviderSpec.codec) <|
      .cons (.defaulted "finalizers" (.list .string) []) .nil)
    (fun m => (m.name, m.uid, m.providerSpec, m.finalizers, ()))
    (fun (name, uid, spec, finalizers, ()) => ⟨name, uid, spec, finalizers⟩)

def hasFinalizer (m : Machine) (finalizer : String) : Bool := m.finalizers.contains finalizer

/-- Adds a finalizer at the end unless it is there. -/
def addFinalizer (m : Machine) (finalizer : String) : Machine :=
  if m.hasFinalizer finalizer then m else { m with finalizers := m.finalizers ++ [finalizer] }

/-- Removes every occurrence of a finalizer. -/
def removeFinalizer (m : Machine) (finalizer : String) : Machine :=
  { m with finalizers := m.finalizers.filter (· ≠ finalizer) }

end Machine

/-- A change of a record's finalizers. -/
inductive FinalizerEdit where
  | add (finalizers : List String)
  | remove (finalizer : String)
  deriving DecidableEq, Repr

namespace FinalizerEdit

def apply : FinalizerEdit → Machine → Machine
  | .add finalizers, m => finalizers.foldl Machine.addFinalizer m
  | .remove finalizer, m => m.removeFinalizer finalizer

end FinalizerEdit

end Provisioning
