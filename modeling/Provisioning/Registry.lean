import Provisioning.Envelope

/-!
The providers known under their names, one of which is selected by the tag in a configuration.
-/

namespace Provisioning

structure Registry (π : Type) where
  providers : SortedMap String π

namespace Registry

variable {π : Type}

def empty : Registry π := ⟨∅⟩

/-- Adds a provider, in place of any other of its name. -/
def register (r : Registry π) (name : String) (provider : π) : Registry π :=
  ⟨r.providers.insert name provider⟩

def get (r : Registry π) (name : String) : Except CloudError π :=
  match r.providers.get? name with
  | some provider => .ok provider
  | none => .error (.providerNotFound name)

/-- The provider that a configuration selects. -/
def forSpec (r : Registry π) (spec : ProviderSpec) : Except CloudError π := do
  let tag ← Envelope.providerTag spec
  r.get tag

/-- The names in increasing order. -/
def names (r : Registry π) : List String := r.providers.keys

end Registry

end Provisioning
