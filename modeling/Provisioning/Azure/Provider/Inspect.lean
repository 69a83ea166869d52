import Provisioning.Azure.ControllerConfig
import Provisioning.Azure.Provider.Lookup
import Provisioning.Azure.Provider.Validate

/-!
What can be asked about a machine and its configuration without changing anything: its instance,
the configuration of the cloud controller, and labels for metrics.
-/

namespace Provisioning.Azure

/-- The tag under which the provider is selected. -/
def providerName : String := "azure"

/-- Finds a machine by its tag and gives its instance. -/
def get (sources : Sources) (machine : Machine) : Operation Instance := do
  let (c, _) ← liftExcept ((Config.resolve sources machine.providerSpec).mapError
    (Validate.invalid "failed to parse MachineSpec: "))
  (Action.connect c).reporting AzureError.toCloud
  let vm ← (Lookup.vm c machine.uid).reporting fun fault =>
    if fault.isInstanceNotFound then .instanceNotFound
    else (fault.context s!"failed to find machine {machine.uid} by its UID").toCloud
  (Lookup.instanceOf c vm).reporting AzureError.toCloud

/-- The configuration file of the cloud controller, and the provider it names. -/
structure CloudConfig where
  text : String
  provider : String
  deriving DecidableEq, Repr

/-- Writes the configuration file of the cloud controller. -/
def cloudConfig (sources : Sources) (spec : ProviderSpec) : Except CloudError CloudConfig := do
  let (c, _) ← (Config.resolve sources spec).mapError (Validate.invalid "failed to parse config: ")
  .ok ⟨(ControllerConfig.ofConfig c).render, providerName⟩

/-- Labels of a machine's metrics, and why there are none. -/
structure MetricsLabels where
  labels : SortedMap String String
  failure : Option CloudError

namespace MetricsLabels

def ofLabels (labels : SortedMap String String) : MetricsLabels := ⟨labels, none⟩

def failed (fault : CloudError) : MetricsLabels := ⟨∅, some fault⟩

def isOk (m : MetricsLabels) : Bool := m.failure.isNone

end MetricsLabels

/-- The labels of a machine: its size and location. -/
def metricsLabels (sources : Sources) (machine : Machine) : MetricsLabels :=
  match Config.resolve sources machine.providerSpec with
  | .ok (c, _) => .ofLabels (.ofList [("size", c.vmSize), ("location", c.location)])
  | .error fault => .failed fault.toCloud

/-- The provider has no defaults to add. -/
def addDefaults (spec : ProviderSpec) : ProviderSpec := spec

end Provisioning.Azure
