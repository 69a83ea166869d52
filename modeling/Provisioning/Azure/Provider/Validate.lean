import Provisioning.Azure.Provider.Basic

/-!
Validation of a configuration by requests that change nothing. Every failure is reported as an
invalid configuration.
-/

namespace Provisioning.Azure

namespace Validate

/-- A failure as an invalid configuration, with what was attempted. -/
def invalid (attempt : String) (fault : AzureError) : CloudError :=
  .invalidConfig (attempt ++ fault.message)

/-- What the configured size offers, as remembered or else as listed. -/
def size (c : Config) : Action ResourceSku := do
  let key := DiskSku.Key.ofConfig c
  match ← (ask (.recallSize key) : Asking (Option ResourceSku)) with
  | some found => pure found
  | none =>
      let offered ← Action.call c (.listVmSkus c.location)
      let found ← liftExcept (DiskSku.pick key offered)
      (ask (.rememberSize key found) : Asking Unit)
      pure found

/-- Checks the disk SKUs, if any is asked for. -/
def diskSkus (c : Config) : Action Unit := do
  if c.osDiskSku.isNone && c.dataDiskSku.isNone then pure ()
  else
    let size ← (size c).context "failed to get VM SKU"
    liftExcept (DiskSku.check size c)

/-- Checks that every field that has to be there is not empty. -/
def required (c : Config) : Except CloudError Unit :=
  match c.missingField? with
  | some field => .error (.invalidConfig s!"{field} is missing")
  | none => .ok ()

/-- Checks the image that would be booted. -/
def image (c : Config) (os : OperatingSystem) : Operation Unit := do
  let image ← liftExcept ((c.image os).mapError (invalid ""))
  (Action.call c (.checkImage c.location image)).reporting (invalid "failed to get image: ")

/-- Checks a configuration against the backend. -/
def remote (c : Config) (e : Envelope) : Operation Unit := do
  let _ ← (Action.call c .listAllVms).reporting (invalid "failed to list all: ")
  let _ ← (Action.call c (.getVirtualNetwork c.vnetResourceGroup c.vnetName)).reporting
    (invalid "failed to get virtual network: ")
  let _ ← (Action.call c (.getSubnet c.vnetResourceGroup c.vnetName c.subnetName)).reporting
    (invalid "failed to get subnet: ")
  (diskSkus c).reporting (invalid "failed to validate disk SKUs: ")
  image c e.operatingSystem

end Validate

/-- Checks whether a machine could be created from a configuration. -/
def validate (sources : Sources) (spec : ProviderSpec) : Operation Unit := do
  let (c, e) ← liftExcept ((Config.resolve sources spec).mapError
    (Validate.invalid "failed to parse config: "))
  liftExcept (Validate.required c)
  liftExcept e.ipFamily.ensureKnown
  liftExcept e.ipFamily.ensureNotIpv6Only
  (Action.connect c).reporting AzureError.toCloud
  Validate.remote c e

end Provisioning.Azure
