import Provisioning.Error

/-!
Errors of the Azure provider and of its backend, and how they become errors of machine operations.
A rejected creation is terminal exactly when its code says that no retry of the same specification
can succeed.
-/

namespace Provisioning.Azure

inductive AzureError where
  | notFound (detail : String)
  | api (status : Nat) (code detail : String)
  | http
  | auth (detail : String)
  | timeout (detail : String)
  | invalidConfig (detail : String)
  | json (detail : String)
  | cloud (inner : CloudError)
  deriving DecidableEq, Repr

namespace AzureError

def message : AzureError → String
  | .notFound detail => s!"Resource not found: {detail}"
  | .api status code detail => s!"Azure API error ({status}) {code}: {detail}"
  | .http => "HTTP error"
  | .auth detail => s!"Authentication failed: {detail}"
  | .timeout detail => s!"Operation timed out: {detail}"
  | .invalidConfig detail => s!"Invalid configuration: {detail}"
  | .json detail => s!"JSON parse error: {detail}"
  | .cloud inner => s!"Cloud error: {inner.message}"

/-- Codes that say the specification itself is wrong. -/
def invalidConfigurationCodes : List String :=
  ["InvalidParameter", "InvalidResourceReference", "ImageNotFound", "PlatformImageNotFound",
    "SkuNotAvailable", "InvalidTemplateDeployment"]

/-- Codes that say there is no quota or capacity. -/
def insufficientResourcesCodes : List String :=
  ["QuotaExceeded", "OperationNotAllowed", "AllocationFailed", "ZonalAllocationFailed"]

def isNotFound : AzureError → Bool
  | .notFound _ => true
  | _ => false

def isInstanceNotFound : AzureError → Bool
  | .cloud .instanceNotFound => true
  | _ => false

/-- A failed look-up of a variable or secret, which may succeed another time. -/
def isLookupFailure : AzureError → Bool
  | .cloud (.configVar _) | .cloud (.api _) | .cloud (.store _) => true
  | _ => false

def code? : AzureError → Option String
  | .api _ code _ => some code
  | _ => none

/-- Says what was attempted, in errors that carry a message of the backend. -/
def context (e : AzureError) (attempt : String) : AzureError :=
  match e with
  | .notFound detail => .notFound s!"{attempt}: {detail}"
  | .api status code detail => .api status code s!"{attempt}: {detail}"
  | .timeout detail => .timeout s!"{attempt}: {detail}"
  | .invalidConfig detail => .invalidConfig s!"{attempt}: {detail}"
  | other => other

def toCloud : AzureError → CloudError
  | .cloud inner => inner
  | .invalidConfig detail => .invalidConfig detail
  | other => .api other.message

/-- The reason a code gives for not retrying. -/
def terminalReason? (e : AzureError) : Option TerminalReason :=
  match e.code? with
  | none => none
  | some code =>
      if invalidConfigurationCodes.contains code then some .invalidConfiguration
      else if insufficientResourcesCodes.contains code then some .insufficientResources
      else none

/-- The error of a creation that failed. -/
def toCreateError (e : AzureError) : CloudError :=
  match e.terminalReason? with
  | some reason => .terminal reason e.message
  | none => e.toCloud

end AzureError

end Provisioning.Azure
