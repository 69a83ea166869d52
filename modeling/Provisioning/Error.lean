import Provisioning.Json.Decode

/-!
Errors of machine operations. A terminal error says that the specification has to change,
`instanceNotFound` that nothing at the backend belongs to the machine; all others may be retried.
-/

namespace Provisioning

/-- Why no retry of the same specification can succeed. -/
inductive TerminalReason where
  | invalidConfiguration
  | unsupportedChange
  | insufficientResources
  | createError
  | updateError
  | deleteError
  | joinClusterTimeout
  deriving DecidableEq, Repr

namespace TerminalReason

def name : TerminalReason → String
  | .invalidConfiguration => "InvalidConfiguration"
  | .unsupportedChange => "UnsupportedChange"
  | .insufficientResources => "InsufficientResources"
  | .createError => "CreateError"
  | .updateError => "UpdateError"
  | .deleteError => "DeleteError"
  | .joinClusterTimeout => "JoinClusterTimeoutError"

def all : List TerminalReason :=
  [.invalidConfiguration, .unsupportedChange, .insufficientResources, .createError, .updateError,
    .deleteError, .joinClusterTimeout]

def codec : Codec TerminalReason := .names (all.map fun r => (r.name, r)) name

end TerminalReason

/-- Errors reported to whoever drives the machines. -/
inductive CloudError where
  | terminal (reason : TerminalReason) (detail : String)
  | instanceNotFound
  | providerNotFound (name : String)
  | invalidConfig (detail : String)
  | configVar (detail : String)
  | api (detail : String)
  | store (detail : String)
  | json (detail : String)
  deriving DecidableEq, Repr

namespace CloudError

def message : CloudError → String
  | .terminal reason detail => s!"{reason.name}: {detail}"
  | .instanceNotFound => "instance not found"
  | .providerNotFound name => s!"Provider not found: {name}"
  | .invalidConfig detail => s!"Invalid configuration: {detail}"
  | .configVar detail => s!"Config variable error: {detail}"
  | .api detail => s!"API error: {detail}"
  | .store detail => s!"Machine store error: {detail}"
  | .json detail => s!"JSON error: {detail}"

def terminalReason? : CloudError → Option TerminalReason
  | .terminal reason _ => some reason
  | _ => none

def isTerminal (e : CloudError) : Bool := e.terminalReason?.isSome

def isNotFound : CloudError → Bool
  | .instanceNotFound => true
  | _ => false

end CloudError

end Provisioning
