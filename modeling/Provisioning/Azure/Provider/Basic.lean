import Provisioning.Azure.Call
import Provisioning.Azure.DiskSku
import Provisioning.Ledger
import Provisioning.Program

/-!
What the provider asks of the outside: a client for credentials, calls of that client, changes of a
machine's record, sizes it has looked up before, and bytes for a key that nobody keeps. The
operations of the provider are programs over these requests.
-/

namespace Provisioning.Azure

inductive Request where
  | connect (credentials : Credentials)
  | call (credentials : Credentials) (call : Call)
  | commit (machine : String) (edit : FinalizerEdit)
  | recallSize (key : DiskSku.Key)
  | rememberSize (key : DiskSku.Key) (size : ResourceSku)
  | throwawayBytes

namespace Request

/-- What a request is answered with. -/
@[reducible] def Answer : Request → Type
  | connect _ => Except AzureError Unit
  | call _ c => Except AzureError c.Value
  | commit _ _ => Except CloudError Machine
  | recallSize _ => Option ResourceSku
  | rememberSize _ _ => Unit
  | throwawayBytes => List UInt8

/-- Whether a request may change resources or records. -/
def isWrite : Request → Bool
  | call _ c => c.isWrite
  | commit _ _ => true
  | _ => false

end Request

def requests : Interface := ⟨Request, Request.Answer⟩

/-- Programs of the provider. -/
abbrev Asking := Program requests

/-- Programs of the provider that may fail at the backend. -/
abbrev Action := ExceptT AzureError Asking

/-- Programs of the provider that may fail for whoever drives the machines. -/
abbrev Operation := ExceptT CloudError Asking

/-- Makes one request. -/
def ask (q : Request) : Asking q.Answer := Program.ask q .done

namespace Action

variable {α : Type}

/-- Asks for a client of the credentials of a configuration. -/
def connect (c : Config) : Action Unit :=
  ExceptT.mk (ask (.connect c.credentials))

/-- Makes one call with the credentials of a configuration. -/
def call (c : Config) (what : Call) : Action what.Value :=
  ExceptT.mk (ask (.call c.credentials what))

/-- Says what an action attempts if it fails. -/
def context (attempt : String) (act : Action α) : Action α := act.adapt (·.context attempt)

/-- An action whose failure is reported in a given way. -/
def reporting (report : AzureError → CloudError) (act : Action α) : Operation α :=
  act.adapt report

/-- An action for a machine's record, which it leaves as it is. -/
def recorded (report : AzureError → CloudError) (act : Action α) : Recorded Asking α :=
  fun machine => do
    match ← act.run with
    | .ok value => pure (.ok value, machine)
    | .error fault => pure (.error (report fault), machine)

end Action

/-- Commits a change to the record of a machine. -/
def commit (machine : String) (edit : FinalizerEdit) : Asking (Except CloudError Machine) :=
  ask (.commit machine edit)

/-- Commits the finalizers of what is about to be created. -/
def own (owned : List Owned) : Recorded Asking Unit :=
  Ledger.ensure commit (owned.map Owned.finalizer)

/-- Takes off the finalizer of what is gone. -/
def disown (owned : Owned) : Recorded Asking Unit := Ledger.discharge commit owned.finalizer

/-- A result that fails for whoever drives the machines. -/
def settle {α : Type} (outcome : Except CloudError α) : Recorded Asking α :=
  fun machine => pure (outcome, machine)

end Provisioning.Azure
