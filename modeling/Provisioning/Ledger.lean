import Provisioning.Machine.Store

/-!
The finalizers a provider owns, in the order in which it creates what they stand for. A finalizer
is committed to the record before the creation starts and taken off only after the deletion is
confirmed; teardown walks the ledger backwards.
-/

namespace Provisioning

/-- Finalizers in creation order. -/
structure Ledger where
  steps : List String
  deriving DecidableEq, Repr

/-- Actions that may fail and that hold a copy of a machine record, which they keep when they
fail. -/
abbrev Recorded (m : Type → Type) (α : Type) := ExceptT CloudError (StateT Machine m) α

namespace Ledger

/-- Finalizers of the ledger that a machine has, in creation order. -/
def present (l : Ledger) (m : Machine) : List String := l.steps.filter m.hasFinalizer

/-- Finalizers of the ledger that a machine has, in teardown order. -/
def remaining (l : Ledger) (m : Machine) : List String := (l.present m).reverse

/-- Whether a machine has none of the ledger's finalizers. -/
def isClear (l : Ledger) (m : Machine) : Bool := !l.steps.any m.hasFinalizer

variable {m : Type → Type} [Monad m]

/-- Commits a change and replaces the copy by the committed record. -/
def update (commit : String → FinalizerEdit → m (Except CloudError Machine))
    (edit : FinalizerEdit) : Recorded m Unit := do
  let copy ← getThe Machine
  match ← (commit copy.name edit : m _) with
  | .ok committed => set committed
  | .error fault => throw fault

/-- Commits finalizers, without asking the store if the copy has all of them. -/
def ensure (commit : String → FinalizerEdit → m (Except CloudError Machine))
    (finalizers : List String) : Recorded m Unit := do
  let copy ← getThe Machine
  if finalizers.all copy.hasFinalizer then pure () else update commit (.add finalizers)

/-- Takes a finalizer off, without asking the store if the copy does not have it. -/
def discharge (commit : String → FinalizerEdit → m (Except CloudError Machine))
    (finalizer : String) : Recorded m Unit := do
  let copy ← getThe Machine
  if copy.hasFinalizer finalizer then update commit (.remove finalizer) else pure ()

end Ledger

end Provisioning
