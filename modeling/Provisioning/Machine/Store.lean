import Provisioning.Error
import Provisioning.Machine.Basic

/-!
A store of machine records that commits changes of finalizers and remembers each of them. It can
be told to reject the next changes.
-/

namespace Provisioning

/-- A committed change of one finalizer. -/
inductive FinalizerChange where
  | added (finalizer : String)
  | removed (finalizer : String)
  deriving DecidableEq, Repr

/-- Records by name, all committed changes in order, and how many changes will be rejected. -/
structure Store where
  records : SortedMap String Machine
  history : List FinalizerChange
  rejections : Nat
  deriving Inhabited

namespace Store

def empty : Store := ⟨∅, [], 0⟩

def insert (s : Store) (m : Machine) : Store := { s with records := s.records.insert m.name m }

def get? (s : Store) (name : String) : Option Machine := s.records.get? name

def clearHistory (s : Store) : Store := { s with history := [] }

def rejectNext (s : Store) (count : Nat) : Store := { s with rejections := count }

/-- What changed between two records: additions first, then removals. -/
def changes (old new : Machine) : List FinalizerChange :=
  (new.finalizers.filter fun f => !old.hasFinalizer f).map .added ++
    (old.finalizers.filter fun f => !new.hasFinalizer f).map .removed

/-- Commits a change to the record of a name and gives the committed record. -/
def commit (name : String) (edit : FinalizerEdit) (s : Store) :
    Except CloudError Machine × Store :=
  if 0 < s.rejections then
    (.error (.store s!"update of machine {name} rejected"),
      { s with rejections := s.rejections - 1 })
  else
    match s.get? name with
    | none => (.error (.store s!"machine {name} not found"), s)
    | some stored =>
        let updated := edit.apply stored
        (.ok updated,
          { s with
            records := s.records.insert updated.name updated
            history := s.history ++ changes stored updated })

end Store

end Provisioning
