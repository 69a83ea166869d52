import Provisioning.SortedMap
import Provisioning.Text.Utf8

/-!
Environments: variables kept as lines of a name, an equals sign and a value, which may be any bytes
and need not be text. A look-up compares bytes only: it gives what follows the name and an equals
sign at the front of a line, so that a name with an equals sign reaches into a value.
-/

namespace Provisioning

open Provisioning.Text

/-- Variables by name, with the bytes of their values. -/
structure Environment where
  values : SortedMap String (List UInt8)

namespace Environment

/-- Why a look-up finds no text: there is no such variable, or its value is no text. -/
inductive Lack where
  | absent
  | notText
  deriving DecidableEq, Repr

/-- Variables whose values are texts. -/
def ofTexts (values : SortedMap String String) : Environment :=
  ⟨values.mapValues fun _ value => Utf8.encode value⟩

/-- What stands before the value of a name. -/
def heading (name : String) : List UInt8 := Utf8.encode name ++ [0x3D]

/-- Whether a variable can be kept: its name is not empty and has no equals sign, and neither part
has a NUL, which would end the line. -/
def isKept (name : String) (value : List UInt8) : Bool :=
  !name.isEmpty && !name.toList.contains '=' && !name.toList.contains '\x00' && !value.contains 0

def lines (e : Environment) : List (List UInt8) :=
  e.values.toList.filterMap fun (name, value) =>
    if isKept name value then some (heading name ++ value) else none

/-- The bytes that the environment has for a name; none for no name or one with a NUL. -/
def bytes? (e : Environment) (name : String) : Option (List UInt8) :=
  if name.isEmpty || name.toList.contains '\x00' then none
  else e.lines.findSome? (heading name).isPrefixOf?

/-- What the environment says for a name. -/
def read (e : Environment) (name : String) : Except Lack String :=
  match e.bytes? name with
  | none => .error .absent
  | some bytes =>
      match Utf8.text? bytes with
      | some text => .ok text
      | none => .error .notText

/-- The text that the environment has for a name. -/
def get? (e : Environment) (name : String) : Option String := (e.read name).toOption

end Environment

end Provisioning
