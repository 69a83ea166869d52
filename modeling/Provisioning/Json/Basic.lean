import Provisioning.Json.Number
import Provisioning.SortedMap

/-!
JSON values. The members of an object stand in the order of the text; `Json.canonical` sorts them
by name and lets the last of several members of one name win.
-/

namespace Provisioning

/-- A JSON value. -/
inductive Json where
  | null
  | bool (value : Bool)
  | number (value : JsonNumber)
  | string (value : String)
  | array (items : List Json)
  | object (members : List (String × Json))
  deriving Inhabited

namespace Json

/-- Members in order of their names, the last one of a name winning. -/
def sortMembers (members : List (String × Json)) : List (String × Json) :=
  (SortedMap.ofList members).toList

mutual

/-- The same value with the members of every object sorted and of distinct names. -/
def canonical : Json → Json
  | .array items => .array (canonicalItems items)
  | .object members => .object (sortMembers (canonicalMembers members))
  | scalar => scalar

def canonicalItems : List Json → List Json
  | [] => []
  | item :: rest => item.canonical :: canonicalItems rest

def canonicalMembers : List (String × Json) → List (String × Json)
  | [] => []
  | (name, value) :: rest => (name, value.canonical) :: canonicalMembers rest

end

def int (value : Int) : Json := .number (.int value)

def nat (value : Nat) : Json := .number (.int value)

def ofOption {α : Type} (encode : α → Json) : Option α → Json
  | none => .null
  | some value => encode value

def strings (values : List String) : Json := .array (values.map .string)

/-- The first member of a name. -/
def get? (value : Json) (name : String) : Option Json :=
  match value with
  | .object members => (members.find? fun m => m.1 == name).map (·.2)
  | _ => none

def asString? : Json → Option String
  | .string value => some value
  | _ => none

def isNull : Json → Bool
  | .null => true
  | _ => false

end Json

end Provisioning
