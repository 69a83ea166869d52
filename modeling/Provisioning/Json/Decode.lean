import Provisioning.Json.Basic
import Provisioning.Text.Quoted

/-!
Reading typed values out of JSON. A record is described by its fields; it is read from an object
by name or from an array by position, and written as an object. Of several faults in an object the
one at the earliest member is reported, and fields that are missing come last, in the order of
their declaration.
-/

namespace Provisioning

open Provisioning.Text

/-- Why a JSON value does not fit a type. -/
inductive DecodeError where
  | wrongType (found : Json) (expected : String)
  | wrongValue (found : Json) (expected : String)
  | wrongLength (count : Nat) (expected : String)
  | missingField (name : String)
  | repeatedField (name : String)
  | unknownField (name : String) (known : List String)
  | unknownVariant (name : String) (known : List String)
  | noVariant (title : String)
  deriving Inhabited

namespace Json

/-- What a message calls a value. -/
def describe : Json → String
  | .null => "null"
  | .bool value => s!"boolean `{value}`"
  | .number (.int value) => s!"integer `{value}`"
  | .number (.float value) => "floating point `" ++ value.scientific ++ "`"
  | .string value => "string " ++ quote value
  | .array _ => "sequence"
  | .object _ => "map"

end Json

namespace DecodeError

/-- A choice of names in a message. -/
def choices (none : String) : List String → String
  | [] => none
  | [a] => s!"expected `{a}`"
  | [a, b] => s!"expected `{a}` or `{b}`"
  | names => "expected one of " ++ String.intercalate ", " (names.map fun n => s!"`{n}`")

def message : DecodeError → String
  | .wrongType found expected =>
      "invalid type: " ++ found.describe ++ ", expected " ++ expected
  | .wrongValue found expected =>
      "invalid value: " ++ found.describe ++ ", expected " ++ expected
  | .wrongLength count expected => s!"invalid length {count}, expected {expected}"
  | .missingField name => s!"missing field `{name}`"
  | .repeatedField name => s!"duplicate field `{name}`"
  | .unknownField name known =>
      s!"unknown field `{name}`, " ++ choices "there are no fields" known
  | .unknownVariant name known =>
      s!"unknown variant `{name}`, " ++ choices "there are no variants" known
  | .noVariant title => s!"data did not match any variant of untagged enum {title}"

end DecodeError

/-- A way to write values of a type as JSON and to read them back. -/
structure Codec (α : Type) where
  encode : α → Json
  decode : Json → Except DecodeError α

namespace Codec

def json : Codec Json where
  encode value := value
  decode value := .ok value

def string : Codec String where
  encode := .string
  decode
    | .string value => .ok value
    | found => .error (.wrongType found "a string")

def bool : Codec Bool where
  encode := .bool
  decode
    | .bool value => .ok value
    | found => .error (.wrongType found "a boolean")

/-- Integers of thirty-two bits. -/
def int32 : Codec Int32 where
  encode value := .int value.toInt
  decode
    | .number (.int value) =>
        if -2147483648 ≤ value ∧ value ≤ 2147483647 then .ok (Int32.ofInt value)
        else .error (.wrongValue (.int value) "i32")
    | found => .error (.wrongType found "i32")

def decodeList {α : Type} (decode : Json → Except DecodeError α) :
    List Json → Except DecodeError (List α)
  | [] => .ok []
  | item :: rest => do
      let first ← decode item
      let others ← decodeList decode rest
      .ok (first :: others)

def list {α : Type} (item : Codec α) : Codec (List α) where
  encode values := .array (values.map item.encode)
  decode
    | .array items => decodeList item.decode items
    | found => .error (.wrongType found "a sequence")

def decodeEntries {α : Type} (decode : Json → Except DecodeError α) :
    List (String × Json) → Except DecodeError (List (String × α))
  | [] => .ok []
  | (name, value) :: rest => do
      let first ← decode value
      let others ← decodeEntries decode rest
      .ok ((name, first) :: others)

/-- Maps from text, as objects. -/
def map {α : Type} (value : Codec α) : Codec (SortedMap String α) where
  encode entries := .object (entries.toList.map fun e => (e.1, value.encode e.2))
  decode
    | .object members => (decodeEntries value.decode members).map SortedMap.ofList
    | found => .error (.wrongType found "a map")

/-- Null stands for an absent value. -/
def nullable {α : Type} (value : Codec α) : Codec (Option α) where
  encode := Json.ofOption value.encode
  decode
    | .null => .ok none
    | found => (value.decode found).map some

/-- A type written through another one. -/
def via {α β : Type} (under : Codec β) (into : α → β) (out : β → α) : Codec α where
  encode value := under.encode (into value)
  decode found := (under.decode found).map out

/-- Finitely many names: a string, or an object with the name as its only member and null. -/
def names {α : Type} (table : List (String × α)) (name : α → String) : Codec α where
  encode value := .string (name value)
  decode found :=
    let choose (written : String) : Except DecodeError α :=
      match table.find? fun entry => entry.1 == written with
      | some entry => .ok entry.2
      | none => .error (.unknownVariant written (table.map (·.1)))
    match found with
    | .string written => choose written
    | .object [(written, content)] =>
        match choose written with
        | .error fault => .error fault
        | .ok value => if content.isNull then .ok value else .error (.wrongType content "unit")
    | .object members => .error (.wrongValue (.object members) "map with a single key")
    | found => .error (.wrongType found "string or map")

end Codec

/-- One field of a record: how it is written (not at all, if there is no value), how it is read,
and what stands for it when an object has no such member or an array is too short. -/
structure Field (α : Type) where
  name : String
  encode : α → Option Json
  decode : Json → Except DecodeError α
  absentMember : Option α
  absentItem : Option α

namespace Field

/-- A field that must be there. -/
def required {α : Type} (name : String) (codec : Codec α) : Field α :=
  ⟨name, fun value => some (codec.encode value), codec.decode, none, none⟩

/-- A field with a default, which is written like any other value. -/
def defaulted {α : Type} (name : String) (codec : Codec α) (default : α) : Field α :=
  ⟨name, fun value => some (codec.encode value), codec.decode, some default, some default⟩

/-- A field that is written only when it differs from emptiness. -/
def sparse {α : Type} (name : String) (codec : Codec α) (default : α) (isEmpty : α → Bool) :
    Field α :=
  ⟨name, fun value => if isEmpty value then none else some (codec.encode value), codec.decode,
    some default, some default⟩

/-- A field that may be absent and is then not written. -/
def optional {α : Type} (name : String) (codec : Codec α) : Field (Option α) :=
  ⟨name, Option.map codec.encode, codec.nullable.decode, some none, some none⟩

/-- A field that may be absent and is then written as null. -/
def nullable {α : Type} (name : String) (codec : Codec α) : Field (Option α) :=
  defaulted name codec.nullable none

end Field

/-- The fields of a record in the order of their declaration. -/
inductive Record : Type → Type 1 where
  | nil : Record Unit
  | cons {α τ : Type} (field : Field α) (rest : Record τ) : Record (α × τ)

/-- A member of a name: its place, its value, and the place of the next member of that name. -/
structure Located where
  place : Nat
  value : Json
  again : Option Nat

/-- The place of the first member of a name, counted from a start. -/
def placeOf? (name : String) (start : Nat) : List (String × Json) → Option Nat
  | [] => none
  | (other, _) :: rest => if other = name then some start else placeOf? name (start + 1) rest

/-- The first member of a name. -/
def locate? (name : String) (start : Nat) : List (String × Json) → Option Located
  | [] => none
  | (other, value) :: rest =>
      if other = name then some ⟨start, value, placeOf? name (start + 1) rest⟩
      else locate? name (start + 1) rest

/-- The first member whose name is not among the known ones. -/
def stranger? (known : List String) (start : Nat) : List (String × Json) → Option (Nat × String)
  | [] => none
  | (name, _) :: rest =>
      if known.contains name then stranger? known (start + 1) rest else some (start, name)

/-- A fault and the place of the member it is at. -/
abbrev Placed (α : Type) := Except (Nat × DecodeError) α

namespace Placed

/-- Both values, or the fault at the earlier place; at one place the first fault. -/
def both {α β : Type} : Placed α → Placed β → Placed (α × β)
  | .ok a, .ok b => .ok (a, b)
  | .error fault, .error other => .error (if other.1 < fault.1 then other else fault)
  | .error fault, .ok _ => .error fault
  | .ok _, .error fault => .error fault

end Placed

namespace Field

/-- Reads a field out of the members of an object. A missing field is a fault after all members. -/
def fromMembers {α : Type} (field : Field α) (members : List (String × Json)) : Placed α :=
  match locate? field.name 0 members with
  | none =>
      match field.absentMember with
      | some value => .ok value
      | none => .error (members.length, .missingField field.name)
  | some located =>
      match field.decode located.value with
      | .error fault => .error (located.place, fault)
      | .ok value =>
          match located.again with
          | some place => .error (place, .repeatedField field.name)
          | none => .ok value

end Field

namespace Record

def names {τ : Type} : Record τ → List String
  | .nil => []
  | .cons field rest => field.name :: rest.names

/-- The members of the object that stands for a record. -/
def toMembers {τ : Type} : Record τ → τ → List (String × Json)
  | .nil, () => []
  | .cons field rest, (value, others) =>
      match field.encode value with
      | some written => (field.name, written) :: rest.toMembers others
      | none => rest.toMembers others

def fromMembers {τ : Type} (members : List (String × Json)) : Record τ → Placed τ
  | .nil => .ok ()
  | .cons field rest => (field.fromMembers members).both (rest.fromMembers members)

/-- Reads the fields from items by position; a field that finds no item needs a default. -/
def fromItems {τ : Type} (place : Nat) (short : String) :
    Record τ → List Json → Except DecodeError (τ × List Json)
  | .nil, items => .ok ((), items)
  | .cons field rest, [] => do
      let value ← match field.absentItem with
        | some value => .ok value
        | none => .error (.wrongLength place short)
      let (others, left) ← rest.fromItems (place + 1) short []
      .ok ((value, others), left)
  | .cons field rest, item :: items => do
      let value ← field.decode item
      let (others, left) ← rest.fromItems (place + 1) short items
      .ok ((value, others), left)

/-- What a message says about the number of fields. -/
def lengthText (title : String) (count : Nat) : String :=
  s!"struct {title} with {count} element" ++ (if count = 1 then "" else "s")

/-- Reads a record from an object, or from an array unless the type forbids that; a strict record
has no members but its fields. -/
def decode {τ : Type} (title : String) (strict : Bool) (record : Record τ) :
    Json → Except DecodeError τ
  | .object members =>
      let known := record.names
      let stranger : Placed Unit :=
        if strict then
          match stranger? known 0 members with
          | some (place, name) => .error (place, .unknownField name known)
          | none => .ok ()
        else .ok ()
      match stranger.both (record.fromMembers members) with
      | .ok (_, values) => .ok values
      | .error (_, fault) => .error fault
  | .array items => do
      let (values, left) ← record.fromItems 0 (lengthText title record.names.length) items
      if left.isEmpty then .ok values
      else .error (.wrongLength items.length "fewer elements in array")
  | found => .error (.wrongType found s!"struct {title}")

/-- The codec of a structure with the fields of a record. -/
def codec {σ τ : Type} (title : String) (record : Record τ) (split : σ → τ) (join : τ → σ) :
    Codec σ where
  encode value := .object (record.toMembers (split value))
  decode found := (record.decode title false found).map join

/-- The codec of a structure that refuses members it does not know. -/
def strictCodec {σ τ : Type} (title : String) (record : Record τ) (split : σ → τ)
    (join : τ → σ) : Codec σ where
  encode value := .object (record.toMembers (split value))
  decode found := (record.decode title true found).map join

end Record

end Provisioning
