import Provisioning.Json.Decode

/-!
What the resources of a subscription share: tags, and references to other resources by id.
-/

namespace Provisioning.Azure

/-- Tags of a resource. -/
abbrev Tags := SortedMap String String

def tagsCodec : Codec Tags := .map .string

/-- A field with tags, which is always written. -/
def tagsField : Field Tags := .defaulted "tags" tagsCodec ∅

/-- A field with text that may be absent. -/
def textField (name : String) : Field (Option String) := .optional name .string

/-- A reference to another resource by its id. -/
structure SubResource where
  id : Option String
  deriving DecidableEq, Repr

namespace SubResource

def ofId (id : String) : SubResource := ⟨some id⟩

def codec : Codec SubResource :=
  Record.codec "SubResource" (.cons (textField "id") .nil)
    (fun r => (r.id, ())) (fun (id, ()) => ⟨id⟩)

end SubResource

end Provisioning.Azure
