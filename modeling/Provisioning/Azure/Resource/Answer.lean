import Provisioning.Json.Decode

/-!
What surrounds resources in answers of the management endpoint: pages of lists, and errors.
-/

namespace Provisioning.Azure

/-- One page of a list and the address of the next one. -/
structure Page (α : Type) where
  items : List α
  nextLink : Option String
  deriving DecidableEq, Repr

namespace Page

def codec {α : Type} (item : Codec α) : Codec (Page α) :=
  Record.codec "Page"
    (.cons (.defaulted "value" (.list item) []) <|
      .cons (.nullable "nextLink" .string) .nil)
    (fun p => (p.items, p.nextLink, ())) (fun (items, next, ()) => ⟨items, next⟩)

end Page

/-- A code with a message; empty texts where the answer has none. -/
structure ErrorBody where
  code : String
  message : String
  deriving DecidableEq, Repr

namespace ErrorBody

def empty : ErrorBody := ⟨"", ""⟩

def codec : Codec ErrorBody :=
  Record.codec "ErrorBody"
    (.cons (.defaulted "code" .string "") <| .cons (.defaulted "message" .string "") .nil)
    (fun b => (b.code, b.message, ())) (fun (code, message, ()) => ⟨code, message⟩)

/-- An error as the only member of an answer. -/
def wrapped : Codec ErrorBody :=
  Record.codec "ErrorResponse" (.cons (.defaulted "error" codec empty) .nil)
    (fun b => (b, ())) (fun (b, ()) => b)

end ErrorBody

end Provisioning.Azure
