import Provisioning.Json.Basic

/-!
JSON text. A string escapes the quote, the backslash and the control characters below U+0020, and
nothing else. `Json.render` writes no blanks; `Json.pretty` puts every item and member on a line of
its own, indented by two blanks a level.
-/

namespace Provisioning.Json

/-- How one character stands inside a string literal. -/
def escapeChar (c : Char) : List Char :=
  match c with
  | '"' => ['\\', '"']
  | '\\' => ['\\', '\\']
  | '\x08' => ['\\', 'b']
  | '\x0c' => ['\\', 'f']
  | '\n' => ['\\', 'n']
  | '\r' => ['\\', 'r']
  | '\t' => ['\\', 't']
  | c =>
      if c.toNat < 32 then
        ['\\', 'u', '0', '0', Nat.digitChar (c.toNat / 16), Nat.digitChar (c.toNat % 16)]
      else [c]

/-- A string literal. -/
def literal (s : String) : List Char := '"' :: s.toList.flatMap escapeChar ++ ['"']

mutual

/-- The text of a value without blanks. -/
def renderList : Json → List Char
  | .null => ['n', 'u', 'l', 'l']
  | .bool true => ['t', 'r', 'u', 'e']
  | .bool false => ['f', 'a', 'l', 's', 'e']
  | .number value => value.render.toList
  | .string value => literal value
  | .array items => '[' :: renderItems items ++ [']']
  | .object members => '\x7b' :: renderMembers members ++ ['\x7d']

def renderItems : List Json → List Char
  | [] => []
  | [item] => renderList item
  | item :: next :: rest => renderList item ++ ',' :: renderItems (next :: rest)

def renderMembers : List (String × Json) → List Char
  | [] => []
  | [(name, value)] => literal name ++ ':' :: renderList value
  | (name, value) :: next :: rest =>
      literal name ++ ':' :: renderList value ++ ',' :: renderMembers (next :: rest)

end

/-- The text of a value on one line. -/
def render (value : Json) : String := String.ofList (renderList value)

/-- The start of a line at a depth. -/
def indentation (depth : Nat) : List Char := '\n' :: List.replicate (2 * depth) ' '

mutual

/-- The text of a value that begins at a depth. -/
def prettyList (depth : Nat) : Json → List Char
  | .array [] => ['[', ']']
  | .array (item :: rest) =>
      '[' :: prettyItems (depth + 1) (item :: rest) ++ indentation depth ++ [']']
  | .object [] => ['\x7b', '\x7d']
  | .object (member :: rest) =>
      '\x7b' :: prettyMembers (depth + 1) (member :: rest) ++ indentation depth ++ ['\x7d']
  | .null => renderList .null
  | .bool value => renderList (.bool value)
  | .number value => renderList (.number value)
  | .string value => renderList (.string value)

def prettyItems (depth : Nat) : List Json → List Char
  | [] => []
  | [item] => indentation depth ++ prettyList depth item
  | item :: next :: rest =>
      indentation depth ++ prettyList depth item ++ ',' :: prettyItems depth (next :: rest)

def prettyMembers (depth : Nat) : List (String × Json) → List Char
  | [] => []
  | [(name, value)] => indentation depth ++ literal name ++ ':' :: ' ' :: prettyList depth value
  | (name, value) :: next :: rest =>
      indentation depth ++ literal name ++ ':' :: ' ' :: prettyList depth value ++
        ',' :: prettyMembers depth (next :: rest)

end

/-- The text of a value on many lines. -/
def pretty (value : Json) : String := String.ofList (prettyList 0 value)

end Provisioning.Json
