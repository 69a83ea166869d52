/-!
A place in YAML text: the characters that are left, with the line and column of the first of them
and the number of bytes before it.
-/

namespace Provisioning.Yaml

/-- A character that ends a line. -/
def isBreak (c : Char) : Bool :=
  c == '\n' || c == '\r' || c.toNat == 0x85 || c.toNat == 0x2028 || c.toNat == 0x2029

/-- A blank within a line. -/
def isBlankChar (c : Char) : Bool := c == ' ' || c == '\t'

/-- Characters that YAML text may hold. -/
def isAllowed (c : Char) : Bool :=
  let n := c.toNat
  n == 0x09 || n == 0x0A || n == 0x0D || (0x20 ≤ n && n ≤ 0x7E) || n == 0x85 ||
    (0xA0 ≤ n && n ≤ 0xD7FF) || (0xE000 ≤ n && n ≤ 0xFFFD) || 0x10000 ≤ n

structure Cursor where
  rest : List Char
  index : Nat
  line : Nat
  column : Nat

namespace Cursor

def ofList (text : List Char) : Cursor := ⟨text, 0, 0, 0⟩

def peek? (c : Cursor) : Option Char := c.rest.head?

/-- The character some places ahead. -/
def ahead? (c : Cursor) (n : Nat) : Option Char := c.rest[n]?

def atEnd (c : Cursor) : Bool := c.rest.isEmpty

def isAt (c : Cursor) (x : Char) : Bool := c.peek? == some x

def blankAt (c : Cursor) (n : Nat) : Bool := (c.ahead? n).any isBlankChar

/-- Whether a line ends some places ahead. -/
def breakOrEndAt (c : Cursor) (n : Nat) : Bool := (c.ahead? n).all isBreak

/-- Whether a token ends some places ahead: at a blank, at a line end or at the end. -/
def gapAt (c : Cursor) (n : Nat) : Bool := (c.ahead? n).all fun x => isBlankChar x || isBreak x

/-- The number of bytes that characters take up. -/
def byteCount (text : List Char) : Nat := text.foldl (fun total x => total + x.utf8Size) 0

/-- Moves over characters of the line. -/
def advance (c : Cursor) (n : Nat) : Cursor :=
  { c with
    rest := c.rest.drop n
    index := c.index + byteCount (c.rest.take n)
    column := c.column + n }

/-- Moves over the end of a line; a carriage return and a line feed are one. Gives what it stands
for in a scalar. -/
def takeBreak (c : Cursor) : List Char × Cursor :=
  match c.rest with
  | '\r' :: '\n' :: rest => (['\n'], ⟨rest, c.index + 2, c.line + 1, 0⟩)
  | x :: rest =>
      let text := if x.toNat == 0x2028 || x.toNat == 0x2029 then [x] else ['\n']
      (text, ⟨rest, c.index + x.utf8Size, c.line + 1, 0⟩)
  | [] => ([], c)

/-- Moves over the characters at the front that pass a test, none of which ends a line. -/
def takeWhile (c : Cursor) (test : Char → Bool) : List Char × Cursor :=
  let taken := c.rest.takeWhile test
  (taken, c.advance taken.length)

def skipWhile (c : Cursor) (test : Char → Bool) : Cursor := (c.takeWhile test).2

/-- Moves over a comment to the end of the line. -/
def skipComment (c : Cursor) : Cursor :=
  if c.isAt '#' then c.skipWhile fun x => !isBreak x else c

/-- Moves over a byte order mark at the front of a line. -/
def skipByteOrderMark (c : Cursor) : Cursor :=
  if c.column == 0 && (c.peek?).any (·.toNat == 0xFEFF) then c.advance 1 else c

/-- Whether a line starts with the marker that begins or ends a document. -/
def atMarker (c : Cursor) (x : Char) : Bool :=
  c.column == 0 && c.rest.take 3 == [x, x, x] && c.gapAt 3

def atDocumentMarker (c : Cursor) : Bool := c.atMarker '-' || c.atMarker '.'

end Cursor

end Provisioning.Yaml
