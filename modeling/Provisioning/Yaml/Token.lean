import Provisioning.Text.Utf8
import Provisioning.Yaml.Scalar

/-!
The tokens of YAML text. Indentation becomes start and end tokens of block collections. A key
without an indicator of its own is recognised by the colon after it: its token is put in front of
what was read since the place where the key could have begun.
-/

namespace Provisioning.Yaml

inductive Token where
  | streamEnd
  | version (major minor : Nat)
  | tagShorthand (handle uri : String)
  | documentStart
  | documentEnd
  | blockSequenceStart
  | blockMappingStart
  | blockEnd
  | flowSequenceStart
  | flowSequenceEnd
  | flowMappingStart
  | flowMappingEnd
  | blockEntry
  | flowEntry
  | key
  | value
  | alias (name : String)
  | anchor (name : String)
  | tag (handle suffix : String)
  | scalar (text : String) (plain : Bool)
  deriving DecidableEq, Repr

/-- A place where a key may have begun: the number of tokens before it, where it stands in the
text, and whether nothing but a key can stand there. -/
structure PossibleKey where
  tokens : Nat
  index : Nat
  line : Nat
  column : Nat
  required : Bool

/-- The state of reading tokens: the open block collections by their columns, how deep flow
collections are nested, whether a key may begin here, and for every level where one may have
begun. -/
structure Lexer where
  cursor : Cursor
  tokens : Array Token
  indents : List Nat
  keyAllowed : Bool
  keys : List (Option PossibleKey)
  finished : Bool

namespace Lexer

def start (text : List Char) : Lexer :=
  ⟨.ofList text, #[], [], true, [none], false⟩

/-- How deep flow collections are nested here. -/
def flowDepth (l : Lexer) : Nat := l.keys.length - 1

def inFlow (l : Lexer) : Bool := 0 < l.flowDepth

/-- The least column of what is inside the innermost block collection. -/
def margin (l : Lexer) : Nat :=
  match l.indents with
  | [] => 0
  | column :: _ => column + 1

def emit (l : Lexer) (t : Token) : Lexer := { l with tokens := l.tokens.push t }

/-- Emits a token for characters at the front of the line. -/
def emitOver (l : Lexer) (t : Token) (n : Nat) : Lexer :=
  { l with tokens := l.tokens.push t, cursor := l.cursor.advance n }

/-- Closes the block collections that start right of a column. -/
def closeTo (l : Lexer) (stays : Nat → Bool) : Lexer :=
  if l.inFlow then l
  else
    let closed := l.indents.takeWhile fun column => !stays column
    { l with
      tokens := l.tokens ++ (closed.map fun _ => Token.blockEnd).toArray
      indents := l.indents.drop closed.length }

/-- Opens a block collection at a column unless one is open there; its token goes to a place. -/
def openAt (l : Lexer) (column place : Nat) (t : Token) : Lexer :=
  if l.inFlow || column < l.margin then l
  else { l with
    tokens := l.tokens.insertIdxIfInBounds place t
    indents := column :: l.indents }

/-- Whether a key may still be completed: it ends on its line, at most 1024 bytes on. -/
def stillPossible (l : Lexer) (k : PossibleKey) : Bool :=
  k.line == l.cursor.line && l.cursor.index ≤ k.index + 1024

/-- Gives up keys that can no longer be completed; it is a fault if one of them had to be. -/
def dropStaleKeys (l : Lexer) : Option Lexer :=
  let stale (k : Option PossibleKey) : Bool := k.any fun k => !l.stillPossible k
  if l.keys.any fun k => stale k && k.any (·.required) then none
  else some { l with keys := l.keys.map fun k => if stale k then none else k }

/-- Gives up the key of the current level; it is a fault if there had to be one. -/
def dropKey (l : Lexer) : Option Lexer :=
  match l.keys with
  | some k :: rest => if k.required then none else some { l with keys := none :: rest }
  | _ => some l

/-- Remembers that a key may begin here. -/
def saveKey (l : Lexer) : Option Lexer :=
  if l.keyAllowed then do
    let required := !l.inFlow && l.indents.head? == some l.cursor.column
    let l ← l.dropKey
    let c := l.cursor
    some { l with keys := some ⟨l.tokens.size, c.index, c.line, c.column, required⟩ :: l.keys.tail }
  else some l

def allowKey (l : Lexer) (allowed : Bool) : Lexer := { l with keyAllowed := allowed }

/-- Moves over blanks, comments and line ends before a token. A byte order mark at the front of a
line is dropped, and takes up a column. -/
def skipToToken : (fuel : Nat) → Lexer → Lexer
  | 0, l => l
  | fuel + 1, l =>
      let blank (c : Char) : Bool := c == ' ' || ((l.inFlow || !l.keyAllowed) && c == '\t')
      let c := (l.cursor.skipByteOrderMark.skipWhile blank).skipComment
      if (c.peek?).any isBreak then
        let next := { l with cursor := c.takeBreak.2 }
        skipToToken fuel (if l.inFlow then next else next.allowKey true)
      else { l with cursor := c }

/-- Letters of names of anchors and directives. -/
def isNameChar (c : Char) : Bool := c.isAlphanum || c == '_' || c == '-'

/-- The name of an anchor or alias, after its indicator. -/
def anchorName (c : Cursor) : Option (String × Cursor) :=
  let (name, next) := c.takeWhile isNameChar
  let ends := next.gapAt 0 || (next.peek?).any fun x =>
    ['?', ':', ',', ']', '\x7d', '%', '@', '\x60'].contains x
  if name.isEmpty || !ends then none else some (String.ofList name, next)

/-- Characters of a tag besides escapes. -/
def isUriChar (c : Char) : Bool :=
  isNameChar c || [';', '/', '?', ':', '@', '&', '=', '+', '$', '.', '!', '~', '*', '\'', '(',
    ')'].contains c

/-- The bytes of a run of percent escapes. -/
def percentBytes : (fuel : Nat) → List Char → Option (List UInt8 × List Char)
  | fuel + 1, '%' :: a :: b :: rest => do
      let high ← Json.hexValue? a
      let low ← Json.hexValue? b
      let (bytes, rest) ← percentBytes fuel rest
      some (UInt8.ofNat (high * 16 + low) :: bytes, rest)
  | _, '%' :: _ => none
  | _, rest => some ([], rest)

/-- How many octets a leading octet asks for after it. -/
def trailingOctets (lead : UInt8) : Option Nat :=
  if lead < 0x80 then some 0
  else if lead < 0xC0 then none
  else if lead < 0xE0 then some 1
  else if lead < 0xF0 then some 2
  else if lead < 0xF8 then some 3
  else none

/-- Whether every leading octet is followed by what it asks for, where some are still due. -/
def areCharacters : (due : Nat) → List UInt8 → Bool
  | due, [] => due == 0
  | 0, lead :: rest => (trailingOctets lead).any fun due => areCharacters due rest
  | due + 1, trail :: rest => Text.Utf8.isContinuation trail && areCharacters due rest

/-- The text of escaped octets. Octets that have the form of a character but stand for none are
replaced. -/
def octetText (octets : List UInt8) : Option (List Char) :=
  if areCharacters 0 octets then some (Text.Utf8.decode octets).toList else none

/-- The text of a tag: characters and percent escapes of text. -/
def uriText (extra : Char → Bool) : (fuel : Nat) → Cursor → Option (List Char × Cursor)
  | 0, c => some ([], c)
  | fuel + 1, c =>
      match c.peek? with
      | none => some ([], c)
      | some x =>
          if x == '%' then do
            let (bytes, rest) ← percentBytes (c.rest.length + 1) c.rest
            let text ← octetText bytes
            let next := c.advance (c.rest.length - rest.length)
            let (more, stop) ← uriText extra fuel next
            some (text ++ more, stop)
          else if isUriChar x || extra x then do
            let (more, stop) ← uriText extra fuel (c.advance 1)
            some (x :: more, stop)
          else some ([], c)

def uri (extra : Char → Bool) (c : Cursor) : Option (List Char × Cursor) :=
  uriText extra (c.rest.length + 1) c

/-- The handle of a tag, with the exclamation mark at its end if there is one. -/
def tagHandle (c : Cursor) : List Char × Cursor :=
  let (name, next) := (c.advance 1).takeWhile isNameChar
  if next.isAt '!' then ('!' :: name ++ ['!'], next.advance 1) else ('!' :: name, next)

/-- Text up to a NUL, which ends every part of a tag. -/
def tagPart (text : List Char) : String := String.ofList (text.takeWhile (· != '\x00'))

/-- A tag: verbatim between angle brackets, or a handle with a suffix. -/
def tagToken (l : Lexer) : Option Lexer := do
  let c := l.cursor
  let (handle, suffix, next) ←
    if c.ahead? 1 == some '<' then do
      let (text, next) ← uri (fun x => [',', '[', ']'].contains x) (c.advance 2)
      if next.isAt '>' && !text.isEmpty then some ("", tagPart text, next.advance 1) else none
    else
      let (handle, next) := tagHandle c
      if 2 ≤ handle.length && handle.getLast? == some '!' then do
        let (text, next) ← uri (fun _ => false) next
        if text.isEmpty then none else some (String.ofList handle, tagPart text, next)
      else do
        let (text, next) ← uri (fun _ => false) next
        let suffix := tagPart (handle.drop 1 ++ text)
        if suffix.isEmpty then some ("", "!", next) else some ("!", suffix, next)
  if next.gapAt 0 || (l.inFlow && next.isAt ',') then
    some { l with tokens := l.tokens.push (.tag handle suffix), cursor := next }
  else none

/-- A number of a version: up to nine digits. -/
def versionNumber (c : Cursor) : Option (Nat × Cursor) :=
  let (ds, next) := c.takeWhile Char.isDigit
  if ds.isEmpty || 9 < ds.length then none
  else some (ds.foldl (fun n d => n * 10 + (d.toNat - 48)) 0, next)

/-- A directive: the version or a shorthand for tags. -/
def directive (l : Lexer) : Option Lexer := do
  let (name, c) := (l.cursor.advance 1).takeWhile isNameChar
  if name.isEmpty || !c.gapAt 0 then none
  else do
    let c := c.skipWhile isBlankChar
    let (token, c) ←
      if String.ofList name == "YAML" then do
        let (major, c) ← versionNumber c
        if !c.isAt '.' then none
        else do
          let (minor, c) ← versionNumber (c.advance 1)
          some (Token.version major minor, c)
      else if String.ofList name == "TAG" then do
        if !c.isAt '!' then none
        else do
          let (handle, c) := tagHandle c
          if !(handle == ['!'] || handle.getLast? == some '!') || !c.blankAt 0 then none
          else do
            let (text, c) ← uri (fun x => [',', '[', ']'].contains x) (c.skipWhile isBlankChar)
            if text.isEmpty || !c.gapAt 0 then none
            else some (Token.tagShorthand (String.ofList handle) (tagPart text), c)
      else none
    let c := (c.skipWhile isBlankChar).skipComment
    if c.breakOrEndAt 0 then
      some { l with
        tokens := l.tokens.push token
        cursor := if c.atEnd then c else c.takeBreak.2 }
    else none

/-- The end of the text closes everything that is open in block style. -/
def finish (l : Lexer) : Option Lexer := do
  let l ← (l.closeTo fun _ => false).dropKey
  some { (l.allowKey false).emit .streamEnd with finished := true }

def openFlow (l : Lexer) (t : Token) : Option Lexer := do
  let l ← l.saveKey
  some (({ l with keys := none :: l.keys }.allowKey true).emitOver t 1)

def closeFlow (l : Lexer) (t : Token) : Option Lexer := do
  let l ← l.dropKey
  let keys := match l.keys with
    | _ :: outer :: rest => outer :: rest
    | keys => keys
  some (({ l with keys := keys }.allowKey false).emitOver t 1)

def blockEntry (l : Lexer) : Option Lexer := do
  if !l.inFlow && !l.keyAllowed then none
  else do
    let l ← (l.openAt l.cursor.column l.tokens.size .blockSequenceStart).dropKey
    some ((l.allowKey true).emitOver .blockEntry 1)

def explicitKey (l : Lexer) : Option Lexer := do
  if !l.inFlow && !l.keyAllowed then none
  else do
    let l ← (l.openAt l.cursor.column l.tokens.size .blockMappingStart).dropKey
    some ((l.allowKey (!l.inFlow)).emitOver .key 1)

/-- A colon: it completes the key that was possible at this level, or stands after an explicit
one. -/
def mappingValue (l : Lexer) : Option Lexer :=
  match l.keys with
  | some k :: rest =>
      let l := { l with tokens := l.tokens.insertIdxIfInBounds k.tokens .key, keys := none :: rest }
      some (((l.openAt k.column k.tokens .blockMappingStart).allowKey false).emitOver .value 1)
  | _ =>
      if !l.inFlow && !l.keyAllowed then none
      else
        let l := l.openAt l.cursor.column l.tokens.size .blockMappingStart
        some ((l.allowKey (!l.inFlow)).emitOver .value 1)

def nameToken (l : Lexer) (make : String → Token) : Option Lexer := do
  let l ← l.saveKey
  let (name, next) ← anchorName (l.cursor.advance 1)
  some { (l.allowKey false).emit (make name) with cursor := next }

def blockScalarToken (l : Lexer) (folded : Bool) : Option Lexer := do
  let l ← l.dropKey
  let (text, next) ← blockScalar folded l.margin l.cursor
  some { (l.allowKey true).emit (.scalar (String.ofList text) false) with cursor := next }

def quotedToken (l : Lexer) (double : Bool) : Option Lexer := do
  let l ← l.saveKey
  let (text, next) ← quotedScalar double l.cursor
  some { (l.allowKey false).emit (.scalar (String.ofList text) false) with cursor := next }

def plainToken (l : Lexer) : Option Lexer := do
  let l ← l.saveKey
  let (text, broken, next) ← plainScalar l.inFlow l.margin l.cursor
  some { (l.allowKey broken).emit (.scalar (String.ofList text) true) with cursor := next }

/-- Characters that do not begin a plain scalar. -/
def isIndicator (c : Char) : Bool :=
  ['-', '?', ':', ',', '[', ']', '\x7b', '\x7d', '#', '&', '*', '!', '|', '>', '\'', '"', '%',
    '@', '\x60'].contains c

/-- Whether a plain scalar begins here. -/
def atPlain (l : Lexer) (x : Char) : Bool :=
  let c := l.cursor
  (!c.gapAt 0 && !isIndicator x) || (x == '-' && !c.blankAt 1) ||
    (!l.inFlow && (x == '?' || x == ':') && !c.gapAt 1)

/-- Reads the next token. -/
def next (l : Lexer) : Option Lexer := do
  let l := l.skipToToken (l.cursor.rest.length + 1)
  let l ← l.dropStaleKeys
  let c := l.cursor
  let l := l.closeTo fun column => column ≤ c.column
  match c.peek? with
  | none => l.finish
  | some x =>
      if c.column == 0 && x == '%' then do
        let l ← (l.closeTo fun _ => false).dropKey
        (l.allowKey false).directive
      else if c.atDocumentMarker then do
        let l ← (l.closeTo fun _ => false).dropKey
        some ((l.allowKey false).emitOver (if x == '-' then .documentStart else .documentEnd) 3)
      else if x == '[' then l.openFlow .flowSequenceStart
      else if x == '\x7b' then l.openFlow .flowMappingStart
      else if x == ']' then l.closeFlow .flowSequenceEnd
      else if x == '\x7d' then l.closeFlow .flowMappingEnd
      else if x == ',' then do
        let l ← l.dropKey
        some ((l.allowKey true).emitOver .flowEntry 1)
      else if x == '-' && c.gapAt 1 then l.blockEntry
      else if x == '?' && (l.inFlow || c.gapAt 1) then l.explicitKey
      else if x == ':' && (l.inFlow || c.gapAt 1) then l.mappingValue
      else if x == '*' then l.nameToken .alias
      else if x == '&' then l.nameToken .anchor
      else if x == '!' then do
        let l ← l.saveKey
        (l.allowKey false).tagToken
      else if x == '|' && !l.inFlow then l.blockScalarToken false
      else if x == '>' && !l.inFlow then l.blockScalarToken true
      else if x == '\'' then l.quotedToken false
      else if x == '"' then l.quotedToken true
      else if l.atPlain x then l.plainToken
      else none

/-- Reads tokens up to the end of the text. -/
def run : (fuel : Nat) → Lexer → Option (Array Token)
  | 0, _ => none
  | fuel + 1, l =>
      if l.finished then some l.tokens
      else do
        let l ← l.next
        run fuel l

end Lexer

/-- The tokens of a text; nothing if it holds a character that is not allowed, or no sequence of
tokens. -/
def tokens? (text : String) : Option (List Token) :=
  let cs := text.toList
  if cs.all isAllowed then (Lexer.run (cs.length + 3) (.start cs)).map Array.toList else none

end Provisioning.Yaml
