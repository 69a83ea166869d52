import Provisioning.Json.Parser
import Provisioning.Yaml.Cursor

/-!
The scalars of YAML text: plain ones, quoted ones and block scalars. Line ends inside a plain or
quoted scalar are folded: a single one becomes a blank, of several the first one is dropped.
-/

namespace Provisioning.Yaml

/-- Blanks and line ends between two words of a scalar: blanks on the line, the first line end, and
the line ends after it. -/
structure Gap where
  blanks : List Char
  first : Option (List Char)
  later : List Char

namespace Gap

def none : Gap := ⟨[], .none, []⟩

/-- What a gap becomes in the text of the scalar. -/
def fold (g : Gap) : List Char :=
  match g.first with
  | .none => g.blanks
  | .some ['\n'] => if g.later.isEmpty then [' '] else g.later
  | .some text => text ++ g.later

end Gap

/-- Moves over a gap. Blanks at the start of a line are dropped; a tab among them, left of a given
column, is a fault. -/
def takeGap (margin : Nat) : (fuel : Nat) → Gap → Cursor → Option (Gap × Cursor)
  | 0, g, c => some (g, c)
  | fuel + 1, g, c =>
      match c.peek? with
      | .none => some (g, c)
      | .some x =>
          if isBlankChar x then
            match g.first with
            | .some _ =>
                if x == '\t' && c.column < margin then .none
                else takeGap margin fuel g (c.advance 1)
            | .none => takeGap margin fuel { g with blanks := g.blanks ++ [x] } (c.advance 1)
          else if isBreak x then
            let (text, next) := c.takeBreak
            match g.first with
            | .none => takeGap margin fuel { g with blanks := [], first := .some text } next
            | .some _ => takeGap margin fuel { g with later := g.later ++ text } next
          else some (g, c)

def isFlowIndicator (c : Char) : Bool :=
  c == ',' || c == '[' || c == ']' || c == '\x7b' || c == '\x7d'

/-- A word of a plain scalar: it ends before a gap, before a colon with a gap after it, and in flow
style before an indicator. A colon right before an indicator is a fault in flow style. -/
def plainWord (flow : Bool) : (fuel : Nat) → Cursor → Option (List Char × Cursor)
  | 0, c => some ([], c)
  | fuel + 1, c =>
      match c.peek? with
      | none => some ([], c)
      | some x =>
          if c.gapAt 0 then some ([], c)
          else if flow && x == ':' && (c.ahead? 1).any fun y => isFlowIndicator y || y == '?' then
            none
          else if (x == ':' && c.gapAt 1) || (flow && isFlowIndicator x) then some ([], c)
          else (plainWord flow fuel (c.advance 1)).map fun (word, c) => (x :: word, c)

/-- The words of a plain scalar with the folded gaps between them, and whether a line end follows
the last word. -/
def plainWords (flow : Bool) (margin : Nat) :
    (fuel : Nat) → Gap → Cursor → Option (List Char × Bool × Cursor)
  | 0, g, c => some ([], g.first.isSome, c)
  | fuel + 1, g, c =>
      if c.atDocumentMarker || c.isAt '#' then some ([], g.first.isSome, c)
      else do
        let (word, next) ← plainWord flow (c.rest.length + 1) c
        let lead := if word.isEmpty then [] else g.fold ++ word
        let pending := if word.isEmpty then g else .none
        if next.atEnd || !next.gapAt 0 then some (lead, pending.first.isSome, next)
        else do
          let (gap, after) ← takeGap margin (next.rest.length + 1) pending next
          if !flow && after.column < margin then some (lead, gap.first.isSome, after)
          else do
            let (rest, broken, stop) ← plainWords flow margin fuel gap after
            some (lead ++ rest, broken, stop)

/-- A plain scalar. -/
def plainScalar (flow : Bool) (margin : Nat) (c : Cursor) : Option (List Char × Bool × Cursor) :=
  plainWords flow margin (c.rest.length + 1) .none c

/-- The value of a run of hexadecimal digits. -/
def hexDigits (ds : List Char) : Option Nat :=
  ds.foldlM (fun n d => (Json.hexValue? d).map fun v => n * 16 + v) 0

/-- The character of a numbered escape with a count of digits. -/
def numberedEscape (count : Nat) (c : Cursor) : Option (Char × Cursor) := do
  let ds := c.rest.take count
  if ds.length < count then none
  else do
    let n ← hexDigits ds
    if (0xD800 ≤ n && n ≤ 0xDFFF) || 0x10FFFF < n then none
    else some (Char.ofNat n, c.advance count)

/-- The character of an escape in a double-quoted scalar, after the backslash. -/
def escapedChar (c : Cursor) : Option (Char × Cursor) :=
  match c.peek? with
  | none => none
  | some x =>
      let next := c.advance 1
      match x with
      | '0' => some ('\x00', next)
      | 'a' => some ('\x07', next)
      | 'b' => some ('\x08', next)
      | 't' | '\t' => some ('\t', next)
      | 'n' => some ('\n', next)
      | 'v' => some ('\x0b', next)
      | 'f' => some ('\x0c', next)
      | 'r' => some ('\r', next)
      | 'e' => some ('\x1b', next)
      | ' ' => some (' ', next)
      | '"' => some ('"', next)
      | '/' => some ('/', next)
      | '\\' => some ('\\', next)
      | 'N' => some (Char.ofNat 0x85, next)
      | '_' => some (Char.ofNat 0xA0, next)
      | 'L' => some (Char.ofNat 0x2028, next)
      | 'P' => some (Char.ofNat 0x2029, next)
      | 'x' => numberedEscape 2 next
      | 'u' => numberedEscape 4 next
      | 'U' => numberedEscape 8 next
      | _ => none

/-- The rest of a quoted scalar, after its opening quote. -/
def quotedRest (double : Bool) : (fuel : Nat) → Cursor → Option (List Char × Cursor)
  | 0, _ => none
  | fuel + 1, c =>
      let quote := if double then '"' else '\''
      if c.atDocumentMarker then none
      else match c.peek? with
        | none => none
        | some x =>
            if x == quote then
              if !double && c.ahead? 1 == some quote then do
                let (text, stop) ← quotedRest double fuel (c.advance 2)
                some (quote :: text, stop)
              else some ([], c.advance 1)
            else if double && x == '\\' then
              let next := c.advance 1
              if (next.peek?).any isBreak then do
                let (_, next) := next.takeBreak
                let (gap, after) ← takeGap 0 (next.rest.length + 1) ⟨[], some [], []⟩ next
                let (text, stop) ← quotedRest double fuel after
                some (gap.fold ++ text, stop)
              else do
                let (y, next) ← escapedChar next
                let (text, stop) ← quotedRest double fuel next
                some (y :: text, stop)
            else if isBlankChar x || isBreak x then do
              let (gap, after) ← takeGap 0 (c.rest.length + 1) .none c
              let (text, stop) ← quotedRest double fuel after
              some (gap.fold ++ text, stop)
            else do
              let (text, stop) ← quotedRest double fuel (c.advance 1)
              some (x :: text, stop)

/-- A quoted scalar. -/
def quotedScalar (double : Bool) (c : Cursor) : Option (List Char × Cursor) :=
  quotedRest double (c.rest.length + 1) (c.advance 1)

/-- What is done with the line ends at the end of a block scalar. -/
inductive Chomping where
  | strip
  | clip
  | keep

/-- The indicators after the one that opens a block scalar: chomping and indentation. -/
def blockHeader (c : Cursor) : Option (Chomping × Option Nat × Cursor) :=
  let chomping? (x : Option Char) : Option Chomping :=
    if x == some '+' then some .keep else if x == some '-' then some .strip else none
  let digit? (x : Option Char) : Option Nat := x.bind Text.Integer.digitValue?
  match chomping? c.peek? with
  | some chomping =>
      let c := c.advance 1
      match digit? c.peek? with
      | some 0 => none
      | some d => some (chomping, some d, c.advance 1)
      | none => some (chomping, none, c)
  | none =>
      match digit? c.peek? with
      | some 0 => none
      | some d =>
          let c := c.advance 1
          match chomping? c.peek? with
          | some chomping => some (chomping, some d, c.advance 1)
          | none => some (.clip, some d, c)
      | none => some (.clip, none, c)

/-- Moves over empty lines and the indentation of the next line. Gives the line ends and the
greatest column seen. A tab in the indentation is a fault. -/
def blockBreaks (indent : Nat) :
    (fuel : Nat) → List Char → (widest : Nat) → Cursor → Option (List Char × Nat × Cursor)
  | 0, breaks, widest, c => some (breaks, widest, c)
  | fuel + 1, breaks, widest, c =>
      let spaces := c.rest.takeWhile (· == ' ')
      let room := if indent = 0 then spaces.length else indent - c.column
      let c := c.advance (min spaces.length room)
      let widest := max widest c.column
      if (indent == 0 || c.column < indent) && c.isAt '\t' then none
      else if (c.peek?).any isBreak then
        let (text, next) := c.takeBreak
        blockBreaks indent fuel (breaks ++ text) widest next
      else some (breaks, widest, c)

/-- The lines of a block scalar: the text so far, the end of the last line, the empty lines after
it, and whether the last line starts with a blank. -/
def blockLines (folded : Bool) (indent : Nat) :
    (fuel : Nat) → (lastEnd breaks : List Char) → (indented : Bool) → Cursor →
      Option (List Char × List Char × List Char × Cursor)
  | 0, lastEnd, breaks, _, c => some ([], lastEnd, breaks, c)
  | fuel + 1, lastEnd, breaks, indented, c =>
      if c.column != indent || c.atEnd then some ([], lastEnd, breaks, c)
      else do
        let blank := c.blankAt 0
        let joint :=
          if folded && lastEnd == ['\n'] && !indented && !blank then
            if breaks.isEmpty then [' '] else []
          else lastEnd
        let (line, stop) := c.takeWhile fun x => !isBreak x
        let (lastEnd', next) := stop.takeBreak
        let (breaks', _, after) ← blockBreaks indent (next.rest.length + 1) [] 0 next
        let (text, lastEnd, tail, stop) ← blockLines folded indent fuel lastEnd' breaks' blank after
        some (joint ++ breaks ++ line ++ text, lastEnd, tail, stop)

/-- A block scalar inside a block whose contents start at a given column. -/
def blockScalar (folded : Bool) (margin : Nat) (c : Cursor) : Option (List Char × Cursor) := do
  let (chomping, increment, c) ← blockHeader (c.advance 1)
  let c := (c.skipWhile isBlankChar).skipComment
  if !c.breakOrEndAt 0 then none
  else do
    let (_, c) := c.takeBreak
    let given := match increment with
      | some n => margin - 1 + n
      | none => 0
    let (breaks, widest, c) ← blockBreaks given (c.rest.length + 1) [] 0 c
    let indent := if given = 0 then max (max widest margin) 1 else given
    let (text, lastEnd, tail, c) ← blockLines folded indent (c.rest.length + 1) [] breaks false c
    let tail := match chomping with
      | .strip => []
      | .clip => lastEnd
      | .keep => lastEnd ++ tail
    some (text ++ tail, c)

end Provisioning.Yaml
