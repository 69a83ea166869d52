import Provisioning.Yaml.Token

/-!
The tree of a YAML document. Aliases are kept as references by number to anchored nodes, so that a
node may also contain an alias to itself. A number is looked up when the whole document is there:
it stands for the last node that was given it.
-/

namespace Provisioning.Yaml

inductive Node where
  | scalar (text : String) (plain : Bool) (tag : Option String)
  | sequence (items : List Node)
  | mapping (entries : List (Node × Node))
  | reference (anchor : Nat)
  deriving Inhabited

/-- What stands where text gives no node. -/
def Node.absent : Node := .scalar "" true none

mutual

/-- How many marks a node takes up: one for a scalar or a reference, and a start and an end for a
collection. -/
def Node.extent : Node → Nat
  | .scalar _ _ _ => 1
  | .sequence items => 2 + Node.itemsExtent items
  | .mapping entries => 2 + Node.entriesExtent entries
  | .reference _ => 1

def Node.itemsExtent : List Node → Nat
  | [] => 0
  | item :: rest => item.extent + Node.itemsExtent rest

def Node.entriesExtent : List (Node × Node) → Nat
  | [] => 0
  | (key, value) :: rest => key.extent + value.extent + Node.entriesExtent rest

end

/-- A document: its root, if there is any, the nodes that references stand for, by number, and how
many marks it takes up. -/
structure Document where
  root : Option Node
  targets : Array Node
  extent : Nat

/-- Reading a document, with the number of references followed so far. -/
abbrev Reading := StateT Nat Option

namespace Document

/-- How many references may be followed while a document is read, so that a short text does not
stand for a huge one. -/
def allowance (d : Document) : Nat := 100 * d.extent

/-- The node that a reference stands for. -/
def resolve (d : Document) : Node → Reading Node
  | .reference number => fun followed =>
      if followed < d.allowance then d.targets[number]?.map fun node => (node, followed + 1)
      else none
  | node => pure node

end Document

/-- The state of building nodes: the tokens that are left, the number of every anchor by its name,
the numbers and nodes of all anchors in the order in which the nodes begin, and the shorthands of
tags. -/
structure Builder where
  tokens : List Token
  numbers : List (String × Nat)
  anchored : Array (Nat × Node)
  shorthands : List (String × String)

namespace Builder

/-- The next token; the end once none is left. -/
def peek (b : Builder) : Token := b.tokens.headD .streamEnd

def drop (b : Builder) : Builder := { b with tokens := b.tokens.tail }

/-- The full name of a tag. -/
def tagName (b : Builder) (handle suffix : String) : Option String :=
  if handle.isEmpty then some suffix
  else (b.shorthands.find? fun s => s.1 == handle).map fun s => s.2 ++ suffix

/-- An anchor and a tag in front of a node, in either order. -/
def properties (b : Builder) : Option (Option String × Option String × Builder) :=
  let anchorAt (b : Builder) : Option String × Builder :=
    match b.peek with
    | .anchor name => (some name, b.drop)
    | _ => (none, b)
  let tagAt (b : Builder) : Option (Option String × Builder) :=
    match b.peek with
    | .tag handle suffix => (b.tagName handle suffix).map fun name => (some name, b.drop)
    | _ => some (none, b)
  match b.peek with
  | .anchor _ => do
      let (anchor, b) := anchorAt b
      let (tag, b) ← tagAt b
      some (anchor, tag, b)
  | _ => do
      let (tag, b) ← tagAt b
      let (anchor, b) := anchorAt b
      some (anchor, tag, b)

/-- Gives an anchor a number, which is how many names there are so far, and a place among the
anchored nodes; it may be referred to from then on. A name given again takes a new number, and does
not make the names more, so the next new name shares it. -/
def declare (b : Builder) : Option String → Option Nat × Builder
  | none => (none, b)
  | some name =>
      let number := b.numbers.length
      (some b.anchored.size, { b with
        numbers := (name, number) :: b.numbers.filter fun n => n.1 ≠ name
        anchored := b.anchored.push (number, .absent) })

/-- Keeps an anchored node at its place. -/
def keep (b : Builder) (place : Option Nat) (node : Node) : Builder :=
  match place with
  | none => b
  | some place => { b with anchored := b.anchored.modify place fun a => (a.1, node) }

/-- The node of every number: the last that was given it. -/
def targets (b : Builder) : Array Node :=
  b.anchored.foldl (fun nodes (number, node) =>
    if number < nodes.size then nodes.setIfInBounds number node else nodes.push node) #[]

/-- Tokens before which a key or value of a block mapping is absent. -/
def endsPart : Token → Bool
  | .key | .value | .blockEnd => true
  | _ => false

mutual

/-- A node. A sequence that is the value of a mapping in block style may stand at the column of
its key. -/
def node : (fuel : Nat) → (block indentless : Bool) → Builder → Option (Node × Builder)
  | 0, _, _, _ => none
  | fuel + 1, block, indentless, b =>
      match b.peek with
      | .alias name => do
          let (_, number) ← b.numbers.find? fun n => n.1 == name
          some (.reference number, b.drop)
      | _ => do
          let (anchor, tag, b) ← b.properties
          let decorated := anchor.isSome || tag.isSome
          let (place, b) := b.declare anchor
          let (node, b) ←
            match b.peek with
            | .scalar text plain => some (Node.scalar text plain tag, b.drop)
            | .flowSequenceStart => do
                let (items, b) ← flowItems fuel true b.drop
                some (.sequence items, b)
            | .flowMappingStart => do
                let (entries, b) ← flowEntries fuel true b.drop
                some (.mapping entries, b)
            | .blockSequenceStart =>
                if block then do
                  let (items, b) ← blockItems fuel b.drop
                  some (.sequence items, b)
                else if decorated then some (.scalar "" true tag, b) else none
            | .blockMappingStart =>
                if block then do
                  let (entries, b) ← blockEntries fuel b.drop
                  some (.mapping entries, b)
                else if decorated then some (.scalar "" true tag, b) else none
            | .blockEntry =>
                if indentless then do
                  let (items, b) ← indentlessItems fuel b
                  some (.sequence items, b)
                else if decorated then some (.scalar "" true tag, b) else none
            | _ => if decorated then some (.scalar "" true tag, b) else none
          some (node, b.keep place node)

/-- The entries of a block sequence up to its end. -/
def blockItems : (fuel : Nat) → Builder → Option (List Node × Builder)
  | 0, _ => none
  | fuel + 1, b =>
      match b.peek with
      | .blockEntry => do
          let b := b.drop
          let (item, b) ← match b.peek with
            | .blockEntry | .blockEnd => some (Node.absent, b)
            | _ => node fuel true false b
          let (items, b) ← blockItems fuel b
          some (item :: items, b)
      | .blockEnd => some ([], b.drop)
      | _ => none

/-- The entries of a sequence at the column of its key. -/
def indentlessItems : (fuel : Nat) → Builder → Option (List Node × Builder)
  | 0, _ => none
  | fuel + 1, b =>
      match b.peek with
      | .blockEntry => do
          let b := b.drop
          let (item, b) ← match b.peek with
            | .blockEntry | .key | .value | .blockEnd => some (Node.absent, b)
            | _ => node fuel true false b
          let (items, b) ← indentlessItems fuel b
          some (item :: items, b)
      | _ => some ([], b)

/-- The entries of a block mapping up to its end. -/
def blockEntries : (fuel : Nat) → Builder → Option (List (Node × Node) × Builder)
  | 0, _ => none
  | fuel + 1, b =>
      match b.peek with
      | .key => do
          let b := b.drop
          let (key, b) ← if endsPart b.peek then some (Node.absent, b)
            else node fuel true true b
          let (value, b) ← match b.peek with
            | .value =>
                let b := b.drop
                if endsPart b.peek then some (Node.absent, b) else node fuel true true b
            | _ => some (Node.absent, b)
          let (entries, b) ← blockEntries fuel b
          some ((key, value) :: entries, b)
      | .blockEnd => some ([], b.drop)
      | _ => none

/-- The items of a flow sequence up to its end; an item may be a mapping of one entry. -/
def flowItems : (fuel : Nat) → (first : Bool) → Builder → Option (List Node × Builder)
  | 0, _, _ => none
  | fuel + 1, first, b =>
      if b.peek == .flowSequenceEnd then some ([], b.drop)
      else do
        let b ← if first then some b else if b.peek == .flowEntry then some b.drop else none
        match b.peek with
        | .flowSequenceEnd => some ([], b.drop)
        | .key => do
            let b := b.drop
            let (key, b) ← match b.peek with
              | .value | .flowEntry | .flowSequenceEnd => some (Node.absent, b.drop)
              | _ => node fuel false false b
            let (value, b) ← match b.peek with
              | .value =>
                  let b := b.drop
                  match b.peek with
                  | .flowEntry | .flowSequenceEnd => some (Node.absent, b)
                  | _ => node fuel false false b
              | _ => some (Node.absent, b)
            let (items, b) ← flowItems fuel false b
            some (.mapping [(key, value)] :: items, b)
        | _ => do
            let (item, b) ← node fuel false false b
            let (items, b) ← flowItems fuel false b
            some (item :: items, b)

/-- The entries of a flow mapping up to its end. -/
def flowEntries : (fuel : Nat) → (first : Bool) → Builder →
    Option (List (Node × Node) × Builder)
  | 0, _, _ => none
  | fuel + 1, first, b =>
      if b.peek == .flowMappingEnd then some ([], b.drop)
      else do
        let b ← if first then some b else if b.peek == .flowEntry then some b.drop else none
        match b.peek with
        | .flowMappingEnd => some ([], b.drop)
        | .key => do
            let b := b.drop
            let (key, b) ← match b.peek with
              | .value | .flowEntry | .flowMappingEnd => some (Node.absent, b)
              | _ => node fuel false false b
            let (value, b) ← match b.peek with
              | .value =>
                  let b := b.drop
                  match b.peek with
                  | .flowEntry | .flowMappingEnd => some (Node.absent, b)
                  | _ => node fuel false false b
              | _ => some (Node.absent, b)
            let (entries, b) ← flowEntries fuel false b
            some ((key, value) :: entries, b)
        | _ => do
            let (key, b) ← node fuel false false b
            let (entries, b) ← flowEntries fuel false b
            some ((key, .absent) :: entries, b)

end

/-- Directives in front of a document: one version at most, and no shorthand twice. -/
def directives : (fuel : Nat) → (versioned : Bool) → (given : List (String × String)) → Builder →
    Option (List (String × String) × Builder)
  | 0, _, _, _ => none
  | fuel + 1, versioned, given, b =>
      match b.peek with
      | .version major minor =>
          if versioned || major ≠ 1 || (minor ≠ 1 && minor ≠ 2) then none
          else directives fuel true given b.drop
      | .tagShorthand handle uri =>
          if given.any fun s => s.1 == handle then none
          else directives fuel versioned (given ++ [(handle, uri)]) b.drop
      | _ => some (given, b)

/-- Shorthands that every document has unless it defines them itself. -/
def defaultShorthands : List (String × String) := [("!", "!"), ("!!", "tag:yaml.org,2002:")]

/-- The root of a document after its directives, if there is a document. -/
def root (b : Builder) : Option (Option Node × Builder) := do
  let fuel := 4 * b.tokens.length + 4
  match b.peek with
  | .streamEnd => some (none, b)
  | .version _ _ | .tagShorthand _ _ | .documentStart => do
      let (given, b) ← directives fuel false [] b
      if b.peek ≠ .documentStart then none
      else
        let b := { b.drop with shorthands := given ++ defaultShorthands }
        match b.peek with
        | .version _ _ | .tagShorthand _ _ | .documentStart | .documentEnd | .streamEnd =>
            some (some .absent, b)
        | _ => do
            let (node, b) ← node fuel true false b
            some (some node, b)
  | _ => do
      let (node, b) ← node fuel true false { b with shorthands := defaultShorthands }
      some (some node, b)

end Builder

/-- Reads a text that holds at most one document. -/
def document? (text : String) : Option Document := do
  let tokens ← tokens? text
  let (root, b) ← Builder.root ⟨tokens, [], #[], []⟩
  let rest := b.tokens.dropWhile (· == .documentEnd)
  if rest == [.streamEnd] then some ⟨root, b.targets, (root.getD .absent).extent⟩ else none

end Provisioning.Yaml
