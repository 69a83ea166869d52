/-!
A cache of look-ups that live for a fixed time. Every key has a slot with a lock; whoever holds the
lock may fetch, and the others wait in order of arrival. A slot whose lock is released goes to the
first of them at once. Failed look-ups leave no entry. A key can lose its slot and get another one;
whoever has found a slot goes on with that slot.
-/

namespace Provisioning

/-- A cached value and the first moment at which it is stale. -/
structure Cached (ν : Type) where
  value : ν
  expiresAt : Nat
  deriving DecidableEq, Repr

/-- A slot: its entry, who holds its lock, and who waits for it. -/
structure Slot (ν : Type) where
  entry : Option (Cached ν)
  holder : Option Nat
  waiting : List Nat
  deriving DecidableEq, Repr

namespace Slot

variable {ν : Type}

def empty : Slot ν := ⟨none, none, []⟩

/-- The value of the entry unless it is stale. -/
def fresh? (slot : Slot ν) (now : Nat) : Option ν :=
  (slot.entry.filter fun e => now < e.expiresAt).map (·.value)

/-- Takes the lock if it is free, otherwise joins the waiting. -/
def request (slot : Slot ν) (ticket : Nat) : Slot ν :=
  match slot.holder with
  | none => { slot with holder := some ticket }
  | some _ => { slot with waiting := slot.waiting ++ [ticket] }

/-- Hands the lock to the first of the waiting. -/
def release (slot : Slot ν) : Slot ν :=
  { slot with holder := slot.waiting.head?, waiting := slot.waiting.tail }

/-- Puts an entry that is stale from a moment on. -/
def fill (slot : Slot ν) (value : ν) (expiresAt : Nat) : Slot ν :=
  { slot with entry := some ⟨value, expiresAt⟩ }

/-- Whether a purge keeps the slot: it is locked, or its entry is not stale. -/
def survives (slot : Slot ν) (now : Nat) : Bool :=
  slot.holder.isSome || (slot.fresh? now).isSome

end Slot

/-- All slots that were ever made, the number of the slot that each key has now, and how long an
entry lives. -/
structure Cache (κ ν : Type) where
  ttl : Nat
  numbers : List (κ × Nat)
  shelf : List (Slot ν)

namespace Cache

variable {κ ν : Type} [DecidableEq κ]

/-- Ten minutes in milliseconds. -/
def defaultTtl : Nat := 600000

def empty (ttl : Nat) : Cache κ ν := ⟨ttl, [], []⟩

/-- How many keys have a slot. -/
def size (c : Cache κ ν) : Nat := c.numbers.length

/-- The number of the slot that a key has. -/
def number? (c : Cache κ ν) (key : κ) : Option Nat :=
  (c.numbers.find? fun entry => entry.1 = key).map (·.2)

/-- The slot of a number. -/
def slot (c : Cache κ ν) (number : Nat) : Slot ν := c.shelf[number]?.getD .empty

/-- Finds the slot of a key, which is there from then on. -/
def find (c : Cache κ ν) (key : κ) : Nat × Cache κ ν :=
  match c.number? key with
  | some number => (number, c)
  | none =>
      let number := c.shelf.length
      (number, { c with numbers := c.numbers ++ [(key, number)], shelf := c.shelf ++ [.empty] })

/-- Changes the slot of a number. -/
def modify (c : Cache κ ν) (number : Nat) (change : Slot ν → Slot ν) : Cache κ ν :=
  { c with shelf := c.shelf.modify number change }

/-- The cached value of a key unless it is stale. -/
def fresh? (c : Cache κ ν) (key : κ) (now : Nat) : Option ν :=
  (c.number? key).bind fun number => (c.slot number).fresh? now

/-- Caches the value of a look-up that ended at a moment. Runs are meant to stay within the moments
that a clock can show, so that the end of the entry's life is one of them. -/
def fill (c : Cache κ ν) (key : κ) (value : ν) (now : Nat) : Cache κ ν :=
  (c.find key).2.modify (c.find key).1 fun slot => slot.fill value (now + c.ttl)

/-- Takes their slots from the keys whose slot nobody has locked and that holds no fresh entry. -/
def purge (c : Cache κ ν) (now : Nat) : Cache κ ν :=
  { c with numbers := c.numbers.filter fun entry => (c.slot entry.2).survives now }

end Cache

/-- A way to keep slots by key. Whoever finds the slot of a key gets a handle on it, which stays
good whatever becomes of the key. -/
structure Keeping (κ ν σ η : Type) where
  ttl : σ → Nat
  find : σ → κ → η × σ
  slot : σ → η → Slot ν
  modify : σ → η → (Slot ν → Slot ν) → σ
  purge : σ → Nat → σ
  size : σ → Nat

/-- The cache keeps slots by number. -/
def Cache.keeping {κ ν : Type} [DecidableEq κ] : Keeping κ ν (Cache κ ν) Nat :=
  ⟨Cache.ttl, find, slot, modify, purge, size⟩

end Provisioning
