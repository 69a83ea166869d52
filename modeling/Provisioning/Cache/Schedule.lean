import Provisioning.Cache.Basic

/-!
Tasks that use one cache side by side on a clock that stands still while any of them can go on.
Tasks that can go on do so in the order in which they became able to; tasks that sleep to the same
moment wake in the order in which they went to sleep. How slots are kept is left open, so that the
same tasks can be run on the cache and on any other way to keep them.
-/

namespace Provisioning.Cache

/-- What a task does: a look-up whose fetch takes some time and ends in a given way, a purge, or
nothing. -/
inductive Job (κ ν ε : Type) where
  | get (key : κ) (takes : Nat) (result : Except ε ν)
  | purge
  | idle

/-- A job and how long its task sleeps before it. -/
structure Task (κ ν ε : Type) where
  delay : Nat
  job : Job κ ν ε

/-- How a task ended. Whoever looks nothing up is told the size of the cache. -/
inductive Outcome (ν ε : Type) where
  | value (value : ν)
  | failed (fault : ε)
  | purged (size : Nat)

/-- Where a task goes on: at its very start, after its first sleep, with the lock of its slot, or
after its fetch, for which it holds that lock. -/
inductive Wake (η : Type) where
  | spawned (task : Nat)
  | started (task : Nat)
  | granted (task : Nat) (slot : η)
  | fetched (task : Nat) (slot : η)
  deriving DecidableEq, Repr

def Wake.task {η : Type} : Wake η → Nat
  | .spawned task | .started task | .granted task _ | .fetched task _ => task

/-- What became of a look-up: its fetch began, its fetch brought something, or it recalled an entry
that was not stale. -/
inductive Event (ν ε : Type) where
  | began
  | brought (result : Except ε ν)
  | recalled (value : ν)

/-- Which look-up something became of, and when. -/
structure Note (κ ν ε : Type) where
  task : Nat
  key : κ
  moment : Nat
  event : Event ν ε

def Event.isBeginning {ν ε : Type} : Event ν ε → Bool
  | began => true
  | _ => false

/-- How a task ended and when. -/
structure Ended (ν ε : Type) where
  task : Nat
  outcome : Outcome ν ε
  moment : Nat

/-- A moment of a run: the clock, the slots, who can go on, who sleeps until when, what became of
look-ups, and the tasks that have ended. -/
@[ext]
structure Scene (κ ν ε σ η : Type) where
  now : Nat
  cache : σ
  ready : List (Wake η)
  sleeping : List (Nat × Wake η)
  notes : List (Note κ ν ε)
  ended : List (Ended ν ε)

/-- A moment of tasks that use the cache. -/
abbrev Moment (κ ν ε : Type) : Type := Scene κ ν ε (Cache κ ν) Nat

namespace Scene

variable {κ ν ε σ η : Type}

/-- The keys of the fetches that began. -/
def log (m : Scene κ ν ε σ η) : List κ :=
  (m.notes.filter fun note => note.event.isBeginning).map (·.key)

def finish (m : Scene κ ν ε σ η) (task : Nat) (outcome : Outcome ν ε) : Scene κ ν ε σ η :=
  { m with ended := m.ended ++ [⟨task, outcome, m.now⟩] }

def note (m : Scene κ ν ε σ η) (task : Nat) (key : κ) (event : Event ν ε) : Scene κ ν ε σ η :=
  { m with notes := m.notes ++ [⟨task, key, m.now, event⟩] }

/-- Puts a task to sleep. -/
def sleep (m : Scene κ ν ε σ η) (length : Nat) (wake : Wake η) : Scene κ ν ε σ η :=
  { m with sleeping := m.sleeping ++ [(m.now + length, wake)] }

variable (keeps : Keeping κ ν σ η)

def modify (m : Scene κ ν ε σ η) (slot : η) (change : Slot ν → Slot ν) : Scene κ ν ε σ η :=
  { m with cache := keeps.modify m.cache slot change }

/-- Releases the lock of a slot, so that the first task waiting for it can go on. -/
def release (m : Scene κ ν ε σ η) (slot : η) : Scene κ ν ε σ η :=
  let next := (keeps.slot m.cache slot).waiting.head?
  { m.modify keeps slot Slot.release with
    ready := m.ready ++ (next.map (Wake.granted · slot)).toList }

/-- Ends a fetch: a value is cached, a failure goes to its own task alone. -/
def complete (m : Scene κ ν ε σ η) (task : Nat) (key : κ) (result : Except ε ν) (slot : η) :
    Scene κ ν ε σ η :=
  let told := m.note task key (.brought result)
  match result with
  | .ok value =>
      let filled := told.modify keeps slot fun s => s.fill value (m.now + keeps.ttl m.cache)
      (filled.release keeps slot).finish task (.value value)
  | .error fault => (told.release keeps slot).finish task (.failed fault)

/-- What a task does with the lock of its slot: it recalls a fresh entry or starts to fetch. -/
def holding (m : Scene κ ν ε σ η) (task : Nat) (key : κ) (takes : Nat) (result : Except ε ν)
    (slot : η) : Scene κ ν ε σ η :=
  match (keeps.slot m.cache slot).fresh? m.now with
  | some value =>
      ((m.note task key (.recalled value)).release keeps slot).finish task (.value value)
  | none =>
      let fetching := m.note task key .began
      if takes = 0 then fetching.complete keeps task key result slot
      else fetching.sleep takes (.fetched task slot)

/-- Asks for the lock of a key's slot, and uses it if it is free. -/
def lookUp (m : Scene κ ν ε σ η) (task : Nat) (key : κ) (takes : Nat) (result : Except ε ν) :
    Scene κ ν ε σ η :=
  let (slot, cache) := keeps.find m.cache key
  let asked := { m with cache }.modify keeps slot fun s => s.request task
  if (keeps.slot cache slot).holder.isNone then asked.holding keeps task key takes result slot
  else asked

/-- What a task does after its first sleep. -/
def start (m : Scene κ ν ε σ η) (task : Nat) : Job κ ν ε → Scene κ ν ε σ η
  | .get key takes result => m.lookUp keeps task key takes result
  | .purge =>
      let cache := keeps.purge m.cache m.now
      { m with cache }.finish task (.purged (keeps.size cache))
  | .idle => m.finish task (.purged (keeps.size m.cache))

/-- Lets a task go on until it ends, sleeps or waits. -/
def resume (tasks : List (Task κ ν ε)) (m : Scene κ ν ε σ η) (wake : Wake η) : Scene κ ν ε σ η :=
  match tasks[wake.task]? with
  | none => m
  | some task =>
      match wake, task.job with
      | .spawned i, job =>
          if task.delay = 0 then m.start keeps i job else m.sleep task.delay (.started i)
      | .started i, job => m.start keeps i job
      | .granted i slot, .get key takes result => m.holding keeps i key takes result slot
      | .fetched i slot, .get key _ result => m.complete keeps i key result slot
      | _, _ => m

/-- The next moment at which a task wakes. -/
def nextWake? (m : Scene κ ν ε σ η) : Option Nat := (m.sleeping.map (·.1)).min?

/-- Moves the clock to a moment and wakes those who sleep until then. -/
def wakeAt (m : Scene κ ν ε σ η) (moment : Nat) : Scene κ ν ε σ η :=
  { m with
    now := moment
    ready := (m.sleeping.filter fun s => s.1 = moment).map (·.2)
    sleeping := m.sleeping.filter fun s => s.1 ≠ moment }

/-- Lets the first ready task go on, or moves the clock to the next moment at which a task wakes;
nothing when all tasks have come to their end. -/
def step? (tasks : List (Task κ ν ε)) (m : Scene κ ν ε σ η) : Option (Scene κ ν ε σ η) :=
  match m.ready with
  | wake :: rest => some (resume keeps tasks { m with ready := rest } wake)
  | [] => m.nextWake?.map m.wakeAt

/-- Runs at most a number of steps. -/
def run (tasks : List (Task κ ν ε)) : (steps : Nat) → Scene κ ν ε σ η → Scene κ ν ε σ η
  | 0, m => m
  | steps + 1, m =>
      match step? keeps tasks m with
      | some next => run tasks steps next
      | none => m

/-- The moment at which so many tasks start. -/
def opening (cache : σ) (now count : Nat) : Scene κ ν ε σ η :=
  ⟨now, cache, (List.range count).map .spawned, [], [], []⟩

end Scene

variable {κ ν ε σ η : Type}

/-- Steps that suffice: a task goes on at most four times and sleeps at most twice. -/
def stepBound (tasks : List (Task κ ν ε)) : Nat := 6 * tasks.length + 1

/-- Tasks that are started together, in the order of a list, a pause after all before have ended. A
single look-up or purge is a round of one task that does not sleep. -/
structure Round (κ ν ε : Type) where
  pause : Nat
  tasks : List (Task κ ν ε)

/-- What was started together and when, and how it ended. -/
structure Account (κ ν ε σ η : Type) where
  start : Nat
  tasks : List (Task κ ν ε)
  close : Scene κ ν ε σ η

end Cache

namespace Keeping

open Cache

variable {κ ν ε σ η : Type} (keeps : Keeping κ ν σ η)

/-- Starts tasks in the order of a list and runs them all to their end. -/
def runTasks (c : σ) (now : Nat) (tasks : List (Task κ ν ε)) : Scene κ ν ε σ η :=
  Scene.run keeps tasks (stepBound tasks) (Scene.opening c now tasks.length)

/-- Runs rounds one after the other. -/
def accounts (c : σ) (now : Nat) : List (Round κ ν ε) → List (Account κ ν ε σ η)
  | [] => []
  | round :: rest =>
      let start := now + round.pause
      let close := keeps.runTasks c start round.tasks
      ⟨start, round.tasks, close⟩ :: accounts close.cache close.now rest

end Keeping

namespace Cache

variable {κ ν ε : Type} [DecidableEq κ]

/-- Runs tasks on the cache. -/
def runTasks (c : Cache κ ν) (now : Nat) (tasks : List (Task κ ν ε)) : Moment κ ν ε :=
  keeping.runTasks c now tasks

/-- Runs rounds on the cache. -/
def accounts (c : Cache κ ν) (now : Nat) (rounds : List (Round κ ν ε)) :
    List (Account κ ν ε (Cache κ ν) Nat) :=
  keeping.accounts c now rounds

end Cache

end Provisioning
