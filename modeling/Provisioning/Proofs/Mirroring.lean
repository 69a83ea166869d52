import Mathlib.Data.List.Forall2
import Provisioning.Proofs.Halting
import Provisioning.Proofs.Shelving

/-!
Tasks on the cache go on in step with the same tasks on a table. A task that goes on with a numbered
slot goes on with the slot of the key that has this number; no such key loses its slot, since the
lock is held. Main statements: `Mirrors.step`, and `accounts_mirror` for rounds of tasks.
-/

namespace Provisioning.Cache

open List (Forall₂)

variable {κ ν ε : Type}

/-- What a look-up got, nothing for other tasks. -/
def Outcome.answer? : Outcome ν ε → Option (Except ε ν)
  | .value found => some (.ok found)
  | .failed fault => some (.error fault)
  | .purged _ => none

/-- How a task ended, but for the size of the cache. -/
structure Reply (ν ε : Type) where
  task : Nat
  answer? : Option (Except ε ν)
  moment : Nat

def Ended.reply (ended : Ended ν ε) : Reply ν ε := ⟨ended.task, ended.outcome.answer?, ended.moment⟩

def Scene.replies {σ η : Type} (m : Scene κ ν ε σ η) : List (Reply ν ε) := m.ended.map Ended.reply

variable [DecidableEq κ]

/-- A task that goes on with the slot of a key goes on with the numbered slot that the key has. -/
inductive Names (c : Cache κ ν) : Wake κ → Wake Nat → Prop where
  | spawned (task : Nat) : Names c (.spawned task) (.spawned task)
  | started (task : Nat) : Names c (.started task) (.started task)
  | granted (task : Nat) {key : κ} {number : Nat} (named : c.number? key = some number) :
      Names c (.granted task key) (.granted task number)
  | fetched (task : Nat) {key : κ} {number : Nat} (named : c.number? key = some number) :
      Names c (.fetched task key) (.fetched task number)

theorem Names.imp {c d : Cache κ ν} {wake : Wake κ} {other : Wake Nat} (names : Names c wake other)
    (keeps : ∀ key number, wake.slot? = some key → c.number? key = some number →
      d.number? key = some number) : Names d wake other := by
  cases names with
  | spawned task => exact .spawned task
  | started task => exact .started task
  | granted task named => exact .granted task (keeps _ _ rfl named)
  | fetched task named => exact .fetched task (keeps _ _ rfl named)

/-- From a moment on, the slots of a table cannot be told from those of the cache. -/
structure Mirrors (now : Nat) (t : Table κ ν) (c : Cache κ ν) : Prop where
  ttl : t.ttl = c.ttl
  shelved : c.Shelved
  alike : ∀ key, (t.slot key).Alike now (c.view key)

/-- Where a task that sleeps goes on, and when. -/
def NamesAt (c : Cache κ ν) (s : Nat × Wake κ) (r : Nat × Wake Nat) : Prop :=
  s.1 = r.1 ∧ Names c s.2 r.2

/-- A moment of tasks on a table cannot be told from a moment of tasks on the cache. -/
structure Scene.Mirrors (a : Tableau κ ν ε) (m : Moment κ ν ε) : Prop where
  now : a.now = m.now
  slots : Cache.Mirrors m.now a.cache m.cache
  ready : Forall₂ (Names m.cache) a.ready m.ready
  sleeping : Forall₂ (NamesAt m.cache) a.sleeping m.sleeping
  notes : a.notes = m.notes
  replies : a.replies = m.replies

namespace Mirrors

variable {t : Table κ ν} {c : Cache κ ν} {now later : Nat} {key : κ} {number : Nat}

theorem empty (now ttl : Nat) : Mirrors now (.empty ttl) (.empty ttl : Cache κ ν) :=
  ⟨rfl, Shelved.empty ttl, fun _ => ⟨rfl, rfl, fun _ _ => rfl⟩⟩

theorem mono (mirrors : Mirrors now t c) (le : now ≤ later) : Mirrors later t c :=
  ⟨mirrors.ttl, mirrors.shelved, fun key => (mirrors.alike key).mono le⟩

theorem find (mirrors : Mirrors now t c) (key : κ) : Mirrors now t (c.find key).2 where
  ttl := by
    rw [mirrors.ttl]
    unfold Cache.find
    cases c.number? key <;> rfl
  shelved := mirrors.shelved.find key
  alike other := by
    rw [mirrors.shelved.view_find]
    exact mirrors.alike other

theorem slot (mirrors : Mirrors now t c) (named : c.number? key = some number) :
    (t.slot key).Alike now (c.slot number) :=
  view_of_number? named ▸ mirrors.alike key

theorem modify (mirrors : Mirrors now t c) (named : c.number? key = some number)
    {change other : Slot ν → Slot ν}
    (alike : (t.slot key).Alike now (c.slot number) →
      (change (t.slot key)).Alike now (other (c.slot number))) :
    Mirrors now (t.modify key change) (c.modify number other) where
  ttl := mirrors.ttl
  shelved := mirrors.shelved.modify number other
  alike := by
    rw [mirrors.shelved.view_modify named, view_of_number? named]
    intro another
    show (Function.update t.slot key _ another).Alike now (Function.update c.view key _ another)
    by_cases same : another = key
    · rw [same, Function.update_self, Function.update_self]
      exact alike (mirrors.slot named)
    · rw [Function.update_of_ne same, Function.update_of_ne same]
      exact mirrors.alike another

/-- A table need not be purged. -/
theorem purge (mirrors : Mirrors now t c)
    (queued : ∀ key, (t.slot key).holder = none → (t.slot key).waiting = []) :
    Mirrors now t (c.purge now) where
  ttl := mirrors.ttl
  shelved := mirrors.shelved.purge now
  alike key := by
    rw [mirrors.shelved.view_purge, ← (mirrors.alike key).survives]
    split
    · exact mirrors.alike key
    · rename_i gone
      simp only [Slot.survives, Bool.or_eq_true, not_or, Option.not_isSome_iff_eq_none] at gone
      exact .empty gone.1 (queued key gone.1) gone.2

end Mirrors

namespace Scene.Mirrors

variable {tasks : List (Task κ ν ε)} {a : Tableau κ ν ε} {m : Moment κ ν ε} {key : κ} {number : Nat}

theorem note (mirrors : a.Mirrors m) (task : Nat) (key : κ) (event : Event ν ε) :
    (a.note task key event).Mirrors (m.note task key event) where
  now := mirrors.now
  slots := mirrors.slots
  ready := mirrors.ready
  sleeping := mirrors.sleeping
  notes := by simp only [Scene.note, mirrors.notes, mirrors.now]
  replies := mirrors.replies

theorem finish (mirrors : a.Mirrors m) (task : Nat) {outcome other : Outcome ν ε}
    (same : outcome.answer? = other.answer?) :
    (a.finish task outcome).Mirrors (m.finish task other) where
  now := mirrors.now
  slots := mirrors.slots
  ready := mirrors.ready
  sleeping := mirrors.sleeping
  notes := mirrors.notes
  replies := by
    have before := mirrors.replies
    simp only [Scene.replies, Scene.finish, List.map_append] at before ⊢
    rw [before]
    simp only [Ended.reply, List.map_cons, List.map_nil, same, mirrors.now]

theorem sleep (mirrors : a.Mirrors m) (length : Nat) {wake : Wake κ} {other : Wake Nat}
    (names : Names m.cache wake other) :
    (a.sleep length wake).Mirrors (m.sleep length other) where
  now := mirrors.now
  slots := mirrors.slots
  ready := mirrors.ready
  sleeping := List.rel_append mirrors.sleeping
    (.cons ⟨congrArg (· + length) mirrors.now, names⟩ .nil)
  notes := mirrors.notes
  replies := mirrors.replies

/-- Slots are kept in another way, in which nobody who goes on with a slot loses it. -/
theorem rekeep (mirrors : a.Mirrors m) {t : Table κ ν} {c : Cache κ ν}
    (slots : Cache.Mirrors m.now t c)
    (keeps : ∀ wake ∈ a.wakes, ∀ key number, wake.slot? = some key →
      m.cache.number? key = some number → c.number? key = some number) :
    ({ a with cache := t } : Tableau κ ν ε).Mirrors { m with cache := c } where
  now := mirrors.now
  slots := slots
  ready := by
    have used : ∀ wake ∈ a.ready, wake ∈ a.wakes := fun _ => List.mem_append_left _
    exact ((List.forall₂_and_left _ _).2 ⟨used, mirrors.ready⟩).imp
      fun wake _ both => both.2.imp (keeps wake both.1)
  sleeping := by
    have used : ∀ s ∈ a.sleeping, s.2 ∈ a.wakes := fun _ member =>
      List.mem_append_right _ (List.mem_map_of_mem member)
    exact ((List.forall₂_and_left _ _).2 ⟨used, mirrors.sleeping⟩).imp
      fun s _ both => ⟨both.2.1, both.2.2.imp (keeps s.2 both.1)⟩
  notes := mirrors.notes
  replies := mirrors.replies

theorem modify (mirrors : a.Mirrors m) (named : m.cache.number? key = some number)
    (change other : Slot ν → Slot ν)
    (alike : (a.cache.slot key).Alike m.now (m.cache.slot number) →
      (change (a.cache.slot key)).Alike m.now (other (m.cache.slot number))) :
    (a.modify Table.keeping key change).Mirrors (m.modify Cache.keeping number other) :=
  mirrors.rekeep (mirrors.slots.modify named alike) fun _ _ _ _ _ still => still

theorem release (mirrors : a.Mirrors m) (named : m.cache.number? key = some number) :
    (a.release Table.keeping key).Mirrors (m.release Cache.keeping number) := by
  have released := mirrors.modify named Slot.release Slot.release Slot.Alike.release
  have next : (a.cache.slot key).waiting.head? = (m.cache.slot number).waiting.head? :=
    congrArg _ (mirrors.slots.slot named).waiting
  refine ⟨released.now, released.slots, List.rel_append released.ready ?_, released.sleeping,
    released.notes, released.replies⟩
  change Forall₂ _ ((a.cache.slot key).waiting.head?.map _).toList
    ((m.cache.slot number).waiting.head?.map _).toList
  rw [next]
  cases (m.cache.slot number).waiting.head? with
  | none => exact .nil
  | some first => exact .cons (.granted first named) .nil

theorem complete (mirrors : a.Mirrors m) (named : m.cache.number? key = some number) (task : Nat)
    (result : Except ε ν) :
    (a.complete Table.keeping task key result key).Mirrors
      (m.complete Cache.keeping task key result number) := by
  have told := mirrors.note task key (.brought result)
  cases result with
  | error fault => exact (told.release named).finish task rfl
  | ok value =>
      have expiry : a.now + a.cache.ttl = m.now + m.cache.ttl := by
        rw [mirrors.now, mirrors.slots.ttl]
      have filled := told.modify named (fun s => s.fill value (a.now + a.cache.ttl))
        (fun s => s.fill value (m.now + m.cache.ttl)) fun alike => expiry ▸ alike.fill value _
      exact (filled.release named).finish task rfl

theorem holding (mirrors : a.Mirrors m) (named : m.cache.number? key = some number)
    (task takes : Nat) (result : Except ε ν) :
    (a.holding Table.keeping task key takes result key).Mirrors
      (m.holding Cache.keeping task key takes result number) := by
  have same : (Table.keeping.slot a.cache key).fresh? a.now =
      (Cache.keeping.slot m.cache number).fresh? m.now := by
    rw [mirrors.now]
    exact (mirrors.slots.slot named).fresh? m.now le_rfl
  unfold Scene.holding
  rw [same]
  cases (Cache.keeping.slot m.cache number).fresh? m.now with
  | some value => exact ((mirrors.note task key _).release named).finish task rfl
  | none =>
      dsimp only
      split
      · exact (mirrors.note task key _).complete named task result
      · exact (mirrors.note task key _).sleep takes (.fetched task named)

theorem lookUp (mirrors : a.Mirrors m) (task : Nat) (key : κ) (takes : Nat) (result : Except ε ν) :
    (a.lookUp Table.keeping task key takes result).Mirrors
      (m.lookUp Cache.keeping task key takes result) := by
  have found : a.Mirrors { m with cache := (m.cache.find key).2 } :=
    mirrors.rekeep (mirrors.slots.find key) fun _ _ _ _ _ named => number?_find_of_some named key
  have named : (m.cache.find key).2.number? key = some (m.cache.find key).1 :=
    (number?_find ..).trans (if_pos rfl)
  have asked := found.modify named (·.request task) (·.request task) fun alike => alike.request task
  have same : (a.cache.slot key).holder = ((m.cache.find key).2.slot (m.cache.find key).1).holder :=
    (found.slots.slot named).holder
  unfold Scene.lookUp
  change (if (a.cache.slot key).holder.isNone then _ else _ : Tableau κ ν ε).Mirrors
    (if ((m.cache.find key).2.slot (m.cache.find key).1).holder.isNone then _ else _)
  rw [same]
  split
  · exact asked.holding named task takes result
  · exact asked

theorem start (mirrors : a.Mirrors m) (tidy : Tidy tasks a none) (task : Nat) (job : Job κ ν ε) :
    (a.start Table.keeping task job).Mirrors (m.start Cache.keeping task job) := by
  cases job with
  | get key takes result => exact mirrors.lookUp task key takes result
  | idle => exact mirrors.finish task rfl
  | purge =>
      -- Whoever goes on with a slot holds its lock, so that the purge leaves it.
      have purged : a.Mirrors { m with cache := m.cache.purge m.now } := by
        apply mirrors.rekeep (mirrors.slots.purge fun key => (tidy.locks key).queued)
        intro wake member key number uses named
        apply (mirrors.slots.shelved.number?_purge m.now).2
        have held := tidy.held member uses
        rw [(mirrors.slots.slot named).holder] at held
        refine ⟨named, ?_⟩
        rw [Slot.survives, held, Bool.true_or]
      exact purged.finish task rfl

theorem resume (mirrors : a.Mirrors m) {wake : Wake κ} {other : Wake Nat}
    (tidy : Tidy tasks a wake.slot?)
    (looks : ∀ key, wake.slot? = some key → Looks tasks key wake.task)
    (names : Names m.cache wake other) :
    (a.resume Table.keeping tasks wake).Mirrors (m.resume Cache.keeping tasks other) := by
  cases names with
  | spawned i =>
      cases given : tasks[i]? with
      | none =>
          rw [Scene.resume_absent _ _ _ given, Scene.resume_absent _ _ _ given]
          exact mirrors
      | some task =>
          rw [Scene.resume_spawned _ _ given, Scene.resume_spawned _ _ given]
          split
          · exact mirrors.start tidy i task.job
          · exact mirrors.sleep task.delay (.started i)
  | started i =>
      cases given : tasks[i]? with
      | none =>
          rw [Scene.resume_absent _ _ _ given, Scene.resume_absent _ _ _ given]
          exact mirrors
      | some task =>
          rw [Scene.resume_started _ _ given, Scene.resume_started _ _ given]
          exact mirrors.start tidy i task.job
  | granted i named =>
      obtain ⟨delay, takes, result, found⟩ : Looks tasks _ i := looks _ rfl
      rw [Scene.resume_granted _ _ found, Scene.resume_granted _ _ found]
      exact mirrors.holding named i takes result
  | fetched i named =>
      obtain ⟨delay, takes, result, found⟩ : Looks tasks _ i := looks _ rfl
      rw [Scene.resume_fetched _ _ found, Scene.resume_fetched _ _ found]
      exact mirrors.complete named i result

theorem nextWake? (mirrors : a.Mirrors m) : a.nextWake? = m.nextWake? := by
  have moments : Forall₂ (· = ·) (a.sleeping.map (·.1)) (m.sleeping.map (·.1)) := by
    rw [List.forall₂_map_left_iff, List.forall₂_map_right_iff]
    exact mirrors.sleeping.imp fun _ _ names => names.1
  rw [List.forall₂_eq_eq_eq] at moments
  rw [Scene.nextWake?, Scene.nextWake?, moments]

theorem sleeping_filter (mirrors : a.Mirrors m) (p : Nat → Bool) :
    Forall₂ (NamesAt m.cache) (a.sleeping.filter fun s => p s.1)
      (m.sleeping.filter fun s => p s.1) := by
  apply List.rel_filter _ mirrors.sleeping
  intro s r names
  show p s.1 = true ↔ p r.1 = true
  rw [names.1]

theorem wakeAt (mirrors : a.Mirrors m) {moment : Nat} (later : m.now ≤ moment) :
    (a.wakeAt moment).Mirrors (m.wakeAt moment) where
  now := rfl
  slots := mirrors.slots.mono later
  ready := by
    have due := mirrors.sleeping_filter (fun time => decide (time = moment))
    rw [Scene.wakeAt, Scene.wakeAt, List.forall₂_map_left_iff, List.forall₂_map_right_iff]
    exact due.imp fun _ _ names => names.2
  sleeping := mirrors.sleeping_filter (fun time => decide (time ≠ moment))
  notes := mirrors.notes
  replies := mirrors.replies

theorem step (mirrors : a.Mirrors m) (tidy : Tidy tasks a none) :
    Option.Rel Scene.Mirrors (a.step? Table.keeping tasks) (m.step? Cache.keeping tasks) := by
  obtain ⟨now, slots, ready, sleeping, notes, replies⟩ := id mirrors
  unfold Scene.step?
  cases goesOn : a.ready with
  | nil =>
      rw [goesOn, List.forall₂_nil_left_iff] at ready
      rw [ready, mirrors.nextWake?]
      cases soonest : m.nextWake? with
      | none => exact .none
      | some moment =>
          have later : a.now < moment := by
            obtain ⟨member, _⟩ := List.min?_eq_some_iff.1 (mirrors.nextWake?.trans soonest)
            obtain ⟨s, asleep, rfl⟩ := List.mem_map.1 member
            exact tidy.ahead s asleep
          exact .some (mirrors.wakeAt (now ▸ later.le))
  | cons wake rest =>
      rw [goesOn] at ready
      cases others : m.ready with
      | nil => 
          rw [others] at ready
          cases ready
      | cons other more =>
          rw [others] at ready
          obtain ⟨names, following⟩ := List.forall₂_cons.1 ready
          have popped : ({ a with ready := rest } : Tableau κ ν ε).Mirrors
              { m with ready := more } :=
            ⟨now, slots, following, sleeping, notes, replies⟩
          have looks := tidy.looks wake (by simp [Scene.wakes, goesOn])
          exact .some (popped.resume (tidy.pop goesOn) looks names)

theorem run (mirrors : a.Mirrors m) (tidy : Tidy tasks a none) (steps : Nat) :
    (a.run Table.keeping tasks steps).Mirrors (m.run Cache.keeping tasks steps) := by
  induction steps generalizing a m with
  | zero => exact mirrors
  | succ steps ih =>
      have stepped := mirrors.step tidy
      unfold Scene.run
      generalize goes : a.step? Table.keeping tasks = next at stepped ⊢
      generalize m.step? Cache.keeping tasks = other at stepped ⊢
      cases stepped with
      | none => exact mirrors
      | some both => exact ih both (tidy.step goes)

theorem opening {t : Table κ ν} {c : Cache κ ν} {now : Nat} (mirrors : Cache.Mirrors now t c)
    (count : Nat) :
    (Scene.opening t now count : Tableau κ ν ε).Mirrors (Scene.opening c now count) where
  now := rfl
  slots := mirrors
  ready := by
    rw [Scene.opening, Scene.opening, List.forall₂_map_left_iff, List.forall₂_map_right_iff]
    exact List.forall₂_same.2 fun task _ => .spawned task
  sleeping := .nil
  notes := rfl
  replies := rfl

end Scene.Mirrors

variable {t : Table κ ν} {c : Cache κ ν} {now : Nat}

/-- Tasks on a table go as on the cache. -/
theorem Mirrors.runTasks (mirrors : Mirrors now t c) (idle : t.Idle) (tasks : List (Task κ ν ε)) :
    (Table.keeping.runTasks t now tasks).Mirrors (c.runTasks now tasks) :=
  (Scene.Mirrors.opening mirrors tasks.length).run (.opening idle now tasks.length) _

/-- What was started together on a table went as on the cache. -/
structure Account.Mirrors (a : Account κ ν ε (Table κ ν) κ) (b : Account κ ν ε (Cache κ ν) Nat) :
    Prop where
  start : a.start = b.start
  tasks : a.tasks = b.tasks
  close : a.close.Mirrors b.close

/-- Rounds on a table go as on the cache. -/
theorem accounts_mirror (mirrors : Mirrors now t c) (idle : t.Idle) (rounds : List (Round κ ν ε)) :
    Forall₂ Account.Mirrors (Table.keeping.accounts t now rounds) (c.accounts now rounds) := by
  induction rounds generalizing t c now with
  | nil => exact .nil
  | cons round rest ih =>
      have close := (mirrors.mono (Nat.le_add_right now round.pause)).runTasks idle round.tasks
      have following := ih close.slots (idle_runTasks idle _ round.tasks)
      refine .cons ⟨rfl, rfl, close⟩ ?_
      rw [close.now]
      exact following

/-- What is the same for accounts that cannot be told apart is the same for rounds on a new cache as
for rounds on an empty table. -/
theorem map_accounts {α : Type} {f : Account κ ν ε (Table κ ν) κ → α}
    {g : Account κ ν ε (Cache κ ν) Nat → α} (same : ∀ a b, a.Mirrors b → f a = g b)
    (ttl start : Nat) (rounds : List (Round κ ν ε)) :
    ((empty ttl : Cache κ ν).accounts start rounds).map g =
      (Table.keeping.accounts (.empty ttl) start rounds).map f := by
  have mirrored := accounts_mirror (.empty start ttl : Mirrors start (.empty ttl : Table κ ν) _)
    (fun _ => ⟨rfl, rfl⟩) rounds
  have equal : Forall₂ (· = ·) ((Table.keeping.accounts (.empty ttl) start rounds).map f)
      (((empty ttl : Cache κ ν).accounts start rounds).map g) := by
    rw [List.forall₂_map_left_iff, List.forall₂_map_right_iff]
    exact mirrored.imp same
  rw [List.forall₂_eq_eq_eq] at equal
  exact equal.symm

end Provisioning.Cache
