import Mathlib.Data.List.Count
import Mathlib.Logic.Function.Basic
import Provisioning.Cache.Schedule

/-!
Tasks on a table that has one slot for every key and never takes it away. `Tidy` says that a lock is
held by exactly one of the tasks that can go on or will, that nobody waits for a free lock, and that
whoever sleeps wakes later. Main statement: `Tidy.step`, that tasks keep it so.
-/

namespace Provisioning

/-- So many tasks use the lock of a slot, nobody waits for it if it is free, and only some may. -/
structure Slot.Tidy {ν : Type} (may : Nat → Prop) (users : Nat) (slot : Slot ν) : Prop where
  used : users = if slot.holder.isSome then 1 else 0
  queued : slot.holder = none → slot.waiting = []
  waits : ∀ task ∈ slot.waiting, may task

namespace Slot.Tidy

variable {ν : Type} {may : Nat → Prop} {users : Nat} {slot : Slot ν}

theorem fill (tidy : slot.Tidy may users) (value : ν) (expiresAt : Nat) :
    (slot.fill value expiresAt).Tidy may users :=
  ⟨tidy.used, tidy.queued, tidy.waits⟩

theorem request (tidy : slot.Tidy may users) {task : Nat} (allowed : may task) :
    (slot.request task).Tidy may (users + if slot.holder.isNone then 1 else 0) := by
  have used := tidy.used
  cases held : slot.holder with
  | none =>
      simp only [held] at used
      constructor
      · simp [Slot.request, held, used]
      · simp only [Slot.request, held]
        exact fun _ => tidy.queued held
      · simpa only [Slot.request, held] using tidy.waits
  | some holder =>
      simp only [held] at used
      constructor
      · simp [Slot.request, held, used]
      · simp [Slot.request, held]
      · simp only [Slot.request, held, List.mem_append, List.mem_singleton]
        rintro waiter (before | same)
        · exact tidy.waits waiter before
        · exact same ▸ allowed

theorem release (tidy : slot.Tidy may users) :
    slot.release.Tidy may slot.waiting.head?.toList.length where
  used := by cases waiting : slot.waiting <;> simp [Slot.release, waiting]
  queued := by cases waiting : slot.waiting <;> simp [Slot.release, waiting]
  waits task member := tidy.waits task (List.mem_of_mem_tail member)

end Slot.Tidy

/-- A slot for every key. -/
@[ext]
structure Table (κ ν : Type) where
  ttl : Nat
  slot : κ → Slot ν

namespace Table

variable {κ ν : Type} [DecidableEq κ]

def empty (ttl : Nat) : Table κ ν := ⟨ttl, fun _ => .empty⟩

def modify (t : Table κ ν) (key : κ) (change : Slot ν → Slot ν) : Table κ ν :=
  { t with slot := Function.update t.slot key (change (t.slot key)) }

/-- The table keeps slots by key, and a purge leaves it alone. -/
def keeping : Keeping κ ν (Table κ ν) κ where
  ttl := ttl
  find t key := (key, t)
  slot := slot
  modify := modify
  purge t _ := t
  size _ := 0

theorem keeping_ttl : (keeping : Keeping κ ν _ κ).ttl = ttl := rfl

theorem keeping_slot : (keeping : Keeping κ ν _ κ).slot = slot := rfl

/-- All locks are free. -/
def Idle (t : Table κ ν) : Prop := ∀ key, (t.slot key).holder = none ∧ (t.slot key).waiting = []

end Table

namespace Cache

/-- A moment of tasks that use a table. -/
abbrev Tableau (κ ν ε : Type) : Type := Scene κ ν ε (Table κ ν) κ

variable {κ ν ε : Type}

/-- A task looks up a key. -/
def Looks (tasks : List (Task κ ν ε)) (key : κ) (task : Nat) : Prop :=
  ∃ delay takes result, tasks[task]? = some ⟨delay, .get key takes result⟩

/-- The slot whose lock a task goes on with. -/
def Wake.slot? {η : Type} : Wake η → Option η
  | spawned _ | started _ => none
  | granted _ slot | fetched _ slot => some slot

/-- Where tasks will go on. -/
def Scene.wakes {σ η : Type} (m : Scene κ ν ε σ η) : List (Wake η) :=
  m.ready ++ m.sleeping.map (·.2)

@[simp] theorem Scene.wakes_modify {σ η : Type} (keeps : Keeping κ ν σ η) (m : Scene κ ν ε σ η)
    (slot : η) (change : Slot ν → Slot ν) : (m.modify keeps slot change).wakes = m.wakes := rfl

/-- Whoever slept until a moment can go on. -/
theorem Scene.wakes_wakeAt {σ η : Type} {m : Scene κ ν ε σ η} (idle : m.ready = [])
    (moment : Nat) : (m.wakeAt moment).wakes.Perm m.wakes := by
  simp only [wakes, wakeAt, idle, List.nil_append, ← List.map_append, ne_eq, decide_not]
  exact (List.filter_append_perm _ _).map _

/-- When nothing is left to do nobody goes on. -/
theorem Scene.wakes_of_halted {σ η : Type} {keeps : Keeping κ ν σ η} {tasks : List (Task κ ν ε)}
    {m : Scene κ ν ε σ η} (halted : m.step? keeps tasks = none) : m.wakes = [] := by
  unfold step? at halted
  split at halted
  · cases halted
  · rename_i ready
    have asleep : m.sleeping = [] := by simpa [nextWake?] using halted
    rw [wakes, ready, asleep, List.map_nil, List.append_nil]

section Resume

variable {σ η : Type} (keeps : Keeping κ ν σ η) {tasks : List (Task κ ν ε)} (m : Scene κ ν ε σ η)
  {i delay takes : Nat} {job : Job κ ν ε} {key : κ} {result : Except ε ν}

theorem Scene.resume_absent (wake : Wake η) (absent : tasks[wake.task]? = none) :
    m.resume keeps tasks wake = m := by
  rw [resume, absent]

theorem Scene.resume_spawned (given : tasks[i]? = some ⟨delay, job⟩) :
    m.resume keeps tasks (.spawned i) =
      if delay = 0 then m.start keeps i job else m.sleep delay (.started i) := by
  simp only [resume, Wake.task, given]

theorem Scene.resume_started (given : tasks[i]? = some ⟨delay, job⟩) :
    m.resume keeps tasks (.started i) = m.start keeps i job := by
  simp only [resume, Wake.task, given]

theorem Scene.resume_granted (given : tasks[i]? = some ⟨delay, .get key takes result⟩) (slot : η) :
    m.resume keeps tasks (.granted i slot) = m.holding keeps i key takes result slot := by
  simp only [resume, Wake.task, given]

theorem Scene.resume_fetched (given : tasks[i]? = some ⟨delay, .get key takes result⟩) (slot : η) :
    m.resume keeps tasks (.fetched i slot) = m.complete keeps i key result slot := by
  simp only [resume, Wake.task, given]

end Resume

variable [DecidableEq κ]

/-- How many tasks that go on do something with a key, with one that is running. -/
def tally (of : Wake κ → Option κ) (running : Option κ) (wakes : List (Wake κ)) (key : κ) : Nat :=
  wakes.countP (fun wake => of wake = some key) + if running = some key then 1 else 0

theorem tally_append (of : Wake κ → Option κ) (running : Option κ) (wakes more : List (Wake κ))
    (key : κ) :
    tally of running (wakes ++ more) key = tally of running wakes key + tally of none more key := by
  simp [tally, Nat.add_right_comm]

theorem tally_perm (of : Wake κ → Option κ) {wakes others : List (Wake κ)}
    (perm : wakes.Perm others) (running : Option κ) :
    tally of running wakes = tally of running others := by
  funext key
  rw [tally, perm.countP_eq, tally]

/-- A task that goes on is running. -/
theorem tally_cons (of : Wake κ → Option κ) (wake : Wake κ) (wakes : List (Wake κ)) :
    tally of none (wake :: wakes) = tally of (of wake) wakes := by
  funext key
  simp [tally, List.countP_cons]

/-- A look-up on a table asks for the lock of its key. -/
theorem Scene.lookUp_table (m : Tableau κ ν ε) (task : Nat) (key : κ) (takes : Nat)
    (result : Except ε ν) :
    m.lookUp Table.keeping task key takes result =
      if (m.cache.slot key).holder.isNone then
        (m.modify Table.keeping key fun s => s.request task).holding Table.keeping task key takes
          result key
      else m.modify Table.keeping key fun s => s.request task := rfl

theorem Scene.forall_slot_modify (m : Tableau κ ν ε) (key : κ) (change : Slot ν → Slot ν)
    (p : κ → Slot ν → Prop) :
    (∀ other, p other ((m.modify Table.keeping key change).cache.slot other)) ↔
      p key (change (m.cache.slot key)) ∧ ∀ other, other ≠ key → p other (m.cache.slot other) :=
  Function.forall_update_iff m.cache.slot p

/-- Locks are used by one task each, the one that is running included, whoever waits for a lock or
uses it looks its key up, and sleep ends later. -/
structure Tidy (tasks : List (Task κ ν ε)) (m : Tableau κ ν ε) (running : Option κ) : Prop where
  locks : ∀ key, (m.cache.slot key).Tidy (Looks tasks key) (tally Wake.slot? running m.wakes key)
  looks : ∀ wake ∈ m.wakes, ∀ key, wake.slot? = some key → Looks tasks key wake.task
  ahead : ∀ s ∈ m.sleeping, m.now < s.1

namespace Tidy

variable {tasks : List (Task κ ν ε)} {m next : Tableau κ ν ε} {running : Option κ} {key : κ}

theorem opening {t : Table κ ν} (idle : t.Idle) (now count : Nat) :
    Tidy tasks (Scene.opening t now count) none where
  locks key := by
    have absent :
        tally Wake.slot? none (Scene.opening t now count : Tableau κ ν ε).wakes key = 0 := by
      simp [tally, Scene.wakes, Scene.opening, Wake.slot?]
    rw [absent]
    show (t.slot key).Tidy _ _
    refine ⟨?_, fun _ => (idle key).2, ?_⟩
    · simp [(idle key).1]
    · simp [(idle key).2]
  looks wake member key := by
    simp only [Scene.wakes, Scene.opening, List.map_nil, List.append_nil, List.mem_map] at member
    obtain ⟨task, _, rfl⟩ := member
    exact nofun
  ahead := nofun

theorem finish (tidy : Tidy tasks m running) (task : Nat) (outcome : Outcome ν ε) :
    Tidy tasks (m.finish task outcome) running :=
  ⟨tidy.locks, tidy.looks, tidy.ahead⟩

theorem note (tidy : Tidy tasks m running) (task : Nat) (key : κ) (event : Event ν ε) :
    Tidy tasks (m.note task key event) running :=
  ⟨tidy.locks, tidy.looks, tidy.ahead⟩

/-- The lock of the running task is held, and nobody else goes on with it. -/
theorem holds (tidy : Tidy tasks m (some key)) :
    (m.cache.slot key).holder.isSome ∧ tally Wake.slot? none m.wakes key = 0 := by
  have used := (tidy.locks key).used
  by_cases held : (m.cache.slot key).holder.isSome
  · simpa [tally, held] using used
  · simp [tally, held] at used

/-- Whoever goes on with the lock of a key holds it. -/
theorem held (tidy : Tidy tasks m running) {wake : Wake κ} (member : wake ∈ m.wakes)
    (uses : wake.slot? = some key) : (m.cache.slot key).holder.isSome := by
  have used := (tidy.locks key).used
  have counted : 0 < m.wakes.countP fun wake => wake.slot? = some key :=
    List.countP_pos_iff.2 ⟨wake, member, decide_eq_true uses⟩
  by_cases held : (m.cache.slot key).holder.isSome
  · exact held
  · rw [if_neg held, tally] at used
    omega

/-- The next task goes on, with the lock that it goes on with. -/
theorem pop (tidy : Tidy tasks m none) {wake : Wake κ} {rest : List (Wake κ)}
    (ready : m.ready = wake :: rest) : Tidy tasks { m with ready := rest } wake.slot? := by
  have wakes : m.wakes = wake :: ({ m with ready := rest } : Tableau κ ν ε).wakes := by
    simp [Scene.wakes, ready]
  constructor
  · intro key
    rw [← tally_cons, ← wakes]
    exact tidy.locks key
  · intro other member
    exact tidy.looks other (wakes ▸ List.mem_cons_of_mem _ member)
  · exact tidy.ahead

theorem sleep (tidy : Tidy tasks m running) {length : Nat} (long : length ≠ 0) {wake : Wake κ}
    (same : wake.slot? = running) (looks : ∀ key, running = some key → Looks tasks key wake.task) :
    Tidy tasks (m.sleep length wake) none := by
  have wakes : (m.sleep length wake).wakes = m.wakes ++ [wake] := by
    simp [Scene.wakes, Scene.sleep]
  constructor
  · intro key
    have used : tally Wake.slot? none (m.wakes ++ [wake]) key =
        tally Wake.slot? running m.wakes key := by
      simp [tally, same, List.countP_cons]
    rw [wakes, used]
    exact tidy.locks key
  · intro other member key uses
    rw [wakes] at member
    rcases List.mem_append.1 member with before | added
    · exact tidy.looks other before key uses
    · cases List.mem_singleton.1 added
      exact looks key (same ▸ uses)
  · intro s member
    rcases List.mem_append.1 member with before | added
    · exact tidy.ahead s before
    · rw [List.mem_singleton.1 added]
      show m.now < m.now + length
      omega

theorem fill (tidy : Tidy tasks m running) (key : κ) (value : ν) (expiresAt : Nat) :
    Tidy tasks (m.modify Table.keeping key fun s => s.fill value expiresAt) running where
  locks := (m.forall_slot_modify key _ fun _ slot => slot.Tidy _ _).2
    ⟨(tidy.locks key).fill value expiresAt, fun other _ => tidy.locks other⟩
  looks := tidy.looks
  ahead := tidy.ahead

/-- A task that finds the lock of a key free goes on with it, and otherwise waits for it. -/
theorem request (tidy : Tidy tasks m none) {task : Nat} (looks : Looks tasks key task) :
    Tidy tasks (m.modify Table.keeping key fun s => s.request task)
      (if (m.cache.slot key).holder.isNone then some key else none) where
  locks := by
    refine (m.forall_slot_modify key _ fun _ slot => slot.Tidy _ _).2 ⟨?_, fun other differ => ?_⟩
    · have asked := (tidy.locks key).request looks
      by_cases free : (m.cache.slot key).holder.isNone <;> simpa [tally, free] using asked
    · have before := tidy.locks other
      by_cases free : (m.cache.slot key).holder.isNone
      · simpa [tally, free, Ne.symm differ] using before
      · simpa [tally, free] using before
  looks := tidy.looks
  ahead := tidy.ahead

/-- Where tasks will go on once a lock is released. -/
theorem wakes_release (m : Tableau κ ν ε) (key : κ) :
    (m.release Table.keeping key).wakes.Perm
      (m.wakes ++ ((m.cache.slot key).waiting.head?.map (Wake.granted · key)).toList) := by
  change ((m.ready ++ _) ++ m.sleeping.map (·.2)).Perm ((m.ready ++ m.sleeping.map (·.2)) ++ _)
  rw [List.append_assoc, List.append_assoc]
  exact List.Perm.append_left _ List.perm_append_comm

/-- A released lock goes to the first that waits for it. -/
theorem release (tidy : Tidy tasks m (some key)) :
    Tidy tasks (m.release Table.keeping key) none where
  locks := by
    rw [tally_perm _ (wakes_release m key)]
    refine (m.forall_slot_modify key _ fun _ slot => slot.Tidy _ _).2 ⟨?_, fun other differ => ?_⟩
    · have next := (tidy.locks key).release
      rw [tally_append, tidy.holds.2]
      cases waiting : (m.cache.slot key).waiting.head? <;>
        simpa [waiting, tally, Wake.slot?] using next
    · have before := tidy.locks other
      rw [tally_append]
      cases waiting : (m.cache.slot key).waiting.head? <;>
        simpa [tally, Wake.slot?, Ne.symm differ] using before
  looks wake member other uses := by
    rcases List.mem_append.1 ((wakes_release m key).mem_iff.1 member) with before | granted
    · exact tidy.looks wake before other uses
    · simp only [Option.mem_toList, Option.map_eq_some_iff] at granted
      obtain ⟨first, found, rfl⟩ := granted
      cases uses
      exact (tidy.locks key).waits first (List.mem_of_mem_head? found)
  ahead := tidy.ahead

theorem complete (tidy : Tidy tasks m (some key)) (task : Nat) (result : Except ε ν) :
    Tidy tasks (m.complete Table.keeping task key result key) none := by
  cases result with
  | ok value => exact (((tidy.note _ _ _).fill _ _ _).release).finish _ _
  | error fault => exact ((tidy.note _ _ _).release).finish _ _

theorem holding (tidy : Tidy tasks m (some key)) {task : Nat} (looks : Looks tasks key task)
    (takes : Nat) (result : Except ε ν) :
    Tidy tasks (m.holding Table.keeping task key takes result key) none := by
  unfold Scene.holding
  split
  · exact ((tidy.note _ _ _).release).finish _ _
  · dsimp only
    split
    · exact (tidy.note _ _ _).complete _ _
    · rename_i long
      refine (tidy.note _ _ _).sleep long rfl fun other same => ?_
      cases same
      exact looks

theorem lookUp (tidy : Tidy tasks m none) {task : Nat} (looks : Looks tasks key task)
    (takes : Nat) (result : Except ε ν) :
    Tidy tasks (m.lookUp Table.keeping task key takes result) none := by
  have asked := tidy.request looks
  rw [Scene.lookUp_table]
  split
  · rename_i free
    rw [if_pos free] at asked
    exact asked.holding looks takes result
  · rename_i taken
    rw [if_neg taken] at asked
    exact asked

theorem start (tidy : Tidy tasks m none) {task delay : Nat} {job : Job κ ν ε}
    (given : tasks[task]? = some ⟨delay, job⟩) :
    Tidy tasks (m.start Table.keeping task job) none := by
  cases job with
  | get key takes result => exact tidy.lookUp ⟨delay, takes, result, given⟩ takes result
  | purge => exact tidy.finish _ _
  | idle => exact tidy.finish _ _

theorem resume {wake : Wake κ} (tidy : Tidy tasks m wake.slot?)
    (looks : ∀ key, wake.slot? = some key → Looks tasks key wake.task) :
    Tidy tasks (m.resume Table.keeping tasks wake) none := by
  cases wake with
  | spawned i =>
      cases given : tasks[i]? with
      | none => exact (Scene.resume_absent _ m (.spawned i) given).symm ▸ tidy
      | some task =>
          rw [Scene.resume_spawned _ _ given]
          split
          · exact tidy.start given
          · rename_i long
            exact tidy.sleep long rfl nofun
  | started i =>
      cases given : tasks[i]? with
      | none => exact (Scene.resume_absent _ m (.started i) given).symm ▸ tidy
      | some task =>
          rw [Scene.resume_started _ _ given]
          exact tidy.start given
  | granted i key =>
      obtain ⟨delay, takes, result, found⟩ : Looks tasks key i := looks key rfl
      rw [Scene.resume_granted _ _ found]
      exact tidy.holding ⟨delay, takes, result, found⟩ takes result
  | fetched i key =>
      obtain ⟨delay, takes, result, found⟩ : Looks tasks key i := looks key rfl
      rw [Scene.resume_fetched _ _ found]
      exact tidy.complete i result

/-- When nobody can go on the clock moves to the moment at which the next wakes. -/
theorem wakeAt (tidy : Tidy tasks m none) (idle : m.ready = []) {moment : Nat}
    (soonest : m.nextWake? = some moment) : Tidy tasks (m.wakeAt moment) none := by
  have wakes := Scene.wakes_wakeAt idle moment
  constructor
  · intro key
    rw [tally_perm _ wakes]
    exact tidy.locks key
  · exact fun wake member => tidy.looks wake (wakes.mem_iff.1 member)
  · intro s member
    obtain ⟨asleep, later⟩ := List.mem_filter.1 member
    have least := (List.min?_eq_some_iff.1 soonest).2 s.1 (List.mem_map_of_mem asleep)
    have differ : s.1 ≠ moment := by simpa using later
    show moment < s.1
    omega

theorem step (tidy : Tidy tasks m none) (steps : m.step? Table.keeping tasks = some next) :
    Tidy tasks next none := by
  unfold Scene.step? at steps
  split at steps
  · rename_i wake rest ready
    cases steps
    apply (tidy.pop ready).resume
    exact tidy.looks wake (by simp [Scene.wakes, ready])
  · rename_i idle
    obtain ⟨moment, soonest, rfl⟩ := Option.map_eq_some_iff.1 steps
    exact tidy.wakeAt idle soonest

end Tidy

end Cache

end Provisioning
