import Mathlib.Algebra.BigOperators.Group.Finset.Basic
import Mathlib.Algebra.GroupWithZero.Nat
import Provisioning.Proofs.Locks

/-!
Runs of tasks come to their end. `Scene.debt` bounds the steps that are left: it counts what each
task still has to go through, whether the task can go on, sleeps or waits. Main statement:
`Tidy.halts`, that the steps a run is given suffice.
-/

namespace Provisioning.Cache

open Finset

variable {κ ν ε : Type}

/-- The key that a task looks up. -/
def Job.key? : Job κ ν ε → Option κ
  | .get key _ _ => some key
  | _ => none

/-- The keys that are looked up. -/
def keysOf [DecidableEq κ] (tasks : List (Task κ ν ε)) : Finset κ :=
  (tasks.filterMap (·.job.key?)).toFinset

theorem Looks.mem_keysOf [DecidableEq κ] {tasks : List (Task κ ν ε)} {key : κ} {task : Nat}
    (looks : Looks tasks key task) : key ∈ keysOf tasks := by
  obtain ⟨delay, takes, result, found⟩ := looks
  rw [keysOf, List.mem_toFinset, List.mem_filterMap]
  exact ⟨_, List.mem_of_getElem? found, rfl⟩

/-- The steps that a task which can go on has left, if it always sleeps and always waits. -/
def Wake.toGo {η : Type} : Wake η → Nat
  | spawned _ => 6
  | started _ => 4
  | granted _ _ => 3
  | fetched _ _ => 1

/-- The steps that tasks which can go on or sleep have left. -/
def Scene.toGo {σ η : Type} (m : Scene κ ν ε σ η) : Nat :=
  (m.ready.map Wake.toGo).sum + (m.sleeping.map fun s => s.2.toGo + 1).sum

/-- How many tasks wait for the locks of some keys. -/
def Scene.queue (keys : Finset κ) (m : Tableau κ ν ε) : Nat :=
  ∑ key ∈ keys, (m.cache.slot key).waiting.length

/-- The steps that are left: who waits has as many as when it gets the lock. -/
def Scene.debt (keys : Finset κ) (m : Tableau κ ν ε) : Nat := m.toGo + 3 * m.queue keys

variable {keys : Finset κ} {m next : Tableau κ ν ε} {key : κ}

theorem debt_sleep (length : Nat) (wake : Wake κ) :
    (m.sleep length wake).debt keys = m.debt keys + wake.toGo + 1 := by
  have toGo : (m.sleep length wake).toGo = m.toGo + wake.toGo + 1 := by
    simp [Scene.toGo, Scene.sleep]
    omega
  show (m.sleep length wake).toGo + 3 * m.queue keys = m.toGo + 3 * m.queue keys + wake.toGo + 1
  omega

/-- Whoever wakes has a step less to go, and somebody wakes. -/
theorem debt_wakeAt_lt (idle : m.ready = []) {moment : Nat}
    (soonest : m.nextWake? = some moment) : (m.wakeAt moment).debt keys < m.debt keys := by
  have toGo : (m.wakeAt moment).toGo < m.toGo := by
    obtain ⟨member, _⟩ := List.min?_eq_some_iff.1 soonest
    obtain ⟨s, asleep, awake⟩ := List.mem_map.1 member
    let due := m.sleeping.filter fun s => s.1 = moment
    let later := m.sleeping.filter fun s => !decide (s.1 = moment)
    have parts : (due ++ later).Perm m.sleeping := List.filter_append_perm _ _
    have total : (m.sleeping.map fun s => s.2.toGo + 1).sum =
        (due.map fun s => s.2.toGo + 1).sum + (later.map fun s => s.2.toGo + 1).sum := by
      rw [← (parts.map _).sum_eq, List.map_append, List.sum_append]
    have woken : (due.map fun s => s.2.toGo + 1).sum =
        (due.map fun s => s.2.toGo).sum + due.length := by
      simp [List.sum_map_add]
    have somebody : 0 < due.length :=
      List.length_pos_of_mem (List.mem_filter.2 ⟨asleep, by simpa using awake⟩)
    simp only [Scene.toGo, Scene.wakeAt, idle, List.map_map, List.map_nil, List.sum_nil, ne_eq,
      decide_not]
    change (due.map fun s => s.2.toGo).sum + (later.map fun s => s.2.toGo + 1).sum < _
    omega
  show (m.wakeAt moment).toGo + 3 * m.queue keys < m.toGo + 3 * m.queue keys
  omega

variable [DecidableEq κ]

theorem queue_modify (member : key ∈ keys) (change : Slot ν → Slot ν) :
    (m.modify Table.keeping key change).queue keys + (m.cache.slot key).waiting.length =
      m.queue keys + (change (m.cache.slot key)).waiting.length := by
  have others : ∑ other ∈ keys.erase key,
      ((m.modify Table.keeping key change).cache.slot other).waiting.length =
        ∑ other ∈ keys.erase key, (m.cache.slot other).waiting.length := by
    apply sum_congr rfl
    intro other remains
    exact congrArg _ (congrArg _ (Function.update_of_ne (ne_of_mem_erase remains) ..))
  have self : (m.modify Table.keeping key change).cache.slot key = change (m.cache.slot key) :=
    Function.update_self ..
  unfold Scene.queue
  rw [← add_sum_erase keys _ member, ← add_sum_erase keys _ member, others, self]
  omega

theorem debt_fill (member : key ∈ keys) (value : ν) (expiresAt : Nat) :
    (m.modify Table.keeping key fun s => s.fill value expiresAt).debt keys = m.debt keys := by
  have queue := queue_modify (m := m) member fun s => s.fill value expiresAt
  change _ + (m.cache.slot key).waiting.length = _ + (m.cache.slot key).waiting.length at queue
  show m.toGo + 3 * _ = m.toGo + 3 * _
  omega

theorem debt_request (member : key ∈ keys) (task : Nat) :
    (m.modify Table.keeping key fun s => s.request task).debt keys =
      m.debt keys + if (m.cache.slot key).holder.isNone then 0 else 3 := by
  have queue := queue_modify (m := m) member fun s => s.request task
  have longer : ((m.cache.slot key).request task).waiting.length =
      (m.cache.slot key).waiting.length + if (m.cache.slot key).holder.isNone then 0 else 1 := by
    cases held : (m.cache.slot key).holder <;> simp [Slot.request, held]
  show m.toGo + 3 * _ = m.toGo + 3 * _ + _
  by_cases free : (m.cache.slot key).holder.isNone
  · rw [if_pos free] at longer ⊢
    omega
  · rw [if_neg free] at longer ⊢
    omega

/-- Whoever gets a released lock has as many steps left as when it waited. -/
theorem debt_release (member : key ∈ keys) :
    (m.release Table.keeping key).debt keys = m.debt keys := by
  have queue := queue_modify (m := m) member Slot.release
  have toGo : (m.release Table.keeping key).toGo =
      m.toGo + 3 * (m.cache.slot key).waiting.head?.toList.length := by
    change (List.map _
      (m.ready ++ Option.toList (Option.map _ (m.cache.slot key).waiting.head?))).sum + _ = _
    rw [List.map_append, List.sum_append]
    show _ = (m.ready.map Wake.toGo).sum + (m.sleeping.map fun s => s.2.toGo + 1).sum + _
    cases (m.cache.slot key).waiting.head? with
    | none => simp [Scene.release, Scene.modify]
    | some first => simp [Scene.release, Scene.modify, Wake.toGo]; omega
  show (m.release Table.keeping key).toGo +
    3 * (m.modify Table.keeping key Slot.release).queue keys = m.toGo + 3 * m.queue keys
  rw [toGo]
  cases waiting : (m.cache.slot key).waiting with
  | nil =>
      simp only [Slot.release, waiting, List.tail_nil] at queue
      simp only [List.head?_nil, Option.toList_none, List.length_nil]
      omega
  | cons first rest =>
      simp only [Slot.release, waiting, List.tail_cons, List.length_cons] at queue
      simp only [List.head?_cons, Option.toList_some, List.length_singleton]
      omega

theorem debt_complete (member : key ∈ keys) (task : Nat) (result : Except ε ν) :
    (m.complete Table.keeping task key result key).debt keys = m.debt keys := by
  cases result with
  | ok value => exact (debt_release member).trans (debt_fill member _ _)
  | error fault => exact debt_release member

theorem debt_holding_le (member : key ∈ keys) (task takes : Nat) (result : Except ε ν) :
    (m.holding Table.keeping task key takes result key).debt keys ≤ m.debt keys + 2 := by
  unfold Scene.holding
  split
  · have released := debt_release (m := m) member
    exact le_trans (le_of_eq released) (Nat.le_add_right _ _)
  · dsimp only
    split
    · exact le_trans (le_of_eq (debt_complete member _ _)) (Nat.le_add_right _ _)
    · exact le_of_eq (debt_sleep _ _)

theorem debt_lookUp_le (member : key ∈ keys) (task takes : Nat) (result : Except ε ν) :
    (m.lookUp Table.keeping task key takes result).debt keys ≤ m.debt keys + 3 := by
  have asked := debt_request (m := m) member task
  rw [Scene.lookUp_table]
  split
  · rename_i free
    rw [if_pos free] at asked
    have held := debt_holding_le (m := m.modify Table.keeping key fun s => s.request task) member
      task takes result
    refine le_trans held ?_
    omega
  · rename_i taken
    rw [if_neg taken] at asked
    exact le_of_eq asked

theorem debt_start_le {tasks : List (Task κ ν ε)} {task delay : Nat} {job : Job κ ν ε}
    (given : tasks[task]? = some ⟨delay, job⟩) :
    (m.start Table.keeping task job).debt (keysOf tasks) ≤ m.debt (keysOf tasks) + 3 := by
  cases job with
  | get key takes result =>
      have looks : Looks tasks key task := ⟨delay, takes, result, given⟩
      exact debt_lookUp_le looks.mem_keysOf task takes result
  | purge => exact Nat.le_add_right _ _
  | idle => exact Nat.le_add_right _ _

/-- A task that goes on has a step less to go. -/
theorem debt_resume_lt {tasks : List (Task κ ν ε)} {wake : Wake κ}
    (looks : ∀ key, wake.slot? = some key → Looks tasks key wake.task) :
    (m.resume Table.keeping tasks wake).debt (keysOf tasks) <
      m.debt (keysOf tasks) + wake.toGo := by
  cases wake with
  | spawned i =>
      cases given : tasks[i]? with
      | none =>
          rw [Scene.resume_absent _ _ _ given]
          exact Nat.lt_add_of_pos_right (by simp [Wake.toGo])
      | some task =>
          rw [Scene.resume_spawned _ _ given]
          split
          · exact Nat.lt_of_le_of_lt (debt_start_le given)
              (Nat.add_lt_add_left (show 3 < 6 by decide) _)
          · rw [debt_sleep]
            simp [Wake.toGo]
  | started i =>
      cases given : tasks[i]? with
      | none =>
          rw [Scene.resume_absent _ _ _ given]
          exact Nat.lt_add_of_pos_right (by simp [Wake.toGo])
      | some task =>
          rw [Scene.resume_started _ _ given]
          exact Nat.lt_of_le_of_lt (debt_start_le given)
            (Nat.add_lt_add_left (show 3 < 4 by decide) _)
  | granted i key =>
      have member := (looks key rfl).mem_keysOf
      obtain ⟨delay, takes, result, found⟩ : Looks tasks key i := looks key rfl
      rw [Scene.resume_granted _ _ found]
      exact Nat.lt_of_le_of_lt (debt_holding_le member i takes result)
        (Nat.add_lt_add_left (show 2 < 3 by decide) _)
  | fetched i key =>
      have member := (looks key rfl).mem_keysOf
      obtain ⟨delay, takes, result, found⟩ : Looks tasks key i := looks key rfl
      rw [Scene.resume_fetched _ _ found]
      exact Nat.lt_of_le_of_lt (debt_complete member i result).le (Nat.lt_succ_self _)

/-- A run that has come to its end stays there. -/
theorem run_of_halted {tasks : List (Task κ ν ε)} {fewer steps : Nat} (le : fewer ≤ steps)
    (halted : (m.run Table.keeping tasks fewer).step? Table.keeping tasks = none) :
    m.run Table.keeping tasks steps = m.run Table.keeping tasks fewer := by
  induction fewer generalizing m steps with
  | zero =>
      cases steps with
      | zero => rfl
      | succ steps =>
          unfold Scene.run at halted ⊢
          rw [halted]
  | succ fewer ih =>
      obtain ⟨steps, rfl⟩ : ∃ more, steps = more + 1 := ⟨steps - 1, by omega⟩
      unfold Scene.run at halted ⊢
      cases goes : m.step? Table.keeping tasks with
      | none => rfl
      | some next =>
          simp only [goes] at halted ⊢
          exact ih (by omega) halted

namespace Tidy

variable {tasks : List (Task κ ν ε)}

theorem debt_lt (tidy : Tidy tasks m none) (steps : m.step? Table.keeping tasks = some next) :
    next.debt (keysOf tasks) < m.debt (keysOf tasks) := by
  unfold Scene.step? at steps
  split at steps
  · rename_i wake rest ready
    cases steps
    have looks := tidy.looks wake (by simp [Scene.wakes, ready])
    have resumed := debt_resume_lt (m := { m with ready := rest }) looks
    have popped : m.debt (keysOf tasks) =
        ({ m with ready := rest } : Tableau κ ν ε).debt (keysOf tasks) + wake.toGo := by
      simp only [Scene.debt, Scene.toGo, Scene.queue, ready, List.map_cons, List.sum_cons]
      omega
    omega
  · rename_i idle
    obtain ⟨moment, soonest, rfl⟩ := Option.map_eq_some_iff.1 steps
    exact debt_wakeAt_lt idle soonest

/-- What keeps locks in order through a run has kept them so at its end. -/
theorem run (tidy : Tidy tasks m none) (steps : Nat) :
    Tidy tasks (m.run Table.keeping tasks steps) none := by
  induction steps generalizing m with
  | zero => exact tidy
  | succ steps ih =>
      unfold Scene.run
      split
      · rename_i next stepped
        exact ih (tidy.step stepped)
      · exact tidy

/-- A run that is given more steps than are left comes to its end. -/
theorem halted_run (tidy : Tidy tasks m none) {steps : Nat}
    (enough : m.debt (keysOf tasks) < steps) :
    (m.run Table.keeping tasks steps).step? Table.keeping tasks = none := by
  induction steps generalizing m with
  | zero => omega
  | succ steps ih =>
      unfold Scene.run
      split
      · rename_i next stepped
        have less := tidy.debt_lt stepped
        exact ih (tidy.step stepped) (by omega)
      · assumption

/-- The steps that tasks are given are more than they have left when they start. -/
theorem halts {t : Table κ ν} (idle : t.Idle) (now : Nat) (tasks : List (Task κ ν ε)) :
    (Table.keeping.runTasks t now tasks).step? Table.keeping tasks = none := by
  apply (opening idle now tasks.length).halted_run
  have queue : (Scene.opening t now tasks.length : Tableau κ ν ε).queue (keysOf tasks) = 0 := by
    apply sum_eq_zero
    intro key _
    show (t.slot key).waiting.length = 0
    rw [(idle key).2, List.length_nil]
  have toGo : (Scene.opening t now tasks.length : Tableau κ ν ε).toGo = 6 * tasks.length := by
    simp [Scene.toGo, Scene.opening, Function.comp_def, Wake.toGo, Nat.mul_comm]
  unfold Scene.debt stepBound
  omega

/-- When nothing is left to do all locks are free. -/
theorem idle (tidy : Tidy tasks m none) (halted : m.step? Table.keeping tasks = none) :
    m.cache.Idle := by
  intro key
  have used := (tidy.locks key).used
  rw [Scene.wakes_of_halted halted] at used
  by_cases held : (m.cache.slot key).holder.isSome
  · simp [tally, held] at used
  · rw [Option.not_isSome_iff_eq_none] at held
    exact ⟨held, (tidy.locks key).queued held⟩

end Tidy

/-- Tasks that start with free locks leave free locks. -/
theorem idle_runTasks {t : Table κ ν} (idle : t.Idle) (now : Nat) (tasks : List (Task κ ν ε)) :
    (Table.keeping.runTasks t now tasks).cache.Idle :=
  ((Tidy.opening idle now tasks.length).run (stepBound tasks)).idle (Tidy.halts idle now tasks)

end Provisioning.Cache
