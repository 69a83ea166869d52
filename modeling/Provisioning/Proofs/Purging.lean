import Provisioning.Proofs.Mirroring

/-!
Nobody can tell a purge from doing nothing. On a table a purge does nothing at all, and the cache
does what a table does. Main statement: `purges_invisible`.
-/

namespace Provisioning.Cache

variable {κ ν ε : Type}

/-- Nothing is done instead of a purge. -/
def Job.sparing : Job κ ν ε → Job κ ν ε
  | .purge => .idle
  | job => job

/-- A task that purges does nothing, after the same sleep. -/
def Task.sparing (task : Task κ ν ε) : Task κ ν ε := ⟨task.delay, task.job.sparing⟩

def Round.sparing (round : Round κ ν ε) : Round κ ν ε := ⟨round.pause, round.tasks.map Task.sparing⟩

/-- What can be seen of tasks, apart from the size of the cache: when they started and when the last
ended, which fetches began and what became of all look-ups, and what each task got and when. -/
structure Seen (κ ν ε : Type) where
  start : Nat
  close : Nat
  notes : List (Note κ ν ε)
  replies : List (Reply ν ε)

def Account.seen {σ η : Type} (a : Account κ ν ε σ η) : Seen κ ν ε :=
  ⟨a.start, a.close.now, a.close.notes, a.close.replies⟩

variable [DecidableEq κ]

theorem Account.Mirrors.seen {a : Account κ ν ε (Table κ ν) κ} {b : Account κ ν ε (Cache κ ν) Nat}
    (mirrors : a.Mirrors b) : a.seen = b.seen := by
  rw [Account.seen, Account.seen, mirrors.start, mirrors.close.now, mirrors.close.notes,
    mirrors.close.replies]

section Table

variable {tasks : List (Task κ ν ε)} {m : Tableau κ ν ε}

theorem start_sparing (task : Nat) (job : Job κ ν ε) :
    m.start Table.keeping task job.sparing = m.start Table.keeping task job := by
  cases job <;> rfl

theorem resume_sparing (wake : Wake κ) :
    m.resume Table.keeping (tasks.map Task.sparing) wake = m.resume Table.keeping tasks wake := by
  unfold Scene.resume
  rw [List.getElem?_map]
  cases tasks[wake.task]? with
  | none => rfl
  | some task =>
      simp only [Option.map_some, Task.sparing]
      cases wake with
      | spawned i => simp only [start_sparing]
      | started i => simp only [start_sparing]
      | granted i key => cases task.job <;> rfl
      | fetched i key => cases task.job <;> rfl

theorem run_sparing (steps : Nat) :
    m.run Table.keeping (tasks.map Task.sparing) steps = m.run Table.keeping tasks steps := by
  have step (m : Tableau κ ν ε) :
      m.step? Table.keeping (tasks.map Task.sparing) = m.step? Table.keeping tasks := by
    unfold Scene.step?
    simp only [resume_sparing]
  induction steps generalizing m with
  | zero => rfl
  | succ steps ih =>
      unfold Scene.run
      rw [step]
      cases m.step? Table.keeping tasks with
      | none => rfl
      | some next => exact ih

theorem runTasks_sparing (t : Table κ ν) (now : Nat) :
    Table.keeping.runTasks t now (tasks.map Task.sparing) = Table.keeping.runTasks t now tasks := by
  unfold Keeping.runTasks stepBound
  rw [run_sparing, List.length_map]

/-- On a table a purge does nothing. -/
theorem accounts_sparing (t : Table κ ν) (now : Nat) (rounds : List (Round κ ν ε)) :
    (Table.keeping.accounts t now (rounds.map Round.sparing)).map Account.seen =
      (Table.keeping.accounts t now rounds).map Account.seen := by
  induction rounds generalizing t now with
  | nil => rfl
  | cons round rest ih =>
      simp only [List.map_cons, Keeping.accounts, Round.sparing, runTasks_sparing, ih]
      rfl

end Table

/-- When every purge is left out, the same look-ups get the same at the same moments and the same
fetches begin. -/
theorem purges_invisible (ttl start : Nat) (rounds : List (Round κ ν ε)) :
    ((empty ttl : Cache κ ν).accounts start (rounds.map Round.sparing)).map Account.seen =
      ((empty ttl : Cache κ ν).accounts start rounds).map Account.seen :=
  calc
    _ = (Table.keeping.accounts (.empty ttl) start (rounds.map Round.sparing)).map Account.seen :=
      map_accounts (fun _ _ mirrors => mirrors.seen) ttl start _
    _ = (Table.keeping.accounts (.empty ttl) start rounds).map Account.seen :=
      accounts_sparing (.empty ttl) start rounds
    _ = _ := (map_accounts (fun _ _ mirrors => mirrors.seen) ttl start rounds).symm

end Provisioning.Cache
