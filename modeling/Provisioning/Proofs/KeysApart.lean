import Provisioning.Proofs.Chronicle
import Provisioning.Proofs.Selection

/-!
Keys have nothing to do with each other. When all look-ups of other keys are left out, and what is
left is still started at the same moments, then look-ups of a key get the same at the same moments
and the same of its fetches begin. Main statement: `keys_apart`.
-/

namespace Provisioning

/-- For tasks that use no lock it does not matter how tasks are numbered. -/
theorem Table.Idle.only {κ ν : Type} {t : Table κ ν} (idle : t.Idle) (keep : Option κ → Bool)
    (f g : Nat → Nat) : t.only keep f = t.only keep g := by
  have same (key : κ) : (t.slot key).relabel f = (t.slot key).relabel g := by
    simp [Slot.relabel, idle key]
  ext1
  · rfl
  · funext key
    simp only [Table.only, same]

namespace Cache

variable {κ ν ε : Type}

def Reply.relabel (f : Nat → Nat) (reply : Reply ν ε) : Reply ν ε :=
  { reply with task := f reply.task }

/-- What is seen of tasks that were started together: when they started, what became of their
look-ups, and what each got and when. -/
structure Glimpse (κ ν ε : Type) where
  start : Nat
  notes : List (Note κ ν ε)
  replies : List (Reply ν ε)

/-- What was started together and when, if anything. -/
def Story.plan? (story : Story κ ν ε) : Option (Nat × List (Task κ ν ε)) :=
  if story.tasks.isEmpty then none else some (story.start, story.tasks)

/-- What is seen of what was started together, if anything. -/
def Story.glimpse? (story : Story κ ν ε) : Option (Glimpse κ ν ε) :=
  if story.tasks.isEmpty then none else some ⟨story.start, story.notes, story.replies⟩

variable {t : Table κ ν} {now : Nat}

theorem idle_only (idle : t.Idle) (keep : Option κ → Bool) : (t.only keep id).Idle := by
  intro key
  by_cases kept : keep (some key)
  · simp [Table.only, kept, Slot.relabel, idle key]
  · simp [Table.only, kept, Slot.empty]

theorem only_empty (keep : Option κ → Bool) (ttl : Nat) :
    (Table.empty ttl : Table κ ν).only keep id = .empty ttl := by
  ext1
  · rfl
  · funext other
    simp [Table.only, Table.empty, Slot.relabel, Slot.empty]

theorem only_opening (idle : t.Idle) (keep : Option κ → Bool) (now : Nat)
    (tasks : List (Task κ ν ε)) :
    (Scene.opening t now tasks.length : Tableau κ ν ε).only keep tasks =
      Scene.opening (t.only keep id) now (select keep tasks).length := by
  ext1
  · rfl
  · exact idle.only keep _ _
  · show (((List.range tasks.length).map Wake.spawned).filter _).map _ =
      (List.range (select keep tasks).length).map Wake.spawned
    rw [← map_place_range, List.filter_map, List.map_map, List.map_map]
    rfl
  · rfl
  · rfl
  · rfl

theorem Trails.replies {keep : Option κ → Bool} {tasks : List (Task κ ν ε)} {m s : Tableau κ ν ε}
    (trails : Trails keep tasks m s) :
    s.replies = (m.replies.filter fun reply => chosen keep tasks reply.task).map
      (Reply.relabel (place keep tasks)) := by
  rw [Scene.replies, trails.ended]
  simp [Scene.only, Scene.replies, List.filter_map, Function.comp_def, Ended.reply, Ended.relabel,
    Reply.relabel]

variable [DecidableEq κ]

/-- Look-ups of a key and tasks that look nothing up are about the key. -/
def about (key : κ) (other : Option κ) : Bool := other.all (· = key)

theorem notes_only (key : κ) (tasks : List (Task κ ν ε)) (m : Tableau κ ν ε) :
    (m.only (about key) tasks).notes =
      (m.notes.filter fun note => note.key = key).map (Note.relabel (place (about key) tasks)) := by
  simp [Scene.only, about]

/-- What was started together and when, if anything, when look-ups of other keys are left out. -/
def Story.planOf? (key : κ) (story : Story κ ν ε) : Option (Nat × List (Task κ ν ε)) :=
  let tasks := select (about key) story.tasks
  if tasks.isEmpty then none else some (story.start, tasks)

/-- What is seen of what was started together, if anything, when look-ups of other keys are left out
and the remaining tasks are numbered anew. -/
def Story.glimpseOf? (key : κ) (story : Story κ ν ε) : Option (Glimpse κ ν ε) :=
  if (select (about key) story.tasks).isEmpty then none
  else
    some ⟨story.start,
      (story.notes.filter fun note => note.key = key).map
        (Note.relabel (place (about key) story.tasks)),
      (story.replies.filter fun reply => chosen (about key) story.tasks reply.task).map
        (Reply.relabel (place (about key) story.tasks))⟩

/-- What is seen of tasks on a table that are started at given moments. -/
def glimpses (t : Table κ ν) : List (Nat × List (Task κ ν ε)) → List (Glimpse κ ν ε)
  | [] => []
  | (start, tasks) :: rest =>
      let close := Table.keeping.runTasks t start tasks
      ⟨start, close.notes, close.replies⟩ :: glimpses close.cache rest

/-- The chosen tasks alone end as they end among all tasks, and not later. -/
theorem trails_runTasks (idle : t.Idle) (keep : Option κ → Bool) (now : Nat)
    (tasks : List (Task κ ν ε)) :
    Trails keep tasks (Table.keeping.runTasks t now tasks)
      (Table.keeping.runTasks (t.only keep id) now (select keep tasks)) := by
  have opened := Trails.refl keep tasks (Scene.opening t now tasks.length)
  rw [only_opening idle] at opened
  obtain ⟨fewer, trails⟩ := opened.run (.opening idle now tasks.length) (stepBound tasks)
  have halted := trails.halted (Tidy.halts idle now tasks)
  have ended := Tidy.halts (idle_only idle keep) now (select keep tasks)
  have same : (Scene.opening (t.only keep id) now (select keep tasks).length).run Table.keeping
      (select keep tasks) fewer =
        Table.keeping.runTasks (t.only keep id) now (select keep tasks) := by
    rcases le_total fewer (stepBound (select keep tasks)) with le | ge
    · exact (run_of_halted le halted).symm
    · exact run_of_halted ge ended
  exact same ▸ trails

/-- Look-ups of a key leave the key's slot as they do among all look-ups. -/
theorem cache_runTasks_only (idle : t.Idle) (keep : Option κ → Bool) (now : Nat)
    (tasks : List (Task κ ν ε)) :
    (Table.keeping.runTasks t now tasks).cache.only keep id =
      (Table.keeping.runTasks (t.only keep id) now (select keep tasks)).cache := by
  rw [(trails_runTasks idle keep now tasks).cache]
  exact (idle_runTasks idle now tasks).only keep _ _

/-- What is seen of rounds when look-ups of other keys are left out is what is seen of the remaining
tasks alone. -/
theorem glimpseOf_accounts (idle : t.Idle) (key : κ) (rounds : List (Round κ ν ε)) :
    ((Table.keeping.accounts t now rounds).map Account.story).filterMap (Story.glimpseOf? key) =
      glimpses (t.only (about key) id)
        (((Table.keeping.accounts t now rounds).map Account.story).filterMap
          (Story.planOf? key)) := by
  induction rounds generalizing t now with
  | nil => rfl
  | cons round rest ih =>
      let close := Table.keeping.runTasks t (now + round.pause) round.tasks
      have after := @ih close.cache close.now (idle_runTasks idle _ round.tasks)
      rw [cache_runTasks_only idle] at after
      simp only [Keeping.accounts, List.map_cons, List.filterMap_cons, Story.glimpseOf?,
        Story.planOf?, Account.story]
      by_cases none_ : (select (about key) round.tasks).isEmpty
      · rw [if_pos none_, if_pos none_, after, List.isEmpty_iff.1 none_]
        rfl
      · rw [if_neg none_, if_neg none_, after]
        have trails := trails_runTasks idle (about key) (now + round.pause) round.tasks
        simp only [glimpses]
        rw [trails.replies, trails.notes, notes_only]

/-- What is seen of rounds is what is seen of their tasks, whatever the pauses. -/
theorem glimpse_accounts (rounds : List (Round κ ν ε)) :
    ((Table.keeping.accounts t now rounds).map Account.story).filterMap Story.glimpse? =
      glimpses t
        (((Table.keeping.accounts t now rounds).map Account.story).filterMap Story.plan?) := by
  induction rounds generalizing t now with
  | nil => rfl
  | cons round rest ih =>
      simp only [Keeping.accounts, List.map_cons, List.filterMap_cons, Story.glimpse?, Story.plan?,
        Account.story]
      by_cases none_ : round.tasks.isEmpty
      · rw [if_pos none_, if_pos none_]
        simp only
        rw [ih, List.isEmpty_iff.1 none_]
        rfl
      · rw [if_neg none_, if_neg none_]
        exact congrArg _ ih

/-- Without the look-ups of other keys nothing ends later, so that the remaining tasks can be
started at the same moments. -/
theorem exists_pauses {early : Nat} (idle : t.Idle) (key : κ) (rounds : List (Round κ ν ε))
    (le : early ≤ now) :
    ∃ others : List (Round κ ν ε),
      ((Table.keeping.accounts (t.only (about key) id) early others).map Account.story).filterMap
          Story.plan? =
        ((Table.keeping.accounts t now rounds).map Account.story).filterMap
          (Story.planOf? key) := by
  induction rounds generalizing t now early with
  | nil => exact ⟨[], rfl⟩
  | cons round rest ih =>
      let tasks := select (about key) round.tasks
      let close := Table.keeping.runTasks t (now + round.pause) round.tasks
      let alone := Table.keeping.runTasks (t.only (about key) id) (now + round.pause) tasks
      have trails : Trails (about key) round.tasks close alone := trails_runTasks idle _ _ _
      have cache : close.cache.only (about key) id = alone.cache := cache_runTasks_only idle _ _ _
      have after := idle_runTasks idle (now + round.pause) round.tasks
      by_cases none_ : tasks.isEmpty
      · have still : alone.now = now + round.pause ∧ alone.cache = t.only (about key) id := by
          simp only [alone, List.isEmpty_iff.1 none_]
          exact ⟨rfl, rfl⟩
        have behind := trails.now_le
        rw [still.1] at behind
        obtain ⟨others, same⟩ := @ih close.cache close.now early after (by omega)
        rw [cache, still.2] at same
        refine ⟨others, same.trans ?_⟩
        simp only [Keeping.accounts, List.map_cons, List.filterMap_cons, Story.planOf?,
          Account.story]
        rw [if_pos none_]
      · obtain ⟨others, same⟩ := @ih close.cache close.now alone.now after trails.now_le
        rw [cache] at same
        refine ⟨⟨now + round.pause - early, tasks⟩ :: others, ?_⟩
        have start : early + (now + round.pause - early) = now + round.pause := by omega
        simp only [Keeping.accounts, List.map_cons, List.filterMap_cons, Story.planOf?, Story.plan?,
          Account.story, start]
        rw [if_neg none_]
        exact congrArg _ same

/-- The rounds that remain when look-ups of other keys are left out can be started at the same
moments. -/
theorem exists_apart (ttl start : Nat) (key : κ) (rounds : List (Round κ ν ε)) :
    ∃ others : List (Round κ ν ε),
      (((empty ttl : Cache κ ν).accounts start others).map Account.story).filterMap Story.plan? =
        (((empty ttl : Cache κ ν).accounts start rounds).map Account.story).filterMap
          (Story.planOf? key) := by
  have idle : (Table.empty ttl : Table κ ν).Idle := fun _ => ⟨rfl, rfl⟩
  obtain ⟨others, same⟩ := exists_pauses idle key rounds (Nat.le_refl start)
  rw [only_empty] at same
  exact ⟨others, by rw [stories_accounts, stories_accounts, same]⟩

/-- The look-ups of a key, with all tasks that look nothing up, go as they do among look-ups of
other keys when they are started at the same moments. -/
theorem keys_apart (ttl start : Nat) (key : κ) (rounds others : List (Round κ ν ε))
    (apart :
      (((empty ttl : Cache κ ν).accounts start others).map Account.story).filterMap Story.plan? =
        (((empty ttl : Cache κ ν).accounts start rounds).map Account.story).filterMap
          (Story.planOf? key)) :
    (((empty ttl : Cache κ ν).accounts start others).map Account.story).filterMap Story.glimpse? =
      (((empty ttl : Cache κ ν).accounts start rounds).map Account.story).filterMap
        (Story.glimpseOf? key) := by
  rw [stories_accounts, stories_accounts] at apart ⊢
  have idle : (Table.empty ttl : Table κ ν).Idle := fun _ => ⟨rfl, rfl⟩
  rw [glimpse_accounts, apart, glimpseOf_accounts idle, only_empty]

/-- A slow fetch of another key ends its round later, and a longer pause makes up for it. -/
theorem slow_fetch_apart :
    let rounds : List (Round Nat Nat Unit) :=
      [⟨0, [⟨0, .get 1 5 (.ok 3)⟩, ⟨0, .get 0 1 (.ok 7)⟩]⟩,
        ⟨2, [⟨0, .get 0 1 (.ok 8)⟩, ⟨1, .purge⟩]⟩]
    let others : List (Round Nat Nat Unit) :=
      [⟨0, [⟨0, .get 0 1 (.ok 7)⟩]⟩, ⟨6, [⟨0, .get 0 1 (.ok 8)⟩, ⟨1, .purge⟩]⟩]
    (((empty 4 : Cache Nat Nat).accounts 0 others).map Account.story).filterMap Story.plan? =
        (((empty 4 : Cache Nat Nat).accounts 0 rounds).map Account.story).filterMap
          (Story.planOf? 0) ∧
      (((empty 4 : Cache Nat Nat).accounts 0 others).map Account.story).filterMap Story.glimpse? =
        (((empty 4 : Cache Nat Nat).accounts 0 rounds).map Account.story).filterMap
          (Story.glimpseOf? 0) := by
  intro rounds others
  let plans : List (Nat × List (Task Nat Nat Unit)) :=
    [(0, [⟨0, .get 0 1 (.ok 7)⟩]), (7, [⟨0, .get 0 1 (.ok 8)⟩, ⟨1, .purge⟩])]
  have alone :
      (((empty 4 : Cache Nat Nat).accounts 0 others).map Account.story).filterMap Story.plan? =
        plans := rfl
  have among :
      (((empty 4 : Cache Nat Nat).accounts 0 rounds).map Account.story).filterMap
        (Story.planOf? 0) = plans := rfl
  exact ⟨alone.trans among.symm, keys_apart 4 0 0 rounds others (alone.trans among.symm)⟩

end Cache

end Provisioning
