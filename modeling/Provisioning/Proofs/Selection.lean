import Provisioning.Proofs.Halting

/-!
Some of the tasks on a table, and the slots of what they look up, as if there were no others.
`Scene.only` drops the others from a moment and numbers those that are chosen anew. Whether a task
is chosen depends on what it looks up, so that no slot is shared by a chosen task and another. Main
statement: `Trails.run`, that the chosen tasks alone go through the same moments in fewer steps.
-/

namespace Provisioning

/-- The tasks at a slot get new numbers. -/
def Slot.relabel {ν : Type} (f : Nat → Nat) (slot : Slot ν) : Slot ν :=
  { slot with holder := slot.holder.map f, waiting := slot.waiting.map f }

/-- The slots of the keys that are chosen. -/
def Table.only {κ ν : Type} (keep : Option κ → Bool) (f : Nat → Nat) (t : Table κ ν) : Table κ ν :=
  { t with slot := fun key => if keep (some key) then (t.slot key).relabel f else .empty }

section Modify

variable {κ ν : Type} [DecidableEq κ] {keep : Option κ → Bool} {f : Nat → Nat} {t : Table κ ν}
  {key : κ} {change other : Slot ν → Slot ν}

theorem Table.only_modify (kept : keep (some key))
    (same : ∀ slot, (change slot).relabel f = other (slot.relabel f)) :
    (t.modify key change).only keep f = (t.only keep f).modify key other := by
  ext1
  · rfl
  · funext another
    by_cases self : another = key
    · simp [Table.only, Table.modify, self, kept, same]
    · simp [Table.only, Table.modify, self]

theorem Table.only_modify_of_not (dropped : keep (some key) = false) :
    (t.modify key change).only keep f = t.only keep f := by
  ext1
  · rfl
  · funext another
    by_cases self : another = key
    · simp [Table.only, self, dropped]
    · simp [Table.only, Table.modify, self]

end Modify

namespace Cache

variable {κ ν ε : Type}

def Wake.relabel {η : Type} (f : Nat → Nat) : Wake η → Wake η
  | .spawned task => .spawned (f task)
  | .started task => .started (f task)
  | .granted task slot => .granted (f task) slot
  | .fetched task slot => .fetched (f task) slot

def Note.relabel (f : Nat → Nat) (note : Note κ ν ε) : Note κ ν ε :=
  { note with task := f note.task }

def Ended.relabel (f : Nat → Nat) (ended : Ended ν ε) : Ended ν ε :=
  { ended with task := f ended.task }

/-- The tasks that are chosen by what they look up. -/
def select (keep : Option κ → Bool) (tasks : List (Task κ ν ε)) : List (Task κ ν ε) :=
  tasks.filter fun task => keep task.job.key?

/-- Whether the task of a number is chosen. -/
def chosen (keep : Option κ → Bool) (tasks : List (Task κ ν ε)) (i : Nat) : Bool :=
  tasks[i]?.any fun task => keep task.job.key?

/-- The number of a task among those that are chosen. -/
def place (keep : Option κ → Bool) (tasks : List (Task κ ν ε)) (i : Nat) : Nat :=
  (tasks.take i).countP fun task => keep task.job.key?

/-- What is left of a moment when only some tasks are looked at. -/
def Scene.only (keep : Option κ → Bool) (tasks : List (Task κ ν ε)) (m : Tableau κ ν ε) :
    Tableau κ ν ε where
  now := m.now
  cache := m.cache.only keep (place keep tasks)
  ready := (m.ready.filter fun wake => chosen keep tasks wake.task).map
    (Wake.relabel (place keep tasks))
  sleeping := (m.sleeping.filter fun s => chosen keep tasks s.2.task).map fun s =>
    (s.1, s.2.relabel (place keep tasks))
  notes := (m.notes.filter fun note => keep (some note.key)).map (Note.relabel (place keep tasks))
  ended := (m.ended.filter fun ended => chosen keep tasks ended.task).map
    (Ended.relabel (place keep tasks))

section Places

variable {keep : Option κ → Bool} {tasks : List (Task κ ν ε)} {i : Nat} {task : Task κ ν ε}

theorem chosen_of_given (given : tasks[i]? = some task) :
    chosen keep tasks i = keep task.job.key? := by
  rw [chosen, given, Option.any_some]

theorem chosen_of_looks {key : κ} (looks : Looks tasks key i) :
    chosen keep tasks i = keep (some key) := by
  obtain ⟨_, _, _, given⟩ := looks
  exact chosen_of_given given

/-- A chosen task has its place among the chosen. -/
theorem select_place (given : tasks[i]? = some task) (kept : keep task.job.key?) :
    (select keep tasks)[place keep tasks i]? = some task := by
  induction tasks generalizing i with
  | nil => cases given
  | cons first rest ih =>
      cases i with
      | zero =>
          cases given
          simp [select, place, kept]
      | succ i =>
          have found := ih given
          by_cases firstKept : keep first.job.key?
          · simpa [select, place, firstKept, List.take_succ_cons] using found
          · simpa [select, place, firstKept, List.take_succ_cons] using found

/-- The chosen tasks are numbered without a gap. -/
theorem map_place_range :
    ((List.range tasks.length).filter (chosen keep tasks)).map (place keep tasks) =
      List.range (select keep tasks).length := by
  induction tasks using List.reverseRecOn with
  | nil => rfl
  | append_singleton tasks last ih =>
      have before : ∀ i ∈ List.range tasks.length,
          chosen keep (tasks ++ [last]) i = chosen keep tasks i := by
        intro i member
        rw [chosen, chosen, List.getElem?_append_left (List.mem_range.1 member)]
      have places : ∀ i ∈ (List.range tasks.length).filter (chosen keep tasks),
          place keep (tasks ++ [last]) i = place keep tasks i := by
        intro i member
        have short := List.mem_range.1 (List.mem_of_mem_filter member)
        rw [place, place, List.take_append_of_le_length short.le]
      have final : chosen keep (tasks ++ [last]) tasks.length = keep last.job.key? := by
        simp [chosen]
      have count : place keep (tasks ++ [last]) tasks.length = (select keep tasks).length := by
        simp [place, select, List.countP_eq_length_filter]
      rw [List.length_append, List.length_singleton, List.range_succ, List.filter_append,
        List.filter_congr before, List.map_append, List.map_congr_left places, ih]
      by_cases kept : keep last.job.key?
      · simp [select, final, kept, count, List.range_succ]
      · simp [select, final, kept]

end Places

variable {keep : Option κ → Bool} {tasks : List (Task κ ν ε)} {m : Tableau κ ν ε} {key : κ}
  {i : Nat}

/-! What chosen tasks do is done among the chosen alone. -/

section Kept

theorem only_note (kept : keep (some key)) (event : Event ν ε) :
    (m.note i key event).only keep tasks =
      (m.only keep tasks).note (place keep tasks i) key event := by
  simp [Scene.only, Scene.note, kept, Note.relabel]

theorem only_finish (kept : chosen keep tasks i) (outcome : Outcome ν ε) :
    (m.finish i outcome).only keep tasks =
      (m.only keep tasks).finish (place keep tasks i) outcome := by
  simp [Scene.only, Scene.finish, kept, Ended.relabel]

theorem only_sleep (wake : Wake κ) (kept : chosen keep tasks wake.task) (length : Nat) :
    (m.sleep length wake).only keep tasks =
      (m.only keep tasks).sleep length (wake.relabel (place keep tasks)) := by
  simp [Scene.only, Scene.sleep, kept]

theorem slot_only (kept : keep (some key)) :
    (m.only keep tasks).cache.slot key = (m.cache.slot key).relabel (place keep tasks) :=
  if_pos kept

variable [DecidableEq κ]

theorem only_modify (kept : keep (some key)) {change other : Slot ν → Slot ν}
    (same : ∀ slot, (change slot).relabel (place keep tasks) =
      other (slot.relabel (place keep tasks))) :
    (m.modify Table.keeping key change).only keep tasks =
      (m.only keep tasks).modify Table.keeping key other :=
  congrArg (fun cache => { m.only keep tasks with cache }) (Table.only_modify kept same)

theorem only_fill (kept : keep (some key)) (value : ν) (expiresAt : Nat) :
    (m.modify Table.keeping key fun s => s.fill value expiresAt).only keep tasks =
      (m.only keep tasks).modify Table.keeping key fun s => s.fill value expiresAt :=
  only_modify kept fun _ => rfl

theorem only_request (kept : keep (some key)) (task : Nat) :
    (m.modify Table.keeping key fun s => s.request task).only keep tasks =
      (m.only keep tasks).modify Table.keeping key fun s => s.request (place keep tasks task) := by
  apply only_modify kept
  intro slot
  cases held : slot.holder <;> simp [Slot.request, Slot.relabel, held]

theorem only_release (kept : keep (some key))
    (waits : ∀ task ∈ (m.cache.slot key).waiting, Looks tasks key task) :
    (m.release Table.keeping key).only keep tasks =
      (m.only keep tasks).release Table.keeping key := by
  have released : (m.modify Table.keeping key Slot.release).only keep tasks =
      (m.only keep tasks).modify Table.keeping key Slot.release := by
    apply only_modify kept
    intro slot
    simp [Slot.release, Slot.relabel]
  have next : (((m.cache.slot key).waiting.head?.map (Wake.granted · key)).toList.filter
      fun wake => chosen keep tasks wake.task).map (Wake.relabel (place keep tasks)) =
        ((((m.only keep tasks).cache.slot key).waiting.head?).map (Wake.granted · key)).toList := by
    rw [slot_only kept]
    cases found : (m.cache.slot key).waiting with
    | nil => simp [Slot.relabel, found]
    | cons first rest =>
        have looks : Looks tasks key first := waits first (by simp [found])
        simp [Slot.relabel, found, Wake.task, chosen_of_looks looks, kept, Wake.relabel]
  ext1
  · rfl
  · exact (Scene.mk.inj released).2.1
  · change ((m.ready ++ _).filter _).map _ = _ ++ _
    rw [List.filter_append, List.map_append]
    exact congrArg ((m.only keep tasks).ready ++ ·) next
  · rfl
  · rfl
  · rfl

theorem only_complete (kept : keep (some key)) (tidy : Tidy tasks m (some key)) 
    (looks : Looks tasks key i) (result : Except ε ν) :
    (m.complete Table.keeping i key result key).only keep tasks =
      (m.only keep tasks).complete Table.keeping (place keep tasks i) key result key := by
  have ends : chosen keep tasks i := (chosen_of_looks looks).trans kept
  cases result with
  | error fault =>
      have told := tidy.note i key (.brought (.error fault))
      simp only [Scene.complete]
      rw [only_finish ends, only_release kept (told.locks key).waits, only_note kept]
  | ok value =>
      have told := tidy.note i key (.brought (.ok value))
      have filled := told.fill key value (m.now + m.cache.ttl)
      simp only [Scene.complete, Table.keeping_ttl]
      rw [only_finish ends, only_release kept (filled.locks key).waits, only_fill kept,
        only_note kept]
      rfl

theorem only_holding (kept : keep (some key)) (tidy : Tidy tasks m (some key))
    (looks : Looks tasks key i) (takes : Nat) (result : Except ε ν) :
    (m.holding Table.keeping i key takes result key).only keep tasks =
      (m.only keep tasks).holding Table.keeping (place keep tasks i) key takes result key := by
  have ends : chosen keep tasks i := (chosen_of_looks looks).trans kept
  have same : ((m.only keep tasks).cache.slot key).fresh? (m.only keep tasks).now =
      (m.cache.slot key).fresh? m.now := by
    rw [slot_only kept]
    rfl
  simp only [Scene.holding, Table.keeping_slot, same]
  cases (m.cache.slot key).fresh? m.now with
  | some value =>
      have told := tidy.note i key (.recalled value)
      simp only
      rw [only_finish ends, only_release kept (told.locks key).waits, only_note kept]
  | none =>
      simp only
      split
      · rw [only_complete kept (tidy.note i key .began) looks, only_note kept]
      · rw [only_sleep _ ends, only_note kept]
        rfl

theorem only_lookUp (kept : keep (some key)) (tidy : Tidy tasks m none)
    (looks : Looks tasks key i) (takes : Nat) (result : Except ε ν) :
    (m.lookUp Table.keeping i key takes result).only keep tasks =
      (m.only keep tasks).lookUp Table.keeping (place keep tasks i) key takes result := by
  have asked := tidy.request looks
  have same : ((m.only keep tasks).cache.slot key).holder.isNone =
      (m.cache.slot key).holder.isNone := by
    rw [slot_only kept, Slot.relabel, Option.isNone_map]
  rw [Scene.lookUp_table, Scene.lookUp_table, same]
  split
  · rename_i free
    rw [if_pos free] at asked
    rw [only_holding kept asked looks, only_request kept]
  · exact only_request kept i

theorem only_start (tidy : Tidy tasks m none) {delay : Nat} {job : Job κ ν ε}
    (given : tasks[i]? = some ⟨delay, job⟩) (ends : chosen keep tasks i) :
    (m.start Table.keeping i job).only keep tasks =
      (m.only keep tasks).start Table.keeping (place keep tasks i) job := by
  have kept : keep job.key? := (chosen_of_given given).symm.trans ends
  cases job with
  | get key takes result => exact only_lookUp kept tidy ⟨delay, takes, result, given⟩ takes result
  | purge => exact only_finish ends _
  | idle => exact only_finish ends _

/-- A chosen task that goes on does so among the chosen. -/
theorem only_resume {wake : Wake κ} (tidy : Tidy tasks m wake.slot?)
    (looks : ∀ key, wake.slot? = some key → Looks tasks key wake.task)
    (ends : chosen keep tasks wake.task) :
    (m.resume Table.keeping tasks wake).only keep tasks =
      (m.only keep tasks).resume Table.keeping (select keep tasks)
        (wake.relabel (place keep tasks)) := by
  have kept {i : Nat} {task : Task κ ν ε} (given : tasks[i]? = some task)
      (ends : chosen keep tasks i) :
      (select keep tasks)[place keep tasks i]? = some task :=
    select_place given ((chosen_of_given given).symm.trans ends)
  cases wake with
  | spawned i =>
      cases given : tasks[i]? with
      | none => 
          rw [chosen, Wake.task, given] at ends
          cases ends
      | some task =>
          rw [Scene.resume_spawned _ _ given, Wake.relabel,
            Scene.resume_spawned _ _ (kept given ends)]
          split
          · exact only_start tidy given ends
          · exact only_sleep (.started i) ends task.delay
  | started i =>
      cases given : tasks[i]? with
      | none =>
          rw [chosen, Wake.task, given] at ends
          cases ends
      | some task =>
          rw [Scene.resume_started _ _ given, Wake.relabel,
            Scene.resume_started _ _ (kept given ends)]
          exact only_start tidy given ends
  | granted i key =>
      obtain ⟨delay, takes, result, given⟩ : Looks tasks key i := looks key rfl
      have keeps : keep (some key) := (chosen_of_given given).symm.trans ends
      rw [Scene.resume_granted _ _ given, Wake.relabel, Scene.resume_granted _ _ (kept given ends)]
      exact only_holding keeps tidy ⟨delay, takes, result, given⟩ takes result
  | fetched i key =>
      obtain ⟨delay, takes, result, given⟩ : Looks tasks key i := looks key rfl
      have keeps : keep (some key) := (chosen_of_given given).symm.trans ends
      rw [Scene.resume_fetched _ _ given, Wake.relabel, Scene.resume_fetched _ _ (kept given ends)]
      exact only_complete keeps tidy ⟨delay, takes, result, given⟩ result

end Kept

/-! What other tasks do is not seen among the chosen. -/

section Dropped

theorem only_note_of_not (dropped : keep (some key) = false) (event : Event ν ε) :
    (m.note i key event).only keep tasks = m.only keep tasks := by
  simp [Scene.only, Scene.note, dropped]

theorem only_finish_of_not (ends : chosen keep tasks i = false) (outcome : Outcome ν ε) :
    (m.finish i outcome).only keep tasks = m.only keep tasks := by
  simp [Scene.only, Scene.finish, ends]

theorem only_sleep_of_not (wake : Wake κ) (ends : chosen keep tasks wake.task = false)
    (length : Nat) : (m.sleep length wake).only keep tasks = m.only keep tasks := by
  simp [Scene.only, Scene.sleep, ends]

variable [DecidableEq κ]

theorem only_modify_of_not (dropped : keep (some key) = false) (change : Slot ν → Slot ν) :
    (m.modify Table.keeping key change).only keep tasks = m.only keep tasks := by
  have slots : (m.cache.modify key change).only keep (place keep tasks) =
      m.cache.only keep (place keep tasks) := Table.only_modify_of_not dropped
  exact congrArg (fun cache => { m.only keep tasks with cache }) slots

theorem only_release_of_not (dropped : keep (some key) = false)
    (waits : ∀ task ∈ (m.cache.slot key).waiting, Looks tasks key task) :
    (m.release Table.keeping key).only keep tasks = m.only keep tasks := by
  have next : ((m.cache.slot key).waiting.head?.map (Wake.granted · key)).toList.filter
      (fun wake => chosen keep tasks wake.task) = [] := by
    cases found : (m.cache.slot key).waiting with
    | nil => rfl
    | cons first rest =>
        have looks : Looks tasks key first := waits first (by simp [found])
        simp [Wake.task, chosen_of_looks looks, dropped]
  have released : (m.modify Table.keeping key Slot.release).only keep tasks = m.only keep tasks :=
    only_modify_of_not dropped _
  ext1
  · rfl
  · exact (Scene.mk.inj released).2.1
  · change ((m.ready ++ _).filter _).map _ = _
    rw [List.filter_append, List.map_append]
    change _ ++ List.map _
      (((m.cache.slot key).waiting.head?.map (Wake.granted · key)).toList.filter _) = _
    rw [next, List.map_nil, List.append_nil]
    rfl
  · rfl
  · rfl
  · rfl

theorem only_complete_of_not (dropped : keep (some key) = false) (tidy : Tidy tasks m (some key))
    (looks : Looks tasks key i) (result : Except ε ν) :
    (m.complete Table.keeping i key result key).only keep tasks = m.only keep tasks := by
  have ends : chosen keep tasks i = false := (chosen_of_looks looks).trans dropped
  cases result with
  | error fault =>
      have told := tidy.note i key (.brought (.error fault))
      simp only [Scene.complete]
      rw [only_finish_of_not ends, only_release_of_not dropped (told.locks key).waits,
        only_note_of_not dropped]
  | ok value =>
      have told := tidy.note i key (.brought (.ok value))
      have filled := told.fill key value (m.now + m.cache.ttl)
      simp only [Scene.complete, Table.keeping_ttl]
      rw [only_finish_of_not ends, only_release_of_not dropped (filled.locks key).waits,
        only_modify_of_not dropped, only_note_of_not dropped]

theorem only_holding_of_not (dropped : keep (some key) = false) (tidy : Tidy tasks m (some key))
    (looks : Looks tasks key i) (takes : Nat) (result : Except ε ν) :
    (m.holding Table.keeping i key takes result key).only keep tasks = m.only keep tasks := by
  have ends : chosen keep tasks i = false := (chosen_of_looks looks).trans dropped
  unfold Scene.holding
  split
  · rename_i value fresh
    have told := tidy.note i key (.recalled value)
    rw [only_finish_of_not ends, only_release_of_not dropped (told.locks key).waits,
      only_note_of_not dropped]
  · dsimp only
    split
    · rw [only_complete_of_not dropped (tidy.note i key .began) looks, only_note_of_not dropped]
    · rw [only_sleep_of_not _ ends, only_note_of_not dropped]

theorem only_lookUp_of_not (dropped : keep (some key) = false) (tidy : Tidy tasks m none)
    (looks : Looks tasks key i) (takes : Nat) (result : Except ε ν) :
    (m.lookUp Table.keeping i key takes result).only keep tasks = m.only keep tasks := by
  have asked := tidy.request looks
  rw [Scene.lookUp_table]
  split
  · rename_i free
    rw [if_pos free] at asked
    rw [only_holding_of_not dropped asked looks]
    exact only_modify_of_not dropped _
  · exact only_modify_of_not dropped _

theorem only_start_of_not (tidy : Tidy tasks m none) {delay : Nat} {job : Job κ ν ε}
    (given : tasks[i]? = some ⟨delay, job⟩) (ends : chosen keep tasks i = false) :
    (m.start Table.keeping i job).only keep tasks = m.only keep tasks := by
  have dropped : keep job.key? = false := (chosen_of_given given).symm.trans ends
  cases job with
  | get key takes result =>
      exact only_lookUp_of_not dropped tidy ⟨delay, takes, result, given⟩ takes result
  | purge => exact only_finish_of_not ends _
  | idle => exact only_finish_of_not ends _

/-- Nobody sees another task going on. -/
theorem only_resume_of_not {wake : Wake κ} (tidy : Tidy tasks m wake.slot?)
    (looks : ∀ key, wake.slot? = some key → Looks tasks key wake.task)
    (ends : chosen keep tasks wake.task = false) :
    (m.resume Table.keeping tasks wake).only keep tasks = m.only keep tasks := by
  cases wake with
  | spawned i =>
      cases given : tasks[i]? with
      | none => rw [Scene.resume_absent _ _ _ given]
      | some task =>
          rw [Scene.resume_spawned _ _ given]
          split
          · exact only_start_of_not tidy given ends
          · exact only_sleep_of_not (.started i) ends task.delay
  | started i =>
      cases given : tasks[i]? with
      | none => rw [Scene.resume_absent _ _ _ given]
      | some task =>
          rw [Scene.resume_started _ _ given]
          exact only_start_of_not tidy given ends
  | granted i key =>
      obtain ⟨delay, takes, result, given⟩ : Looks tasks key i := looks key rfl
      have dropped : keep (some key) = false := (chosen_of_given given).symm.trans ends
      rw [Scene.resume_granted _ _ given]
      exact only_holding_of_not dropped tidy ⟨delay, takes, result, given⟩ takes result
  | fetched i key =>
      obtain ⟨delay, takes, result, given⟩ : Looks tasks key i := looks key rfl
      have dropped : keep (some key) = false := (chosen_of_given given).symm.trans ends
      rw [Scene.resume_fetched _ _ given]
      exact only_complete_of_not dropped tidy ⟨delay, takes, result, given⟩ result

end Dropped

theorem only_wakeAt (moment : Nat) :
    (m.wakeAt moment).only keep tasks = (m.only keep tasks).wakeAt moment := by
  ext1
  · rfl
  · rfl
  · simp [Scene.only, Scene.wakeAt, List.filter_map, Function.comp_def, Bool.and_comm]
  · simp [Scene.only, Scene.wakeAt, List.filter_map, Function.comp_def, Bool.and_comm]
  · rfl
  · rfl

/-- When nobody wakes the clock moves on alone. -/
theorem wakeAt_of_forall_ne (idle : m.ready = []) {moment : Nat}
    (nobody : ∀ s ∈ m.sleeping, s.1 ≠ moment) : m.wakeAt moment = { m with now := moment } := by
  have due : m.sleeping.filter (fun s => s.1 = moment) = [] := by
    simpa [List.filter_eq_nil_iff] using nobody
  have later : m.sleeping.filter (fun s => s.1 ≠ moment) = m.sleeping := by
    simpa [List.filter_eq_self] using nobody
  rw [Scene.wakeAt, due, later, List.map_nil, ← idle]

/-- The moment to which all sleep is the next one of the chosen, if one of them wakes then. -/
theorem nextWake?_only {moment : Nat} (soonest : m.nextWake? = some moment)
    (due : ∃ s ∈ (m.only keep tasks).sleeping, s.1 = moment) :
    (m.only keep tasks).nextWake? = some moment := by
  obtain ⟨_, least⟩ := List.min?_eq_some_iff.1 soonest
  obtain ⟨s, asleep, rfl⟩ := due
  refine List.min?_eq_some_iff.2 ⟨List.mem_map_of_mem asleep, ?_⟩
  intro time found
  obtain ⟨r, other, rfl⟩ := List.mem_map.1 found
  simp only [Scene.only, List.mem_map, List.mem_filter] at other
  obtain ⟨q, ⟨among, _⟩, rfl⟩ := other
  exact least q.1 (List.mem_map_of_mem among)

/-- The chosen tasks alone are where they are among all tasks, though their clock may be behind
while all of them sleep. -/
def Trails (keep : Option κ → Bool) (tasks : List (Task κ ν ε)) (m s : Tableau κ ν ε) : Prop :=
  ∃ clock ≤ m.now, ((m.only keep tasks).ready ≠ [] → clock = m.now) ∧
    s = { m.only keep tasks with now := clock }

namespace Trails

theorem refl (keep : Option κ → Bool) (tasks : List (Task κ ν ε)) (m : Tableau κ ν ε) :
    Trails keep tasks m (m.only keep tasks) :=
  ⟨m.now, le_rfl, fun _ => rfl, rfl⟩

theorem cache {s : Tableau κ ν ε} (trails : Trails keep tasks m s) :
    s.cache = (m.only keep tasks).cache := by
  obtain ⟨_, _, _, rfl⟩ := trails
  rfl

theorem notes {s : Tableau κ ν ε} (trails : Trails keep tasks m s) :
    s.notes = (m.only keep tasks).notes := by
  obtain ⟨_, _, _, rfl⟩ := trails
  rfl

theorem ended {s : Tableau κ ν ε} (trails : Trails keep tasks m s) :
    s.ended = (m.only keep tasks).ended := by
  obtain ⟨_, _, _, rfl⟩ := trails
  rfl

theorem now_le {s : Tableau κ ν ε} (trails : Trails keep tasks m s) : s.now ≤ m.now := by
  obtain ⟨_, behind, _, rfl⟩ := trails
  exact behind

variable [DecidableEq κ] {s next : Tableau κ ν ε}

/-- A step of all tasks is a step of the chosen or none. -/
theorem step (trails : Trails keep tasks m s) (tidy : Tidy tasks m none)
    (steps : m.step? Table.keeping tasks = some next) :
    Trails keep tasks next s ∨
      s.step? Table.keeping (select keep tasks) = some (next.only keep tasks) := by
  obtain ⟨clock, behind, awake, rfl⟩ := trails
  unfold Scene.step? at steps
  split at steps
  · rename_i wake rest ready
    cases steps
    let popped : Tableau κ ν ε := { m with ready := rest }
    have looks := tidy.looks wake (by simp [Scene.wakes, ready])
    by_cases ends : chosen keep tasks wake.task
    · right
      have first : (m.only keep tasks).ready =
          wake.relabel (place keep tasks) :: (popped.only keep tasks).ready := by
        simp [Scene.only, popped, ready, ends]
      rw [awake (by simp [first]), only_resume (tidy.pop ready) looks ends]
      simp only [Scene.step?, first]
      rfl
    · left
      rw [Bool.not_eq_true] at ends
      have unseen := only_resume_of_not (tidy.pop ready) looks ends
      have same : popped.only keep tasks = m.only keep tasks := by
        simp [Scene.only, popped, ready, ends]
      have still : (popped.resume Table.keeping tasks wake).now = m.now := (Scene.mk.inj unseen).1
      change Trails keep tasks (popped.resume Table.keeping tasks wake) _
      rw [Trails, still, unseen, same]
      exact ⟨clock, behind, awake, rfl⟩
  · rename_i idle
    obtain ⟨moment, soonest, rfl⟩ := Option.map_eq_some_iff.1 steps
    have none_ : (m.only keep tasks).ready = [] := by simp [Scene.only, idle]
    by_cases due : ∃ s ∈ (m.only keep tasks).sleeping, s.1 = moment
    · right
      rw [only_wakeAt]
      simp only [Scene.step?, none_]
      change Option.map _ (m.only keep tasks).nextWake? = _
      rw [nextWake?_only soonest due]
      rfl
    · left
      have later : m.now < moment := by
        obtain ⟨s, asleep, rfl⟩ := List.mem_map.1 (List.min?_eq_some_iff.1 soonest).1
        exact tidy.ahead s asleep
      rw [Trails, only_wakeAt, wakeAt_of_forall_ne none_ fun s asleep same => due ⟨s, asleep, same⟩]
      exact ⟨clock, behind.trans later.le, fun ready => absurd none_ ready, rfl⟩

/-- The chosen tasks alone go through the moments that they go through among all tasks. -/
theorem run (trails : Trails keep tasks m s) (tidy : Tidy tasks m none) (steps : Nat) :
    ∃ fewer, Trails keep tasks (m.run Table.keeping tasks steps)
      (s.run Table.keeping (select keep tasks) fewer) := by
  induction steps generalizing m s with
  | zero => exact ⟨0, trails⟩
  | succ steps ih =>
      cases goes : m.step? Table.keeping tasks with
      | none => 
          refine ⟨0, ?_⟩
          simpa only [Scene.run, goes] using trails
      | some next =>
          simp only [Scene.run, goes]
          rcases trails.step tidy goes with still | moves
          · exact ih still (tidy.step goes)
          · obtain ⟨fewer, reached⟩ := ih (refl keep tasks next) (tidy.step goes)
            refine ⟨fewer + 1, ?_⟩
            simpa only [Scene.run, moves] using reached

/-- When no task has anything left to do, nor have the chosen. -/
theorem halted (trails : Trails keep tasks m s) (halted : m.step? Table.keeping tasks = none) :
    s.step? Table.keeping (select keep tasks) = none := by
  obtain ⟨clock, _, _, rfl⟩ := trails
  have wakes := Scene.wakes_of_halted halted
  rw [Scene.wakes, List.append_eq_nil_iff, List.map_eq_nil_iff] at wakes
  simp [Scene.step?, Scene.only, wakes.1, wakes.2, Scene.nextWake?]

end Trails

end Cache

end Provisioning
