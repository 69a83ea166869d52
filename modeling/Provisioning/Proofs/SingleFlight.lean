import Provisioning.Proofs.Chronicle

/-!
Look-ups of a key share one fetch. `Traced` ties a moment of tasks on a table to what became of
look-ups up to it: fetches under way are the tasks that hold a lock and sleep, and an entry is what
the last successful fetch of its key brought. Main statements: `Traced.step`, that tasks keep it so,
and `lookups_share_fetches` for rounds of tasks on the cache.
-/

namespace Provisioning.Cache

variable {κ ν ε : Type}

/-- The key that a task fetches. -/
def Wake.fetches? : Wake κ → Option κ
  | fetched _ key => some key
  | _ => none

variable [DecidableEq κ]

/-- A moment of tasks is what the notes of earlier rounds and of this one tell, with a task that is
fetching and neither can go on nor sleeps. -/
structure Traced (ttl : Nat) (tasks : List (Task κ ν ε)) (past : List (Note κ ν ε))
    (m : Tableau κ ν ε) (fetching : Option κ) : Prop where
  lives : m.cache.ttl = ttl
  flights : ∀ key, begun (past ++ m.notes) key =
    brought (past ++ m.notes) key + tally Wake.fetches? fetching m.wakes key
  entries : ∀ key, Remembers ttl (past ++ m.notes) key (m.cache.slot key)
  lawful : Lawful ttl tasks past m.notes
  awaited : ∀ wake ∈ m.wakes, ∀ key, wake.fetches? = some key →
    ∃ start, ⟨wake.task, key, start, .began⟩ ∈ m.notes
  replies : ∀ reply ∈ m.replies, ∀ key, Looks tasks key reply.task → Answered m.notes key reply

namespace Traced

variable {ttl : Nat} {tasks : List (Task κ ν ε)} {past : List (Note κ ν ε)} {m : Tableau κ ν ε}
  {fetching : Option κ} {key : κ} {task : Nat}

theorem finish (traced : Traced ttl tasks past m fetching) {outcome : Outcome ν ε}
    (answered : ∀ key, Looks tasks key task → Answered m.notes key ⟨task, outcome.answer?, m.now⟩) :
    Traced ttl tasks past (m.finish task outcome) fetching where
  lives := traced.lives
  flights := traced.flights
  entries := traced.entries
  lawful := traced.lawful
  awaited := traced.awaited
  replies reply member := by
    simp only [Scene.replies, Scene.finish, List.map_append, List.mem_append, List.map_cons,
      List.map_nil, List.mem_singleton] at member
    rcases member with before | rfl
    · exact traced.replies reply before
    · exact answered

/-- Something became of a look-up, and the table may have changed with it. -/
theorem note (traced : Traced ttl tasks past m fetching) {event : Event ν ε} {next : Option κ}
    {t : Table κ ν} (lives : t.ttl = ttl)
    (fits : Fits ttl tasks past m.notes ⟨task, key, m.now, event⟩)
    (flights : ∀ other, begun (past ++ m.notes ++ [⟨task, key, m.now, event⟩]) other =
      brought (past ++ m.notes ++ [⟨task, key, m.now, event⟩]) other +
        tally Wake.fetches? next m.wakes other)
    (entries : ∀ other,
      Remembers ttl (past ++ m.notes ++ [⟨task, key, m.now, event⟩]) other (t.slot other)) :
    Traced ttl tasks past { m.note task key event with cache := t } next where
  lives := lives
  flights other := by
    show begun (past ++ (m.notes ++ _)) other = brought (past ++ (m.notes ++ _)) other + _
    rw [← List.append_assoc]
    exact flights other
  entries other := by
    show Remembers ttl (past ++ (m.notes ++ _)) other (t.slot other)
    rw [← List.append_assoc]
    exact entries other
  lawful := traced.lawful.snoc fits
  awaited wake member other fetches := by
    obtain ⟨start, began⟩ := traced.awaited wake member other fetches
    exact ⟨start, List.mem_append_left _ began⟩
  replies reply member other looks :=
    (traced.replies reply member other looks).mono (List.subset_append_left ..)

theorem began (traced : Traced ttl tasks past m none) (looks : Looks tasks key task)
    (free : tally Wake.fetches? none m.wakes key = 0) :
    Traced ttl tasks past (m.note task key .began) (some key) := by
  have landed : begun (past ++ m.notes) key = brought (past ++ m.notes) key := by
    rw [traced.flights key, free, Nat.add_zero]
  apply traced.note traced.lives (.began looks landed)
  · intro other
    have before := traced.flights other
    rw [begun_snoc, brought_snoc, before]
    simp [tally, Event.isBeginning, Event.isResult]
    omega
  · exact fun other => (traced.entries other).snoc fun _ => rfl

theorem recalled (traced : Traced ttl tasks past m none) (looks : Looks tasks key task) {value : ν}
    (fresh : (m.cache.slot key).fresh? m.now = some value) :
    Traced ttl tasks past (m.note task key (.recalled value)) none := by
  obtain ⟨expiresAt, found, before⟩ := Slot.fresh?_eq_some_iff.1 fresh
  obtain ⟨filled, rfl, last⟩ := traced.entries key value expiresAt found
  apply traced.note traced.lives (.recalled looks last before)
  · intro other
    rw [begun_snoc, brought_snoc, traced.flights other]
    simp [Event.isBeginning, Event.isResult]
  · exact fun other => (traced.entries other).snoc fun _ => rfl

/-- A fetch ends: it was under way, and now it is not. -/
theorem brought (traced : Traced ttl tasks past m (some key)) {delay takes : Nat}
    {result : Except ε ν} (given : tasks[task]? = some ⟨delay, .get key takes result⟩)
    (own : ∃ start, ⟨task, key, start, .began⟩ ∈ m.notes)
    (alone : tally Wake.fetches? none m.wakes key = 0) {t : Table κ ν} (lives : t.ttl = ttl)
    (entries : ∀ other,
      Remembers ttl (past ++ m.notes ++ [⟨task, key, m.now, .brought result⟩]) other
        (t.slot other)) :
    Traced ttl tasks past { m.note task key (.brought result) with cache := t } none := by
  have taken : begun (past ++ m.notes) key = Cache.brought (past ++ m.notes) key + 1 := by
    have before := traced.flights key
    simp only [tally, reduceCtorEq, if_false, if_true] at alone before
    omega
  apply traced.note lives (.brought given own taken) _ entries
  intro other
  rw [begun_snoc, brought_snoc, traced.flights other]
  simp [tally, Event.isBeginning, Event.isResult]
  omega

/-- Locks change hands and entries stay. -/
theorem modify (traced : Traced ttl tasks past m fetching) {change : Slot ν → Slot ν}
    (same : ∀ slot, (change slot).entry = slot.entry) :
    Traced ttl tasks past (m.modify Table.keeping key change) fetching where
  lives := traced.lives
  flights := traced.flights
  entries := by
    apply (m.forall_slot_modify key change fun other slot =>
      Remembers ttl (past ++ m.notes) other slot).2
    refine ⟨?_, fun other _ => traced.entries other⟩
    unfold Remembers
    rw [same]
    exact traced.entries key
  lawful := traced.lawful
  awaited := traced.awaited
  replies := traced.replies

theorem request (traced : Traced ttl tasks past m fetching) (key : κ) (task : Nat) :
    Traced ttl tasks past (m.modify Table.keeping key fun s => s.request task) fetching := by
  apply traced.modify
  intro slot
  unfold Slot.request
  split <;> rfl

theorem release (traced : Traced ttl tasks past m none) (key : κ) :
    Traced ttl tasks past (m.release Table.keeping key) none := by
  have released : Traced ttl tasks past (m.modify Table.keeping key Slot.release) none :=
    traced.modify fun _ => rfl
  have granted : ∀ wake ∈ ((m.cache.slot key).waiting.head?.map (Wake.granted · key)).toList,
      wake.fetches? = none := by
    intro wake member
    simp only [Option.mem_toList, Option.map_eq_some_iff] at member
    obtain ⟨first, _, rfl⟩ := member
    rfl
  constructor
  · exact released.lives
  · intro other
    rw [tally_perm _ (Tidy.wakes_release m key), tally_append]
    have none_ : tally Wake.fetches? none
        ((m.cache.slot key).waiting.head?.map (Wake.granted · key)).toList other = 0 := by
      simp only [tally, reduceCtorEq, if_false, Nat.add_zero, List.countP_eq_zero,
        decide_eq_true_eq]
      intro wake member
      rw [granted wake member]
      exact (Option.some_ne_none other).symm
    rw [none_]
    exact released.flights other
  · exact released.entries
  · exact released.lawful
  · intro wake member other fetches
    rcases List.mem_append.1 ((Tidy.wakes_release m key).mem_iff.1 member) with before | added
    · exact traced.awaited wake before other fetches
    · rw [granted wake added] at fetches
      cases fetches
  · exact released.replies

theorem sleep (traced : Traced ttl tasks past m fetching) (length : Nat) {wake : Wake κ}
    (same : wake.fetches? = fetching)
    (began : ∀ key, fetching = some key → ∃ start, ⟨wake.task, key, start, .began⟩ ∈ m.notes) :
    Traced ttl tasks past (m.sleep length wake) none := by
  have wakes : (m.sleep length wake).wakes = m.wakes ++ [wake] := by
    simp [Scene.wakes, Scene.sleep]
  constructor
  · exact traced.lives
  · intro key
    have counted : tally Wake.fetches? none (m.wakes ++ [wake]) key =
        tally Wake.fetches? fetching m.wakes key := by
      simp [tally, same, List.countP_singleton]
    rw [wakes, counted]
    exact traced.flights key
  · exact traced.entries
  · exact traced.lawful
  · intro other member key fetches
    rw [wakes] at member
    rcases List.mem_append.1 member with before | added
    · exact traced.awaited other before key fetches
    · cases List.mem_singleton.1 added
      exact began key (same ▸ fetches)
  · exact traced.replies

/-- A slot is filled with what a fetch has brought. -/
theorem entries_fill (traced : Traced ttl tasks past m fetching) (task : Nat) (value : ν)
    (moment : Nat) (other : κ) :
    Remembers ttl (past ++ m.notes ++ [⟨task, key, moment, .brought (.ok value)⟩]) other
      ((m.cache.modify key fun s => s.fill value (moment + ttl)).slot other) := by
  revert other
  apply (m.forall_slot_modify key (fun s => s.fill value (moment + ttl))
    (Remembers ttl (past ++ m.notes ++ [Note.mk task key moment (.brought (.ok value))]))).2
  constructor
  · exact remembers_fill ttl _ task key value moment _
  · exact fun other differ => (traced.entries other).snoc fun same => absurd same.symm differ

theorem complete (traced : Traced ttl tasks past m (some key)) {delay takes : Nat}
    {result : Except ε ν} (given : tasks[task]? = some ⟨delay, .get key takes result⟩)
    (own : ∃ start, ⟨task, key, start, .began⟩ ∈ m.notes)
    (alone : tally Wake.fetches? none m.wakes key = 0) :
    Traced ttl tasks past (m.complete Table.keeping task key result key) none := by
  have answered {outcome : Outcome ν ε} (got : outcome.answer? = some result) (other : κ)
      (looks : Looks tasks other task) :
      Answered (m.notes ++ [⟨task, key, m.now, .brought result⟩]) other
        ⟨task, outcome.answer?, m.now⟩ := by
    obtain ⟨_, _, _, found⟩ := looks
    cases given.symm.trans found
    exact .inl ⟨result, got, List.mem_append_right _ (List.mem_singleton_self _)⟩
  cases result with
  | error fault =>
      have told := traced.brought given own alone traced.lives
        fun other => (traced.entries other).snoc fun _ => rfl
      exact (told.release key).finish (answered rfl)
  | ok value =>
      have told : Traced ttl tasks past ((m.note task key (.brought (.ok value))).modify
          Table.keeping key fun s => s.fill value (m.now + m.cache.ttl)) none := by
        refine traced.brought given own alone ?_ ?_
        · exact traced.lives
        · rw [traced.lives]
          exact traced.entries_fill task value m.now
      exact (told.release key).finish (answered rfl)

/-- A task that gets a lock while nobody fetches recalls an entry or fetches on its own. -/
theorem holding (traced : Traced ttl tasks past m none) {delay takes : Nat} {result : Except ε ν}
    (given : tasks[task]? = some ⟨delay, .get key takes result⟩)
    (alone : tally Wake.fetches? none m.wakes key = 0) :
    Traced ttl tasks past (m.holding Table.keeping task key takes result key) none := by
  have looks : Looks tasks key task := ⟨delay, takes, result, given⟩
  unfold Scene.holding
  split
  · rename_i value fresh
    apply ((traced.recalled looks fresh).release key).finish
    intro other also
    obtain ⟨_, _, _, found⟩ := also
    cases given.symm.trans found
    exact .inr ⟨value, rfl, List.mem_append_right _ (List.mem_singleton_self _)⟩
  · have began := traced.began looks alone
    have own : ∃ start, ⟨task, key, start, .began⟩ ∈ (m.note task key .began).notes :=
      ⟨m.now, List.mem_append_right _ (List.mem_singleton_self _)⟩
    dsimp only
    split
    · exact began.complete given own alone
    · apply began.sleep takes rfl
      rintro _ ⟨⟩
      exact own

end Traced

/-- Whoever holds a lock is the only one that could fetch under it. -/
theorem Tidy.alone {tasks : List (Task κ ν ε)} {m : Tableau κ ν ε} {key : κ}
    (tidy : Tidy tasks m (some key)) : tally Wake.fetches? none m.wakes key = 0 := by
  have none_ := tidy.holds.2
  simp only [tally, reduceCtorEq, if_false, Nat.add_zero, List.countP_eq_zero,
    decide_eq_true_eq] at none_ ⊢
  intro wake member fetches
  apply none_ wake member
  cases wake <;> first | exact fetches | cases fetches

namespace Traced

variable {ttl : Nat} {tasks : List (Task κ ν ε)} {past : List (Note κ ν ε)}
  {m next : Tableau κ ν ε} {key : κ} {task : Nat}

theorem lookUp (traced : Traced ttl tasks past m none) (tidy : Tidy tasks m none)
    {delay takes : Nat} {result : Except ε ν}
    (given : tasks[task]? = some ⟨delay, .get key takes result⟩) :
    Traced ttl tasks past (m.lookUp Table.keeping task key takes result) none := by
  have requested := traced.request key task
  have asked := tidy.request ⟨delay, takes, result, given⟩
  rw [Scene.lookUp_table]
  split
  · rename_i free
    rw [if_pos free] at asked
    exact requested.holding given asked.alone
  · exact requested

theorem start (traced : Traced ttl tasks past m none) (tidy : Tidy tasks m none) {delay : Nat}
    {job : Job κ ν ε} (given : tasks[task]? = some ⟨delay, job⟩) :
    Traced ttl tasks past (m.start Table.keeping task job) none := by
  have other (barren : job.key? = none) {key : κ} : ¬Looks tasks key task := by
    rintro ⟨_, _, _, found⟩
    cases given.symm.trans found
    cases barren
  cases job with
  | get key takes result => exact traced.lookUp tidy given
  | purge => exact traced.finish fun _ looks => absurd looks (other rfl)
  | idle => exact traced.finish fun _ looks => absurd looks (other rfl)

theorem resume {wake : Wake κ} (traced : Traced ttl tasks past m wake.fetches?)
    (tidy : Tidy tasks m wake.slot?)
    (looks : ∀ key, wake.slot? = some key → Looks tasks key wake.task)
    (own : ∀ key, wake.fetches? = some key → ∃ start, ⟨wake.task, key, start, .began⟩ ∈ m.notes) :
    Traced ttl tasks past (m.resume Table.keeping tasks wake) none := by
  cases wake with
  | spawned i =>
      cases given : tasks[i]? with
      | none => exact (Scene.resume_absent _ m (.spawned i) given).symm ▸ traced
      | some task =>
          rw [Scene.resume_spawned _ _ given]
          split
          · exact traced.start tidy given
          · exact traced.sleep task.delay rfl nofun
  | started i =>
      cases given : tasks[i]? with
      | none => exact (Scene.resume_absent _ m (.started i) given).symm ▸ traced
      | some task =>
          rw [Scene.resume_started _ _ given]
          exact traced.start tidy given
  | granted i key =>
      obtain ⟨delay, takes, result, found⟩ : Looks tasks key i := looks key rfl
      rw [Scene.resume_granted _ _ found]
      exact traced.holding found tidy.alone
  | fetched i key =>
      obtain ⟨delay, takes, result, found⟩ : Looks tasks key i := looks key rfl
      rw [Scene.resume_fetched _ _ found]
      exact traced.complete found (own key rfl) tidy.alone

theorem pop (traced : Traced ttl tasks past m none) {wake : Wake κ} {rest : List (Wake κ)}
    (ready : m.ready = wake :: rest) :
    Traced ttl tasks past { m with ready := rest } wake.fetches? := by
  have wakes : m.wakes = wake :: ({ m with ready := rest } : Tableau κ ν ε).wakes := by
    simp [Scene.wakes, ready]
  constructor
  · exact traced.lives
  · intro key
    rw [← tally_cons, ← wakes]
    exact traced.flights key
  · exact traced.entries
  · exact traced.lawful
  · intro other member
    exact traced.awaited other (wakes ▸ List.mem_cons_of_mem _ member)
  · exact traced.replies

theorem wakeAt (traced : Traced ttl tasks past m none) (idle : m.ready = []) (moment : Nat) :
    Traced ttl tasks past (m.wakeAt moment) none := by
  have wakes := Scene.wakes_wakeAt idle moment
  constructor
  · exact traced.lives
  · intro key
    rw [tally_perm _ wakes]
    exact traced.flights key
  · exact traced.entries
  · exact traced.lawful
  · exact fun wake member => traced.awaited wake (wakes.mem_iff.1 member)
  · exact traced.replies

theorem step (traced : Traced ttl tasks past m none) (tidy : Tidy tasks m none)
    (steps : m.step? Table.keeping tasks = some next) : Traced ttl tasks past next none := by
  unfold Scene.step? at steps
  split at steps
  · rename_i wake rest ready
    cases steps
    have member : wake ∈ m.wakes := by simp [Scene.wakes, ready]
    exact (traced.pop ready).resume (tidy.pop ready) (tidy.looks wake member)
      (traced.awaited wake member)
  · rename_i idle
    obtain ⟨moment, _, rfl⟩ := Option.map_eq_some_iff.1 steps
    exact traced.wakeAt idle moment

theorem run (traced : Traced ttl tasks past m none) (tidy : Tidy tasks m none) (steps : Nat) :
    Traced ttl tasks past (m.run Table.keeping tasks steps) none := by
  induction steps generalizing m with
  | zero => exact traced
  | succ steps ih =>
      unfold Scene.run
      split
      · rename_i next stepped
        exact ih (traced.step tidy stepped) (tidy.step stepped)
      · exact traced

end Traced

theorem Traced.opening {ttl : Nat} {tasks : List (Task κ ν ε)} {past : List (Note κ ν ε)}
    {t : Table κ ν} (lives : t.ttl = ttl)
    (landed : ∀ key, begun past key = Cache.brought past key)
    (entries : ∀ key, Remembers ttl past key (t.slot key)) (now count : Nat) :
    Traced ttl tasks past (Scene.opening t now count) none where
  lives := lives
  flights key := by
    have none_ :
        tally Wake.fetches? none (Scene.opening t now count : Tableau κ ν ε).wakes key = 0 := by
      simp [tally, Scene.wakes, Scene.opening, Wake.fetches?]
    rw [none_]
    simpa [Scene.opening] using landed key
  entries key := by simpa [Scene.opening] using entries key
  lawful := .nil
  awaited wake member := by
    simp only [Scene.wakes, Scene.opening, List.map_nil, List.append_nil, List.mem_map] at member
    obtain ⟨task, _, rfl⟩ := member
    exact fun key fetches => (Option.some_ne_none key fetches.symm).elim
  replies _ member := (List.not_mem_nil member).elim

/-- Rounds of tasks on a table go on from what became of look-ups before. -/
theorem chronicled_accounts {ttl : Nat} {t : Table κ ν} {now : Nat} {past : List (Note κ ν ε)}
    (idle : t.Idle) (lives : t.ttl = ttl) (landed : ∀ key, begun past key = brought past key)
    (entries : ∀ key, Remembers ttl past key (t.slot key)) (rounds : List (Round κ ν ε)) :
    Chronicled ttl past ((Table.keeping.accounts t now rounds).map Account.story) := by
  induction rounds generalizing t now past with
  | nil => trivial
  | cons round rest ih =>
      have closed : Traced ttl round.tasks past
          (Table.keeping.runTasks t (now + round.pause) round.tasks) none :=
        (Traced.opening lives landed entries _ _).run (.opening idle _ _) (stepBound round.tasks)
      have halted := Tidy.halts idle (now + round.pause) round.tasks
      refine ⟨closed.lawful, closed.replies, ?_⟩
      refine ih (idle_runTasks idle _ _) closed.lives ?_ closed.entries
      intro key
      have flights := closed.flights key
      rwa [Scene.wakes_of_halted halted] at flights

/-- At every moment at most one fetch of each key is under way. Every fetch that ended was begun by
its own look-up, whose result it brought. A look-up that got a value got it from its own fetch, or
else it recalled what the last successful fetch of its key had brought less than the lifetime of an
entry before it got the lock. A look-up that failed got the failure from its own fetch. -/
theorem lookups_share_fetches (ttl start : Nat) (rounds : List (Round κ ν ε)) :
    let stories := ((empty ttl : Cache κ ν).accounts start rounds).map Account.story
    (∀ part, part <+: history stories → Single part) ∧
    ∀ before story after, stories = before ++ story :: after →
      (∀ now task key moment result rest,
        story.notes = now ++ ⟨task, key, moment, .brought result⟩ :: rest →
          (∃ delay takes, story.tasks[task]? = some ⟨delay, .get key takes result⟩) ∧
            ∃ start, ⟨task, key, start, .began⟩ ∈ now) ∧
      ∀ reply ∈ story.replies, ∀ delay key takes result,
        story.tasks[reply.task]? = some ⟨delay, .get key takes result⟩ →
          match reply.answer? with
          | some (.ok value) =>
              (result = .ok value ∧
                ⟨reply.task, key, reply.moment, .brought (.ok value)⟩ ∈ story.notes) ∨
              ∃ now filled rest,
                story.notes = now ++ ⟨reply.task, key, reply.moment, .recalled value⟩ :: rest ∧
                  LastBrought (history before ++ now) key value filled ∧
                  reply.moment < filled + ttl
          | some (.error fault) =>
              result = .error fault ∧
                ⟨reply.task, key, reply.moment, .brought (.error fault)⟩ ∈ story.notes
          | none => False := by
  intro stories
  have chronicled : Chronicled ttl [] stories := by
    rw [show stories = _ from stories_accounts ttl start rounds]
    refine chronicled_accounts ?_ ?_ ?_ ?_ rounds
    · exact fun _ => ⟨rfl, rfl⟩
    · exact rfl
    · exact fun _ => rfl
    · exact fun _ _ _ => nofun
  constructor
  · apply chronicled.single
    intro part upTo
    rw [List.prefix_nil.1 upTo]
    exact fun _ => ⟨Nat.le_refl _, Nat.zero_le _⟩
  intro before story after split
  rw [split] at chronicled
  have lawful := chronicled.lawful
  have own {now rest : List (Note κ ν ε)} {task moment : Nat} {key : κ} {result : Except ε ν}
      (told : story.notes = now ++ ⟨task, key, moment, .brought result⟩ :: rest) :
      (∃ delay takes, story.tasks[task]? = some ⟨delay, .get key takes result⟩) ∧
        ∃ start, ⟨task, key, start, .began⟩ ∈ now := by
    cases lawful.fits told with
    | @brought _ _ _ delay takes _ given began _ => exact ⟨⟨delay, takes, given⟩, began⟩
  refine ⟨fun _ _ _ _ _ _ => own, fun reply member delay key takes result given => ?_⟩
  rcases chronicled.answered reply member key ⟨delay, takes, result, given⟩ with
    ⟨outcome, got, told⟩ | ⟨value, got, told⟩
  · obtain ⟨now, rest, split⟩ := List.append_of_mem told
    obtain ⟨_, _, found⟩ := (own split).1
    cases given.symm.trans found
    rw [got]
    cases result with
    | ok value => exact .inl ⟨rfl, told⟩
    | error fault => exact ⟨rfl, told⟩
  · obtain ⟨now, rest, split⟩ := List.append_of_mem told
    rw [got]
    cases lawful.fits split with
    | @recalled _ _ _ filled _ looks last fresh =>
        exact .inr ⟨now, filled, rest, split, last, fresh⟩

/-- Of two look-ups of a key the second, which waits while the first fetches, recalls its value. -/
theorem waiting_lookup_recalls :
    let story : Story String Nat Unit :=
      ⟨0, [⟨0, .get "size" 4 (.ok 7)⟩, ⟨1, .get "size" 4 (.ok 8)⟩],
        [⟨0, "size", 0, .began⟩, ⟨0, "size", 4, .brought (.ok 7)⟩, ⟨1, "size", 4, .recalled 7⟩],
        [⟨0, some (.ok 7), 4⟩, ⟨1, some (.ok 7), 4⟩]⟩
    ((empty 10 : Cache String Nat).accounts 0 [⟨0, story.tasks⟩]).map Account.story = [story] ∧
      ∃ now filled rest, story.notes = now ++ ⟨1, "size", 4, .recalled 7⟩ :: rest ∧
        LastBrought now "size" 7 filled ∧ 4 < filled + 10 := by
  intro story
  have told : ((empty 10 : Cache String Nat).accounts 0 [⟨0, story.tasks⟩]).map Account.story =
      [story] := by
    rfl
  refine ⟨told, ?_⟩
  have served := ((lookups_share_fetches 10 0 [⟨0, story.tasks⟩]).2 [] story [] told).2
    ⟨1, some (.ok 7), 4⟩ (by simp [story]) 1 "size" 4 (.ok 8) rfl
  rcases served with ⟨own, _⟩ | recalled
  · cases own
  · exact recalled

end Provisioning.Cache
