import Mathlib.Data.List.Infix
import Provisioning.Proofs.Mirroring

/-!
What becomes of look-ups, told in order. `Fits` says what a note may tell after those before it: a
fetch begins while no other fetch of its key is under way, it ends after it began, and a recalled
value is the one that the last successful fetch brought, before it is stale. Main statement:
`Lawful.single`, that then every key has one fetch under way at a time.
-/

namespace Provisioning.Cache

variable {κ ν ε : Type}

def Event.isResult : Event ν ε → Bool
  | .brought _ => true
  | _ => false

/-- The value that a fetch brought. -/
def Event.fetched? : Event ν ε → Option ν
  | .brought (.ok value) => some value
  | _ => none

/-- The last fetch of a key that brought a value brought this one, and when. -/
def LastBrought (notes : List (Note κ ν ε)) (key : κ) (value : ν) (moment : Nat) : Prop :=
  ∃ earlier task later,
    notes = earlier ++ ⟨task, key, moment, .brought (.ok value)⟩ :: later ∧
      ∀ note ∈ later, note.key = key → note.event.fetched? = none

/-- The entry of a key's slot, if any, is what the last successful fetch brought, and it is stale in
due time. -/
def Remembers (ttl : Nat) (notes : List (Note κ ν ε)) (key : κ) (slot : Slot ν) : Prop :=
  ∀ value expiresAt, slot.entry = some ⟨value, expiresAt⟩ →
    ∃ moment, expiresAt = moment + ttl ∧ LastBrought notes key value moment

/-- The answer that a task which looked up a key got is what its own fetch brought, or else a value
that it recalled. -/
def Answered (notes : List (Note κ ν ε)) (key : κ) (reply : Reply ν ε) : Prop :=
  (∃ result, reply.answer? = some result ∧
    ⟨reply.task, key, reply.moment, .brought result⟩ ∈ notes) ∨
  ∃ value, reply.answer? = some (.ok value) ∧
    ⟨reply.task, key, reply.moment, .recalled value⟩ ∈ notes

/-- What is told of tasks that were started together. -/
structure Story (κ ν ε : Type) where
  start : Nat
  tasks : List (Task κ ν ε)
  notes : List (Note κ ν ε)
  replies : List (Reply ν ε)

def Account.story {σ η : Type} (a : Account κ ν ε σ η) : Story κ ν ε :=
  ⟨a.start, a.tasks, a.close.notes, a.close.replies⟩

/-- What became of look-ups, round after round. -/
def history (stories : List (Story κ ν ε)) : List (Note κ ν ε) := stories.flatMap Story.notes

section Notes

variable {notes : List (Note κ ν ε)} {note : Note κ ν ε} {key : κ} {value : ν} {moment : Nat}

theorem LastBrought.snoc (last : LastBrought notes key value moment)
    (other : note.key = key → note.event.fetched? = none) :
    LastBrought (notes ++ [note]) key value moment := by
  obtain ⟨earlier, task, later, rfl, none_⟩ := last
  refine ⟨earlier, task, later ++ [note], by simp, fun told member => ?_⟩
  rcases List.mem_append.1 member with before | added
  · exact none_ told before
  · exact List.mem_singleton.1 added ▸ other

/-- Entries outlast what brings no value for their key. -/
theorem Remembers.snoc {ttl : Nat} {slot : Slot ν} (remembers : Remembers ttl notes key slot)
    (other : note.key = key → note.event.fetched? = none) :
    Remembers ttl (notes ++ [note]) key slot := by
  intro value expiresAt found
  obtain ⟨moment, expiry, last⟩ := remembers value expiresAt found
  exact ⟨moment, expiry, last.snoc other⟩

/-- A slot is filled with what a fetch has just brought. -/
theorem remembers_fill (ttl : Nat) (notes : List (Note κ ν ε)) (task : Nat) (key : κ) (value : ν)
    (moment : Nat) (slot : Slot ν) :
    Remembers ttl (notes ++ [⟨task, key, moment, .brought (.ok value)⟩]) key
      (slot.fill value (moment + ttl)) := by
  rintro _ _ ⟨⟩
  exact ⟨moment, rfl, notes, task, [], rfl, nofun⟩

theorem Answered.mono {more : List (Note κ ν ε)} {reply : Reply ν ε}
    (answered : Answered notes key reply) (sub : notes ⊆ more) : Answered more key reply := by
  rcases answered with ⟨result, got, own⟩ | ⟨value, got, recalled⟩
  · exact .inl ⟨result, got, sub own⟩
  · exact .inr ⟨value, got, sub recalled⟩

end Notes

variable [DecidableEq κ]

/-- What is told of rounds on a new cache is what is told of rounds on an empty table. -/
theorem stories_accounts (ttl start : Nat) (rounds : List (Round κ ν ε)) :
    ((empty ttl : Cache κ ν).accounts start rounds).map Account.story =
      (Table.keeping.accounts (.empty ttl) start rounds).map Account.story := by
  apply map_accounts
  intro a b mirrors
  rw [Account.story, Account.story, mirrors.start, mirrors.tasks, mirrors.close.notes,
    mirrors.close.replies]

/-- How many fetches of a key began. -/
def begun (notes : List (Note κ ν ε)) (key : κ) : Nat :=
  notes.countP fun note => note.key = key && note.event.isBeginning

/-- How many fetches of a key ended. -/
def brought (notes : List (Note κ ν ε)) (key : κ) : Nat :=
  notes.countP fun note => note.key = key && note.event.isResult

theorem begun_snoc (notes : List (Note κ ν ε)) (note : Note κ ν ε) (key : κ) :
    begun (notes ++ [note]) key =
      begun notes key + if note.key = key ∧ note.event.isBeginning then 1 else 0 := by
  simp [begun, List.countP_singleton]

theorem brought_snoc (notes : List (Note κ ν ε)) (note : Note κ ν ε) (key : κ) :
    brought (notes ++ [note]) key =
      brought notes key + if note.key = key ∧ note.event.isResult then 1 else 0 := by
  simp [brought, List.countP_singleton]

/-- At most one fetch of each key is under way. -/
def Single (notes : List (Note κ ν ε)) : Prop :=
  ∀ key, brought notes key ≤ begun notes key ∧ begun notes key ≤ brought notes key + 1

/-- What may become of a look-up after what became of others in the past and now. -/
inductive Fits (ttl : Nat) (tasks : List (Task κ ν ε)) (past now : List (Note κ ν ε)) :
    Note κ ν ε → Prop where
  | began {task : Nat} {key : κ} {moment : Nat} (looks : Looks tasks key task)
      (free : begun (past ++ now) key = brought (past ++ now) key) :
      Fits ttl tasks past now ⟨task, key, moment, .began⟩
  | brought {task : Nat} {key : κ} {moment delay takes : Nat} {result : Except ε ν}
      (given : tasks[task]? = some ⟨delay, .get key takes result⟩)
      (own : ∃ start, ⟨task, key, start, .began⟩ ∈ now)
      (taken : begun (past ++ now) key = brought (past ++ now) key + 1) :
      Fits ttl tasks past now ⟨task, key, moment, .brought result⟩
  | recalled {task : Nat} {key : κ} {moment filled : Nat} {value : ν}
      (looks : Looks tasks key task) (last : LastBrought (past ++ now) key value filled)
      (fresh : moment < filled + ttl) : Fits ttl tasks past now ⟨task, key, moment, .recalled value⟩

/-- Every note fits those before it. -/
inductive Lawful (ttl : Nat) (tasks : List (Task κ ν ε)) (past : List (Note κ ν ε)) :
    List (Note κ ν ε) → Prop where
  | nil : Lawful ttl tasks past []
  | snoc {now : List (Note κ ν ε)} {note : Note κ ν ε} (lawful : Lawful ttl tasks past now)
      (fits : Fits ttl tasks past now note) : Lawful ttl tasks past (now ++ [note])

variable {ttl : Nat} {tasks : List (Task κ ν ε)} {past now rest notes : List (Note κ ν ε)}
  {note : Note κ ν ε}

theorem Lawful.fits (lawful : Lawful ttl tasks past notes) (split : notes = now ++ note :: rest) :
    Fits ttl tasks past now note := by
  induction lawful generalizing rest with
  | nil => simp at split
  | @snoc before last lawful fits ih =>
      rcases List.eq_nil_or_concat rest with rfl | ⟨front, final, rfl⟩
      · obtain ⟨rfl, same⟩ := List.append_inj' split rfl
        cases same
        exact fits
      · have longer : before ++ [last] = (now ++ note :: front) ++ [final] := by
          simpa using split
        exact ih (List.append_inj' longer rfl).1

theorem Fits.single (fits : Fits ttl tasks past now note) (single : Single (past ++ now)) :
    Single (past ++ (now ++ [note])) := by
  intro key
  have before := single key
  rw [← List.append_assoc, begun_snoc, brought_snoc]
  cases fits with
  | @began task other moment looks free =>
      by_cases same : other = key
      · subst same
        simp [Event.isBeginning, Event.isResult, free]
      · simpa [same] using before
  | @brought task other moment delay takes result given own taken =>
      by_cases same : other = key
      · subst same
        simp [Event.isBeginning, Event.isResult, taken]
      · simpa [same] using before
  | recalled => simpa [Event.isBeginning, Event.isResult] using before

theorem Lawful.single (lawful : Lawful ttl tasks past notes)
    (before : ∀ part, part <+: past → Single part) :
    ∀ part, part <+: past ++ notes → Single part := by
  induction lawful with
  | nil => simpa using before
  | @snoc now note lawful fits ih =>
      intro part upTo
      rw [← List.append_assoc, List.prefix_concat_iff] at upTo
      rcases upTo with all | fewer
      · rw [all, List.append_assoc]
        exact fits.single (ih _ (List.prefix_refl _))
      · exact ih part fewer

/-- Every story is lawful after those before it, and its look-ups got answers that it tells of. -/
def Chronicled (ttl : Nat) : List (Note κ ν ε) → List (Story κ ν ε) → Prop
  | _, [] => True
  | past, story :: rest =>
      Lawful ttl story.tasks past story.notes ∧
        (∀ reply ∈ story.replies, ∀ key, Looks story.tasks key reply.task →
          Answered story.notes key reply) ∧
        Chronicled ttl (past ++ story.notes) rest

namespace Chronicled

variable {stories before after : List (Story κ ν ε)} {story : Story κ ν ε}

theorem single (chronicled : Chronicled ttl past stories)
    (before : ∀ part, part <+: past → Single part) :
    ∀ part, part <+: past ++ history stories → Single part := by
  induction stories generalizing past with
  | nil => simpa [history] using before
  | cons story rest ih =>
      obtain ⟨lawful, _, following⟩ := chronicled
      have all := ih following (lawful.single before)
      simpa [history] using all

theorem lawful (chronicled : Chronicled ttl past (before ++ story :: after)) :
    Lawful ttl story.tasks (past ++ history before) story.notes := by
  induction before generalizing past with
  | nil => simpa [history] using chronicled.1
  | cons first rest ih => simpa [history] using ih chronicled.2.2

theorem answered (chronicled : Chronicled ttl past (before ++ story :: after)) :
    ∀ reply ∈ story.replies, ∀ key, Looks story.tasks key reply.task →
      Answered story.notes key reply := by
  induction before generalizing past with
  | nil => exact chronicled.2.1
  | cons first rest ih => exact ih chronicled.2.2

end Chronicled

end Provisioning.Cache
