import Provisioning.Proofs.Conversation

/-!
Conversations on a clock. `timeline` is what a program says when it is run, with the times at which
messages are sent and answered, and `Goes` is how a part of a client goes on the whole, with a rule
for each way to put parts together.
-/

namespace Provisioning.Azure.Rest

variable {α β σ : Type}

/-- A turn with the moments at which its message was sent and at which it was answered. -/
structure Timed extends Turn where
  sent : Nat
  came : Nat

/-- The turn of a wire between two moments. -/
def timed? : (w : Wire) → w.Answer → (sent came : Nat) → Option Timed
  | .exchange message, answer, sent, came => some ⟨⟨message, answer⟩, sent, came⟩
  | .sleep _, _, _, _ | .now, _, _, _ | .after _, _, _, _ => none

/-- What is said when a program is run, with the times of a clock. -/
def timeline (serve : (w : Wire) → σ → w.Answer × σ) (time : σ → Nat) :
    Program wires α → σ → List Timed
  | .done _, _ => []
  | .ask w next, s =>
      (timed? w (serve w s).1 (time s) (time (serve w s).2)).toList ++
        timeline serve time (next (serve w s).1) (serve w s).2

theorem timeline_bind (serve : (w : Wire) → σ → w.Answer × σ) (time : σ → Nat)
    (p : Program wires α) (f : α → Program wires β) (s : σ) :
    timeline serve time (p >>= f) s = timeline serve time p s ++
      timeline serve time (f (Program.run (I := wires) serve p s).1)
        (Program.run (I := wires) serve p s).2 := by
  induction p generalizing s with
  | done value => rfl
  | ask w next ih =>
      have rest := ih (serve w s).1 (serve w s).2
      exact (congrArg _ rest).trans (List.append_assoc ..).symm

/-- A clock can be read, which takes no time. It shows every moment before some horizon, and none
from there on. -/
structure Clock (serve : (w : Wire) → σ → w.Answer × σ) (time : σ → Nat) (horizon : Nat) :
    Prop where
  reads : ∀ s, (serve .now s).1 = time s
  still : ∀ s, time (serve .now s).2 = time s
  shows : ∀ length s, (serve (.after length) s).1 =
    if time s + length < horizon then some (time s + length) else none

section

variable {serve : (w : Wire) → σ → w.Answer × σ} {time : σ → Nat}

/-- How a part goes that starts with a kept token and in a state: what is said, what comes of it,
and which token and state are left. -/
structure Goes (serve : (w : Wire) → σ → w.Answer × σ) (time : σ → Nat) (act : Talk α)
    (kept : Option Token) (s : σ) (log : List Timed) (result : Except Halt α)
    (left : Option Token) (t : σ) : Prop where
  said : timeline serve time (act.run.run kept) s = log
  ran : Program.run (I := wires) serve (act.run.run kept) s = ((result, left), t)

namespace Goes

variable {kept held left : Option Token} {s t u : σ} {log more : List Timed}

/-- Every part goes somehow from every state. -/
theorem of_run (act : Talk α) (kept : Option Token) (s : σ) :
    Goes serve time act kept s (timeline serve time (act.run.run kept) s)
      (Program.run (I := wires) serve (act.run.run kept) s).1.1
      (Program.run (I := wires) serve (act.run.run kept) s).1.2
      (Program.run (I := wires) serve (act.run.run kept) s).2 := ⟨rfl, rfl⟩

theorem unique {act : Talk α} {result other : Except Halt α}
    (goes : Goes serve time act kept s log result held t)
    (also : Goes serve time act kept s more other left u) :
    log = more ∧ result = other ∧ held = left := by
  have same := goes.ran.symm.trans also.ran
  cases same
  exact ⟨goes.said.symm.trans also.said, rfl, rfl⟩

/-- A program with a part in front of it goes on from where the part has ended. -/
theorem before {γ : Type} {act : Talk α} {result : Except Halt α}
    (first : Goes serve time act kept s log result held t)
    (rest : Except Halt α × Option Token → Program wires γ) :
    timeline serve time (act.run.run kept >>= rest) s =
        log ++ timeline serve time (rest (result, held)) t ∧
      Program.run (I := wires) serve (act.run.run kept >>= rest) s =
        Program.run (I := wires) serve (rest (result, held)) t := by
  have said := timeline_bind serve time (act.run.run kept) rest s
  have ran := Program.run_bind (I := wires) serve (act.run.run kept) rest s
  simp only [first.ran] at said ran
  rw [first.said] at said
  exact ⟨said, ran⟩

theorem bind_ok {act : Talk α} {next : α → Talk β} {value : α} {result : Except Halt β}
    (first : Goes serve time act kept s log (.ok value) held t)
    (second : Goes serve time (next value) held t more result left u) :
    Goes serve time (act >>= next) kept s (log ++ more) result left u :=
  ⟨(first.before _).1.trans (congrArg _ second.said), (first.before _).2.trans second.ran⟩

theorem bind_error {act : Talk α} {next : α → Talk β} {halt : Halt}
    (first : Goes serve time act kept s log (.error halt) held t) :
    Goes serve time (act >>= next) kept s log (.error halt) held t :=
  ⟨(first.before _).1.trans (List.append_nil log), (first.before _).2⟩

theorem tryCatch_ok {act : Talk α} {handle : Halt → Talk α} {value : α}
    (first : Goes serve time act kept s log (.ok value) held t) :
    Goes serve time (tryCatch act handle) kept s log (.ok value) held t :=
  ⟨(first.before _).1.trans (List.append_nil log), (first.before _).2⟩

theorem tryCatch_error {act : Talk α} {handle : Halt → Talk α} {halt : Halt}
    {result : Except Halt α}
    (first : Goes serve time act kept s log (.error halt) held t)
    (second : Goes serve time (handle halt) held t more result left u) :
    Goes serve time (tryCatch act handle) kept s (log ++ more) result left u :=
  ⟨(first.before _).1.trans (congrArg _ second.said), (first.before _).2.trans second.ran⟩

theorem pure (value : α) : Goes serve time (pure value) kept s [] (.ok value) kept s := ⟨rfl, rfl⟩

theorem throw (halt : Halt) :
    Goes serve time (throw halt : Talk α) kept s [] (.error halt) kept s := ⟨rfl, rfl⟩

theorem wire (w : Wire) : Goes serve time (wire w) kept s
    (timed? w (serve w s).1 (time s) (time (serve w s).2)).toList (.ok (serve w s).1) kept
    (serve w s).2 := ⟨List.append_nil _, rfl⟩

theorem remember : Goes serve time (getThe (Option Token)) kept s [] (.ok kept) kept s := ⟨rfl, rfl⟩

theorem keep (token : Option Token) :
    Goes serve time (set token : Talk PUnit) kept s [] (.ok ⟨⟩) token s := ⟨rfl, rfl⟩

theorem exchange (message : Message) : Goes serve time (exchange message) kept s
    [⟨⟨message, (serve (.exchange message) s).1⟩, time s, time (serve (.exchange message) s).2⟩]
    (match (serve (.exchange message) s).1 with
      | some response => .ok response
      | none => .error (.fault .http)) kept (serve (.exchange message) s).2 := by
  have asked : Goes serve time (Rest.wire (.exchange message)) kept s _ _ kept _ := wire _
  cases answer : (serve (.exchange message) s).1 with
  | none =>
      rw [answer] at asked
      exact asked.bind_ok (throw (.fault .http))
  | some response =>
      rw [answer] at asked
      exact asked.bind_ok (pure response)

theorem now {horizon : Nat} (clock : Clock serve time horizon) :
    Goes serve time (Rest.wire .now) kept s [] (.ok (time s)) kept (serve .now s).2 := by
  have read : Goes serve time (Rest.wire .now) kept s [] _ kept _ := wire .now
  rwa [clock.reads] at read

theorem after {horizon : Nat} (clock : Clock serve time horizon) (length : Nat) (s : σ) :
    Goes serve time (Rest.wire (.after length)) kept s []
      (.ok (if time s + length < horizon then some (time s + length) else none)) kept
      (serve (.after length) s).2 := by
  have read : Goes serve time (Rest.wire (.after length)) kept s [] _ kept _ := wire (.after length)
  rwa [clock.shows] at read

end Goes

end

end Provisioning.Azure.Rest
