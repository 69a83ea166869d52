import Mathlib.Logic.Relation
import Provisioning.Program

/-!
Programs whose state may be changed from outside between two requests, and which may be cut off
after any of them. `Reaches` is what can happen to such a program, `Safe` is what a proof has to
show of it, and `Reaches.keeps` says that the proof is enough.
-/

namespace Provisioning.Program

open Relation

variable {I : Interface} {α β σ : Type}
variable {serve : (q : I.Request) → σ → I.Answer q × σ} {rely : σ → σ → Prop}

/-- What may be left of a program, and in which state, when the outside changes the state before
any request and after the last one. -/
inductive Reaches (serve : (q : I.Request) → σ → I.Answer q × σ) (rely : σ → σ → Prop)
    (p : Program I α) (s : σ) : Program I α → σ → Prop where
  | start : Reaches serve rely p s p s
  | outside {q t u} : Reaches serve rely p s q t → rely t u → Reaches serve rely p s q u
  | request {q next t} : Reaches serve rely p s (ask q next) t →
      Reaches serve rely p s (next (serve q t).1) (serve q t).2

/-- Every request meets a guarantee and the end meets a postcondition, however the outside changes
the state before each request. -/
def Safe (serve : (q : I.Request) → σ → I.Answer q × σ) (rely guarantee : σ → σ → Prop)
    (post : α → σ → Prop) : Program I α → σ → Prop
  | done value, s => post value s
  | ask q next, s => ∀ t, ReflTransGen rely s t →
      guarantee t (serve q t).2 ∧ (next (serve q t).1).Safe serve rely guarantee post (serve q t).2

/-- The state in which a program is cut off after so many requests. -/
def stateAfter (serve : (q : I.Request) → σ → I.Answer q × σ) : Nat → Program I α → σ → σ
  | count + 1, ask q next, s => (next (serve q s).1).stateAfter serve count (serve q s).2
  | _, _, s => s

/-- What is left of a program after so many requests. -/
def left (serve : (q : I.Request) → σ → I.Answer q × σ) : Nat → Program I α → σ → Program I α
  | count + 1, ask q next, s => (next (serve q s).1).left serve count (serve q s).2
  | _, p, _ => p

theorem stateAfter_zero (p : Program I α) (s : σ) : p.stateAfter serve 0 s = s := by
  cases p <;> rfl

theorem left_zero (p : Program I α) (s : σ) : p.left serve 0 s = p := by
  cases p <;> rfl

theorem Reaches.after {q : I.Request} {next : I.Answer q → Program I α} {left : Program I α}
    {s t : σ} (reached : Reaches serve rely (next (serve q s).1) (serve q s).2 left t) :
    Reaches serve rely (ask q next) s left t := by
  induction reached with
  | start => exact .request .start
  | outside _ change ih => exact ih.outside change
  | request _ ih => exact ih.request

theorem Reaches.trans {p q left : Program I α} {s t u : σ} (first : Reaches serve rely p s q t)
    (later : Reaches serve rely q t left u) : Reaches serve rely p s left u := by
  induction later with
  | start => exact first
  | outside _ change ih => exact ih.outside change
  | request _ ih => exact ih.request

/-- What can happen to the first part of a program can happen to the program. -/
theorem Reaches.bind {p q : Program I α} {s t : σ} (reached : Reaches serve rely p s q t)
    (f : α → Program I β) : Reaches serve rely (p >>= f) s (q >>= f) t := by
  induction reached with
  | start => exact .start
  | outside _ change ih => exact ih.outside change
  | request _ ih => exact ih.request

theorem Reaches.eq_of_done {value : α} {left : Program I α} {s t : σ}
    (reached : Reaches serve rely (done value) s left t) : left = done value := by
  induction reached with
  | start => rfl
  | outside _ _ ih => exact ih
  | request _ ih => cases ih

theorem Reaches.outsides {p q : Program I α} {s t u : σ} (reached : Reaches serve rely p s q t)
    (changes : ReflTransGen rely t u) : Reaches serve rely p s q u := by
  induction changes with
  | refl => exact reached
  | tail _ change ih => exact ih.outside change

/-- Only the outside changes the state of a program that has ended. -/
theorem Reaches.changes_of_done {value : α} {left : Program I α} {s t : σ}
    (reached : Reaches serve rely (done value) s left t) : ReflTransGen rely s t := by
  induction reached with
  | start => exact .refl
  | outside _ change ih => exact ih.tail change
  | request earlier _ => cases earlier.eq_of_done

/-- Of a program in two parts, the first is still going on, or it has ended and the second goes
on. -/
theorem Reaches.of_bind {p : Program I α} {f : α → Program I β} {left : Program I β} {s t : σ}
    (reached : Reaches serve rely (p >>= f) s left t) :
    (∃ q, Reaches serve rely p s q t ∧ left = (q >>= f)) ∨
    (∃ value u, Reaches serve rely p s (done value) u ∧ Reaches serve rely (f value) u left t) := by
  induction reached with
  | start => exact .inl ⟨p, .start, rfl⟩
  | outside _ change ih =>
      rcases ih with ⟨q, first, same⟩ | ⟨value, u, first, later⟩
      · exact .inl ⟨q, first.outside change, same⟩
      · exact .inr ⟨value, u, first, later.outside change⟩
  | @request q next t _ ih =>
      rcases ih with ⟨rest, first, same⟩ | ⟨value, u, first, later⟩
      · cases rest with
        | done value =>
            have second : Reaches serve rely (f value) t (ask q next) t := by
              rw [same]
              exact .start
            exact .inr ⟨value, t, first, second.request⟩
        | ask other goesOn =>
            cases same
            exact .inl ⟨goesOn (serve q t).1, first.request, rfl⟩
      · exact .inr ⟨value, u, first, later.request⟩

/-- A program in two parts has ended only if both have. -/
theorem Reaches.of_bind_done {p : Program I α} {f : α → Program I β} {last : β} {s t : σ}
    (reached : Reaches serve rely (p >>= f) s (done last) t) :
    ∃ value u, Reaches serve rely p s (done value) u ∧
      Reaches serve rely (f value) u (done last) t := by
  rcases reached.of_bind with ⟨rest, first, same⟩ | ended
  · cases rest with
    | done value =>
        refine ⟨value, t, first, ?_⟩
        change done last = f value at same
        rw [same]
        exact .start
    | ask q next => cases same
  · exact ended

/-- A program may be left alone until it ends. -/
theorem reaches_run (p : Program I α) (s : σ) :
    Reaches serve rely p s (done (p.run serve s).1) (p.run serve s).2 := by
  induction p generalizing s with
  | done value => exact .start
  | ask q next ih => exact (ih (serve q s).1 (serve q s).2).after

/-- A program may be cut off after any number of requests. -/
theorem reaches_stateAfter (count : Nat) (p : Program I α) (s : σ) :
    Reaches serve rely p s (p.left serve count s) (p.stateAfter serve count s) := by
  induction count generalizing p s with
  | zero =>
      rw [left_zero, stateAfter_zero]
      exact .start
  | succ count ih =>
      cases p with
      | done value => exact .start
      | ask q next => exact (ih (next (serve q s).1) (serve q s).2).after

theorem exists_reaches_stateAfter (count : Nat) (p : Program I α) (s : σ) :
    ∃ left, Reaches serve rely p s left (p.stateAfter serve count s) :=
  ⟨_, reaches_stateAfter count p s⟩

variable {guarantee : σ → σ → Prop}

theorem Safe.mono {first last : α → σ → Prop} (implies : ∀ value s, first value s → last value s)
    {p : Program I α} {s : σ} (safe : p.Safe serve rely guarantee first s) :
    p.Safe serve rely guarantee last s := by
  induction p generalizing s with
  | done value => exact implies value s safe
  | ask q next ih =>
      intro t outside
      exact ⟨(safe t outside).1, ih _ (safe t outside).2⟩

theorem Safe.bind {post : β → σ → Prop} {p : Program I α} {f : α → Program I β} {s : σ}
    (first : p.Safe serve rely guarantee
      (fun value t => (f value).Safe serve rely guarantee post t) s) :
    (p >>= f).Safe serve rely guarantee post s := by
  induction p generalizing s with
  | done value => exact first
  | ask q next ih =>
      intro t outside
      exact ⟨(first t outside).1, ih _ (first t outside).2⟩

/-- What comes before may do anything. -/
theorem Safe.after {post : β → σ → Prop} {f : α → Program I β}
    (later : ∀ value s, (f value).Safe serve rely (fun _ _ => True) post s) (p : Program I α)
    (s : σ) : (p >>= f).Safe serve rely (fun _ _ => True) post s := by
  induction p generalizing s with
  | done value => exact later value s
  | ask q next ih => exact fun t _ => ⟨trivial, ih _ _⟩

/-- A safe program that runs undisturbed ends as promised. -/
theorem Safe.run {post : α → σ → Prop} {p : Program I α} {s : σ}
    (safe : p.Safe serve rely guarantee post s) : post (p.run serve s).1 (p.run serve s).2 := by
  induction p generalizing s with
  | done value => exact safe
  | ask q next ih => exact ih _ (safe s .refl).2

/-- A safe program stays safe, up to what the outside did last. -/
theorem Reaches.safe {post : α → σ → Prop} {p q : Program I α} {s t : σ}
    (reached : Reaches serve rely p s q t) (safe : p.Safe serve rely guarantee post s) :
    ∃ u, ReflTransGen rely u t ∧ q.Safe serve rely guarantee post u := by
  -- Safety is about the state before the outside came in, so that state is kept along the run.
  induction reached with
  | start => exact ⟨s, .refl, safe⟩
  | outside _ change ih =>
      obtain ⟨u, outside, kept⟩ := ih
      exact ⟨u, outside.tail change, kept⟩
  | request _ ih =>
      obtain ⟨u, outside, kept⟩ := ih
      exact ⟨_, .refl, (kept _ outside).2⟩

/-- What the requests of a safe program guarantee and the outside respects holds at every point
at which the program can be cut off. -/
theorem Reaches.keeps {inv : σ → Prop} {post : α → σ → Prop} {p q : Program I α} {s t : σ}
    (reached : Reaches serve rely p s q t) (safe : p.Safe serve rely guarantee post s)
    (initially : inv s) (stable : ∀ {s t}, inv s → rely s t → inv t)
    (step : ∀ {s t}, inv s → guarantee s t → inv t) : inv t := by
  induction reached with
  | start => exact initially
  | outside _ change ih => exact stable ih change
  | request earlier ih =>
      obtain ⟨u, outside, kept⟩ := earlier.safe safe
      exact step ih (kept _ outside).1

theorem Reaches.weaken {wider : σ → σ → Prop} {p q : Program I α} {s t : σ}
    (reached : Reaches serve rely p s q t) (implies : ∀ s t, rely s t → wider s t) :
    Reaches serve wider p s q t := by
  induction reached with
  | start => exact .start
  | outside _ change ih => exact ih.outside (implies _ _ change)
  | request _ ih => exact ih.request

end Provisioning.Program
