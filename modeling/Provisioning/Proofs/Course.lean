import Provisioning.Proofs.Interference

/-!
The exchanges of a program on its way: what it asked, and what it was answered. `Course` is the way
to some point with the exchanges up to there, `Tells` is what a proof has to show of a program for
whatever sound answers it is given, and `Course.tells` says that the proof is enough.
-/

namespace Provisioning.Program

open Relation

variable {I : Interface} {α β σ : Type}
variable {serve : (q : I.Request) → σ → I.Answer q × σ} {rely : σ → σ → Prop}

/-- A request and its answer. -/
abbrev Exchange (I : Interface) : Type := (q : I.Request) × I.Answer q

/-- What may be left of a program, in which state and after which exchanges, when the outside
changes the state before any request and after the last one. -/
inductive Course (serve : (q : I.Request) → σ → I.Answer q × σ) (rely : σ → σ → Prop)
    (p : Program I α) (s : σ) : List (Exchange I) → Program I α → σ → Prop where
  | start : Course serve rely p s [] p s
  | outside {had q t u} : Course serve rely p s had q t → rely t u → Course serve rely p s had q u
  | request {had q next t} : Course serve rely p s had (ask q next) t →
      Course serve rely p s (had ++ [⟨q, (serve q t).1⟩]) (next (serve q t).1) (serve q t).2

/-- A program makes only allowed requests, and for whatever sound answers it is given, its exchanges
and its value meet a postcondition. -/
def Tells (allowed : I.Request → Prop) (sound : (q : I.Request) → I.Answer q → Prop) :
    Program I α → (List (Exchange I) → α → Prop) → Prop
  | done value, post => post [] value
  | ask q next, post => allowed q ∧ ∀ answer, sound q answer →
      (next answer).Tells allowed sound fun had value => post (⟨q, answer⟩ :: had) value

namespace Course

variable {p q : Program I α} {s t : σ} {had : List (Exchange I)}

theorem reaches (course : Course serve rely p s had q t) : Reaches serve rely p s q t := by
  induction course with
  | start => exact .start
  | outside _ change ih => exact ih.outside change
  | request _ ih => exact ih.request

/-- Whatever can happen to a program happens with some exchanges. -/
theorem exists_of_reaches (reached : Reaches serve rely p s q t) :
    ∃ had, Course serve rely p s had q t := by
  induction reached with
  | start => exact ⟨[], .start⟩
  | outside _ change ih =>
      obtain ⟨had, course⟩ := ih
      exact ⟨had, course.outside change⟩
  | request _ ih =>
      obtain ⟨had, course⟩ := ih
      exact ⟨_, course.request⟩

theorem exists_of_run (p : Program I α) (s : σ) :
    ∃ had, Course serve rely p s had (done (p.run serve s).1) (p.run serve s).2 :=
  exists_of_reaches (reaches_run p s)

/-- A program that has ended asks nothing. -/
theorem of_done {value : α} (course : Course serve rely (done value) s had q t) :
    had = [] ∧ q = done value ∧ ReflTransGen rely s t := by
  have same := course.reaches.eq_of_done
  have changes := course.reaches.changes_of_done
  refine ⟨?_, same, changes⟩
  clear same changes
  induction course with
  | start => rfl
  | outside _ _ ih => exact ih
  | request earlier _ => cases earlier.reaches.eq_of_done

end Course

namespace Tells

variable {allowed : I.Request → Prop} {sound : (q : I.Request) → I.Answer q → Prop}
  {post : List (Exchange I) → α → Prop}

theorem mono {first last : List (Exchange I) → α → Prop}
    (implies : ∀ had value, first had value → last had value) {p : Program I α}
    (tells : p.Tells allowed sound first) : p.Tells allowed sound last := by
  induction p generalizing first last with
  | done value => exact implies [] value tells
  | ask q next ih =>
      refine ⟨tells.1, fun answer fair => ih answer ?_ (tells.2 answer fair)⟩
      exact fun had value met => implies _ value met

/-- What tells something of whatever answers tells it of fewer answers. -/
theorem weaken {wider : I.Request → Prop} {fewer : (q : I.Request) → I.Answer q → Prop}
    (requests : ∀ q, allowed q → wider q) (answers : ∀ q answer, fewer q answer → sound q answer)
    {p : Program I α} (tells : p.Tells allowed sound post) : p.Tells wider fewer post := by
  induction p generalizing post with
  | done value => exact tells
  | ask q next ih =>
      refine ⟨requests q tells.1, fun answer fair => ih answer ?_⟩
      exact tells.2 answer (answers q answer fair)

/-- What two proofs show of a program holds together. -/
theorem and {last : List (Exchange I) → α → Prop} {p : Program I α}
    (tells : p.Tells allowed sound post) (also : p.Tells allowed sound last) :
    p.Tells allowed sound fun had value => post had value ∧ last had value := by
  induction p generalizing post last with
  | done value => exact ⟨tells, also⟩
  | ask q next ih =>
      exact ⟨tells.1, fun answer fair => ih answer (tells.2 answer fair) (also.2 answer fair)⟩

/-- The exchanges of a program in two parts are those of the first and then those of the second. -/
theorem bind {last : List (Exchange I) → β → Prop} {p : Program I α} {f : α → Program I β}
    (first : p.Tells allowed sound fun had value =>
      (f value).Tells allowed sound fun more final => last (had ++ more) final) :
    (p >>= f).Tells allowed sound last := by
  induction p generalizing last with
  | done value => exact first
  | ask q next ih =>
      refine ⟨first.1, fun answer fair => ?_⟩
      exact ih answer (first.2 answer fair)

/-- All that a program asked was allowed. -/
theorem asked {p : Program I α} (tells : p.Tells allowed sound post) :
    p.Tells allowed sound fun had value =>
      post had value ∧ ∀ exchange ∈ had, allowed exchange.1 := by
  induction p generalizing post with
  | done value => exact ⟨tells, nofun⟩
  | ask q next ih =>
      refine ⟨tells.1, fun answer fair => (ih answer (tells.2 answer fair)).mono ?_⟩
      exact fun had value met => ⟨met.1, List.forall_mem_cons.2 ⟨tells.1, met.2⟩⟩

end Tells

/-- At every point of its course a program goes on as promised, if answers are sound in all states
of an invariant that its requests and the outside keep. -/
theorem Course.tells {allowed : I.Request → Prop} {sound : (q : I.Request) → I.Answer q → Prop}
    {post : List (Exchange I) → α → Prop} {inv : σ → Prop} {p q : Program I α} {s t : σ}
    {had : List (Exchange I)} (course : Course serve rely p s had q t)
    (tells : p.Tells allowed sound post) (initially : inv s)
    (stable : ∀ {s t}, inv s → rely s t → inv t)
    (served : ∀ {q s}, allowed q → inv s → sound q (serve q s).1 ∧ inv (serve q s).2) :
    inv t ∧ q.Tells allowed sound fun more value => post (had ++ more) value := by
  induction course with
  | start => exact ⟨initially, tells⟩
  | outside _ change ih => exact ⟨stable ih.1 change, ih.2⟩
  | @request had q next t _ ih =>
      obtain ⟨here, permitted, goesOn⟩ := ih
      obtain ⟨fair, kept⟩ := served permitted here
      refine ⟨kept, (goesOn _ fair).mono fun more value met => ?_⟩
      rw [List.append_assoc]
      exact met

/-- The exchanges of a program that has ended, and its value, are as promised. -/
theorem Course.tells_done {allowed : I.Request → Prop}
    {sound : (q : I.Request) → I.Answer q → Prop} {post : List (Exchange I) → α → Prop}
    {inv : σ → Prop} {p : Program I α} {s t : σ} {had : List (Exchange I)} {value : α}
    (course : Course serve rely p s had (done value) t) (tells : p.Tells allowed sound post)
    (initially : inv s) (stable : ∀ {s t}, inv s → rely s t → inv t)
    (served : ∀ {q s}, allowed q → inv s → sound q (serve q s).1 ∧ inv (serve q s).2) :
    post had value := by
  have ended := (course.tells tells initially stable served).2
  change post (had ++ []) value at ended
  rw [List.append_nil] at ended
  exact ended

end Provisioning.Program
