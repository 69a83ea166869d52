import Mathlib.Data.List.Forall2
import Provisioning.Program

/-!
Two programs side by side. `Alike` says that they make paired requests in the same order and end
with values that belong together, whatever they are answered. Main statement: `Alike.run`, that
their runs end as they should in states that answer paired requests in the same way.
-/

namespace Provisioning.Program

variable {I : Interface} {α β γ δ σ τ : Type}

/-- The requests that a program makes, in order. -/
def asked (serve : (q : I.Request) → σ → I.Answer q × σ) : Program I α → σ → List I.Request
  | done _, _ => []
  | ask q next, s => q :: (next (serve q s).1).asked serve (serve q s).2

/-- Which requests are paired, and what their answers have in common. -/
abbrev Pairing (I : Interface) : Type :=
  (q r : I.Request) → (I.Answer q → I.Answer r → Prop) → Prop

/-- Two programs make paired requests and end with values that belong together, as long as paired
requests are answered as they should. -/
inductive Alike (pairs : Pairing I) (post : α → β → Prop) : Program I α → Program I β → Prop where
  | done {value : α} {other : β} : post value other → Alike pairs post (done value) (done other)
  | ask {q r : I.Request} {answers : I.Answer q → I.Answer r → Prop}
      {next : I.Answer q → Program I α} {following : I.Answer r → Program I β} :
      pairs q r answers → (∀ a b, answers a b → Alike pairs post (next a) (following b)) →
      Alike pairs post (ask q next) (ask r following)

namespace Alike

variable {pairs : Pairing I} {p : Program I α} {q : Program I β}

theorem mono {post wider : α → β → Prop} (alike : p.Alike pairs post q)
    (implies : ∀ value other, post value other → wider value other) :
    p.Alike pairs wider q := by
  induction alike with
  | done met => exact .done (implies _ _ met)
  | ask paired _ ih => exact .ask paired ih

theorem bind {post : α → β → Prop} {last : γ → δ → Prop} {f : α → Program I γ}
    {g : β → Program I δ} (first : p.Alike pairs post q)
    (later : ∀ value other, post value other → (f value).Alike pairs last (g other)) :
    (p >>= f).Alike pairs last (q >>= g) := by
  induction first with
  | done met => exact later _ _ met
  | ask paired _ ih => exact .ask paired ih

variable {serve : (q : I.Request) → σ → I.Answer q × σ}
  {answer : (q : I.Request) → τ → I.Answer q × τ} {related : σ → τ → Prop}

/-- The runs of two such programs end with values that belong together and in related states, and
the requests that they have made are paired, if in related states paired requests are answered as
they should and lead to related states. -/
theorem run {post : α → β → Prop} {s : σ} {t : τ} (alike : p.Alike pairs post q)
    (served : ∀ q r answers s t, pairs q r answers → related s t →
      answers (serve q s).1 (answer r t).1 ∧ related (serve q s).2 (answer r t).2)
    (here : related s t) :
    post (p.run serve s).1 (q.run answer t).1 ∧
    related (p.run serve s).2 (q.run answer t).2 ∧
    List.Forall₂ (fun q r => ∃ answers, pairs q r answers) (p.asked serve s)
      (q.asked answer t) := by
  induction alike generalizing s t with
  | done met => exact ⟨met, here, .nil⟩
  | @ask q r answers next following paired _ ih =>
      obtain ⟨answered, after⟩ := served q r answers s t paired here
      obtain ⟨ended, last, asked⟩ := ih _ _ answered after
      exact ⟨ended, last, .cons ⟨answers, paired⟩ asked⟩

end Alike

end Provisioning.Program
