/-!
Programs that talk to the outside by requests. A program is a value: it is done, or it makes one
request and goes on with the answer. What a request does is decided by whoever runs the program,
so that one and the same program can be run to its end, cut off after any request, or interleaved
with another.
-/

namespace Provisioning

/-- The requests a program may make, and the type of the answer to each. -/
structure Interface where
  Request : Type
  Answer : Request → Type

/-- A program that makes requests of an interface and ends with a value. -/
inductive Program (I : Interface) (α : Type) : Type where
  | done (value : α)
  | ask (request : I.Request) (next : I.Answer request → Program I α)

namespace Program

variable {I : Interface} {α β σ : Type}

/-- Goes on with another program. -/
def bind : Program I α → (α → Program I β) → Program I β
  | done value, f => f value
  | ask request next, f => ask request fun answer => (next answer).bind f

instance : Monad (Program I) where
  pure := done
  bind := bind

/-- Makes one request and ends with its answer. -/
def request (q : I.Request) : Program I (I.Answer q) := ask q done

@[simp] theorem pure_eq (value : α) : (pure value : Program I α) = done value := rfl

@[simp] theorem done_bind (value : α) (f : α → Program I β) : (done value >>= f) = f value := rfl

@[simp] theorem ask_bind (q : I.Request) (next : I.Answer q → Program I α)
    (f : α → Program I β) : (ask q next >>= f) = ask q fun answer => next answer >>= f := rfl

/-- Runs a program against a state that answers its requests. -/
def run (serve : (q : I.Request) → σ → I.Answer q × σ) : Program I α → σ → α × σ
  | done value, s => (value, s)
  | ask q next, s =>
      let (answer, s) := serve q s
      (next answer).run serve s

@[simp] theorem run_done (serve : (q : I.Request) → σ → I.Answer q × σ) (value : α) (s : σ) :
    (done value : Program I α).run serve s = (value, s) := rfl

@[simp] theorem run_ask (serve : (q : I.Request) → σ → I.Answer q × σ) (q : I.Request)
    (next : I.Answer q → Program I α) (s : σ) :
    (ask q next).run serve s = (next (serve q s).1).run serve (serve q s).2 := rfl

theorem run_bind (serve : (q : I.Request) → σ → I.Answer q × σ) (p : Program I α)
    (f : α → Program I β) (s : σ) :
    (p >>= f).run serve s = (f (p.run serve s).1).run serve (p.run serve s).2 := by
  induction p generalizing s with
  | done value => rfl
  | ask q next ih => exact ih _ _

/-- Answers every request of a program by actions of another monad. -/
def interpret {m : Type → Type} [Monad m] (serve : (q : I.Request) → m (I.Answer q)) :
    Program I α → m α
  | done value => pure value
  | ask q next => do
      let answer ← serve q
      (next answer).interpret serve

end Program

end Provisioning
