import Provisioning.Proofs.Reading
import Provisioning.Proofs.Requests

/-!
Programs that make only certain requests while a world keeps an invariant. `Asks` and
`Recorded.Asks` say so of the parts of an operation; there is one rule for each request and for
each way to put parts together, whatever the invariant and the requests are.
-/

namespace Provisioning

namespace Program

variable {I : Interface} {α β σ : Type} {serve : (q : I.Request) → σ → I.Answer q × σ}
  {inv : σ → Prop} {allowed : I.Request → Prop}

/-- A program makes only certain requests, whichever states of an invariant they are answered in,
and its value meets a postcondition. -/
def Confined (serve : (q : I.Request) → σ → I.Answer q × σ) (inv : σ → Prop)
    (allowed : I.Request → Prop) (post : α → Prop) : Program I α → Prop
  | done value => post value
  | ask q next => allowed q ∧
      ∀ s, inv s → (next (serve q s).1).Confined serve inv allowed post

namespace Confined

theorem mono {first last : α → Prop} (implies : ∀ value, first value → last value)
    {p : Program I α} (confined : p.Confined serve inv allowed first) :
    p.Confined serve inv allowed last := by
  induction p with
  | done value => exact implies value confined
  | ask q next ih => exact ⟨confined.1, fun s here => ih _ (confined.2 s here)⟩

theorem bind {post : β → Prop} {p : Program I α} {f : α → Program I β}
    (first : p.Confined serve inv allowed fun value => (f value).Confined serve inv allowed post) :
    (p >>= f).Confined serve inv allowed post := by
  induction p with
  | done value => exact first
  | ask q next ih => exact ⟨first.1, fun s here => ih _ (first.2 s here)⟩

/-- Wherever a confined program is cut off, an invariant holds that what it may ask and the outside
keep, and it is still confined. -/
theorem reaches {post : α → Prop} {rely : σ → σ → Prop} {p left : Program I α} {s t : σ}
    (confined : p.Confined serve inv allowed post) (reached : Reaches serve rely p s left t)
    (initially : inv s) (stable : ∀ {s t}, inv s → rely s t → inv t)
    (served : ∀ {q s}, inv s → allowed q → inv (serve q s).2) :
    inv t ∧ left.Confined serve inv allowed post := by
  induction reached with
  | start => exact ⟨initially, confined⟩
  | outside _ change ih => exact ⟨stable ih.1 change, ih.2⟩
  | request _ ih => exact ⟨served ih.1 ih.2.1, ih.2.2 _ ih.1⟩

/-- What a program ends with need not be kept. -/
theorem ended {post : α → Prop} {p : Program I α} (confined : p.Confined serve inv allowed post) :
    (p >>= fun _ => (done () : Program I Unit)).Confined serve inv allowed fun _ => True :=
  bind (confined.mono fun _ _ => trivial)

end Confined

end Program

namespace Azure

variable {α β : Type} {inv : World Backend → Prop} {allowed : Request → Prop}

/-- A program that may fail makes only certain requests, and if it succeeds its value meets a
postcondition. -/
def Asks {ε : Type} (inv : World Backend → Prop) (allowed : Request → Prop) (post : α → Prop)
    (act : ExceptT ε Asking α) : Prop :=
  act.run.Confined (World.serve Backend.service) inv allowed
    fun outcome => ∀ value, outcome = .ok value → post value

namespace Asks

variable {ε : Type} {post : α → Prop}

theorem pure {value : α} (met : post value) :
    Asks inv allowed post (pure value : ExceptT ε Asking α) := by
  rintro _ ⟨⟩
  exact met

theorem throw (fault : ε) : Asks inv allowed post (throw fault : ExceptT ε Asking α) := nofun

theorem bind {act : ExceptT ε Asking β} {next : β → ExceptT ε Asking α}
    (first : Asks inv allowed (fun value => Asks inv allowed post (next value)) act) :
    Asks inv allowed post (act >>= next) := by
  refine Program.Confined.bind (Program.Confined.mono ?_ first)
  rintro (fault | value) met
  · exact nofun
  · exact met value rfl

theorem mono {act : ExceptT ε Asking α} {better : α → Prop} (met : Asks inv allowed better act)
    (implies : ∀ value, better value → post value) : Asks inv allowed post act :=
  Program.Confined.mono (fun _ met value same => implies value (met value same)) met

/-- What is known already need not be asked. -/
theorem known {outcome : Except ε β} {next : β → ExceptT ε Asking α}
    (met : ∀ value, outcome = .ok value → Asks inv allowed post (next value)) :
    Asks inv allowed post (liftExcept outcome >>= next) := by
  cases outcome with
  | ok value => exact met value rfl
  | error fault => exact throw fault

theorem reporting {act : Action α} {report : AzureError → CloudError}
    (met : Asks inv allowed post act) : Asks inv allowed post (act.reporting report) := by
  refine Program.Confined.bind (Program.Confined.mono ?_ met)
  rintro (fault | value) met
  · exact nofun
  · rintro _ ⟨⟩
    exact met value rfl

theorem context {act : Action α} {attempt : String} (met : Asks inv allowed post act) :
    Asks inv allowed post (act.context attempt) := by
  refine Program.Confined.bind (Program.Confined.mono ?_ met)
  rintro (fault | value) met
  · exact nofun
  · exact met

/-- A call is answered by what the backend performs. -/
theorem call {c : Config} {what : Call} {post : what.Value → Prop}
    (own : allowed (.call c.credentials what))
    (answered : ∀ (w : World Backend) value next, inv w →
      w.backend.perform what = .ok (value, next) → post value) :
    Asks inv allowed post (Action.call c what) := by
  refine ⟨own, fun w holds value same => ?_⟩
  rcases serve_call c.credentials what w with ⟨_, ok, answers⟩ | ⟨_, failed, _⟩
  · cases ok.symm.trans same
    exact answered w value _ holds answers.performed
  · cases failed.symm.trans same

theorem connect {c : Config} (own : allowed (.connect c.credentials)) :
    Asks inv allowed (fun _ => True) (Action.connect c) :=
  ⟨own, fun _ _ _ _ => trivial⟩

/-- A program that only reads makes only calls that read. -/
theorem reading {act : Action α} (reads : Reading act.run)
    (own : ∀ credentials (what : Call), what.isWrite = false →
      allowed (.call credentials what)) : Asks inv allowed (fun _ => True) act := by
  unfold Asks
  generalize act.run = program at reads
  induction reads with
  | done outcome => exact fun _ _ => trivial
  | @call credentials what next read fails goesOn ih =>
      refine ⟨own credentials what read, fun w _ => ?_⟩
      rcases serve_call credentials what w with ⟨value, same, _⟩ | ⟨fault, same, _⟩
      · rw [same]
        exact ih value
      · obtain ⟨other, ended⟩ := fails fault
        rw [same, ended]
        exact nofun

end Asks

namespace Recorded

/-- A part of an operation makes only certain requests and keeps a certain copy of the record, and
if it succeeds its value meets a postcondition. -/
def Asks (inv : World Backend → Prop) (allowed : Request → Prop) (copies : Machine → Prop)
    (post : α → Prop) (part : Recorded Asking α) (m : Machine) : Prop :=
  (part.run.run m).Confined (World.serve Backend.service) inv allowed
    fun result => copies result.2 ∧ ∀ value, result.1 = .ok value → post value

namespace Asks

variable {copies : Machine → Prop} {post : α → Prop} {m : Machine}

theorem pure {value : α} (kept : copies m) (met : post value) :
    Recorded.Asks inv allowed copies post (pure value) m := by
  refine ⟨kept, ?_⟩
  rintro _ ⟨⟩
  exact met

theorem bind {part : Recorded Asking β} {next : β → Recorded Asking α}
    (first : Recorded.Asks inv allowed copies (fun value => ∀ n, copies n →
      Recorded.Asks inv allowed copies post (next value) n) part m) :
    Recorded.Asks inv allowed copies post (part >>= next) m := by
  refine Program.Confined.bind (Program.Confined.mono ?_ first)
  rintro ⟨fault | value, n⟩ ⟨kept, met⟩
  · exact ⟨kept, nofun⟩
  · exact met value rfl n kept

theorem mono {part : Recorded Asking α} {better : α → Prop}
    (met : Recorded.Asks inv allowed copies better part m)
    (implies : ∀ value, better value → post value) :
    Recorded.Asks inv allowed copies post part m :=
  Program.Confined.mono
    (fun _ met => ⟨met.1, fun value same => implies value (met.2 value same)⟩) met

/-- The copy of the record is what it is. -/
theorem copy {next : Machine → Recorded Asking α}
    (met : Recorded.Asks inv allowed copies post (next m) m) :
    Recorded.Asks inv allowed copies post (getThe Machine >>= next) m := met

theorem settle {outcome : Except CloudError β} {next : β → Recorded Asking α} (kept : copies m)
    (met : ∀ value, outcome = .ok value →
      Recorded.Asks inv allowed copies post (next value) m) :
    Recorded.Asks inv allowed copies post (settle outcome >>= next) m := by
  cases outcome with
  | ok value => exact met value rfl
  | error fault => exact ⟨kept, nofun⟩

theorem recorded {act : Action α} {report : AzureError → CloudError} (kept : copies m)
    (met : Azure.Asks inv allowed post act) :
    Recorded.Asks inv allowed copies post (act.recorded report) m := by
  refine Program.Confined.bind (Program.Confined.mono ?_ met)
  rintro (fault | value) met
  · exact ⟨kept, nofun⟩
  · refine ⟨kept, ?_⟩
    rintro _ ⟨⟩
    exact met value rfl

/-- What asks without touching the copy. -/
theorem lift {asking : Asking α} (kept : copies m)
    (met : asking.Confined (World.serve Backend.service) inv allowed post) :
    Recorded.Asks inv allowed copies post (liftM asking) m := by
  have first : (asking >>= fun value => .done (value, m)).Confined (World.serve Backend.service)
      inv allowed (fun result : α × Machine => copies result.2 ∧ post result.1) :=
    Program.Confined.bind (Program.Confined.mono (fun _ met => ⟨kept, met⟩) met)
  refine Program.Confined.bind
    (f := fun result : α × Machine => Program.done (Except.ok result.1, result.2))
    (Program.Confined.mono ?_ first)
  rintro result ⟨kept, met⟩
  refine ⟨kept, ?_⟩
  rintro _ ⟨⟩
  exact met

/-- A commit gives the committed record. -/
theorem update {edit : FinalizerEdit} (kept : copies m) (own : allowed (.commit m.name edit))
    (committed : ∀ (w : World Backend) stored, inv w → w.store.get? m.name = some stored →
      copies (edit.apply stored)) :
    Recorded.Asks inv allowed copies (fun _ => True) (Ledger.update commit edit) m := by
  refine ⟨own, fun w holds => ?_⟩
  have served : (World.serve Backend.service (.commit m.name edit) w).1 =
      (w.store.commit m.name edit).1 := rfl
  rw [served, Store.commit]
  split
  · exact ⟨kept, nofun⟩
  · cases found : w.store.get? m.name with
    | none => exact ⟨kept, nofun⟩
    | some stored => exact ⟨committed w stored holds found, fun _ _ => trivial⟩

theorem own {owned : List Owned} (kept : copies m)
    (update : Recorded.Asks inv allowed copies (fun _ => True)
      (Ledger.update commit (.add (owned.map Owned.finalizer))) m) :
    Recorded.Asks inv allowed copies (fun _ => True) (own owned) m := by
  refine .copy ?_
  split
  · exact .pure kept trivial
  · exact update

theorem disown {owned : Owned} (kept : copies m)
    (update : Recorded.Asks inv allowed copies (fun _ => True)
      (Ledger.update commit (.remove owned.finalizer)) m) :
    Recorded.Asks inv allowed copies (fun _ => True) (disown owned) m := by
  refine .copy ?_
  split
  · exact update
  · exact .pure kept trivial

end Asks

end Recorded

end Azure

end Provisioning
