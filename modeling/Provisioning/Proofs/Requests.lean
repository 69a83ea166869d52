import Provisioning.Azure.World
import Provisioning.Proofs.Finalizers
import Provisioning.Proofs.Interference
import Provisioning.Proofs.Outcomes

/-!
What each request of the provider does to a world with the backend in memory, while faults are
placed and changes of records are rejected from outside. `Action.Meets` and `Recorded.Meets` say
of a part of an operation that it is safe, with one postcondition for its result and one for its
failure; there is one rule for each request and for each way to put parts together.
-/

namespace Provisioning.Azure

open Relation
open Program (Reaches)

/-- The backend without what was asked of it and which calls will fail. -/
def Backend.bare (b : Backend) : Backend :=
  { b with log := [], faults := ∅, sizeLists := 0, clients := [] }

/-- What a call does is decided by the bare backend. -/
theorem Backend.perform_bare (b : Backend) (what : Call) :
    b.bare.perform what = b.perform what := by
  cases what <;> rfl

namespace World

/-- No call is going to fail by a placed fault, and no change of a record is going to be
rejected. -/
def Calm (w : World Backend) : Prop := w.backend.faults = ∅ ∧ w.store.rejections = 0

/-- The same world with no fault placed and no rejection ordered. -/
def calm (w : World Backend) : World Backend :=
  { w with
    backend := { w.backend with faults := ∅ }
    store := w.store.rejectNext 0 }

theorem calm_calm (w : World Backend) : w.calm.Calm := ⟨rfl, rfl⟩

end World

/-- Only possible errors are placed as faults. -/
def FaultsAre (possible : AzureError → Prop) (w : World Backend) : Prop :=
  ∀ operation fault, w.backend.faults.get? operation = some fault → possible fault

/-- A fault is placed for the next call of an operation, or the next changes of records are going
to be rejected. -/
inductive Faulted (possible : AzureError → Prop) : World Backend → World Backend → Prop where
  | call (w operation fault) : possible fault →
      Faulted possible w { w with backend := w.backend.failNext operation fault }
  | update (w count) : Faulted possible w { w with store := w.store.rejectNext count }

theorem Faulted.mono {fewer possible : AzureError → Prop} {w v : World Backend}
    (change : Faulted fewer w v) (implies : ∀ fault, fewer fault → possible fault) :
    Faulted possible w v := by
  cases change with
  | call operation fault allowed => exact .call _ operation fault (implies fault allowed)
  | update count => exact .update _ count

theorem FaultsAre.faulted {possible : AzureError → Prop} {w v : World Backend}
    (faults : FaultsAre possible w) (change : Faulted possible w v) : FaultsAre possible v := by
  cases change with
  | update => exact faults
  | call place fault allowed =>
      intro operation other found
      change (w.backend.faults.insert place fault).get? operation = some other at found
      rw [SortedMap.get?_insert] at found
      split at found
      · cases found
        exact allowed
      · exact faults operation other found

/-- A call is answered with a value. -/
structure Answers (w : World Backend) (what : Call) (value : what.Value) (v : World Backend) :
    Prop where
  performed : w.backend.perform what = .ok (value, v.backend.resources)
  rest : v.backend.bare = { w.backend.bare with resources := v.backend.resources }
  store : v.store = w.store
  entropy : v.entropy = w.entropy
  faults : v.backend.faults = w.backend.faults

/-- A call fails, by a placed fault or because of what the backend has. -/
structure Refuses (w : World Backend) (what : Call) (fault : AzureError) (v : World Backend) :
    Prop where
  reason : w.backend.faults.get? what.operation = some fault ∨
    w.backend.perform what = .error fault
  bare : v.backend.bare = w.backend.bare
  store : v.store = w.store
  entropy : v.entropy = w.entropy
  faults : ∀ operation other, v.backend.faults.get? operation = some other →
    w.backend.faults.get? operation = some other

theorem Refuses.resources {w v : World Backend} {what : Call} {fault : AzureError}
    (refuses : Refuses w what fault v) : v.backend.resources = w.backend.resources := by
  change v.backend.bare.resources = w.backend.bare.resources
  rw [refuses.bare]

/-- In a calm world a call fails only because of what the backend has. -/
theorem Refuses.of_calm {w v : World Backend} {what : Call} {fault : AzureError}
    (refuses : Refuses w what fault v) (calm : w.Calm) :
    w.backend.perform what = .error fault := by
  rcases refuses.reason with placed | performed
  · rw [calm.1] at placed
    cases placed
  · exact performed

theorem Refuses.calm {w v : World Backend} {what : Call} {fault : AzureError}
    (refuses : Refuses w what fault v) (calm : w.Calm) : v.Calm := by
  refine ⟨SortedMap.ext_get? fun operation => ?_, by rw [refuses.store, calm.2]⟩
  cases found : v.backend.faults.get? operation with
  | none => rfl
  | some other =>
      have earlier := refuses.faults operation other found
      rw [calm.1] at earlier
      cases earlier

theorem Answers.calm {w v : World Backend} {what : Call} {value : what.Value}
    (answers : Answers w what value v) (calm : w.Calm) : v.Calm :=
  ⟨answers.faults.trans calm.1, by rw [answers.store, calm.2]⟩

/-- Every call is answered or refused. -/
theorem serve_call (credentials : Credentials) (what : Call) (w : World Backend) :
    (∃ value, (World.serve Backend.service (.call credentials what) w).1 = .ok value ∧
      Answers w what value (World.serve Backend.service (.call credentials what) w).2) ∨
    (∃ fault, (World.serve Backend.service (.call credentials what) w).1 = .error fault ∧
      Refuses w what fault (World.serve Backend.service (.call credentials what) w).2) := by
  change (∃ value, (w.backend.serve what).1 = .ok value ∧
      Answers w what value { w with backend := (w.backend.serve what).2 }) ∨
    (∃ fault, (w.backend.serve what).1 = .error fault ∧
      Refuses w what fault { w with backend := (w.backend.serve what).2 })
  unfold Backend.serve
  cases placed : w.backend.faults.get? what.operation with
  | some fault =>
      refine .inr ⟨fault, rfl, .inl placed, rfl, rfl, rfl, ?_⟩
      intro operation other found
      change (w.backend.faults.erase what.operation).get? operation = some other at found
      rw [SortedMap.get?_erase] at found
      split at found
      · cases found
      · exact found
  | none =>
      cases outcome : w.backend.perform what with
      | error fault => exact .inr ⟨fault, rfl, .inr outcome, rfl, rfl, rfl, fun _ _ found => found⟩
      | ok answer => exact .inl ⟨answer.1, rfl, outcome, rfl, rfl, rfl, rfl⟩

namespace FaultsAre

variable {possible : AzureError → Prop} {w v : World Backend}

/-- A request places no fault. -/
theorem serve (faults : FaultsAre possible w) (q : Request) :
    FaultsAre possible (World.serve Backend.service q w).2 := by
  cases q with
  | call credentials what =>
      rcases serve_call credentials what w with ⟨value, _, answers⟩ | ⟨fault, _, refuses⟩
      · exact fun operation other found => faults operation other (answers.faults ▸ found)
      · exact fun operation other found => faults operation other (refuses.faults _ _ found)
  | connect | commit | recallSize | rememberSize | throwawayBytes => exact faults

/-- Wherever a program is cut off, only possible errors are placed as faults. -/
theorem reaches {α : Type} {p left : Asking α} (faults : FaultsAre possible w)
    (reached : Reaches (World.serve Backend.service) (Faulted possible) p w left v) :
    FaultsAre possible v := by
  induction reached with
  | start => exact faults
  | outside _ change ih => exact ih.faulted change
  | request _ ih => exact ih.serve _

end FaultsAre

/-- Every call is logged. -/
theorem log_serve_call (credentials : Credentials) (what : Call) (w : World Backend) :
    (World.serve Backend.service (.call credentials what) w).2.backend.log =
      w.backend.log ++ [what] := by
  change (w.backend.serve what).2.log = w.backend.log ++ [what]
  unfold Backend.serve
  cases w.backend.faults.get? what.operation with
  | some fault => rfl
  | none => cases w.backend.perform what <;> rfl

variable {α β : Type} {rely guarantee : World Backend → World Backend → Prop}

/-- A program that may fail is safe, and its end meets a postcondition for values or one for
faults. -/
def Ends {ε : Type} (rely guarantee : World Backend → World Backend → Prop)
    (ok : α → World Backend → Prop) (fails : ε → World Backend → Prop)
    (act : ExceptT ε Asking α) (w : World Backend) : Prop :=
  act.run.Safe (World.serve Backend.service) rely guarantee
    (fun outcome t => match outcome with
      | .ok value => ok value t
      | .error fault => fails fault t) w

namespace Ends

variable {ε : Type} {ok : α → World Backend → Prop} {fails : ε → World Backend → Prop}
  {w : World Backend}

theorem pure {value : α} (met : ok value w) : Ends rely guarantee ok fails (pure value) w := met

theorem throw {fault : ε} (met : fails fault w) : Ends rely guarantee ok fails (throw fault) w :=
  met

/-- What has succeeded already need not be asked. -/
theorem known {value : β} {next : β → ExceptT ε Asking α}
    (met : Ends rely guarantee ok fails (next value) w) :
    Ends rely guarantee ok fails (liftExcept (.ok value : Except ε β) >>= next) w := met

theorem bind {act : ExceptT ε Asking β} {next : β → ExceptT ε Asking α}
    (first : Ends rely guarantee (fun value t => Ends rely guarantee ok fails (next value) t) fails
      act w) : Ends rely guarantee ok fails (act >>= next) w := by
  refine Program.Safe.bind (Program.Safe.mono ?_ first)
  rintro (fault | value) t met
  · exact met
  · exact met

theorem mono {act : ExceptT ε Asking α} {better : α → World Backend → Prop}
    {worse : ε → World Backend → Prop} (met : Ends rely guarantee better worse act w)
    (oks : ∀ value t, better value t → ok value t)
    (failures : ∀ fault t, worse fault t → fails fault t) : Ends rely guarantee ok fails act w := by
  refine Program.Safe.mono ?_ met
  rintro (fault | value) t met
  · exact failures _ _ met
  · exact oks _ _ met

/-- Undisturbed, it ends with a value or a fault as promised. -/
theorem run {act : ExceptT ε Asking α} (met : Ends rely guarantee ok fails act w) :
    (∃ value v, World.run Backend.service act.run w = (.ok value, v) ∧ ok value v) ∨
    (∃ fault v, World.run Backend.service act.run w = (.error fault, v) ∧ fails fault v) := by
  have ended := Program.Safe.run met
  unfold World.run
  generalize act.run.run (World.serve Backend.service) w = result at ended
  obtain ⟨fault | value, v⟩ := result
  · exact .inr ⟨fault, v, rfl, ended⟩
  · exact .inl ⟨value, v, rfl, ended⟩

/-- What has succeeded has ended as promised, up to what the outside did last. -/
theorem of_reaches_ok {act : ExceptT ε Asking α} {value : α} {v : World Backend}
    (met : Ends rely guarantee ok fails act w)
    (reached : Reaches (World.serve Backend.service) rely act.run w (.done (.ok value)) v) :
    ∃ u, ReflTransGen rely u v ∧ ok value u := reached.safe met

/-- What has failed has ended as promised, up to what the outside did last. -/
theorem of_reaches_error {act : ExceptT ε Asking α} {fault : ε} {v : World Backend}
    (met : Ends rely guarantee ok fails act w)
    (reached : Reaches (World.serve Backend.service) rely act.run w (.done (.error fault)) v) :
    ∃ u, ReflTransGen rely u v ∧ fails fault u := reached.safe met

end Ends

namespace Asking

variable {ε : Type} {w v u : World Backend}

/-- What is in two parts has failed in the first one, or has ended in the second. -/
theorem reaches_of_bind {act : ExceptT ε Asking α} {next : α → ExceptT ε Asking β}
    {outcome : Except ε β}
    (reached : Reaches (World.serve Backend.service) rely (act >>= next).run w (.done outcome) v) :
    (∃ fault, outcome = .error fault ∧
      Reaches (World.serve Backend.service) rely act.run w (.done (.error fault)) v) ∨
    (∃ value t, Reaches (World.serve Backend.service) rely act.run w (.done (.ok value)) t ∧
      Reaches (World.serve Backend.service) rely (next value).run t (.done outcome) v) := by
  obtain ⟨own, t, first, later⟩ := Reaches.of_bind_done reached
  cases own with
  | ok value => exact .inr ⟨value, t, first, later⟩
  | error fault =>
      cases later.eq_of_done
      exact .inl ⟨fault, rfl, first.outsides later.changes_of_done⟩

/-- What succeeds is followed by what comes next. -/
theorem reaches_bind {act : ExceptT ε Asking α} {next : α → ExceptT ε Asking β} {value : α}
    {left : Asking (Except ε β)}
    (first : Reaches (World.serve Backend.service) rely act.run w (.done (.ok value)) v)
    (later : Reaches (World.serve Backend.service) rely (next value).run v left u) :
    Reaches (World.serve Backend.service) rely (act >>= next).run w left u :=
  (first.bind (ExceptT.bindCont next)).trans later

/-- An action that is reported has ended itself. -/
theorem reaches_of_reporting {act : Action α} {report : AzureError → CloudError}
    {outcome : Except CloudError α}
    (reached : Reaches (World.serve Backend.service) rely (act.reporting report).run w
      (.done outcome) v) :
    ∃ own, outcome = own.mapError report ∧
      Reaches (World.serve Backend.service) rely act.run w (.done own) v := by
  obtain ⟨own, t, first, later⟩ := Reaches.of_bind_done reached
  refine ⟨own, ?_, first.outsides later.changes_of_done⟩
  cases later.eq_of_done
  rfl

end Asking

/-- An action is safe, and its end meets a postcondition for values or one for faults. -/
abbrev Action.Meets (rely guarantee : World Backend → World Backend → Prop)
    (ok : α → World Backend → Prop) (fails : AzureError → World Backend → Prop)
    (act : Action α) (w : World Backend) : Prop := Ends rely guarantee ok fails act w

namespace Ends

variable {ok : α → World Backend → Prop} {fails : AzureError → World Backend → Prop}
  {w : World Backend}

theorem reporting {act : Action α} {report : AzureError → CloudError}
    {fails : CloudError → World Backend → Prop}
    (met : act.Meets rely guarantee ok (fun fault t => fails (report fault) t) w) :
    Ends rely guarantee ok fails (act.reporting report) w := by
  refine Program.Safe.bind (Program.Safe.mono ?_ met)
  rintro (fault | value) t met
  · exact met
  · exact met

theorem context {act : Action α} {attempt : String}
    (met : act.Meets rely guarantee ok (fun fault t => fails (fault.context attempt) t) w) :
    (act.context attempt).Meets rely guarantee ok fails w := by
  refine Program.Safe.bind (Program.Safe.mono ?_ met)
  rintro (fault | value) t met
  · exact met
  · exact met

/-- A call is answered or refused, and it is logged either way. -/
theorem callLogged {c : Config} {what : Call} {ok : what.Value → World Backend → Prop}
    (answered : ∀ t value u, ReflTransGen rely w t → Answers t what value u →
      u.backend.log = t.backend.log ++ [what] → guarantee t u ∧ ok value u)
    (refused : ∀ t fault u, ReflTransGen rely w t → Refuses t what fault u →
      u.backend.log = t.backend.log ++ [what] → guarantee t u ∧ fails fault u) :
    (Action.call c what).Meets rely guarantee ok fails w := by
  intro t outside
  have logged := log_serve_call c.credentials what t
  rcases serve_call c.credentials what t with ⟨value, same, answers⟩ | ⟨fault, same, refuses⟩
  · obtain ⟨kept, met⟩ := answered t value _ outside answers logged
    refine ⟨kept, ?_⟩
    rw [same]
    exact met
  · obtain ⟨kept, met⟩ := refused t fault _ outside refuses logged
    refine ⟨kept, ?_⟩
    rw [same]
    exact met

theorem call {c : Config} {what : Call} {ok : what.Value → World Backend → Prop}
    (answered : ∀ t value u, ReflTransGen rely w t → Answers t what value u →
      guarantee t u ∧ ok value u)
    (refused : ∀ t fault u, ReflTransGen rely w t → Refuses t what fault u →
      guarantee t u ∧ fails fault u) :
    (Action.call c what).Meets rely guarantee ok fails w :=
  callLogged (fun t value u outside answers _ => answered t value u outside answers)
    fun t fault u outside refuses _ => refused t fault u outside refuses

theorem connect {c : Config} {ok : Unit → World Backend → Prop}
    (connected : ∀ t u, ReflTransGen rely w t → u.backend.bare = t.backend.bare →
      u.store = t.store → u.backend.faults = t.backend.faults → u.entropy = t.entropy →
      guarantee t u ∧ ok () u) :
    (Action.connect c).Meets rely guarantee ok fails w := by
  intro t outside
  exact connected t _ outside rfl rfl rfl rfl

end Ends

namespace Recorded

/-- A part of an operation is safe, and its end meets a postcondition for values or one for faults;
both see the copy of the record that is then held. -/
def Meets (rely guarantee : World Backend → World Backend → Prop)
    (ok : α → Machine → World Backend → Prop) (fails : CloudError → Machine → World Backend → Prop)
    (part : Recorded Asking α) (m : Machine) (w : World Backend) : Prop :=
  (part.run.run m).Safe (World.serve Backend.service) rely guarantee
    (fun result t => match result.1 with
      | .ok value => ok value result.2 t
      | .error fault => fails fault result.2 t) w

variable {ok : α → Machine → World Backend → Prop}
  {fails : CloudError → Machine → World Backend → Prop} {m : Machine} {w : World Backend}

theorem Meets.pure {value : α} (met : ok value m w) :
    Meets rely guarantee ok fails (pure value : Recorded Asking α) m w := met

theorem Meets.bind {part : Recorded Asking β} {next : β → Recorded Asking α}
    (first : Meets rely guarantee
      (fun value n t => Meets rely guarantee ok fails (next value) n t) fails part m w) :
    Meets rely guarantee ok fails (part >>= next) m w := by
  refine Program.Safe.bind (Program.Safe.mono ?_ first)
  rintro ⟨fault | value, n⟩ t met
  · exact met
  · exact met

theorem Meets.mono {part : Recorded Asking α} {better : α → Machine → World Backend → Prop}
    {worse : CloudError → Machine → World Backend → Prop}
    (met : Meets rely guarantee better worse part m w)
    (oks : ∀ value n t, better value n t → ok value n t)
    (failures : ∀ fault n t, worse fault n t → fails fault n t) :
    Meets rely guarantee ok fails part m w := by
  refine Program.Safe.mono ?_ met
  rintro ⟨fault | value, n⟩ t met
  · exact failures _ _ _ met
  · exact oks _ _ _ met

/-- Undisturbed, a safe part ends with a value or a fault as promised. -/
theorem Meets.run {part : Recorded Asking α} (met : Meets rely guarantee ok fails part m w) :
    (∃ value n v, World.run Backend.service (part.run.run m) w = ((.ok value, n), v) ∧
      ok value n v) ∨
    (∃ fault n v, World.run Backend.service (part.run.run m) w = ((.error fault, n), v) ∧
      fails fault n v) := by
  have ended := Program.Safe.run met
  unfold World.run
  generalize (part.run.run m).run (World.serve Backend.service) w = result at ended
  obtain ⟨⟨fault | value, n⟩, v⟩ := result
  · exact .inr ⟨fault, n, v, rfl, ended⟩
  · exact .inl ⟨value, n, v, rfl, ended⟩

/-- The copy of the record is what it is. -/
theorem Meets.copy {next : Machine → Recorded Asking α}
    (met : Meets rely guarantee ok fails (next m) m w) :
    Meets rely guarantee ok fails (getThe Machine >>= next) m w := met

theorem Meets.settle {outcome : Except CloudError α} {next : α → Recorded Asking β}
    {ok : β → Machine → World Backend → Prop}
    (settled : ∀ value, outcome = .ok value → Meets rely guarantee ok fails (next value) m w)
    (failed : ∀ fault, outcome = .error fault → fails fault m w) :
    Meets rely guarantee ok fails (settle outcome >>= next) m w := by
  cases outcome with
  | ok value => exact settled value rfl
  | error fault => exact failed fault rfl

theorem Meets.recorded {act : Action α} {report : AzureError → CloudError}
    (met : act.Meets rely guarantee (fun value t => ok value m t)
      (fun fault t => fails (report fault) m t) w) :
    Meets rely guarantee ok fails (act.recorded report) m w := by
  refine Program.Safe.bind (Program.Safe.mono ?_ met)
  rintro (fault | value) t met
  · exact met
  · exact met

/-- What asks without touching the copy. -/
theorem Meets.lift {asking : Asking α}
    (met : asking.Safe (World.serve Backend.service) rely guarantee
      (fun value t => ok value m t) w) :
    Meets rely guarantee ok fails (liftM asking) m w := by
  have first : (asking >>= fun value => .done (value, m)).Safe (World.serve Backend.service) rely
      guarantee (fun (result : α × Machine) t => ok result.1 result.2 t) w :=
    Program.Safe.bind met
  exact Program.Safe.bind
    (f := fun result : α × Machine => Program.done (Except.ok result.1, result.2)) first

/-- A change of a stored record is committed, and the copy follows, or it is rejected. -/
theorem Meets.update {edit : FinalizerEdit} {ok : Unit → Machine → World Backend → Prop}
    (stored : ∀ t, ReflTransGen rely w t → t.store.get? m.name = some m)
    (committed : ∀ t, ReflTransGen rely w t →
      guarantee t { t with store := t.store.committed m edit } ∧
        ok () (edit.apply m) { t with store := t.store.committed m edit })
    (rejected : ∀ t fault, ReflTransGen rely w t → 0 < t.store.rejections →
      guarantee t { t with store := t.store.rejectNext (t.store.rejections - 1) } ∧
        fails fault m { t with store := t.store.rejectNext (t.store.rejections - 1) }) :
    Meets rely guarantee ok fails (Ledger.update commit edit) m w := by
  intro t outside
  change guarantee t { t with store := (t.store.commit m.name edit).2 } ∧ _
  have served : World.serve Backend.service (.commit m.name edit) t =
      ((t.store.commit m.name edit).1, { t with store := (t.store.commit m.name edit).2 }) := rfl
  rcases Store.commit_cases (stored t outside) edit with
    ⟨rejecting, fault, outcome⟩ | ⟨_, outcome⟩
  · rw [served, outcome]
    exact rejected t fault outside rejecting
  · rw [served, outcome]
    exact committed t outside

end Recorded

end Provisioning.Azure
