import Provisioning.Proofs.Plan
import Provisioning.Proofs.Reading
import Provisioning.Proofs.Session

/-!
A creation carries out its plan, step by step, and then reads back what it made. Main statement:
`create_resumes`, that a creation that was begun any number of times, and failed or was cut off
anywhere, ends as if it had been made once.
-/

namespace Provisioning.Azure

open Relation
open Program (Reaches)

/-- Faults of any kind come in between, unless the world is calm. -/
def Hindered (calm : Prop) (w v : World Backend) : Prop := ¬calm ∧ Faulted (fun _ => True) w v

/-- Faults of any kind hinder what need not be calm. -/
theorem Hindered.of_faulted {w v : World Backend} (change : Faulted (fun _ => True) w v) :
    Hindered False w v := ⟨not_false, change⟩

/-- What a world holds for a machine whose record is one among others. -/
structure Holds (calm : Prop) (base : SortedMap String Machine) (h : Holdings)
    (w : World Backend) : Prop where
  backend : w.backend.bare = h.backend
  records : w.store.records = base.insert h.record.name h.record
  history : w.store.history = h.history
  entropy : w.entropy = h.entropy
  calm : calm → w.Calm

variable {calm : Prop} {base : SortedMap String Machine} {h start : Holdings}
  {plan rest : List Step} {n : Machine} {w v : World Backend}

namespace Holds

theorem stored (holds : Holds calm base h w) : w.store.get? h.record.name = some h.record := by
  rw [Store.get?, holds.records, SortedMap.get?_insert, if_pos rfl]

theorem resources (holds : Holds calm base h w) :
    w.backend.resources = h.backend.resources := by
  rw [← holds.backend]
  rfl

/-- What a world holds it holds without the faults, too. -/
theorem calmed (holds : Holds calm base h w) : Holds True base h w.calm :=
  ⟨holds.backend, holds.records, holds.history, holds.entropy, fun _ => w.calm_calm⟩

theorem hindered (holds : Holds calm base h w) (change : Hindered calm w v) :
    Holds calm base h v := by
  obtain ⟨restless, faulted⟩ := change
  cases faulted <;>
    exact ⟨holds.backend, holds.records, holds.history, holds.entropy,
      fun quiet => absurd quiet restless⟩

theorem outside (holds : Holds calm base h w) (changes : ReflTransGen (Hindered calm) w v) :
    Holds calm base h v := by
  induction changes with
  | refl => exact holds
  | tail _ change ih => exact ih.hindered change

theorem perform (holds : Holds calm base h w) (what : Call) :
    w.backend.perform what = h.backend.perform what := by
  rw [← holds.backend, Backend.perform_bare]

theorem answered (holds : Holds calm base h w) {what : Call} {value : what.Value}
    (answers : Answers w what value v) : Holds calm base (h.storing v.backend.resources) v where
  backend := by rw [answers.rest, holds.backend, Holdings.storing]
  records := (congrArg Store.records answers.store).trans holds.records
  history := (congrArg Store.history answers.store).trans holds.history
  entropy := answers.entropy.trans holds.entropy
  calm quiet := answers.calm (holds.calm quiet)

theorem refused (holds : Holds calm base h w) {what : Call} {fault : AzureError}
    (refuses : Refuses w what fault v) : Holds calm base h v where
  backend := by rw [refuses.bare, holds.backend]
  records := by rw [refuses.store, holds.records]
  history := by rw [refuses.store, holds.history]
  entropy := refuses.entropy.trans holds.entropy
  calm quiet := refuses.calm (holds.calm quiet)

/-- A call is answered with what the backend gives, and refused in a calm world only if the backend
refuses it. -/
theorem call {c : Config} {what : Call} {guarantee : World Backend → World Backend → Prop}
    {ok : what.Value → World Backend → Prop} {fails : AzureError → World Backend → Prop}
    (holds : Holds calm base h w)
    (answered : ∀ t value resources u, h.backend.perform what = .ok (value, resources) →
      Holds calm base (h.storing resources) u → guarantee t u ∧ ok value u)
    (refused : ∀ t fault u, (calm → h.backend.perform what = .error fault) →
      Holds calm base h u → guarantee t u ∧ fails fault u) :
    (Action.call c what).Meets (Hindered calm) guarantee ok fails w := by
  refine .call ?_ ?_
  · intro t value u changes answers
    have before := holds.outside changes
    have performed := answers.performed
    rw [before.perform] at performed
    exact answered t value _ u performed (before.answered answers)
  · intro t fault u changes refuses
    have before := holds.outside changes
    refine refused t fault u (fun quiet => ?_) (before.refused refuses)
    have performed := refuses.of_calm (before.calm quiet)
    rwa [before.perform] at performed

/-- A client changes nothing of what is held. -/
theorem connect {c : Config} {guarantee : World Backend → World Backend → Prop}
    {ok : Unit → World Backend → Prop} {fails : AzureError → World Backend → Prop}
    (holds : Holds calm base h w)
    (connected : ∀ t u, Holds calm base h u → guarantee t u ∧ ok () u) :
    (Action.connect c).Meets (Hindered calm) guarantee ok fails w := by
  refine .connect ?_
  intro t u changes bare store faults entropy
  have before := holds.outside changes
  refine connected t u ⟨bare.trans before.backend, store ▸ before.records, store ▸ before.history,
    entropy.trans before.entropy, fun quiet => ?_⟩
  exact ⟨faults.trans (before.calm quiet).1, store ▸ (before.calm quiet).2⟩

/-- The store after finalizers were committed. -/
theorem committed (holds : Holds calm base h w) (owned : List Owned) :
    Holds calm base (h.owning owned)
      { w with store := w.store.committed h.record (.add (owned.map Owned.finalizer)) } where
  backend := holds.backend
  records := by
    simp only [Store.committed, Holdings.owning, FinalizerEdit.apply_name, holds.records,
      SortedMap.insert_insert]
  history := by simp only [Store.committed, Holdings.owning, holds.history]
  entropy := holds.entropy
  calm quiet := holds.calm quiet

/-- A program that only reads ends with what the backend shows it. -/
theorem reading {α : Type} {act : Action α} {guarantee : World Backend → World Backend → Prop}
    (reads : Reading act.run) (holds : Holds calm base h w)
    (allowed : ∀ t u, Holds calm base h u → guarantee t u) :
    act.Meets (Hindered calm) guarantee
      (fun value u => Holds calm base h u ∧ h.backend.glimpse act.run = .ok value)
      (fun fault _ => calm → h.backend.glimpse act.run = .error fault) w := by
  unfold Action.Meets Ends
  generalize act.run = program at reads
  induction reads generalizing w with
  | done outcome =>
      cases outcome with
      | error fault => exact fun _ => rfl
      | ok value => exact ⟨holds, rfl⟩
  | @call credentials what next read fails goesOn ih =>
      intro t changes
      have before := holds.outside changes
      rcases serve_call credentials what t with ⟨value, same, answers⟩ | ⟨fault, same, refuses⟩
      · have after : Holds calm base h
            (World.serve Backend.service (.call credentials what) t).2 := by
          have resources := Backend.perform_of_read read answers.performed
          have same := before.answered answers
          rw [resources] at same
          change Holds calm base (h.storing t.backend.bare.resources) _ at same
          rwa [before.backend] at same
        have performed := answers.performed
        rw [before.perform] at performed
        refine ⟨allowed _ _ after, ?_⟩
        rw [same, Backend.glimpse_call, performed]
        exact ih value after
      · obtain ⟨other, ended⟩ := fails fault
        refine ⟨allowed _ _ (before.refused refuses), ?_⟩
        rw [same, ended]
        intro quiet
        have performed := refuses.of_calm (before.calm quiet)
        rw [before.perform] at performed
        rw [Backend.glimpse_call, performed]
        exact congrArg h.backend.glimpse ended

end Holds

/-- A world in the middle of a plan: some steps were carried out, and the rest is ahead. -/
def Ahead (calm : Prop) (base : SortedMap String Machine) (plan : List Step) (start : Holdings)
    (rest : List Step) (n : Machine) (w : World Backend) : Prop :=
  ∃ begun h, plan = begun ++ rest ∧ carryOut begun start = some h ∧ h.record = n ∧
    Holds calm base h w

/-- Every request leaves the world somewhere in the plan. -/
def Midway (base : SortedMap String Machine) (plan : List Step) (start : Holdings)
    (_ w : World Backend) : Prop :=
  ∃ rest n, Ahead False base plan start rest n w

namespace Ahead

theorem midway (ahead : Ahead calm base plan start rest n w) : Midway base plan start v w := by
  obtain ⟨begun, h, same, carried, record, holds⟩ := ahead
  exact ⟨rest, n, begun, h, same, carried, record,
    ⟨holds.backend, holds.records, holds.history, holds.entropy, False.elim⟩⟩

/-- A put takes the world one step further, and in a calm world fails only if the plan does. -/
theorem put {c : Config} {what : Call}
    (ahead : Ahead calm base plan start (.put what :: rest) n w) :
    (Action.call c what).Meets (Hindered calm) (Midway base plan start)
      (fun value u => Ahead calm base plan start rest n u ∧
        ∃ (b : Backend) (next : Resources), b.perform what = .ok (value, next))
      (fun _ _ => calm → carryOut plan start = none) w := by
  obtain ⟨begun, h, rfl, carried, rfl, holds⟩ := ahead
  refine holds.call ?_ ?_
  · intro t value resources u performed holds
    have after : Ahead calm base (begun ++ .put what :: rest) start rest h.record u := by
      refine ⟨begun ++ [.put what], h.storing resources, by simp, ?_, rfl, holds⟩
      rw [carryOut_append, carried]
      simp only [Option.bind_some, carryOut, Step.apply, performed]
    exact ⟨after.midway, after, _, _, performed⟩
  · intro t fault u performed holds
    have after : Ahead calm base (begun ++ .put what :: rest) start (.put what :: rest) h.record
        u := ⟨begun, h, rfl, carried, rfl, holds⟩
    refine ⟨after.midway, fun quiet => ?_⟩
    rw [carryOut_append, carried]
    simp only [Option.bind_some, carryOut, Step.apply, performed quiet, Option.bind_none]

/-- Committed finalizers take the world one step further. -/
theorem own {owned : List Owned} (ahead : Ahead calm base plan start (.own owned :: rest) n w) :
    Recorded.Meets (Hindered calm) (Midway base plan start)
      (fun _ p u => Ahead calm base plan start rest p u)
      (fun _ _ _ => calm → carryOut plan start = none) (Azure.own owned) n w := by
  obtain ⟨begun, h, rfl, carried, rfl, holds⟩ := ahead
  have stepped : carryOut (begun ++ [.own owned]) start = some (h.owning owned) := by
    rw [carryOut_append, carried]
    rfl
  refine .copy ?_
  split
  · rename_i present
    have same : h.owning owned = h := Holdings.owning_of_all fun kind member =>
      List.all_eq_true.1 present _ (List.mem_map_of_mem member)
    exact .pure ⟨begun ++ [.own owned], h, by simp, same ▸ stepped, rfl, holds⟩
  · refine .update (fun t changes => (holds.outside changes).stored) ?_ ?_
    · intro t changes
      have after : Ahead calm base (begun ++ .own owned :: rest) start rest
          ((FinalizerEdit.add (owned.map Owned.finalizer)).apply h.record) _ :=
        ⟨begun ++ [.own owned], h.owning owned, by simp, stepped, rfl,
          (holds.outside changes).committed owned⟩
      exact ⟨after.midway, after⟩
    · intro t fault changes rejecting
      have before := holds.outside changes
      have restless : ¬calm := fun quiet => by
        have none := (before.calm quiet).2
        omega
      have after : Ahead calm base (begun ++ .own owned :: rest) start (.own owned :: rest) h.record
          { t with store := t.store.rejectNext (t.store.rejections - 1) } :=
        ⟨begun, h, rfl, carried, rfl, before.backend, before.records, before.history,
          before.entropy, fun quiet => absurd quiet restless⟩
      exact ⟨after.midway, fun quiet => absurd quiet restless⟩

/-- A key that nobody has is made of the bytes that are next at the start of the plan. -/
theorem sshKey {e : Envelope} (ahead : Ahead calm base plan start (Create.keySteps e ++ rest) n w)
    (undrawn : ∀ begun, plan = begun ++ (Create.keySteps e ++ rest) →
      ∀ step ∈ begun, step.Repeatable) :
    (Create.sshKey e.sshPublicKeys).Safe (World.serve Backend.service) (Hindered calm)
      (Midway base plan start)
      (fun key u => Ahead calm base plan start rest n u ∧ key = Create.keyOf e start) w := by
  unfold Create.sshKey Create.keyOf
  unfold Create.keySteps at ahead undrawn
  cases usable : Config.sshKey? e.sshPublicKeys with
  | some key =>
      rw [usable] at ahead
      exact ⟨ahead, rfl⟩
  | none =>
      rw [usable] at ahead undrawn
      obtain ⟨begun, h, same, carried, rfl, holds⟩ := ahead
      have entropy := entropy_of_carryOut (undrawn begun same) carried
      intro t changes
      have before := holds.outside changes
      have after : Ahead calm base plan start rest h.record
          { t with entropy := t.entropy.drop World.keyLength } := by
        refine ⟨begun ++ [.draw], { h with entropy := h.entropy.drop World.keyLength },
          by simp [same], ?_, rfl, before.backend, before.records, before.history, ?_,
          before.calm⟩
        · rw [carryOut_append, carried]
          rfl
        · rw [before.entropy]
      refine ⟨after.midway, after, ?_⟩
      change Config.throwawayKey t.draw = _
      rw [World.draw, before.entropy, entropy, Option.getD_none]

theorem putPublicIp {c : Config} {name uid version : String} {dualStack : Bool}
    (ahead : Ahead calm base plan start
      (.put (.putPublicIp c.resourceGroup name (Desired.publicIp c uid version dualStack)) :: rest)
      n w) :
    (Create.putPublicIp c name uid version dualStack).Meets (Hindered calm)
      (Midway base plan start)
      (fun id u => Ahead calm base plan start rest n u ∧
        id = Naming.publicIpId Resources.subscription c.resourceGroup name)
      (fun _ _ => calm → carryOut plan start = none) w := by
  refine .bind (.context (ahead.put.mono ?_ fun _ _ met => met))
  rintro value u ⟨after, b, next, performed⟩
  exact .pure ⟨after, by rw [Call.id_of_putPublicIp performed, Option.getD_some]⟩

theorem putNic {c : Config} {nic uid : String} {dualStack : Bool}
    (ahead : Ahead calm base plan start (.put (Create.nicCall c nic uid dualStack) :: rest) n w) :
    (Create.putNic c nic uid (Create.addressIds c nic dualStack) dualStack).Meets (Hindered calm)
      (Midway base plan start)
      (fun id u => Ahead calm base plan start rest n u ∧
        id = Naming.nicId Resources.subscription c.resourceGroup nic)
      (fun _ _ => calm → carryOut plan start = none) w := by
  refine .bind (.context (ahead.put.mono ?_ fun _ _ met => met))
  rintro value u ⟨after, b, next, performed⟩
  exact .pure ⟨after, by rw [Call.id_of_putNic performed, Option.getD_some]⟩

/-- The public addresses are put, and their ids are known. -/
theorem publicIps {c : Config} {nic uid : String} {dualStack : Bool}
    (ahead : Ahead calm base plan start (Create.addressSteps c nic uid dualStack ++ rest) n w) :
    Recorded.Meets (Hindered calm) (Midway base plan start)
      (fun ids p u => Ahead calm base plan start rest p u ∧
        ids = Create.addressIds c nic dualStack)
      (fun _ _ _ => calm → carryOut plan start = none)
      (Create.publicIps c nic uid dualStack) n w := by
  unfold Create.publicIps Create.addressIds
  unfold Create.addressSteps at ahead
  by_cases assigned : c.assignPublicIp = true
  · simp only [assigned, if_true] at ahead ⊢
    refine .bind (ahead.own.mono ?_ fun _ _ _ met => met)
    intro _ p t ahead
    refine .bind (.recorded (ahead.putPublicIp.mono ?_ fun _ _ met => met))
    rintro _ u ⟨ahead, rfl⟩
    cases dualStack with
    | false => exact .pure ⟨ahead, rfl⟩
    | true =>
        refine .bind (ahead.own.mono ?_ fun _ _ _ met => met)
        intro _ q t ahead
        refine .bind (.recorded (ahead.putPublicIp.mono ?_ fun _ _ met => met))
        rintro _ u ⟨ahead, rfl⟩
        exact .pure ⟨ahead, rfl⟩
  · simp only [assigned] at ahead ⊢
    exact .pure ⟨ahead, rfl⟩

end Ahead

/-- A creation of which nothing is in the way: its steps are carried out, and what is then read
back is an instance. -/
structure Creates (c : Config) (e : Envelope) (name uid key userdata : String)
    (start : Holdings) (i : Instance) (last : Holdings) : Prop where
  storage : ∃ storage, c.storageProfile e.operatingSystem = .ok storage
  carried : carryOut (Create.steps c e name uid key userdata) start = some last
  seen : last.backend.glimpse (Create.readBack c name).run = .ok i

/-- A creation leaves the world somewhere in its plan. It succeeds only as the plan does, and fails
in a calm world only if the plan does not succeed. -/
theorem create_follows {sources : Sources} {userdata : String} {c : Config} {e : Envelope}
    (resolved : Config.resolve sources start.record.providerSpec = .ok (c, e))
    (holds : Holds calm base start w) :
    Recorded.Meets (Hindered calm)
      (Midway base (Create.steps c e start.record.name start.record.uid (Create.keyOf e start)
        userdata) start)
      (fun i p u => ∃ last, Creates c e start.record.name start.record.uid (Create.keyOf e start)
        userdata start i last ∧ last.record = p ∧ Holds calm base last u)
      (fun _ _ _ => calm → ∀ i last, ¬Creates c e start.record.name start.record.uid
        (Create.keyOf e start) userdata start i last)
      (create sources userdata) start.record w := by
  have stuck : carryOut (Create.steps c e start.record.name start.record.uid (Create.keyOf e start)
      userdata) start = none → ∀ i last, ¬Creates c e start.record.name start.record.uid
        (Create.keyOf e start) userdata start i last :=
    fun none i last creates => by cases none.symm.trans creates.carried
  refine .copy (.settle ?_ ?_)
  · rw [resolved]
    rintro _ ⟨⟩
    refine .bind (.recorded (holds.connect ?_))
    intro t u after
    have order : Create.steps c e start.record.name start.record.uid (Create.keyOf e start)
        userdata = Create.addressSteps c (Naming.nic start.record.name) start.record.uid
          e.ipFamily.isDualStack ++ .own [.nic] ::
            .put (Create.nicCall c (Naming.nic start.record.name) start.record.uid
              e.ipFamily.isDualStack) ::
            Create.vmSteps c e start.record.name start.record.uid (Create.keyOf e start)
              userdata := by
      rw [Create.steps, Create.networkSteps, List.append_assoc]
      rfl
    have ahead : Ahead calm base (Create.steps c e start.record.name start.record.uid
        (Create.keyOf e start) userdata) start _ start.record u :=
      ⟨[], start, order, rfl, rfl, after⟩
    refine ⟨ahead.midway, ?_⟩
    refine .bind (ahead.publicIps.mono ?_ fun _ _ _ met quiet => stuck (met quiet))
    rintro ids p u ⟨ahead, rfl⟩
    refine .bind (ahead.own.mono ?_ fun _ _ _ met quiet => stuck (met quiet))
    intro _ p u ahead
    refine .bind (.recorded (ahead.putNic.mono ?_ fun _ _ met quiet => stuck (met quiet)))
    rintro nicId u ⟨ahead, rfl⟩
    cases found : c.storageProfile e.operatingSystem with
    | error fault =>
        refine .settle (fun storage settled => by cases settled) fun _ _ _ i last creates => ?_
        obtain ⟨storage, same⟩ := creates.storage
        cases found.symm.trans same
    | ok storage =>
        rw [Create.vmSteps, found] at ahead
        refine .settle ?_ fun _ failed => by cases failed
        rintro _ ⟨⟩
        -- Nothing before the key draws random bytes, so the key is made of the first ones.
        have undrawn : ∀ begun, Create.steps c e start.record.name start.record.uid
            (Create.keyOf e start) userdata = begun ++ (Create.keySteps e ++
              [.own [.disks, .vm], .put (Create.vmCall c e storage start.record.name
                start.record.uid (Create.keyOf e start) userdata)]) →
            ∀ step ∈ begun, step.Repeatable := by
          intro begun same
          rw [Create.steps, Create.vmSteps, found] at same
          rw [← List.append_cancel_right same]
          exact Create.networkSteps_repeatable c e _ _
        refine .bind (.lift ((ahead.sshKey undrawn).mono ?_))
        rintro key u ⟨ahead, rfl⟩
        refine .bind (ahead.own.mono ?_ fun _ _ _ met quiet => stuck (met quiet))
        intro _ p u ahead
        refine .bind (.recorded (.context (ahead.put.mono ?_
          fun _ _ met quiet => stuck (met quiet))))
        rintro _ v ⟨⟨begun, last, same, carried, rfl, holds⟩, _⟩
        rw [List.append_nil] at same
        have carried := same ▸ carried
        have reads := Create.readBack_reading c start.record.name
        refine .recorded ((holds.reading reads ?_).mono ?_ ?_)
        · intro s t holds
          exact Ahead.midway
            ⟨begun, last, by rw [List.append_nil, same], same ▸ carried, rfl, holds⟩
        · rintro i t ⟨holds, seen⟩
          exact ⟨last, ⟨⟨storage, found⟩, carried, seen⟩, rfl, holds⟩
        · intro fault t unseen quiet i other creates
          cases carried.symm.trans creates.carried
          cases (unseen quiet).symm.trans creates.seen
  · rw [resolved]
    intro fault failed
    cases failed

/-- What can become of a world in which the creation of a machine is attempted, with the stored
record and the same configuration each time. An attempt may be cut off, too. -/
inductive Attempts (c : Config) (e : Envelope) (name : String) (w : World Backend) :
    World Backend → Prop where
  | start : Attempts c e name w w
  | outside {v u : World Backend} : Attempts c e name w v → Faulted (fun _ => True) v u →
      Attempts c e name w u
  | create {v u : World Backend} {n : Machine} {sources : Sources} {userdata : String}
      {left : Asking (Except CloudError Instance × Machine)} :
      Attempts c e name w v → v.store.get? name = some n →
      Config.resolve sources n.providerSpec = .ok (c, e) →
      Reaches (World.serve Backend.service) (Faulted fun _ => True)
        ((create sources userdata).run.run n) v left u →
      Attempts c e name w u

/-- What a world holds at first. -/
def World.holdings (w : World Backend) (m : Machine) : Holdings :=
  ⟨w.backend.bare, m, w.store.history, w.entropy⟩

theorem World.holds_holdings {m : Machine} (stored : w.store.get? m.name = some m) :
    Holds False w.store.records (w.holdings m) w where
  backend := rfl
  records := (SortedMap.insert_of_get? stored).symm
  history := rfl
  entropy := rfl
  calm := False.elim

/-- A creation can still do what it could have done at first, with whatever user data. -/
def Resumable (c : Config) (e : Envelope) (key : String) (base : SortedMap String Machine)
    (start : Holdings) (w : World Backend) : Prop :=
  ∃ h, Holds False base h w ∧ Continues start.record h.record ∧ ∀ userdata,
    carryOut (Create.steps c e start.record.name start.record.uid key userdata) h =
      carryOut (Create.steps c e start.record.name start.record.uid key userdata) start

/-- Wherever an attempt is cut off, creation can be resumed. -/
theorem Resumable.attempt {sources : Sources} {userdata key : String} {c : Config} {e : Envelope}
    {storage : StorageProfile} {left : Asking (Except CloudError Instance × Machine)}
    (resumable : Resumable c e key base start w)
    (storable : c.storageProfile e.operatingSystem = .ok storage)
    (usable : Config.sshKey? e.sshPublicKeys = some key)
    (found : w.store.get? start.record.name = some n)
    (resolved : Config.resolve sources n.providerSpec = .ok (c, e))
    (reached : Reaches (World.serve Backend.service) (Faulted fun _ => True)
      ((create sources userdata).run.run n) w left v) : Resumable c e key base start v := by
  obtain ⟨h, holds, continues, same⟩ := resumable
  have stored := holds.stored
  rw [continues.name, found] at stored
  cases stored
  have hindered := reached.weaken fun s t change => (⟨not_false, change⟩ : Hindered False s t)
  refine hindered.keeps (create_follows resolved holds) ⟨h, holds, continues, same⟩ ?_ ?_
  · rintro s t ⟨between, holds, rest⟩ change
    exact ⟨between, holds.hindered change, rest⟩
  · rintro s t _ ⟨rest, p, begun, next, split, carried, rfl, holds⟩
    refine ⟨next, holds, continues.trans (continues_of_carryOut carried), fun text => ?_⟩
    rw [continues.name, continues.uid, Create.keyOf_eq usable] at split
    rw [Create.carryOut_after_begun usable storable split carried, same text]

theorem Attempts.resumable {m : Machine} {c : Config} {e : Envelope} {key : String}
    {storage : StorageProfile} (attempts : Attempts c e m.name w v)
    (stored : w.store.get? m.name = some m)
    (storable : c.storageProfile e.operatingSystem = .ok storage)
    (usable : Config.sshKey? e.sshPublicKeys = some key) :
    Resumable c e key w.store.records (w.holdings m) v := by
  induction attempts with
  | start => exact ⟨w.holdings m, World.holds_holdings stored, .refl m, fun _ => rfl⟩
  | outside _ change ih =>
      obtain ⟨h, holds, rest⟩ := ih
      exact ⟨h, holds.hindered ⟨not_false, change⟩, rest⟩
  | create _ found resolved reached ih =>
      exact ih.attempt storable usable found resolved reached

/-- Two worlds that hold the same have the same resources, records and committed changes. -/
theorem Holds.agree (first : Holds calm base h w) (second : Holds calm base h v) :
    w.backend.resources = v.backend.resources ∧ w.store.records = v.store.records ∧
      w.store.history = v.store.history :=
  ⟨first.resources.trans second.resources.symm, first.records.trans second.records.symm,
    first.history.trans second.history.symm⟩

/-- Creation is idempotent and can be resumed: after any attempts, failed or not, an undisturbed
creation ends with the instance, the resources, the records and the committed changes with which it
would have ended at first. -/
theorem create_resumes {m copy : Machine} {c : Config} {e : Envelope} {sources again : Sources}
    {userdata key : String} {i : Instance} {u : World Backend}
    (stored : w.store.get? m.name = some m)
    (resolved : Config.resolve sources m.providerSpec = .ok (c, e))
    (usable : Config.sshKey? e.sshPublicKeys = some key)
    (succeeds : World.run Backend.service ((create sources userdata).run.run m) w.calm =
      ((.ok i, copy), u))
    (attempts : Attempts c e m.name w v) (found : v.store.get? m.name = some n)
    (still : Config.resolve again n.providerSpec = .ok (c, e)) :
    ∃ last, World.run Backend.service ((create again userdata).run.run n) v.calm =
        ((.ok i, copy), last) ∧
      last.backend.resources = u.backend.resources ∧ last.store.records = u.store.records ∧
      last.store.history = u.store.history := by
  rcases (create_follows resolved (World.holds_holdings stored).calmed).run with
    ⟨_, _, _, ended, final, creates, rfl, holds⟩ | ⟨_, _, _, ended, _⟩
  · cases ended.symm.trans succeeds
    obtain ⟨storage, storable⟩ := creates.storage
    obtain ⟨h, between, continues, same⟩ := attempts.resumable stored storable usable
    have current := between.stored
    rw [continues.name] at current
    cases current.symm.trans found
    have repeated : Creates c e h.record.name h.record.uid (Create.keyOf e h) userdata h i
        final := by
      refine ⟨creates.storage, ?_, ?_⟩
      · rw [continues.name, continues.uid, Create.keyOf_eq usable, same, ← Create.keyOf_eq usable
          (w.holdings m), creates.carried]
      · rw [continues.name, creates.seen]
    rcases (create_follows still between.calmed).run with
      ⟨_, _, last, finished, other, creates, rfl, kept⟩ | ⟨_, _, _, _, fails⟩
    · cases creates.carried.symm.trans repeated.carried
      cases creates.seen.symm.trans repeated.seen
      exact ⟨last, finished, kept.agree holds⟩
    · exact absurd repeated (fails trivial i final)
  · cases ended.symm.trans succeeds

namespace Sample

/-- A creation with nothing in its way. -/
def made : (Except CloudError Instance × Machine) × World Backend :=
  World.run Backend.service ((create sources "data").run.run machine) world.calm

theorem exists_made : ∃ i copy u, made = ((.ok i, copy), u) :=
  exists_of_succeeds (by decide +kernel)

theorem attempts_created : Attempts resolved.1 resolved.2 machine.name world created := by
  have broken : Attempts resolved.1 resolved.2 machine.name world failing :=
    .outside .start (.call _ _ _ trivial)
  obtain ⟨left, reached⟩ := Program.exists_reaches_stateAfter 100 _ failing
  exact broken.create begins.stored resolve_spec reached

end Sample

/-- After a creation that failed when it put the virtual machine, the next one ends as the first
would have. -/
theorem create_resumes_created : ∃ i copy u last,
    World.run Backend.service ((create Sample.sources "data").run.run Sample.machine)
      Sample.world.calm = ((.ok i, copy), u) ∧
    Attempts Sample.resolved.1 Sample.resolved.2 Sample.machine.name Sample.world Sample.created ∧
    World.run Backend.service
      ((create Sample.sources "data").run.run (Sample.stored Sample.created))
      Sample.created.calm = ((.ok i, copy), last) ∧
    last.backend.resources = u.backend.resources ∧ last.store.records = u.store.records ∧
      last.store.history = u.store.history := by
  obtain ⟨i, copy, u, succeeds⟩ := Sample.exists_made
  obtain ⟨found, still⟩ := Sample.stored_of_lives Sample.lives_created
  have usable : Config.sshKey? Sample.resolved.2.sshPublicKeys = some "ssh-rsa key" := by
    decide +kernel
  obtain ⟨last, repeated⟩ := create_resumes Sample.begins.stored Sample.resolve_spec usable
    succeeds Sample.attempts_created found still
  exact ⟨i, copy, u, last, succeeds, Sample.attempts_created, repeated⟩

end Provisioning.Azure
