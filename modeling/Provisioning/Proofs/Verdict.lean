import Provisioning.Proofs.Failures
import Provisioning.Proofs.Session

/-!
When an operation says that it need not be tried again, and when it says that there is no instance.
Main statements: `terminal_of_operations`, that an operation says not to try again for its
configuration or for a put that was answered so, and says it with the reason that goes with the
code; and `get_eq_instanceNotFound_iff`, that an inspection says that there is no instance exactly
when a search came back without the machine, and that any failure makes it say something else.
-/

namespace Provisioning.Azure

open Relation
open Program (Course Exchange)
open AzureError (Plain)

variable {α β : Type}

/-- Why a result says not to try again, if it does. -/
def verdict? : Except CloudError α → Option TerminalReason
  | .ok _ => none
  | .error fault => fault.terminalReason?

/-- A call that puts a resource. -/
def Call.isPut : Call → Bool
  | putPublicIp .. | putNic .. | putVm .. => true
  | _ => false

/-- What was asked and answered. -/
def Request.answered (q : Request) (answer : q.Answer) : Exchange requests := ⟨q, answer⟩

/-- Something was answered with an error. -/
def Failing (had : List (Exchange requests)) : Prop :=
  ∃ exchange ∈ had, Request.failed exchange.1 exchange.2 = true

/-- A put was answered with a code that says not to try again. -/
def Rejected (had : List (Exchange requests)) (reason : TerminalReason) : Prop :=
  ∃ (credentials : Credentials) (what : Call) (status : Nat) (code detail : String),
    what.isPut = true ∧
    Request.answered (.call credentials what) (.error (.api status code detail)) ∈ had ∧
    AzureError.Listed code reason

variable {had more : List (Exchange requests)} {reason : TerminalReason}

theorem failing_append : Failing (had ++ more) ↔ Failing had ∨ Failing more := by
  simp [Failing, or_and_right, exists_or]

theorem rejected_append :
    Rejected (had ++ more) reason ↔ Rejected had reason ∨ Rejected more reason := by
  simp only [Rejected, List.mem_append, or_and_right, and_or_left, exists_or]

theorem Rejected.failing (rejected : Rejected had reason) : Failing had := by
  obtain ⟨credentials, what, status, code, detail, _, member, _⟩ := rejected
  exact ⟨_, member, rfl⟩

/-- A put is rejected exactly if the error it is answered with gives a reason not to try again. -/
theorem rejected_put {credentials : Credentials} {what : Call} {fault : AzureError}
    (puts : what.isPut = true) :
    Rejected [Request.answered (.call credentials what) (.error fault)] reason ↔
      fault.terminalReason? = some reason := by
  rw [AzureError.terminalReason?_eq_some]
  constructor
  · rintro ⟨_, _, status, code, detail, _, member, given⟩
    cases List.mem_singleton.1 member
    exact ⟨status, code, detail, rfl, given⟩
  · rintro ⟨status, code, detail, rfl, given⟩
    exact ⟨credentials, what, status, code, detail, puts, List.mem_singleton_self _, given⟩

/-- A part of an operation fails exactly if something it asked failed, and says not to try again
exactly if a put was rejected. -/
structure Told (had : List (Exchange requests)) (outcome : Except CloudError α) : Prop where
  failing : (∃ fault, outcome = .error fault) ↔ Failing had
  verdict : ∀ reason, verdict? outcome = some reason ↔ Rejected had reason

/-- A result says not to try again exactly because of something unsupported, and then nothing has
failed, or because a put was rejected. -/
def Verdict (unsupported : Prop) (had : List (Exchange requests)) (outcome : Except CloudError α) :
    Prop :=
  ∀ reason, verdict? outcome = some reason ↔
    (unsupported ∧ ¬Failing had ∧ reason = .invalidConfiguration) ∨ Rejected had reason

/-- A result that does not say not to try again. -/
def Retried (_ : List (Exchange requests)) (outcome : Except CloudError α) : Prop :=
  verdict? outcome = none

/-- Exchanges that did not fail decide nothing. -/
theorem Told.append {outcome : Except CloudError α} (clean : ¬Failing had)
    (told : Told more outcome) : Told (had ++ more) outcome where
  failing := by rw [told.failing, failing_append, or_iff_right clean]
  verdict reason := by
    rw [told.verdict, rejected_append, or_iff_right fun rejected => clean rejected.failing]

theorem Verdict.append {unsupported : Prop} {outcome : Except CloudError α} (clean : ¬Failing had)
    (verdict : Verdict unsupported more outcome) : Verdict unsupported (had ++ more) outcome := by
  intro reason
  have none : ¬Rejected had reason := fun rejected => clean rejected.failing
  rw [verdict reason, failing_append, or_iff_right clean, rejected_append, or_iff_right none]

theorem Told.clean {value : α} (told : Told had (.ok value : Except CloudError α)) :
    ¬Failing had := by
  rw [← told.failing]
  exact nofun

/-- The verdict of a part is that of the operation that it makes fail. -/
theorem Told.verdict_of_error {unsupported : Prop} {fault : CloudError}
    (told : Told had (.error fault : Except CloudError β)) :
    Verdict unsupported had (.error fault : Except CloudError α) := by
  have failing := told.failing.1 ⟨fault, rfl⟩
  intro reason
  rw [or_iff_right fun other => other.2.1 failing]
  exact told.verdict reason

theorem Told.error {fault : CloudError} (told : Told had (.error fault : Except CloudError β)) :
    Told had (.error fault : Except CloudError α) :=
  ⟨⟨fun _ => told.failing.1 ⟨fault, rfl⟩, fun _ => ⟨fault, rfl⟩⟩, told.verdict⟩

theorem told_nil (value : α) : Told [] (.ok value : Except CloudError α) := by
  constructor
  · simp [Failing]
  · simp [verdict?, Rejected]

/-- What is answered with a value is told nothing by. -/
theorem told_one (q : Request) {answer : q.Answer} {value : α}
    (succeeds : q.failed answer = false) :
    Told [q.answered answer] (.ok value : Except CloudError α) := by
  have clean : ¬Failing [q.answered answer] := by
    rintro ⟨exchange, member, failed⟩
    cases List.mem_singleton.1 member
    exact absurd (succeeds.symm.trans failed) (by decide)
  exact ⟨⟨nofun, fun failing => absurd failing clean⟩,
    fun reason => ⟨nofun, fun rejected => absurd rejected.failing clean⟩⟩

namespace Recorded

/-- For whatever sound answers, the exchanges of a part and its result meet a postcondition. -/
def Tells (post : List (Exchange requests) → Except CloudError α → Prop)
    (part : Recorded Asking α) (m : Machine) : Prop :=
  (part.run.run m).Tells (fun _ => True) Request.Sound fun had result => post had result.1

namespace Tells

variable {post : List (Exchange requests) → Except CloudError α → Prop} {m : Machine}

theorem bind {part : Recorded Asking β} {next : β → Recorded Asking α}
    (first : Tells (fun had outcome => match outcome with
      | .ok value => ∀ n, Tells (fun more final => post (had ++ more) final) (next value) n
      | .error fault => post had (.error fault)) part m) : Tells post (part >>= next) m := by
  refine Program.Tells.bind (Program.Tells.mono ?_ first)
  rintro had ⟨fault | value, n⟩ met
  · change post (had ++ []) (.error fault)
    rw [List.append_nil]
    exact met
  · exact met n

theorem mono {part : Recorded Asking α}
    {better : List (Exchange requests) → Except CloudError α → Prop}
    (met : Tells better part m) (implies : ∀ had outcome, better had outcome → post had outcome) :
    Tells post part m :=
  Program.Tells.mono (fun had (result : Except CloudError α × Machine) => implies had result.1) met

/-- Parts that fail only by what they ask make a part that does. -/
theorem told {part : Recorded Asking β} {next : β → Recorded Asking α}
    (first : Tells Told part m) (rest : ∀ value n, Tells Told (next value) n) :
    Tells Told (part >>= next) m := by
  refine .bind (first.mono ?_)
  rintro had (fault | value) told
  · exact told.error
  · exact fun n => (rest value n).mono fun more final => Told.append told.clean

/-- What comes before decides only by failing. -/
theorem after {part : Recorded Asking β} {next : β → Recorded Asking α} {unsupported : Prop}
    (first : Tells Told part m) (rest : ∀ value n, Tells (Verdict unsupported) (next value) n) :
    Tells (Verdict unsupported) (part >>= next) m := by
  refine .bind (first.mono ?_)
  rintro had (fault | value) told
  · exact told.verdict_of_error
  · exact fun n => (rest value n).mono fun more final => Verdict.append told.clean

theorem recorded {act : Action α} {report : AzureError → CloudError}
    (met : act.run.Tells (fun _ => True) Request.Sound
      fun had outcome => post had (outcome.mapError report)) :
    Tells post (act.recorded report) m := by
  refine Program.Tells.bind (Program.Tells.mono ?_ met)
  rintro had (fault | value) met
  · change post (had ++ []) _
    rw [List.append_nil]
    exact met
  · change post (had ++ []) _
    rw [List.append_nil]
    exact met

/-- The copy of the record is what it is. -/
theorem copy {next : Machine → Recorded Asking α} (met : Tells post (next m) m) :
    Tells post (getThe Machine >>= next) m := met

theorem pure {value : α} : Tells Told (pure value : Recorded Asking α) m := told_nil _

/-- What has succeeded already need not be asked. -/
theorem known {outcome : Except CloudError β} {value : β} {next : β → Recorded Asking α}
    (same : outcome = .ok value) (met : Tells post (next value) m) :
    Tells post (settle outcome >>= next) m := by
  rw [same]
  exact met

/-- A commit that is rejected may be tried again. -/
theorem update (edit : FinalizerEdit) :
    Tells (fun had outcome => Told had outcome ∧ Retried had outcome)
      (Ledger.update commit edit) m := by
  refine ⟨trivial, ?_⟩
  rintro (fault | stored) sound
  · have retriable : fault.terminalReason? = none := sound
    refine ⟨⟨⟨fun _ => ⟨_, List.mem_singleton_self _, rfl⟩, fun _ => ⟨fault, rfl⟩⟩, ?_⟩, retriable⟩
    intro reason
    change fault.terminalReason? = some reason ↔ _
    rw [retriable]
    refine ⟨nofun, ?_⟩
    rintro ⟨_, _, _, _, _, _, member, _⟩
    cases List.mem_singleton.1 member
  · exact ⟨told_one _ rfl, rfl⟩

theorem own (owned : List Owned) : Tells Told (own owned) m := by
  refine .copy ?_
  split
  · exact pure
  · exact (update _).mono fun _ _ met => met.1

theorem retried_pure (value : α) : Tells Retried (Pure.pure value : Recorded Asking α) m := by
  change verdict? (.ok value) = none
  rfl

theorem disown (owned : Owned) : Tells Retried (disown owned) m := by
  refine .copy ?_
  split
  · exact (update _).mono fun _ _ met => met.2
  · exact retried_pure ()

theorem connect (c : Config) :
    Tells Told ((Action.connect c).recorded AzureError.toCloud) m := by
  refine recorded ⟨trivial, ?_⟩
  rintro (fault | made) sound
  · have plain : fault.Plain := sound
    refine ⟨⟨fun _ => ⟨_, List.mem_singleton_self _, rfl⟩, fun _ => ⟨_, rfl⟩⟩, fun reason => ?_⟩
    change fault.toCloud.terminalReason? = some reason ↔ _
    rw [plain.terminalReason?_toCloud]
    refine ⟨nofun, ?_⟩
    rintro ⟨_, _, _, _, _, _, member, _⟩
    cases List.mem_singleton.1 member
  · exact told_one _ rfl

/-- What asks for bytes does not fail. -/
theorem sshKey (keys : List String) :
    Tells Told (liftM (Create.sshKey keys) : Recorded Asking String) m := by
  unfold Create.sshKey
  split
  · exact told_nil _
  · exact ⟨trivial, fun _ _ => told_one .throwawayBytes rfl⟩

/-- What only reads decides nothing. -/
theorem reading {act : Action α}
    (fails : Fails Request.Sound (fun q => q.isWrite = false) Plain act) :
    Tells (Verdict False) (act.recorded AzureError.toCloud) m := by
  refine recorded ((fails.asked.weaken (fun _ _ => trivial) fun _ _ fair => fair).mono ?_)
  rintro had outcome ⟨plain, read⟩ reason
  have none : ¬Rejected had reason := by
    rintro ⟨credentials, what, _, _, _, puts, member, _⟩
    have reads : what.isWrite = false := read _ member
    cases what <;> simp [Call.isPut, Call.isWrite] at puts reads
  have retriable : verdict? (outcome.mapError AzureError.toCloud) = .none := by
    cases outcome with
    | ok value => rfl
    | error fault => exact (plain fault rfl).terminalReason?_toCloud
  simp [retriable, none]

end Tells

end Recorded

/-- A put fails as it is answered, and it is given up for the codes that are listed. -/
theorem put_tells {c : Config} {what : Call} (puts : what.isPut = true) (attempt : String) :
    ((Action.call c what).context attempt).run.Tells (fun _ => True) Request.Sound
      fun had outcome => Told had (outcome.mapError AzureError.toCreateError) := by
  refine ⟨trivial, ?_⟩
  rintro (fault | value) sound
  · have plain : fault.Plain := sound
    refine ⟨⟨fun _ => ⟨_, List.mem_singleton_self _, rfl⟩, fun _ => ⟨_, rfl⟩⟩, fun reason => ?_⟩
    change (fault.context attempt).toCreateError.terminalReason? = some reason ↔
      Rejected [Request.answered (.call c.credentials what) (.error fault)] reason
    rw [rejected_put puts, AzureError.terminalReason?_toCreateError,
      (plain.context attempt).terminalReason?_toCloud, AzureError.terminalReason?_context,
      Option.or_none]
  · exact told_one (.call c.credentials what) rfl

/-- What is made of an answer does not matter. -/
theorem map_tells {act : Action β} {report : AzureError → CloudError} {change : β → α}
    (tells : act.run.Tells (fun _ => True) Request.Sound
      fun had outcome => Told had (outcome.mapError report)) :
    (act >>= fun value => pure (change value) : Action α).run.Tells (fun _ => True) Request.Sound
      fun had outcome => Told had (outcome.mapError report) := by
  refine tells_bind (tells.mono ?_)
  rintro had (fault | value) told
  · exact told.error
  · exact told_nil (change value) |>.append told.clean

variable {c : Config} {e : Envelope} {m : Machine} {sources : Sources}

namespace Create

open Recorded (Tells)

theorem publicIps_tells (nic uid : String) (dualStack : Bool) :
    Tells Told (publicIps c nic uid dualStack) m := by
  unfold publicIps
  split
  · refine .told (.own _) fun _ n => .told (.recorded (map_tells (put_tells rfl _))) fun _ p => ?_
    split
    · refine .told (.own _) fun _ n => ?_
      exact .told (.recorded (map_tells (put_tells rfl _))) fun _ p => .pure
    · exact .pure
  · exact .pure

/-- Once the interface is put, the storage is either unsupported or it is not. -/
theorem resources_tells (name uid userdata : String) :
    Tells (Verdict (∃ fault, c.image e.operatingSystem = .error fault))
      (resources c e name uid userdata) m := by
  refine .after (publicIps_tells _ _ _) fun ips n => .after (.own _) fun _ n => ?_
  refine .after (.recorded (map_tells (put_tells rfl _))) fun nicId n => ?_
  unfold Config.storageProfile
  cases image : c.image e.operatingSystem with
  | error fault =>
      intro reason
      have fails : ¬Failing [] := by simp [Failing]
      have rejects : ¬Rejected [] reason := fun rejected => fails rejected.failing
      change some TerminalReason.invalidConfiguration = some reason ↔ _
      simp [fails, rejects, eq_comm]
  | ok reference =>
      have supported : ∀ had (outcome : Except CloudError Instance), Verdict False had outcome →
          Verdict (∃ fault, (Except.ok reference : Except AzureError _) = .error fault) had
            outcome := by
        intro had outcome verdict reason
        rw [verdict reason]
        simp
      refine Tells.mono (.known rfl ?_) supported
      refine .after (.sshKey _) fun key n => .after (.own _) fun _ n => ?_
      refine .after (.recorded (put_tells rfl _)) fun _ n => .reading ?_
      exact readBack_fails (fun _ reads => reads) name

end Create

open Recorded (Tells)

/-- A creation with a configuration says not to try again because of an image that is not supported
or a put that is rejected. -/
theorem create_tells (resolved : Config.resolve sources m.providerSpec = .ok (c, e))
    (userdata : String) :
    Tells (Verdict (∃ fault, c.image e.operatingSystem = .error fault)) (create sources userdata)
      m := by
  have settled : (Config.resolve sources m.providerSpec).mapError unusable = .ok (c, e) := by
    rw [resolved]
    rfl
  refine .copy (.known settled ?_)
  exact .after (.connect c) fun _ n => Create.resources_tells _ _ _

namespace Recorded.Tells

theorem retried {part : Recorded Asking β} {next : β → Recorded Asking α}
    (first : Tells Retried part m) (rest : ∀ value n, Tells Retried (next value) n) :
    Tells Retried (part >>= next) m := by
  refine .bind (first.mono ?_)
  rintro had (fault | value) met
  · exact met
  · exact rest value

/-- Plain errors are passed on as errors that may be tried again. -/
theorem passed {act : Action α} (fails : Fails Request.Sound (fun _ => True) Plain act) :
    Tells Retried (act.recorded AzureError.toCloud) m := by
  refine recorded (Program.Tells.mono ?_ fails)
  rintro had (fault | value) plain
  · exact (plain fault rfl).terminalReason?_toCloud
  · exact rfl

end Recorded.Tells

theorem Cleanup.tearDown_tells (name uid : String) (kinds : List Owned) :
    Tells Retried (tearDown c name uid kinds) m := by
  induction kinds generalizing m with
  | nil => exact .retried_pure ()
  | cons kind rest ih =>
      exact .retried (.passed (delete_fails name uid kind)) fun _ n =>
        .retried (.disown kind) fun _ n => ih

/-- A teardown never says not to try again. -/
theorem cleanup_tells (retriable : sources.Retriable) : Tells Retried (cleanup sources) m := by
  refine .copy ?_
  cases resolved : Config.resolve sources m.providerSpec with
  | error fault =>
      change (fault.context _).toCloud.terminalReason? = none
      rw [AzureError.terminalReason?_toCloud_context]
      exact retriable_resolve retriable _ fault resolved
  | ok settled =>
      refine .known rfl (.retried (.passed (.connect trivial)) fun _ n => ?_)
      refine .retried (Cleanup.tearDown_tells _ _ _) fun _ p => ?_
      exact .copy (.retried_pure (ledger.isClear p))

/-- A look-up never says not to try again. -/
theorem get_fails : Fails Request.Sound (fun _ => True) CloudError.Retriable (get sources m) := by
  have passed (fault : AzureError) (plain : fault.Plain) : fault.toCloud.Retriable :=
    plain.terminalReason?_toCloud
  unfold get
  cases Config.resolve sources m.providerSpec with
  | error fault => exact .throw rfl
  | ok settled =>
      refine .known (.bind (.adapt ((Fails.connect trivial).mono passed)) fun _ => ?_)
      refine .bind (.adapt ((Lookup.vm_fails (fun _ _ => trivial) _).mono ?_)) fun vm => ?_
      · rintro fault (plain | rfl)
        · split
          · exact rfl
          · exact passed _ (plain.context _)
        · exact rfl
      · exact .adapt ((Lookup.instanceOf_fails (fun _ _ => trivial) vm).mono passed)

/-- With a configuration a migration never says not to try again. -/
theorem migrateUid_fails {uid : String}
    (resolved : Config.resolve sources m.providerSpec = .ok (c, e)) :
    Fails Request.Sound (fun _ => True) CloudError.Retriable (migrateUid sources m uid) := by
  have passed (fault : AzureError) (plain : fault.Plain) : fault.toCloud.Retriable :=
    plain.terminalReason?_toCloud
  unfold migrateUid
  rw [resolved]
  refine .known (.bind (.adapt ((Fails.connect trivial).mono passed)) fun _ => ?_)
  have retagged : Fails Request.Sound (fun _ => True) Plain (MigrateUid.retagAll c
      e.ipFamily.isDualStack m uid (Owned.present m)) :=
    MigrateUid.retagAll_fails (fun _ => .call trivial)
      (fun _ attempt plain => plain.context attempt) _ _
  exact .adapt (retagged.mono passed)

/-- What a program tells of sound answers is so wherever only plain errors are placed as faults. -/
theorem met_of_course {p : Asking α} {post : List (Exchange requests) → α → Prop}
    {w v : World Backend} {value : α}
    (course : Course (World.serve Backend.service) (Faulted Plain) p w had (.done value) v)
    (plain : FaultsAre Plain w) (tells : p.Tells (fun _ => True) Request.Sound post) :
    post had value :=
  course.tells_done tells plain (fun here change => here.faulted change)
    fun _ here => World.sound_serve here _

/-- Faults and rejections that are ordered ask for nothing and change no record. -/
theorem kept_of_faulted {possible : AzureError → Prop} {w v : World Backend}
    (changes : ReflTransGen (Faulted possible) w v) :
    v.backend.log = w.backend.log ∧ v.store.records = w.store.records := by
  induction changes with
  | refl => exact ⟨rfl, rfl⟩
  | tail _ change ih => cases change <;> exact ih

/-- The copy of a record is what it is. -/
theorem Recorded.run_copy (next : Machine → Recorded Asking α) (m : Machine) :
    (getThe Machine >>= next : Recorded Asking α).run.run m = (next m).run.run m := rfl

/-- What has failed already asks nothing and keeps the copy. -/
theorem Recorded.run_settle_error (fault : CloudError) (next : β → Recorded Asking α)
    (m : Machine) :
    (settle (.error fault) >>= next : Recorded Asking α).run.run m = .done (.error fault, m) := rfl

theorem create_of_unresolved {fault : AzureError}
    (resolved : Config.resolve sources m.providerSpec = .error fault) (userdata : String) :
    (create sources userdata).run.run m = .done (.error (unusable fault), m) := by
  unfold create
  rw [Recorded.run_copy, resolved]
  exact Recorded.run_settle_error ..

theorem migrateUid_of_unresolved {fault : AzureError}
    (resolved : Config.resolve sources m.providerSpec = .error fault) (uid : String) :
    (migrateUid sources m uid).run = .done (.error (MigrateUid.unresolved fault)) := by
  unfold migrateUid
  rw [resolved]
  rfl

/-- The error of a configuration that cannot be migrated to is final unless a look-up failed. -/
theorem terminalReason?_unresolved (retriable : sources.Retriable) {fault : AzureError}
    (resolved : Config.resolve sources m.providerSpec = .error fault) :
    (MigrateUid.unresolved fault).terminalReason? =
      if fault.isLookupFailure then none else some .invalidConfiguration := by
  unfold MigrateUid.unresolved
  split
  · exact retriable_resolve retriable _ fault resolved
  · rfl

/-- An operation says not to try again exactly when the specification has to change. A creation says
so if its configuration cannot be resolved, and then has asked for nothing; if the image is not
supported, and then nothing has failed before; or if a put was rejected. A teardown and a look-up
never do, and a migration does if its configuration cannot be resolved and no look-up failed. What
was attempted does not matter. -/
theorem terminal_of_operations {w : World Backend} (retriable : sources.Retriable)
    (plain : FaultsAre Plain w) :
    (∀ userdata had outcome copy v,
      Course (World.serve Backend.service) (Faulted Plain) ((create sources userdata).run.run m) w
        had (.done (outcome, copy)) v →
      (∀ reason, verdict? outcome = some reason ↔
        ((∃ fault, Config.resolve sources m.providerSpec = .error fault) ∧
          reason = .invalidConfiguration) ∨
        ((∃ c e fault, Config.resolve sources m.providerSpec = .ok (c, e) ∧
            c.image e.operatingSystem = .error fault) ∧
          ¬Failing had ∧ reason = .invalidConfiguration) ∨
        Rejected had reason) ∧
      ((∃ fault, Config.resolve sources m.providerSpec = .error fault) →
        had = [] ∧ copy = m ∧ v.backend.log = w.backend.log ∧
          v.store.records = w.store.records)) ∧
    (∀ had outcome copy v,
      Course (World.serve Backend.service) (Faulted Plain) ((cleanup sources).run.run m) w
        had (.done (outcome, copy)) v → verdict? outcome = none) ∧
    (∀ had outcome v,
      Course (World.serve Backend.service) (Faulted Plain) (get sources m).run w
        had (.done outcome) v → verdict? outcome = none) ∧
    (∀ uid had outcome v,
      Course (World.serve Backend.service) (Faulted Plain) (migrateUid sources m uid).run w
        had (.done outcome) v →
      ∀ reason, verdict? outcome = some reason ↔
        (∃ fault, Config.resolve sources m.providerSpec = .error fault ∧
          fault.isLookupFailure = false) ∧ reason = .invalidConfiguration) ∧
    ∀ (fault : AzureError) attempt,
      (fault.context attempt).toCreateError.terminalReason? =
        fault.toCreateError.terminalReason? ∧
      (fault.context attempt).toCloud.terminalReason? = fault.toCloud.terminalReason? := by
  have verdict_of_fails {α : Type} {outcome : Except CloudError α}
      (met : FailsOnly CloudError.Retriable outcome) : verdict? outcome = none := by
    cases outcome with
    | ok value => rfl
    | error fault => exact met fault rfl
  refine ⟨?_, ?_, ?_, ?_, ?_⟩
  · intro userdata had outcome copy v course
    cases resolved : Config.resolve sources m.providerSpec with
    | error fault =>
        rw [create_of_unresolved resolved] at course
        obtain ⟨rfl, same, changes⟩ := course.of_done
        cases same
        obtain ⟨log, records⟩ := kept_of_faulted changes
        refine ⟨fun reason => ?_, fun _ => ⟨rfl, rfl, log, records⟩⟩
        have fails : ¬Failing [] := by simp [Failing]
        have rejects : ¬Rejected [] reason := fun rejected => fails rejected.failing
        change some TerminalReason.invalidConfiguration = some reason ↔ _
        simp [rejects, eq_comm]
    | ok settled =>
        obtain ⟨c, e⟩ := settled
        refine ⟨fun reason => ?_, nofun⟩
        have verdict := met_of_course course plain (create_tells resolved userdata) reason
        rw [verdict]
        simp
  · intro had outcome copy v course
    exact met_of_course course plain (cleanup_tells retriable)
  · intro had outcome v course
    exact verdict_of_fails (met_of_course course plain get_fails)
  · intro uid had outcome v course reason
    cases resolved : Config.resolve sources m.providerSpec with
    | error fault =>
        rw [migrateUid_of_unresolved resolved] at course
        obtain ⟨-, same, -⟩ := course.of_done
        cases same
        change (MigrateUid.unresolved fault).terminalReason? = some reason ↔ _
        rw [terminalReason?_unresolved retriable resolved]
        cases lookup : fault.isLookupFailure with
        | true => simp [lookup]
        | false =>
            rw [if_neg (by decide), Option.some.injEq]
            exact ⟨fun same => ⟨⟨fault, rfl, lookup⟩, same.symm⟩, fun given => given.2.symm⟩
    | ok settled =>
        have never := verdict_of_fails (met_of_course course plain (migrateUid_fails resolved))
        simp [never]
  · intro fault attempt
    simp [AzureError.terminalReason?_toCreateError]

namespace Sample

theorem retriable_sources : Sample.sources.Retriable := ⟨fun _ => .ok none, fun _ => .ok none⟩

/-- There is no quota for the next virtual machine. -/
def exhausted : World Backend :=
  { world with backend := world.backend.failNext "put_vm" (.api 409 "QuotaExceeded" "no cores") }

theorem plain_exhausted : FaultsAre Plain exhausted := by
  have none : FaultsAre Plain world := nofun
  exact none.faulted (.call _ _ _ nofun)

/-- The end of a creation without quota. -/
def ended : (Except CloudError Instance × Machine) × World Backend :=
  World.run Backend.service ((create Sample.sources "data").run.run machine) exhausted

end Sample

/-- Without quota a creation says not to try again, and it does so because a put was rejected. -/
theorem terminal_of_operations_exhausted : Sample.sources.Retriable ∧
    FaultsAre Plain Sample.exhausted ∧
    verdict? Sample.ended.1.1 = some .insufficientResources ∧
    ∃ had,
      Course (World.serve Backend.service) (Faulted Plain)
        ((create Sample.sources "data").run.run Sample.machine) Sample.exhausted had
        (.done Sample.ended.1) Sample.ended.2 ∧
      Rejected had .insufficientResources := by
  have verdict : verdict? Sample.ended.1.1 = some .insufficientResources := by decide +kernel
  have ran : ∃ had, Course (World.serve Backend.service) (Faulted Plain)
      ((create Sample.sources "data").run.run Sample.machine) Sample.exhausted had
      (.done Sample.ended.1) Sample.ended.2 := Course.exists_of_run _ _
  obtain ⟨had, course⟩ := ran
  refine ⟨Sample.retriable_sources, Sample.plain_exhausted, verdict, had, course, ?_⟩
  generalize Sample.ended = result at course verdict
  obtain ⟨⟨outcome, copy⟩, v⟩ := result
  have creations := (terminal_of_operations (m := Sample.machine) Sample.retriable_sources
    Sample.plain_exhausted).1
  have told := (creations "data" had _ _ _ course).1 .insufficientResources
  rcases told.1 verdict with ⟨_, other⟩ | ⟨_, _, other⟩ | rejected
  · cases other
  · cases other
  · exact rejected

/-- An answer given while there were certain resources and only plain errors were placed as
faults. -/
def Shown (r : Resources) (q : requests.Request) (answer : requests.Answer q) : Prop :=
  ∃ w : World Backend, (w.backend.resources = r ∧ FaultsAre Plain w) ∧
    answer = (World.serve Backend.service q w).1

theorem Shown.sound {r : Resources} {q : Request} {answer : q.Answer} (shown : Shown r q answer) :
    q.Sound answer := by
  obtain ⟨w, ⟨_, plain⟩, rfl⟩ := shown
  exact (World.sound_serve plain q).1

/-- What only reads leaves the resources as they are. -/
theorem World.resources_serve {w : World Backend} {q : Request} (read : q.isWrite = false) :
    (World.serve Backend.service q w).2.backend.resources = w.backend.resources := by
  cases q with
  | call credentials what =>
      rcases serve_call credentials what w with ⟨value, _, answers⟩ | ⟨fault, _, refuses⟩
      · exact Backend.perform_of_read read answers.performed
      · exact refuses.resources
  | connect | recallSize | rememberSize | throwawayBytes => rfl
  | commit => cases read

/-- All virtual machines are listed or a plain error is reported. -/
theorem Shown.listAllVms {r : Resources} {credentials : Credentials}
    {answer : Except AzureError (List VirtualMachine)}
    (shown : Shown r (.call credentials .listAllVms) answer) :
    answer = .ok r.vms.values ∨ ∃ fault, answer = .error fault ∧ fault.Plain := by
  have sound := shown.sound
  obtain ⟨w, ⟨same, plain⟩, rfl⟩ := shown
  rcases serve_call credentials .listAllVms w with ⟨value, given, answers⟩ | ⟨fault, given, _⟩
  · have performed : Except.ok (w.backend.resources.vms.values, w.backend.resources) = _ :=
      answers.performed
    have listed := (Prod.mk.inj (Except.ok.inj performed)).1
    rw [given, ← listed, same]
    exact .inl rfl
  · refine .inr ⟨fault, given, ?_⟩
    rw [given] at sound
    exact sound

/-- All virtual machines were listed. -/
def Listed (had : List (Exchange requests)) : Prop :=
  ∃ credentials all, Request.answered (.call credentials .listAllVms) (.ok all) ∈ had

/-- Another request lists nothing. -/
theorem listed_cons {q : Request} {answer : q.Answer}
    (other : ∀ credentials, q ≠ .call credentials .listAllVms) :
    Listed (q.answered answer :: had) ↔ Listed had := by
  constructor
  · rintro ⟨credentials, all, member⟩
    rcases List.mem_cons.1 member with same | later
    · exact absurd (congrArg Sigma.fst same).symm (other credentials)
    · exact ⟨credentials, all, later⟩
  · rintro ⟨credentials, all, member⟩
    exact ⟨credentials, all, List.mem_cons_of_mem _ member⟩

/-- No virtual machine carries an identity. -/
def Resources.Lacks (r : Resources) (uid : String) : Prop :=
  ∀ key vm, r.vms.get? key = some vm → Naming.hasUid vm.tags uid = false

/-- A machine is looked up among all virtual machines: it is found, or there is none, or they are
not listed. -/
theorem Lookup.vm_tells (r : Resources) (uid : String) :
    (vm c uid).run.Tells (fun q => Request.isWrite q = false) (Shown r) fun had outcome =>
      match outcome with
      | .ok _ => ¬r.Lacks uid
      | .error fault => (fault.Plain ∧ ¬Listed had) ∨
          (fault = .cloud .instanceNotFound ∧ Listed had ∧ r.Lacks uid) := by
  refine tells_bind ⟨rfl, fun answer shown => ?_⟩
  rcases shown.listAllVms with rfl | ⟨fault, rfl, plain⟩
  · dsimp only [Program.Tells]
    split
    · rename_i vm found
      obtain ⟨key, stored⟩ := SortedMap.mem_values_iff.1 (List.mem_of_find?_eq_some found)
      have tagged := List.find?_some found
      intro lacks
      simp [lacks key vm stored] at tagged
    · rename_i unfound
      refine .inr ⟨rfl, ⟨_, _, List.mem_singleton_self _⟩, fun key vm stored => ?_⟩
      have member := SortedMap.mem_values_iff.2 ⟨key, stored⟩
      simpa using List.find?_eq_none.1 unfound vm member
  · refine .inl ⟨plain, ?_⟩
    rintro ⟨_, _, member⟩
    cases List.mem_singleton.1 member

/-- A look-up answers with the sentinel exactly if all virtual machines were listed and none has the
machine's tag. -/
theorem get_tells (r : Resources) (resolved : Config.resolve sources m.providerSpec = .ok (c, e)) :
    (get sources m).run.Tells (fun q => Request.isWrite q = false) (Shown r) fun had outcome =>
      outcome = .error .instanceNotFound ↔ Listed had ∧ r.Lacks m.uid := by
  unfold get
  rw [resolved]
  refine tells_known (tells_bind (tells_adapt ⟨rfl, ?_⟩))
  rintro _ ⟨w, here, rfl⟩
  refine tells_bind (tells_adapt ((Lookup.vm_tells r m.uid).mono ?_))
  rintro had (fault | vm) met
  · -- The connection before the look-up lists nothing.
    have skip : Listed (Request.answered (.connect c.credentials) (.ok ()) :: had) ↔ Listed had :=
      listed_cons nofun
    refine Iff.trans ?_ (and_congr_left' skip.symm)
    rw [Except.error.injEq]
    rcases met with ⟨plain, unlisted⟩ | ⟨rfl, listed, lacks⟩
    · simp only [plain.isInstanceNotFound, Bool.false_eq_true, if_false]
      exact ⟨fun same => absurd same (plain.context _).toCloud_ne,
        fun given => absurd given.1 unlisted⟩
    · exact ⟨fun _ => ⟨listed, lacks⟩, fun _ => rfl⟩
  · refine tells_adapt (((Lookup.instanceOf_fails (fun _ read => read) vm).weaken
      (fun _ read => read) fun _ _ shown => shown.sound).mono ?_)
    rintro more (fault | seen) plain
    · refine ⟨fun same => ?_, fun given => absurd given.2 met⟩
      exact absurd (Except.error.inj same) (plain fault rfl).toCloud_ne
    · exact ⟨nofun, fun given => absurd given.2 met⟩

/-- What is answered with a value has not failed. -/
theorem failing_cons {q : Request} {answer : q.Answer} (succeeds : q.failed answer = false) :
    Failing (q.answered answer :: had) ↔ Failing had := by
  have clean : ¬q.failed answer = true := by rw [succeeds]; nofun
  unfold Failing
  rw [List.exists_mem_cons_iff]
  exact or_iff_right clean

/-- An action that only reads passes over no fault, by induction on what it asks. -/
theorem Reading.heeds {sound : (q : Request) → q.Answer → Prop}
    {program : Asking (Except AzureError α)} (reading : Reading program) :
    program.Tells (fun _ => True) sound fun had outcome =>
      Failing had → ∃ fault, outcome = .error fault := by
  induction reading with
  | done outcome => exact fun failing => absurd failing (by simp [Failing])
  | call reads fails goesOn ih =>
      refine ⟨trivial, ?_⟩
      rintro (fault | value) -
      · obtain ⟨other, ended⟩ := fails fault
        rw [ended]
        exact fun _ => ⟨other, rfl⟩
      · exact (ih value).mono fun had outcome heeds failing => heeds ((failing_cons rfl).1 failing)

/-- A failure to list all virtual machines is what a search for one fails with. -/
theorem Lookup.vm_heeds (uid : String) :
    (vm c uid).run.Tells (fun _ => True) Request.Sound fun had outcome =>
      Failing had → ∃ fault, outcome = .error fault ∧ fault.Plain := by
  refine tells_bind ⟨trivial, ?_⟩
  rintro (fault | all) sound
  · exact fun _ => ⟨fault, rfl, sound⟩
  · have clean : ¬Failing [Request.answered (.call c.credentials .listAllVms) (.ok all)] := by
      rw [failing_cons rfl]
      simp [Failing]
    dsimp only [Program.Tells]
    split
    · exact fun failing => absurd failing clean
    · exact fun failing => absurd failing clean

/-- Whatever a look-up is answered with an error, it ends with an error that is not the sentinel. -/
theorem get_heeds (resolved : Config.resolve sources m.providerSpec = .ok (c, e)) :
    (get sources m).run.Tells (fun _ => True) Request.Sound fun had outcome =>
      Failing had → ∃ fault, outcome = .error fault ∧ fault ≠ .instanceNotFound := by
  unfold get
  rw [resolved]
  refine tells_known (tells_bind (tells_adapt ⟨trivial, ?_⟩))
  rintro (fault | connected) sound
  · have plain : fault.Plain := sound
    exact fun _ => ⟨fault.toCloud, rfl, plain.toCloud_ne⟩
  refine tells_bind (tells_adapt ((Lookup.vm_heeds m.uid).mono ?_))
  rintro had (fault | vm) heeds
  · intro failing
    obtain ⟨_, ⟨⟩, plain⟩ := heeds ((failing_cons rfl).1 failing)
    refine ⟨_, rfl, ?_⟩
    dsimp only
    rw [plain.isInstanceNotFound, if_neg Bool.false_ne_true]
    exact (plain.context _).toCloud_ne
  have clean : ¬Failing had := by
    intro failing
    obtain ⟨_, ⟨⟩, _⟩ := heeds failing
  refine tells_adapt (((Lookup.instanceOf_reading c vm).heeds.and
    (Lookup.instanceOf_fails (fun _ _ => trivial) vm)).mono ?_)
  rintro more outcome ⟨heeds, plain⟩ failing
  have asked : Failing (had ++ more) := (failing_cons rfl).1 failing
  obtain ⟨fault, rfl⟩ := heeds ((failing_append.1 asked).resolve_left clean)
  exact ⟨fault.toCloud, rfl, (plain fault rfl).toCloud_ne⟩

/-- A look-up answers with the sentinel of a lost instance exactly if its configuration can be
resolved, all virtual machines were listed, and none of the subscription has the machine's tag. If
its configuration cannot be resolved, or anything it asks is answered with an error, it ends with
another error. -/
theorem get_eq_instanceNotFound_iff {w v : World Backend} {outcome : Except CloudError Instance}
    (plain : FaultsAre Plain w)
    (course : Course (World.serve Backend.service) (Faulted Plain) (get sources m).run w had
      (.done outcome) v) :
    (outcome = .error .instanceNotFound ↔
      (∃ c e, Config.resolve sources m.providerSpec = .ok (c, e)) ∧
      (∃ credentials all,
        Request.answered (.call credentials .listAllVms) (.ok all) ∈ had) ∧
      ∀ key vm, w.backend.resources.vms.get? key = some vm →
        Naming.hasUid vm.tags m.uid = false) ∧
    ((∃ fault, Config.resolve sources m.providerSpec = .error fault) ∨ Failing had →
      ∃ fault, outcome = .error fault ∧ fault ≠ .instanceNotFound) := by
  cases resolved : Config.resolve sources m.providerSpec with
  | error fault =>
      have refused : (get sources m).run =
          .done (.error (Validate.invalid "failed to parse MachineSpec: " fault)) := by
        unfold get
        rw [resolved]
        rfl
      rw [refused] at course
      obtain ⟨rfl, same, -⟩ := course.of_done
      cases same
      refine ⟨by simp [Validate.invalid], fun _ => ⟨_, rfl, ?_⟩⟩
      simp [Validate.invalid]
  | ok settled =>
      obtain ⟨c, e⟩ := settled
      have heeds := met_of_course course plain (get_heeds resolved)
      refine ⟨?_, fun failed => heeds (failed.resolve_left (by simp))⟩
      have stable {s t : World Backend}
          (here : s.backend.resources = w.backend.resources ∧ FaultsAre Plain s)
          (change : Faulted Plain s t) :
          t.backend.resources = w.backend.resources ∧ FaultsAre Plain t := by
        refine ⟨?_, here.2.faulted change⟩
        cases change <;> exact here.1
      have served {q : Request} {s : World Backend} (read : q.isWrite = false)
          (here : s.backend.resources = w.backend.resources ∧ FaultsAre Plain s) :
          Shown w.backend.resources q (World.serve Backend.service q s).1 ∧
            (World.serve Backend.service q s).2.backend.resources = w.backend.resources ∧
              FaultsAre Plain (World.serve Backend.service q s).2 :=
        ⟨⟨s, here, rfl⟩, (World.resources_serve read).trans here.1, (World.sound_serve here.2 q).2⟩
      have told := course.tells_done (get_tells w.backend.resources resolved) ⟨rfl, plain⟩ stable
        served
      rw [told]
      simp [Listed, Resources.Lacks]

/-- A virtual machine of another group is found, so the failure to view it is no sentinel. -/
theorem get_eq_instanceNotFound_iff_elsewhere : FaultsAre Plain (Sample.placed "other") ∧
    ∃ had outcome v,
      Course (World.serve Backend.service) (Faulted Plain) (get Sample.sources Sample.owner).run
        (Sample.placed "other") had (.done outcome) v ∧
      outcome.isOk = false ∧ outcome ≠ .error .instanceNotFound := by
  have plain : FaultsAre Plain (Sample.placed "other") := nofun
  obtain ⟨had, course⟩ := Course.exists_of_run
    (get Sample.sources Sample.owner).run (Sample.placed "other")
  have failed : ((get Sample.sources Sample.owner).run.run (World.serve Backend.service)
      (Sample.placed "other")).1.isOk = false := by
    decide +kernel
  refine ⟨plain, had, _, _, course, failed, fun sentinel => ?_⟩
  obtain ⟨_, _, lacks⟩ := (get_eq_instanceNotFound_iff plain course).1.1 sentinel
  have tagged : (Sample.placed "other").backend.resources.Tagged "uid" ⟨"other", "m"⟩ .vm := by
    decide +kernel
  obtain ⟨vm, found, carries⟩ := tagged
  have free := lacks _ vm found
  exact absurd (carries.symm.trans free) (by decide)

end Provisioning.Azure
