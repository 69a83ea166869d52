import Provisioning.Azure.Provider.Cleanup
import Provisioning.Azure.Provider.Inspect
import Provisioning.Azure.World
import Provisioning.Proofs.Finalizers
import Provisioning.Proofs.Pairing
import Provisioning.Proofs.Reading
import Provisioning.Proofs.Teardown

/-!
A machine under another name. A teardown and a look-up go by its identity, so that they ask for the
same and find the same; the name is said in errors, and it is where the record is stored. Main
statement: `survives_renaming`.
-/

namespace Provisioning

open Program (Pairing)

/-- Texts that differ in nothing but a name, which is shown as it is or in quotes. -/
inductive Text.Renamed (first second : String) : String → String → Prop where
  | plain (before after : String) :
      Renamed first second (before ++ first ++ after) (before ++ second ++ after)
  | quoted (before after : String) :
      Renamed first second (before ++ quote first ++ after) (before ++ quote second ++ after)

namespace Text.Renamed

variable {first second text other : String}

theorem append (renamed : Renamed first second text other) (more : String) :
    Renamed first second (text ++ more) (other ++ more) := by
  cases renamed with
  | plain before after =>
      simpa only [String.append_assoc] using plain before (after ++ more)
  | quoted before after =>
      simpa only [String.append_assoc] using quoted before (after ++ more)

theorem prepend (renamed : Renamed first second text other) (earlier : String) :
    Renamed first second (earlier ++ text) (earlier ++ other) := by
  cases renamed with
  | plain before after =>
      simpa only [String.append_assoc] using plain (earlier ++ before) after
  | quoted before after =>
      simpa only [String.append_assoc] using quoted (earlier ++ before) after

end Text.Renamed

/-- Errors that differ in nothing but a name in their text. -/
inductive CloudError.Renamed (first second : String) : CloudError → CloudError → Prop where
  | same (fault : CloudError) : Renamed first second fault fault
  | invalidConfig {text other : String} : Text.Renamed first second text other →
      Renamed first second (.invalidConfig text) (.invalidConfig other)
  | api {text other : String} : Text.Renamed first second text other →
      Renamed first second (.api text) (.api other)
  | store {text other : String} : Text.Renamed first second text other →
      Renamed first second (.store text) (.store other)

/-- Records that differ in nothing but their names. -/
structure Machine.Renamed (first second : String) (m n : Machine) : Prop where
  name : m.name = first
  eq : n = { m with name := second }

theorem FinalizerEdit.apply_renamed (edit : FinalizerEdit) (m : Machine) (name : String) :
    edit.apply { m with name } = { edit.apply m with name } := by
  cases edit with
  | remove finalizer => rfl
  | add finalizers =>
      change finalizers.foldl Machine.addFinalizer { m with name } =
        { finalizers.foldl Machine.addFinalizer m with name }
      induction finalizers generalizing m with
      | nil => rfl
      | cons finalizer rest ih =>
          have first : Machine.addFinalizer { m with name } finalizer =
              { m.addFinalizer finalizer with name } := by
            unfold Machine.addFinalizer
            change (if m.hasFinalizer finalizer = true then _ else _) = _
            split <;> rfl
          rw [List.foldl_cons, List.foldl_cons, first, ih]

/-- Outcomes of which both are values or both are faults that belong together. -/
inductive Outcomes {α β ε δ : Type} (values : α → β → Prop) (faults : ε → δ → Prop) :
    Except ε α → Except δ β → Prop where
  | ok {value : α} {other : β} : values value other → Outcomes values faults (.ok value) (.ok other)
  | error {fault : ε} {other : δ} : faults fault other →
      Outcomes values faults (.error fault) (.error other)

/-- Equal outcomes. -/
theorem Outcomes.eq {α ε : Type} {outcome other : Except ε α}
    (same : Outcomes Eq Eq outcome other) : outcome = other := by
  cases same with
  | ok same => rw [same]
  | error same => rw [same]

/-- Stores that have the same record under two names, and have committed the same to it since they
had given histories. -/
structure Store.Renamed (first second : String) (past earlier : List FinalizerChange)
    (s t : Store) : Prop where
  rejections : s.rejections = t.rejections
  record : ∃ m n, s.get? first = some m ∧ t.get? second = some n ∧ m.Renamed first second n
  history : ∃ since, s.history = past ++ since ∧ t.history = earlier ++ since

/-- An edit is rejected or committed to both. -/
theorem Store.Renamed.commit {first second : String} {past earlier : List FinalizerChange}
    {s t : Store} (renamed : Store.Renamed first second past earlier s t) (edit : FinalizerEdit) :
    Outcomes (Machine.Renamed first second) (CloudError.Renamed first second)
      (s.commit first edit).1 (t.commit second edit).1 ∧
    Store.Renamed first second past earlier (s.commit first edit).2 (t.commit second edit).2 := by
  obtain ⟨m, _, stored, found, named, rfl⟩ := renamed.record
  unfold Store.commit
  rw [← renamed.rejections]
  split
  · have rejected : Text.Renamed first second _ _ := .plain "update of machine " " rejected"
    exact ⟨.error (.store rejected), rfl, ⟨m, _, stored, found, named, rfl⟩, renamed.history⟩
  · rw [stored, found]
    dsimp only
    rw [edit.apply_renamed m second]
    have after : (edit.apply m).name = first := (edit.apply_name m).trans named
    obtain ⟨since, mine, other⟩ := renamed.history
    refine ⟨.ok ⟨after, rfl⟩, rfl, ?_, ?_⟩
    · refine ⟨edit.apply m, _, ?_, ?_, after, rfl⟩
      · simp [Store.get?, named]
      · simp [Store.get?]
    · refine ⟨since ++ Store.changes m (edit.apply m), ?_, ?_⟩
      · rw [← List.append_assoc, ← mine]
      · rw [← List.append_assoc, ← other]
        rfl

namespace Azure

variable {α β γ δ ε : Type} {first second : String}

/-- Requests that differ in nothing but the name of a record. -/
inductive Request.Renamed (first second : String) : Pairing requests where
  | connect (credentials : Credentials) :
      Renamed first second (Request.connect credentials) (Request.connect credentials) Eq
  | call (credentials : Credentials) (what : Call) :
      Renamed first second (Request.call credentials what) (Request.call credentials what) Eq
  | commit (edit : FinalizerEdit) :
      Renamed first second (Request.commit first edit) (Request.commit second edit)
        (Outcomes (Machine.Renamed first second) (CloudError.Renamed first second))

/-- Errors of which the attempt says the name, if they differ at all. -/
inductive AzureError.Renamed (first second : String) : AzureError → AzureError → Prop where
  | same (fault : AzureError) : Renamed first second fault fault
  | context (fault : AzureError) (attempt : String) : Renamed first second
      (fault.context (attempt ++ Text.quote first)) (fault.context (attempt ++ Text.quote second))

/-- Where an attempt stands in the text of an error, if it is in it. -/
theorem AzureError.toCloud_context (fault : AzureError) :
    (∀ attempt, fault.context attempt = fault) ∨
    (∃ detail, ∀ attempt,
      (fault.context attempt).toCloud = .invalidConfig (attempt ++ ": " ++ detail)) ∨
    ∃ before detail, ∀ attempt,
      (fault.context attempt).toCloud = .api (before ++ (attempt ++ ": " ++ detail)) := by
  cases fault with
  | http | auth | json | cloud => exact .inl fun _ => rfl
  | invalidConfig detail => exact .inr (.inl ⟨detail, fun _ => rfl⟩)
  | notFound detail => exact .inr (.inr ⟨"Resource not found: ", detail, fun _ => rfl⟩)
  | timeout detail => exact .inr (.inr ⟨"Operation timed out: ", detail, fun _ => rfl⟩)
  | api status code detail =>
      exact .inr (.inr ⟨"Azure API error (" ++ toString status ++ ") " ++ code ++ ": ", detail,
        fun _ => rfl⟩)

theorem AzureError.Renamed.toCloud {fault other : AzureError}
    (renamed : AzureError.Renamed first second fault other) :
    CloudError.Renamed first second fault.toCloud other.toCloud := by
  cases renamed with
  | same => exact .same _
  | context fault attempt =>
      have shown : Text.Renamed first second (attempt ++ Text.quote first)
          (attempt ++ Text.quote second) := by
        simpa using Text.Renamed.quoted attempt ""
      rcases fault.toCloud_context with silent | ⟨detail, text⟩ | ⟨before, detail, text⟩
      · rw [silent, silent]
        exact .same _
      · rw [text, text]
        exact .invalidConfig ((shown.append ": ").append detail)
      · rw [text, text]
        exact .api (((shown.append ": ").append detail).prepend before)

/-- Two programs that may fail make the same requests but for the name of a record, and end with
values or with faults that belong together. -/
def Agree (first second : String) (values : α → β → Prop) (faults : ε → δ → Prop)
    (act : ExceptT ε Asking α) (other : ExceptT δ Asking β) : Prop :=
  act.run.Alike (Request.Renamed first second) (Outcomes values faults) other.run

namespace Agree

variable {values : α → β → Prop} {faults : ε → δ → Prop}

theorem pure {value : α} {other : β} (met : values value other) :
    Agree first second values faults (pure value) (pure other) := .done (.ok met)

theorem throw {fault : ε} {other : δ} (met : faults fault other) :
    Agree first second values faults (throw fault) (throw other) := .done (.error met)

theorem bind {α' β' : Type} {between : α' → β' → Prop} {act : ExceptT ε Asking α'}
    {other : ExceptT δ Asking β'} {next : α' → ExceptT ε Asking α}
    {following : β' → ExceptT δ Asking β} (begun : Agree first second between faults act other)
    (later : ∀ value other, between value other →
      Agree first second values faults (next value) (following other)) :
    Agree first second values faults (act >>= next) (other >>= following) := by
  refine Program.Alike.bind begun fun outcome ended met => ?_
  cases met with
  | ok met => exact later _ _ met
  | error met => exact .done (.error met)

theorem faulting {wider : ε → δ → Prop} {act : ExceptT ε Asking α} {other : ExceptT δ Asking β}
    (agree : Agree first second values faults act other)
    (implies : ∀ fault other, faults fault other → wider fault other) :
    Agree first second values wider act other := by
  refine Program.Alike.mono agree fun outcome ended met => ?_
  cases met with
  | ok met => exact .ok met
  | error met => exact .error (implies _ _ met)

/-- Errors that are reported in two ways. -/
theorem adapt {faults : AzureError → AzureError → Prop} {wider : ε → δ → Prop} {act : Action α}
    {other : Action β} {report : AzureError → ε} {account : AzureError → δ}
    (agree : Agree first second values faults act other)
    (implies : ∀ fault other, faults fault other → wider (report fault) (account other)) :
    Agree first second values wider (act.adapt report) (other.adapt account) := by
  refine Program.Alike.bind agree fun outcome ended met => ?_
  cases met with
  | ok met => exact .done (.ok met)
  | error met => exact .done (.error (implies _ _ met))

/-- Equal errors that are reported in one way. -/
theorem reporting {act : Action α} {other : Action β} {report : AzureError → CloudError}
    (agree : Agree first second values Eq act other) :
    Agree first second values Eq (act.reporting report) (other.reporting report) :=
  .adapt agree fun _ _ => congrArg report

theorem outcome (outcome : Except ε α) : Outcomes Eq Eq outcome outcome := by
  cases outcome with
  | ok value => exact .ok rfl
  | error fault => exact .error rfl

theorem call (c : Config) (what : Call) :
    Agree first second Eq Eq (Action.call c what) (Action.call c what) := by
  refine .ask (.call _ _) ?_
  rintro answer _ rfl
  exact .done (outcome answer)

theorem connect (c : Config) :
    Agree first second Eq Eq (Action.connect c) (Action.connect c) := by
  refine .ask (.connect _) ?_
  rintro answer _ rfl
  exact .done (outcome answer)

/-- What only reads has nothing to do with names of records. -/
theorem reading {act : Action α} (reads : Reading act.run) :
    Agree first second Eq Eq act act := by
  unfold Agree
  generalize act.run = program at reads
  induction reads with
  | done ended => exact .done (outcome ended)
  | @call credentials what next _ fails _ ih =>
      refine .ask (.call _ _) ?_
      rintro (fault | value) _ rfl
      · obtain ⟨other, ended⟩ := fails fault
        rw [ended]
        exact .done (.error rfl)
      · exact ih value

theorem known {outcome : Except ε γ} {next : γ → ExceptT ε Asking α}
    {following : γ → ExceptT ε Asking β}
    (later : ∀ value, outcome = .ok value →
      Agree first second values Eq (next value) (following value)) :
    Agree first second values Eq (liftExcept outcome >>= next)
      (liftExcept outcome >>= following) := by
  cases outcome with
  | ok value => exact later value rfl
  | error fault => exact throw rfl

end Agree

namespace Recorded

/-- Two parts of an operation, on records that differ in nothing but their names, make the same
requests but for the name, and end with copies that differ in nothing but their names. -/
def Agree (first second : String) (values : α → β → Prop) (part : Recorded Asking α)
    (other : Recorded Asking β) : Prop :=
  ∀ m, m.name = first →
    (part.run.run m).Alike (Request.Renamed first second)
      (fun result ended => Outcomes values (CloudError.Renamed first second) result.1 ended.1 ∧
        Machine.Renamed first second result.2 ended.2)
      (other.run.run { m with name := second })

namespace Agree

variable {values : α → β → Prop}

theorem pure {value : α} {other : β} (met : values value other) :
    Recorded.Agree first second values (pure value) (pure other) :=
  fun _ named => .done ⟨.ok met, named, rfl⟩

theorem bind {between : γ → δ → Prop} {part : Recorded Asking γ} {other : Recorded Asking δ}
    {next : γ → Recorded Asking α} {following : δ → Recorded Asking β}
    (begun : Recorded.Agree first second between part other)
    (later : ∀ value other, between value other →
      Recorded.Agree first second values (next value) (following other)) :
    Recorded.Agree first second values (part >>= next) (other >>= following) := by
  intro m named
  refine Program.Alike.bind (begun m named) ?_
  rintro ⟨outcome, n⟩ ⟨ended, p⟩ ⟨met, still, same⟩
  cases same
  cases met with
  | ok met => exact later _ _ met n still
  | error met => exact .done ⟨.error met, still, rfl⟩

/-- Both look at their copies. -/
theorem copy {next : Machine → Recorded Asking α} {following : Machine → Recorded Asking β}
    (later : ∀ m, m.name = first → Recorded.Agree first second values (next m)
      (following { m with name := second })) :
    Recorded.Agree first second values (getThe Machine >>= next)
      (getThe Machine >>= following) :=
  fun m named => later m named m named

theorem settle {outcome : Except CloudError γ} {next : γ → Recorded Asking α}
    {following : γ → Recorded Asking β}
    (later : ∀ value, outcome = .ok value →
      Recorded.Agree first second values (next value) (following value)) :
    Recorded.Agree first second values (settle outcome >>= next)
      (settle outcome >>= following) := by
  cases outcome with
  | ok value => exact later value rfl
  | error fault => exact fun m named => .done ⟨.error (.same fault), named, rfl⟩

theorem recorded {act : Action α} {other : Action β}
    (agree : Azure.Agree first second values (AzureError.Renamed first second) act other) :
    Recorded.Agree first second values (act.recorded AzureError.toCloud)
      (other.recorded AzureError.toCloud) := by
  intro m named
  refine Program.Alike.bind agree fun outcome ended met => ?_
  cases met with
  | ok met => exact .done ⟨.ok met, named, rfl⟩
  | error met => exact .done ⟨.error met.toCloud, named, rfl⟩

/-- Each commits to its own record. -/
theorem update (edit : FinalizerEdit) :
    Recorded.Agree first second Eq (Ledger.update commit edit) (Ledger.update commit edit) := by
  intro m named
  cases named
  refine .ask (.commit edit) fun answer given met => ?_
  cases met with
  | ok renamed => exact .done ⟨.ok rfl, renamed⟩
  | error met => exact .done ⟨.error met, rfl, rfl⟩

theorem disown (owned : Owned) :
    Recorded.Agree first second Eq (disown owned) (disown owned) := by
  refine .copy fun m _ => ?_
  change Recorded.Agree first second Eq (if m.hasFinalizer owned.finalizer then _ else _)
    (if m.hasFinalizer owned.finalizer then _ else _)
  split
  · exact update _
  · exact .pure rfl

end Agree

end Recorded

namespace Cleanup

theorem deleteAll_agrees {delete : String → Action Unit}
    (each : ∀ name, Agree first second Eq Eq (delete name) (delete name)) (names : List String) :
    Agree first second Eq Eq (deleteAll delete names) (deleteAll delete names) := by
  induction names with
  | nil => exact .pure rfl
  | cons name rest ih => exact .bind (each name) fun _ _ _ => ih

/-- What is listed is deleted by the names that it has at the backend. -/
theorem deleteListed_agrees (c : Config) {listing : Call} {names : listing.Value → List String}
    {delete : String → Action Unit}
    (each : ∀ name, Agree first second Eq Eq (delete name) (delete name)) :
    Agree first second Eq Eq (Action.call c listing >>= fun found => deleteAll delete (names found))
      (Action.call c listing >>= fun found => deleteAll delete (names found)) := by
  refine .bind (.call c listing) fun found _ same => ?_
  cases same
  exact deleteAll_agrees each _

theorem vmExists_agrees (c : Config) (uid : String) :
    Agree first second Eq Eq (vmExists c uid) (vmExists c uid) := by
  refine Program.Alike.bind (Agree.reading (Lookup.vm_reading c uid)) fun outcome ended met => ?_
  cases met with
  | ok met => exact .done (.ok rfl)
  | error same =>
      cases same
      exact .done (Agree.outcome _)

theorem delete_agrees (c : Config) (uid : String) (kind : Owned) :
    Agree first second Eq (AzureError.Renamed first second) (delete c first uid kind)
      (delete c second uid kind) := by
  have said (attempt : String) (fault other : AzureError) (same : fault = other) :
      AzureError.Renamed first second (fault.context (attempt ++ Text.quote first))
        (other.context (attempt ++ Text.quote second)) :=
    same ▸ .context fault attempt
  cases kind with
  | vm =>
      refine .bind ((vmExists_agrees c uid).faulting fun fault _ same => same ▸ .same fault) ?_
      rintro found _ rfl
      split
      · exact .adapt (deleteListed_agrees c fun name => .call c (.deleteVm _ name)) (said _)
      · exact .pure rfl
  | disks => exact .adapt (deleteListed_agrees c fun name => .call c (.deleteDisk _ name)) (said _)
  | nic => exact .adapt (deleteListed_agrees c fun name => .call c (.deleteNic _ name)) (said _)
  | publicIp | publicIpv6 =>
      exact .adapt (deleteListed_agrees c fun name => .call c (.deletePublicIp _ name)) (said _)

theorem tearDown_agrees (c : Config) (uid : String) (kinds : List Owned) :
    Recorded.Agree first second Eq (tearDown c first uid kinds) (tearDown c second uid kinds) := by
  induction kinds with
  | nil => exact .pure rfl
  | cons kind rest ih =>
      refine .bind (.recorded (delete_agrees c uid kind)) fun _ _ _ => ?_
      exact .bind (.disown kind) fun _ _ _ => ih

end Cleanup

/-- A teardown asks for the same whatever the machine is named. -/
theorem cleanup_agrees (sources : Sources) :
    Recorded.Agree first second Eq (cleanup sources) (cleanup sources) := by
  refine .copy fun m named => .settle fun ⟨c, e⟩ _ => ?_
  refine .bind (.recorded ((Agree.connect c).faulting fun fault _ same => same ▸ .same fault))
    fun _ _ _ => ?_
  cases named
  refine .bind (Cleanup.tearDown_agrees c m.uid (Owned.remaining m)) fun _ _ _ => ?_
  exact .copy fun left _ => .pure rfl

/-- A look-up asks for the same and ends with the same whatever the machine is named. -/
theorem get_agrees (sources : Sources) (m : Machine) :
    Agree first second Eq Eq (get sources m) (get sources { m with name := second }) := by
  refine .known fun ⟨c, e⟩ _ => .bind (.reporting (.connect c)) fun _ _ _ => ?_
  refine .bind (.reporting (.reading (Lookup.vm_reading c m.uid))) ?_
  rintro vm _ rfl
  exact .reporting (.reading (Lookup.instanceOf_reading c vm))

section Worlds

variable {past earlier : List FinalizerChange}

/-- The call that a request makes. -/
def Request.call? : Request → Option Call
  | .call _ what => some what
  | _ => none

/-- The calls that a program makes when it runs, in order. -/
def World.calls (service : Service β) (program : Asking α) (w : World β) : List Call :=
  (program.asked (World.serve service) w).filterMap Request.call?

/-- Worlds of the same backend in which the same record is stored under two names. -/
structure World.Renamed (first second : String) (past earlier : List FinalizerChange)
    (w v : World β) : Prop where
  backend : w.backend = v.backend
  store : Store.Renamed first second past earlier w.store v.store

/-- Requests that differ in nothing but the name are answered in the same way. -/
theorem Request.Renamed.served {q r : Request} {answers : q.Answer → r.Answer → Prop}
    {w v : World β} (service : Service β) (request : Request.Renamed first second q r answers)
    (renamed : World.Renamed first second past earlier w v) :
    answers (World.serve service q w).1 (World.serve service r v).1 ∧
    World.Renamed first second past earlier (World.serve service q w).2
      (World.serve service r v).2 := by
  obtain ⟨same, store⟩ := renamed
  cases request with
  | connect credentials =>
      simp only [World.serve, same]
      exact ⟨rfl, rfl, store⟩
  | call credentials what =>
      simp only [World.serve, same]
      exact ⟨rfl, rfl, store⟩
  | commit edit =>
      obtain ⟨answered, after⟩ := store.commit edit
      exact ⟨answered, same, after⟩

/-- The calls among requests that differ in nothing but the name are the same. -/
theorem Request.Renamed.calls {asked demanded : List Request}
    (paired : List.Forall₂ (fun q r => ∃ answers, Request.Renamed first second q r answers)
      asked demanded) :
    asked.filterMap Request.call? = demanded.filterMap Request.call? := by
  induction paired with
  | nil => rfl
  | cons request _ ih =>
      obtain ⟨answers, renamed⟩ := request
      cases renamed with
      | connect | commit => exact ih
      | call credentials what => exact congrArg (what :: ·) ih

/-- When a machine has another name, and its record is in sync under either name, then a teardown
makes the same calls and leaves the same resources, finalizers and history, and ends with the same
result but for the name in an error; and a look-up makes the same calls and finds the same. -/
theorem survives_renaming (service : Service β) (sources : Sources) {m : Machine} {other : String}
    {w v : World β} (backend : w.backend = v.backend)
    (rejections : w.store.rejections = v.store.rejections)
    (stored : w.store.get? m.name = some m)
    (renamed : v.store.get? other = some { m with name := other }) :
    (let teardown := (cleanup sources).run.run m
      let another := (cleanup sources).run.run { m with name := other }
      let ended := World.run service teardown w
      let last := World.run service another v
      World.calls service teardown w = World.calls service another v ∧
      World.Renamed m.name other w.store.history v.store.history ended.2 last.2 ∧
      Machine.Renamed m.name other ended.1.2 last.1.2 ∧
      Outcomes Eq (CloudError.Renamed m.name other) ended.1.1 last.1.1) ∧
    (let lookup := (get sources m).run
      let another := (get sources { m with name := other }).run
      World.calls service lookup w = World.calls service another v ∧
      (World.run service lookup w).2.backend = (World.run service another v).2.backend ∧
      (World.run service lookup w).1 = (World.run service another v).1) := by
  have here : World.Renamed m.name other w.store.history v.store.history w v :=
    ⟨backend, rejections, ⟨m, _, stored, renamed, rfl, rfl⟩, [], by simp, by simp⟩
  constructor
  · have agree : Recorded.Agree m.name other Eq (cleanup sources) (cleanup sources) :=
      cleanup_agrees sources
    obtain ⟨⟨ended, copies⟩, after, paired⟩ := (agree m rfl).run
      (fun q r answers w v request renamed => request.served service renamed) here
    exact ⟨Request.Renamed.calls paired, after, copies, ended⟩
  · have agree : Agree m.name other Eq Eq (get sources m) (get sources { m with name := other }) :=
      get_agrees sources m
    obtain ⟨ended, after, paired⟩ := Program.Alike.run agree
      (fun q r answers w v request renamed => request.served service renamed) here
    exact ⟨Request.Renamed.calls paired, after.backend, ended.eq⟩

end Worlds

namespace Sample

/-- A machine with the same identity. -/
def namesake : Machine := { owner with name := "n" }

/-- The same backend, of which the next disk cannot be deleted. -/
def likewise : World Backend := { busy with store := Store.empty.insert namesake }

/-- The end of the teardown of this machine. -/
def impeded : (Except CloudError Bool × Machine) × World Backend :=
  World.run Backend.service ((cleanup sources).run.run namesake) likewise

/-- What a teardown says about the disks of a machine. -/
def complaint (name : String) : CloudError :=
  .api ("Azure API error (409) Conflict: failed to remove disks of machine " ++ Text.quote name ++
    ": try again")

end Sample

/-- Both teardowns stop at the disks, and each says its own name. -/
theorem survives_renaming_stuck :
    Sample.busy.store.get? Sample.owner.name = some Sample.owner ∧
    Sample.likewise.store.get? "n" = some Sample.namesake ∧
    Sample.stuck.1.1 = .error (Sample.complaint "m") ∧
    Sample.impeded.1.1 = .error (Sample.complaint "n") ∧
    (Sample.complaint "m").Renamed "m" "n" (Sample.complaint "n") ∧
    Sample.stuck.2.backend = Sample.impeded.2.backend := by
  have stored : Sample.busy.store.get? Sample.owner.name = some Sample.owner := rfl
  have renamed : Sample.likewise.store.get? "n" = some Sample.namesake := rfl
  obtain ⟨⟨_, after, _, ended⟩, _⟩ := survives_renaming (w := Sample.busy)
    (v := Sample.likewise) Backend.service Sample.sources rfl rfl stored renamed
  have first : Sample.stuck.1.1 = .error (Sample.complaint "m") := by decide +kernel
  have last : Sample.impeded.1.1 = .error (Sample.complaint "n") := by decide +kernel
  change Outcomes Eq (CloudError.Renamed "m" "n") Sample.stuck.1.1 Sample.impeded.1.1 at ended
  rw [first, last] at ended
  cases ended with
  | error faults => exact ⟨stored, renamed, first, last, faults, after.backend⟩

end Azure

end Provisioning
