import Provisioning.Proofs.Validation
import Provisioning.Proofs.Verdict

/-!
Operations that change nothing: validation, look-ups, the configuration of the cloud controller,
labels and defaults. Whatever they are asked about and whichever faults are placed, and wherever
they are cut off, resources and records are as before and nothing was asked of the backend but to
read. Main statement: `inspections_read`.
-/

namespace Provisioning

/-- The error says that a configuration is invalid. -/
def CloudError.IsInvalid (fault : CloudError) : Prop := ∃ text, fault = .invalidConfig text

namespace Azure

open Program (Reaches Course)

variable {α β : Type}

/-! ### Operations that read -/

/-- What is asked about a machine or its configuration. -/
inductive Inspection where
  | validate (spec : ProviderSpec)
  | get (m : Machine)
  | cloudConfig (spec : ProviderSpec)
  | metricsLabels (m : Machine)
  | addDefaults (spec : ProviderSpec)

namespace Inspection

def Answer : Inspection → Type
  | validate _ => Except CloudError Unit
  | get _ => Except CloudError Instance
  | cloudConfig _ => Except CloudError CloudConfig
  | metricsLabels _ => MetricsLabels
  | addDefaults _ => ProviderSpec

/-- What the provider does to answer. -/
def program (sources : Sources) : (i : Inspection) → Asking i.Answer
  | validate spec => (Azure.validate sources spec).run
  | get m => (Azure.get sources m).run
  | cloudConfig spec => pure (Azure.cloudConfig sources spec)
  | metricsLabels m => pure (Azure.metricsLabels sources m)
  | addDefaults spec => pure (Azure.addDefaults spec)

end Inspection

/-! ### Programs that read -/

/-- A request that changes neither resources nor records. -/
def Request.Reads (q : Request) : Prop := q.isWrite = false

/-- An answer as the backend in memory may give it: it makes a client for everybody. -/
def Request.Served : (q : Request) → q.Answer → Prop
  | .connect _, answer => answer = .ok ()
  | _, _ => True

/-- A validation that fails says that the configuration is invalid. -/
def Inspection.Fair : (i : Inspection) → i.Answer → Prop
  | .validate _, .error fault => fault.IsInvalid
  | _, _ => True

namespace Fails

variable {ε : Type} {sound : (q : Request) → q.Answer → Prop} {allowed : Request → Prop}
  {possible : ε → Prop}

/-- What is asked besides calls and clients does not fail. -/
theorem asking {q : Request} {next : q.Answer → ExceptT ε Asking α} (permitted : allowed q)
    (rest : ∀ answer, Fails sound allowed possible (next answer)) :
    Fails sound allowed possible ((ask q : Asking q.Answer) >>= next) :=
  ⟨permitted, fun answer _ => rest answer⟩

/-- What only reads may fail with whatever was placed as a fault. -/
theorem of_reading {act : Action α} (reading : Reading act.run)
    (permitted : ∀ credentials (what : Call), what.isWrite = false →
      allowed (.call credentials what)) : Fails sound allowed (fun _ => True) act := by
  unfold Fails
  generalize act.run = program at reading
  induction reading with
  | done outcome => exact fun _ _ => trivial
  | @call credentials what next reads fails _ ih =>
      refine ⟨permitted credentials what reads, fun answer _ => ?_⟩
      cases answer with
      | ok value => exact ih value
      | error fault =>
          obtain ⟨other, ended⟩ := fails fault
          rw [ended]
          exact fun _ _ => trivial

/-- What is settled without a request. -/
theorem settled {outcome : Except ε α} (failed : FailsOnly possible outcome) :
    Fails sound allowed possible (liftExcept outcome) := by
  cases outcome with
  | ok value => exact .pure value
  | error fault => exact .throw (failed fault rfl)

/-- A failure is reported as an invalid configuration. -/
theorem invalid {act : Action α} (fails : Fails sound allowed (fun _ => True) act)
    (attempt : String) :
    Fails sound allowed CloudError.IsInvalid (act.reporting (Validate.invalid attempt)) :=
  .adapt (fails.mono fun _ _ => ⟨_, rfl⟩)

end Fails

/-- A program that reads and, as long as everybody is given a client, fails only with possible
errors. -/
abbrev Inspects {ε : Type} (possible : ε → Prop) (act : ExceptT ε Asking α) : Prop :=
  Fails Request.Served Request.Reads possible act

namespace Inspects

theorem of_reading {act : Action α} (reading : Reading act.run) : Inspects (fun _ => True) act :=
  Fails.of_reading reading fun _ _ reads => reads

theorem call {c : Config} {what : Call} (reads : what.isWrite = false) :
    Inspects (fun _ => True) (Action.call c what) :=
  of_reading (.ofCall c reads)

/-- Everybody is given a client. -/
theorem connect {ε : Type} {possible : ε → Prop} {c : Config} {report : AzureError → ε} :
    Inspects possible ((Action.connect c).adapt report) := by
  refine ⟨rfl, ?_⟩
  rintro _ rfl
  exact nofun

end Inspects

/-- Whatever is reported as an invalid configuration is one. -/
theorem Validate.invalid_fails (outcome : Except AzureError α) (attempt : String) :
    FailsOnly CloudError.IsInvalid (outcome.mapError (invalid attempt)) :=
  .mapError fun _ _ => ⟨_, rfl⟩

namespace Validate

theorem size_inspects (c : Config) : Inspects (fun _ => True) (size c) := by
  refine .asking rfl fun found => ?_
  cases found with
  | some size => exact .pure size
  | none =>
      refine .bind (Inspects.call rfl) fun offered => ?_
      exact .bind (.settled fun _ _ => trivial) fun size => .asking rfl fun _ => .pure size

theorem diskSkus_inspects (c : Config) : Inspects (fun _ => True) (diskSkus c) := by
  unfold diskSkus
  split
  · exact .pure ()
  · exact .bind (.adapt (size_inspects c)) fun size => .settled fun _ _ => trivial

theorem image_inspects (c : Config) (os : OperatingSystem) :
    Inspects CloudError.IsInvalid (image c os) :=
  .bind (.settled (invalid_fails _ _)) fun _ => .invalid (Inspects.call rfl) _

theorem remote_inspects (c : Config) (e : Envelope) :
    Inspects CloudError.IsInvalid (remote c e) := by
  refine .bind (.invalid (Inspects.call rfl) _) fun _ => ?_
  refine .bind (.invalid (Inspects.call rfl) _) fun _ => ?_
  refine .bind (.invalid (Inspects.call rfl) _) fun _ => ?_
  exact .bind (.invalid (diskSkus_inspects c) _) fun _ => image_inspects c _

theorem required_fails (c : Config) : FailsOnly CloudError.IsInvalid (required c) := by
  unfold required
  split
  · exact .error ⟨_, rfl⟩
  · exact .ok ()

theorem ensureKnown_fails (family : IpFamily) :
    FailsOnly CloudError.IsInvalid family.ensureKnown := by
  unfold IpFamily.ensureKnown
  split
  · exact .error ⟨_, rfl⟩
  · exact .ok ()

theorem ensureNotIpv6Only_fails (family : IpFamily) :
    FailsOnly CloudError.IsInvalid family.ensureNotIpv6Only := by
  unfold IpFamily.ensureNotIpv6Only
  split
  · exact .error ⟨_, rfl⟩
  · exact .ok ()

end Validate

theorem validate_inspects (sources : Sources) (spec : ProviderSpec) :
    Inspects CloudError.IsInvalid (validate sources spec) := by
  refine .bind (.settled (Validate.invalid_fails _ _)) fun (c, e) => ?_
  refine .bind (.settled (Validate.required_fails c)) fun _ => ?_
  refine .bind (.settled (Validate.ensureKnown_fails _)) fun _ => ?_
  refine .bind (.settled (Validate.ensureNotIpv6Only_fails _)) fun _ => ?_
  exact .bind Inspects.connect fun _ => Validate.remote_inspects c e

theorem get_inspects (sources : Sources) (m : Machine) :
    Inspects (fun _ => True) (get sources m) := by
  refine .bind (.settled fun _ _ => trivial) fun (c, e) => .bind Inspects.connect fun _ => ?_
  refine .bind (.adapt (Inspects.of_reading (Lookup.vm_reading c _))) fun vm => ?_
  exact .adapt (Inspects.of_reading (Lookup.instanceOf_reading c vm))

/-- Whatever the provider does to answer, it only reads, and its errors are fair. -/
theorem Inspection.tells (sources : Sources) (i : Inspection) :
    (i.program sources).Tells Request.Reads Request.Served fun _ answer => i.Fair answer := by
  cases i with
  | validate spec =>
      refine Program.Tells.mono ?_ (validate_inspects sources spec)
      rintro _ (fault | _) fails
      · exact fails fault rfl
      · exact trivial
  | get m => exact Program.Tells.mono (fun _ _ _ => trivial) (get_inspects sources m)
  | cloudConfig | metricsLabels | addDefaults => exact trivial

/-! ### What a program that reads leaves -/

/-- The operation of a call is named for putting, deleting or tagging. -/
def Call.Mutates (what : Call) : Prop :=
  ∃ verb ∈ ["put_", "delete_", "tag_"], verb.toList <+: what.operation.toList

/-- The calls that may change resources are known by their names. -/
theorem Call.mutates_iff {what : Call} : what.Mutates ↔ what.isWrite = true := by
  unfold Call.Mutates
  cases what <;> simp only [Call.operation, Call.isWrite] <;> decide

/-- Resources and records are as before, and the calls in between read. -/
structure Untouched (w v : World Backend) : Prop where
  resources : v.backend.resources = w.backend.resources
  records : v.store.records = w.store.records
  history : v.store.history = w.store.history
  calls : ∃ calls, v.backend.log = w.backend.log ++ calls ∧ ∀ what ∈ calls, ¬what.Mutates

namespace Untouched

variable {w v u : World Backend}

theorem refl (w : World Backend) : Untouched w w :=
  ⟨rfl, rfl, rfl, [], (List.append_nil _).symm, List.forall_mem_nil _⟩

theorem trans (first : Untouched w v) (last : Untouched v u) : Untouched w u := by
  obtain ⟨calls, logged, read⟩ := first.calls
  obtain ⟨later, appended, also⟩ := last.calls
  refine ⟨last.resources.trans first.resources, last.records.trans first.records,
    last.history.trans first.history, calls ++ later, ?_, List.forall_mem_append.2 ⟨read, also⟩⟩
  rw [appended, logged, List.append_assoc]

/-- A request that reads. -/
theorem serve {q : Request} (reads : q.Reads) (w : World Backend) :
    Untouched w (World.serve Backend.service q w).2 := by
  have resources := World.resources_serve (w := w) reads
  cases q with
  | call credentials what =>
      have read : ¬what.Mutates := by
        rw [Call.mutates_iff, Bool.not_eq_true]
        exact reads
      refine ⟨resources, rfl, rfl, [what], log_serve_call credentials what w, ?_⟩
      exact List.forall_mem_singleton.2 read
  | connect | recallSize | rememberSize | throwawayBytes =>
      exact ⟨resources, rfl, rfl, [], (List.append_nil _).symm, List.forall_mem_nil _⟩
  | commit => cases reads

/-- A fault is placed or a rejection ordered. -/
theorem faulted {possible : AzureError → Prop} (change : Faulted possible w v) :
    Untouched w v := by
  cases change with
  | call | update => exact ⟨rfl, rfl, rfl, [], (List.append_nil _).symm, List.forall_mem_nil _⟩

end Untouched

/-- The backend in memory gives a client to everybody. -/
theorem Request.served_serve (q : Request) (w : World Backend) :
    q.Served (World.serve Backend.service q w).1 := by
  cases q with
  | connect => exact rfl
  | call | commit | recallSize | rememberSize | throwawayBytes => exact trivial

/-- Whatever is asked about, and whichever faults are placed before or meanwhile, nothing is changed
wherever it is cut off, and a validation that fails says that the configuration is invalid. -/
theorem inspections_read {sources : Sources} {i : Inspection} {w v : World Backend}
    {left : Asking i.Answer}
    (reached : Reaches (World.serve Backend.service) (Faulted fun _ => True)
      (i.program sources) w left v) :
    Untouched w v ∧ ∀ answer, left = .done answer → i.Fair answer := by
  obtain ⟨had, course⟩ := Course.exists_of_reaches reached
  have keeps : ∀ {q s}, q.Reads → Untouched w s →
      q.Served (World.serve Backend.service q s).1 ∧
        Untouched w (World.serve Backend.service q s).2 :=
    fun {q s} reads before => ⟨q.served_serve s, before.trans (.serve reads s)⟩
  have ⟨untouched, goesOn⟩ := course.tells (i.tells sources) (.refl w)
    (fun before change => before.trans (.faulted change)) keeps
  refine ⟨untouched, ?_⟩
  rintro answer rfl
  exact goesOn

namespace Sample

/-- The image of the specification is not to be had. -/
def imageless : World Backend :=
  { networked with
    backend := networked.backend.failNext "check_image" (.notFound "no such image") }

end Sample

/-- A validation fails at its last call. -/
theorem inspections_read_imageless :
    let ended := World.run Backend.service (validate Sample.sources Sample.complete).run
      Sample.imageless
    ended.1 = .error (.invalidConfig "failed to get image: Resource not found: no such image") ∧
      Untouched Sample.imageless ended.2 ∧
      (Inspection.validate Sample.complete).Fair ended.1 := by
  intro ended
  have reached : Reaches (World.serve Backend.service) (Faulted fun _ => True)
      ((Inspection.validate Sample.complete).program Sample.sources) Sample.imageless
      (.done ended.1) ended.2 := Program.reaches_run _ _
  have ⟨untouched, fair⟩ := inspections_read reached
  exact ⟨by decide +kernel, untouched, fair _ rfl⟩

end Azure

end Provisioning
