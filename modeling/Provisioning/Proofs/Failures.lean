import Provisioning.Azure.Provider.Cleanup
import Provisioning.Azure.Provider.Inspect
import Provisioning.Azure.Provider.MigrateUid
import Provisioning.Proofs.Course
import Provisioning.Proofs.Requests

/-!
How an error of the backend becomes the error of an operation. The errors of the backend are plain:
none is an error of machine operations itself. `Recorded.Tells` and `Fails` say of a part of an
operation what its result has to do with what was asked and answered; there is one rule for each way
to put parts together.
-/

namespace Provisioning

variable {α β : Type}

/-- A result that fails only with possible errors. -/
def FailsOnly {ε : Type} (possible : ε → Prop) (outcome : Except ε α) : Prop :=
  ∀ fault, outcome = .error fault → possible fault

namespace FailsOnly

variable {ε δ : Type} {possible : ε → Prop}

theorem ok (value : α) : FailsOnly possible (.ok value : Except ε α) := nofun

theorem error {fault : ε} (met : possible fault) :
    FailsOnly possible (.error fault : Except ε α) := by
  rintro _ ⟨⟩
  exact met

theorem bind {outcome : Except ε α} {next : α → Except ε β} (first : FailsOnly possible outcome)
    (rest : ∀ value, FailsOnly possible (next value)) : FailsOnly possible (outcome >>= next) := by
  cases outcome with
  | ok value => exact rest value
  | error fault => exact error (first fault rfl)

theorem map {outcome : Except ε α} {change : α → β} (met : FailsOnly possible outcome) :
    FailsOnly possible (outcome.map change) := by
  cases outcome with
  | ok value => exact ok _
  | error fault => exact error (met fault rfl)

theorem mapError {outcome : Except δ α} {report : δ → ε}
    (met : FailsOnly (fun fault => possible (report fault)) outcome) :
    FailsOnly possible (outcome.mapError report) := by
  cases outcome with
  | ok value => exact ok value
  | error fault => exact error (met fault rfl)

end FailsOnly

/-- An error that does not say not to try again. -/
def CloudError.Retriable (fault : CloudError) : Prop := fault.terminalReason? = none

/-- Look-ups of secrets and config maps never say not to try again. -/
structure Sources.Retriable (sources : Sources) : Prop where
  secret : ∀ ref, FailsOnly CloudError.Retriable (sources.secret ref)
  configMap : ∀ ref, FailsOnly CloudError.Retriable (sources.configMap ref)

namespace Sources.Retriable

variable {sources : Sources}

theorem referenced (retriable : sources.Retriable) (secret configMap : Option KeyRef) :
    FailsOnly CloudError.Retriable (sources.referenced secret configMap) := by
  unfold Sources.referenced
  split
  · refine .map (.bind (retriable.secret _) fun found => ?_)
    cases found with
    | some value => exact .ok value
    | none => exact .error rfl
  · refine .map (.bind (retriable.configMap _) fun found => ?_)
    cases found with
    | some value => exact .ok value
    | none => exact .error rfl
  · exact .ok none

theorem string (retriable : sources.Retriable) (v : StringVar) :
    FailsOnly CloudError.Retriable (sources.string v) := by
  unfold Sources.string
  split
  · exact .map (retriable.referenced _ _)
  · exact .ok _

theorem stringOrEnv (retriable : sources.Retriable) (v : StringVar) (default : String) :
    FailsOnly CloudError.Retriable (sources.stringOrEnv v default) := by
  refine .bind (retriable.string v) fun value => ?_
  split
  · exact .ok _
  · exact .ok _

theorem bool (retriable : sources.Retriable) (v : BoolVar) :
    FailsOnly CloudError.Retriable (sources.bool v) := by
  unfold Sources.bool
  split
  · exact .ok _
  · refine .bind (retriable.referenced _ _) fun found => ?_
    cases found with
    | none => exact .ok none
    | some raw =>
        refine .map ?_
        unfold Sources.parseBool
        dsimp only
        split
        · exact .ok true
        · split
          · exact .ok false
          · exact .error rfl

end Sources.Retriable

namespace Azure

open Program (Course Exchange)

namespace AzureError

variable {fault : AzureError} {attempt : String} {reason : TerminalReason}

/-- An error that the backend raised, not one of machine operations that it carries. -/
def Plain (fault : AzureError) : Prop := ∀ inner, fault ≠ .cloud inner

theorem Plain.notFound {detail : String} : (AzureError.notFound detail).Plain := nofun

theorem Plain.api {status : Nat} {code detail : String} :
    (AzureError.api status code detail).Plain :=
  nofun

theorem Plain.context (plain : fault.Plain) (attempt : String) : (fault.context attempt).Plain := by
  cases fault with
  | cloud inner => exact absurd rfl (plain inner)
  | notFound | api | http | auth | timeout | invalidConfig | json => nofun

@[simp] theorem terminalReason?_context :
    (fault.context attempt).terminalReason? = fault.terminalReason? := by
  cases fault <;> rfl

@[simp] theorem terminalReason?_toCloud_context :
    (fault.context attempt).toCloud.terminalReason? = fault.toCloud.terminalReason? := by
  cases fault <;> rfl

/-- The error of a creation gives up for its own reason, or for one that it carries. -/
theorem terminalReason?_toCreateError : fault.toCreateError.terminalReason? =
    fault.terminalReason?.or fault.toCloud.terminalReason? := by
  unfold toCreateError
  cases fault.terminalReason? <;> rfl

/-- A plain error that is passed on may be tried again. -/
theorem Plain.terminalReason?_toCloud (plain : fault.Plain) :
    fault.toCloud.terminalReason? = none := by
  cases fault with
  | cloud inner => exact absurd rfl (plain inner)
  | notFound | api | http | auth | timeout | invalidConfig | json => rfl

/-- A plain error is never passed on as the sentinel of a lost instance. -/
theorem Plain.toCloud_ne (plain : fault.Plain) : fault.toCloud ≠ .instanceNotFound := by
  cases fault with
  | cloud inner => exact absurd rfl (plain inner)
  | notFound | api | http | auth | timeout | invalidConfig | json => nofun

theorem Plain.isInstanceNotFound (plain : fault.Plain) : fault.isInstanceNotFound = false := by
  cases fault with
  | cloud inner => exact absurd rfl (plain inner)
  | notFound | api | http | auth | timeout | invalidConfig | json => rfl

/-- A code is in the list of a reason. -/
def Listed (code : String) (reason : TerminalReason) : Prop :=
  (code ∈ invalidConfigurationCodes ∧ reason = .invalidConfiguration) ∨
    (code ∈ insufficientResourcesCodes ∧ reason = .insufficientResources)

/-- An error gives a reason not to try again exactly if its code is listed for it. -/
theorem terminalReason?_eq_some : fault.terminalReason? = some reason ↔
    ∃ status code detail, fault = .api status code detail ∧ Listed code reason := by
  have apart : ∀ code ∈ invalidConfigurationCodes, code ∉ insufficientResourcesCodes := by decide
  cases fault with
  | api status code detail =>
      simp only [terminalReason?, code?, List.contains_iff_mem, api.injEq]
      constructor
      · intro given
        refine ⟨status, code, detail, ⟨rfl, rfl, rfl⟩, ?_⟩
        split at given
        · exact .inl ⟨‹_›, (Option.some.inj given).symm⟩
        · split at given
          · exact .inr ⟨‹_›, (Option.some.inj given).symm⟩
          · cases given
      · rintro ⟨_, _, _, ⟨rfl, rfl, rfl⟩, ⟨member, rfl⟩ | ⟨member, rfl⟩⟩
        · rw [if_pos member]
        · rw [if_neg fun other => apart _ other member, if_pos member]
  | notFound | http | auth | timeout | invalidConfig | json | cloud =>
      simp [terminalReason?, code?]

end AzureError

open AzureError (Plain)

variable {sources : Sources}

/-- Resolving the variables of a section never says not to try again. -/
theorem retriable_ofSettings (retriable : sources.Retriable) (s : Settings) :
    FailsOnly CloudError.Retriable (Config.ofSettings sources s) := by
  have string := retriable.string
  have orEnv := retriable.stringOrEnv
  refine .bind (string _) fun _ => .bind (string _) fun _ => ?_
  refine .bind (orEnv _ _) fun _ => .bind (orEnv _ _) fun _ => ?_
  refine .bind (orEnv _ _) fun _ => .bind (orEnv _ _) fun _ => ?_
  refine .bind (string _) fun _ => .bind (string _) fun _ => .bind (string _) fun _ => ?_
  refine .bind (string _) fun _ => .bind (string _) fun _ => .bind (string _) fun _ => ?_
  refine .bind (string _) fun _ => .bind (string _) fun _ => .bind (string _) fun _ => ?_
  exact .bind (retriable.bool _) fun _ => .ok _

/-- A configuration that cannot be resolved may be resolved another time, for all that the error
itself says. -/
theorem retriable_resolve (retriable : sources.Retriable) (spec : ProviderSpec) :
    FailsOnly (fun fault => fault.toCloud.terminalReason? = none)
      (Config.resolve sources spec) := by
  refine .bind (.mapError ?_) fun envelope => .bind ?_ fun settings => ?_
  · unfold Envelope.ofSpec
    split
    · exact .error rfl
    · split
      · exact .error rfl
      · split
        · exact .error rfl
        · exact .ok _
  · unfold Settings.ofJson
    split
    · exact .ok _
    · exact .error rfl
  · exact .bind (.mapError (retriable_ofSettings retriable settings)) fun config => .ok _

/-- What is not there is reported by a plain error. -/
theorem Resources.look_fails (kind : String) (map : SortedMap ResourceKey α) (key : ResourceKey) :
    FailsOnly Plain (look kind map key) := by
  unfold look
  split
  · exact .ok _
  · exact .error .notFound

/-- Whatever the backend refuses of itself it refuses with a plain error. -/
theorem Backend.perform_fails (b : Backend) (what : Call) : FailsOnly Plain (b.perform what) := by
  cases what with
  | putPublicIp | listPublicIps | listNics | listAllVms | listVms | deleteVm | listDisks
  | listVmSkus => exact .ok _
  | getPublicIp | getNic | getVm => exact .map (Resources.look_fails _ _ _)
  | putNic group name body =>
      change FailsOnly Plain (b.resources.putNic ⟨group, name⟩ body)
      unfold Resources.putNic
      split
      · exact .error .api
      · exact .ok _
  | putVm group name body =>
      change FailsOnly Plain (b.resources.putVm ⟨group, name⟩ body)
      unfold Resources.putVm
      split
      · exact .error .api
      · exact .ok _
  | tagVm | tagDisk => exact .map (.bind (Resources.look_fails _ _ _) fun _ => .ok _)
  | instanceView =>
      refine .map ?_
      unfold Resources.instanceView
      split
      · exact .ok _
      · exact .error .notFound
  | deletePublicIp =>
      refine .map ?_
      unfold Resources.deletePublicIp
      split
      · exact .error .api
      · exact .ok _
  | deleteNic =>
      refine .map ?_
      unfold Resources.deleteNic
      split
      · exact .error .api
      · exact .ok _
  | deleteDisk =>
      refine .map ?_
      unfold Resources.deleteDisk
      split
      · exact .error .api
      · exact .ok _
  | getVirtualNetwork =>
      refine .map ?_
      unfold Backend.virtualNetwork
      split
      · exact .ok _
      · exact .error .notFound
  | getSubnet =>
      refine .map ?_
      unfold Backend.subnet
      split
      · exact .ok _
      · exact .error .notFound
  | checkImage =>
      refine .map ?_
      unfold Backend.checkImage
      split
      · exact .error .notFound
      · exact .ok _

namespace Request

/-- An answer that is no error of machine operations, except that a rejected commit may be tried
again. -/
def Sound : (q : Request) → q.Answer → Prop
  | .connect _, .error fault => fault.Plain
  | .call _ _, .error fault => fault.Plain
  | .commit _ _, .error fault => fault.terminalReason? = none
  | _, _ => True

/-- Whether a request is answered with an error. -/
def failed : (q : Request) → q.Answer → Bool
  | .connect _, .error _ => true
  | .call _ _, .error _ => true
  | .commit _ _, .error _ => true
  | _, _ => false

end Request

/-- Where only plain errors are placed as faults, answers are sound. -/
theorem World.sound_serve {w : World Backend} (plain : FaultsAre Plain w) (q : Request) :
    q.Sound (World.serve Backend.service q w).1 ∧
      FaultsAre Plain (World.serve Backend.service q w).2 := by
  refine ⟨?_, plain.serve q⟩
  cases q with
  | call credentials what =>
      rcases serve_call credentials what w with ⟨value, same, _⟩ | ⟨fault, same, refuses⟩
      · rw [same]
        exact trivial
      · rw [same]
        rcases refuses.reason with placed | performed
        · exact plain _ fault placed
        · exact Backend.perform_fails _ _ fault performed
  | commit name edit =>
      have served : (World.serve Backend.service (.commit name edit) w).1 =
          (w.store.commit name edit).1 := rfl
      rw [served, Store.commit]
      split
      · exact rfl
      · cases w.store.get? name with
        | none => exact rfl
        | some stored => exact trivial
  | connect | recallSize | rememberSize | throwawayBytes => exact trivial

section Parts

variable {ε : Type} {allowed : Request → Prop} {sound : (q : Request) → q.Answer → Prop}
  {post : List (Exchange requests) → Except ε α → Prop}

/-- What is in two parts has the exchanges of both, or those of the first if that fails. -/
theorem tells_bind {act : ExceptT ε Asking β} {next : β → ExceptT ε Asking α}
    (first : act.run.Tells allowed sound fun had outcome => match outcome with
      | .ok value => (next value).run.Tells allowed sound fun more final => post (had ++ more) final
      | .error fault => post had (.error fault)) :
    (act >>= next).run.Tells allowed sound post := by
  refine Program.Tells.bind (Program.Tells.mono ?_ first)
  rintro had (fault | value) met
  · change post (had ++ []) (.error fault)
    rw [List.append_nil]
    exact met
  · exact met

/-- What has succeeded already need not be asked. -/
theorem tells_known {value : β} {next : β → ExceptT ε Asking α}
    (met : (next value).run.Tells allowed sound post) :
    (liftExcept (.ok value : Except ε β) >>= next).run.Tells allowed sound post := met

/-- An error that is reported otherwise comes of the same exchanges. -/
theorem tells_adapt {act : Action α} {report : AzureError → ε}
    (met : act.run.Tells allowed sound fun had outcome => post had (outcome.mapError report)) :
    (act.adapt report).run.Tells allowed sound post := by
  refine Program.Tells.bind (Program.Tells.mono ?_ met)
  intro had outcome met
  change post (had ++ []) (outcome.mapError report)
  rw [List.append_nil]
  exact met

end Parts

/-- A program that may fail makes only allowed requests, and as long as its answers are sound it
fails only with possible errors. -/
def Fails {ε : Type} (sound : (q : Request) → q.Answer → Prop) (allowed : Request → Prop)
    (possible : ε → Prop) (act : ExceptT ε Asking α) : Prop :=
  act.run.Tells allowed sound fun _ outcome => FailsOnly possible outcome

namespace Fails

variable {ε : Type} {sound : (q : Request) → q.Answer → Prop} {allowed : Request → Prop}
  {possible : ε → Prop}

theorem pure (value : α) : Fails sound allowed possible (pure value : ExceptT ε Asking α) := nofun

theorem throw {fault : ε} (met : possible fault) :
    Fails sound allowed possible (throw fault : ExceptT ε Asking α) := FailsOnly.error met

theorem bind {act : ExceptT ε Asking β} {next : β → ExceptT ε Asking α}
    (first : Fails sound allowed possible act)
    (rest : ∀ value, Fails sound allowed possible (next value)) :
    Fails sound allowed possible (act >>= next) := by
  refine tells_bind (Program.Tells.mono ?_ first)
  rintro had (fault | value) met
  · exact .error (met fault rfl)
  · exact rest value

theorem known {value : β} {next : β → ExceptT ε Asking α}
    (met : Fails sound allowed possible (next value)) :
    Fails sound allowed possible (liftExcept (.ok value : Except ε β) >>= next) := tells_known met

theorem mono {act : ExceptT ε Asking α} {fewer : ε → Prop} (met : Fails sound allowed fewer act)
    (implies : ∀ fault, fewer fault → possible fault) : Fails sound allowed possible act :=
  Program.Tells.mono (fun _ _ met fault same => implies fault (met fault same)) met

variable {act : Action α} {c : Config} {what : Call}

theorem adapt {report : AzureError → ε}
    (met : Fails sound allowed (fun fault => possible (report fault)) act) :
    Fails sound allowed possible (act.adapt report) :=
  tells_adapt (Program.Tells.mono (fun _ _ met => met.mapError) met)

theorem context (met : Fails Request.Sound allowed Plain act) (attempt : String) :
    Fails Request.Sound allowed Plain (act.context attempt) :=
  .adapt (met.mono fun _ plain => plain.context attempt)

theorem connect (permitted : allowed (.connect c.credentials)) :
    Fails Request.Sound allowed Plain (Action.connect c) := by
  refine ⟨permitted, ?_⟩
  rintro _ sound fault rfl
  exact sound

theorem call (permitted : allowed (.call c.credentials what)) :
    Fails Request.Sound allowed Plain (Action.call c what) := by
  refine ⟨permitted, ?_⟩
  rintro _ sound fault rfl
  exact sound

end Fails

namespace Lookup

variable {allowed : Request → Prop} {c : Config}

theorem configurationAddresses_fails (reads : ∀ q : Request, q.isWrite = false → allowed q)
    (found : Addresses) (configurations : List IpConfiguration) :
    Fails Request.Sound allowed Plain (configurationAddresses c found configurations) := by
  induction configurations generalizing found with
  | nil => exact .pure found
  | cons configuration rest ih =>
      unfold configurationAddresses
      split
      · exact ih _
      · exact .bind (.call (reads _ rfl)) fun _ => ih _

theorem interfaceAddresses_fails (reads : ∀ q : Request, q.isWrite = false → allowed q)
    (found : Addresses) (number : Nat) (references : List InterfaceReference) :
    Fails Request.Sound allowed Plain (interfaceAddresses c found number references) := by
  induction references generalizing found number with
  | nil => exact .pure found
  | cons reference rest ih =>
      rw [interfaceAddresses]
      split
      · exact .throw nofun
      · refine .bind (.call (reads _ rfl)) fun nic => ?_
        exact .bind (configurationAddresses_fails reads found _) fun _ => ih _ _

theorem addresses_fails (reads : ∀ q : Request, q.isWrite = false → allowed q)
    (vm : VirtualMachine) : Fails Request.Sound allowed Plain (addresses c vm) := by
  unfold addresses
  split
  · exact .throw nofun
  · exact interfaceAddresses_fails reads ∅ 0 _

/-- Seeing a virtual machine as an instance fails only with plain errors. -/
theorem instanceOf_fails (reads : ∀ q : Request, q.isWrite = false → allowed q)
    (vm : VirtualMachine) : Fails Request.Sound allowed Plain (instanceOf c vm) := by
  unfold instanceOf
  split
  · exact .throw nofun
  · refine .bind (.context (.call (reads _ rfl)) _) fun view => ?_
    exact .bind (.context (addresses_fails reads vm) _) fun _ => .pure _

/-- Looking for a virtual machine also fails with the sentinel of a lost instance. -/
theorem vm_fails (reads : ∀ q : Request, q.isWrite = false → allowed q) (uid : String) :
    Fails Request.Sound allowed (fun fault => fault.Plain ∨ fault = .cloud .instanceNotFound)
      (vm c uid) := by
  refine .bind ((Fails.call (reads _ rfl)).mono fun _ => .inl) fun all => ?_
  split
  · exact .pure _
  · exact .throw (.inr rfl)

end Lookup

/-- Reading back a virtual machine fails only with plain errors. -/
theorem Create.readBack_fails {allowed : Request → Prop} {c : Config}
    (reads : ∀ q : Request, q.isWrite = false → allowed q) (name : String) :
    Fails Request.Sound allowed Plain (readBack c name) :=
  .bind (.context (.call (reads _ rfl)) _) fun vm => Lookup.instanceOf_fails reads vm

namespace Cleanup

variable {c : Config}

theorem deleteAll_fails {delete : String → Action Unit} (names : List String)
    (deletes : ∀ name, Fails Request.Sound (fun _ => True) Plain (delete name)) :
    Fails Request.Sound (fun _ => True) Plain (deleteAll delete names) := by
  induction names with
  | nil => exact .pure ()
  | cons name rest ih => exact .bind (deletes name) fun _ => ih

/-- Whether a virtual machine exists is told by the sentinel, which is then no failure. -/
theorem vmExists_fails (uid : String) :
    Fails Request.Sound (fun _ => True) Plain (vmExists c uid) := by
  have looked : Fails Request.Sound (fun _ => True) _ (Lookup.vm c uid) :=
    Lookup.vm_fails (fun _ _ => trivial) uid
  refine Program.Tells.bind (Program.Tells.mono ?_ looked)
  rintro had (fault | vm) met
  · intro other same
    change (if fault.isInstanceNotFound = true then _ else _) = _ at same
    rcases met fault rfl with plain | rfl
    · split at same <;> cases same
      exact plain
    · cases same
  · exact nofun

theorem delete_fails (name uid : String) (owned : Owned) :
    Fails Request.Sound (fun _ => True) Plain (delete c name uid owned) := by
  cases owned with
  | vm =>
      refine .bind (vmExists_fails uid) fun found => ?_
      cases found with
      | true =>
          refine .context (.bind (.call trivial) fun vms => ?_) _
          exact deleteAll_fails _ fun _ => .call trivial
      | false => exact .pure ()
  | disks | nic | publicIp | publicIpv6 =>
      refine .context (.bind (.call trivial) fun found => ?_) _
      exact deleteAll_fails _ fun _ => .call trivial

end Cleanup

namespace MigrateUid

variable {sound : (q : Request) → q.Answer → Prop} {allowed : Request → Prop}
  {possible : AzureError → Prop} {c : Config} {m : Machine} {uid : String}

theorem tagDisks_fails (calls : ∀ what, Fails sound allowed possible (Action.call c what))
    (closed : ∀ fault attempt, possible fault → possible (fault.context attempt))
    (disks : List Disk) : Fails sound allowed possible (tagDisks c uid disks) := by
  induction disks with
  | nil => exact .pure ()
  | cons disk rest ih =>
      unfold tagDisks
      split
      · exact ih
      · exact .bind (.adapt ((calls _).mono fun fault met => closed fault _ met)) fun _ => ih

theorem retag_fails (calls : ∀ what, Fails sound allowed possible (Action.call c what))
    (closed : ∀ fault attempt, possible fault → possible (fault.context attempt))
    (dualStack : Bool) (owned : Owned) :
    Fails sound allowed possible (retag c dualStack m uid owned) := by
  have called (what : Call) (attempt : String) :
      Fails sound allowed possible ((Action.call c what).context attempt) :=
    .adapt ((calls what).mono fun fault met => closed fault attempt met)
  cases owned with
  | publicIp | publicIpv6 =>
      refine .bind (.adapt (Fails.mono ?_ fun fault met => closed fault _ met)) fun _ => .pure ()
      exact .bind (called _ _) fun _ => .pure _
  | nic => exact .bind (called _ _) fun _ => .pure ()
  | disks => exact .bind (calls _) fun disks => tagDisks_fails calls closed _
  | vm => exact called _ _

/-- If calls fail only with possible errors, so does a migration, and it asks nothing but calls. -/
theorem retagAll_fails (calls : ∀ what, Fails sound allowed possible (Action.call c what))
    (closed : ∀ fault attempt, possible fault → possible (fault.context attempt))
    (dualStack : Bool) (kinds : List Owned) :
    Fails sound allowed possible (retagAll c dualStack m uid kinds) := by
  induction kinds with
  | nil => exact .pure ()
  | cons kind rest ih => exact .bind (retag_fails calls closed dualStack kind) fun _ => ih

end MigrateUid

end Azure

end Provisioning
