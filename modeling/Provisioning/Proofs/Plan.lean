import Provisioning.Azure.Provider.Create
import Provisioning.Azure.World
import Provisioning.Proofs.Finalizers
import Provisioning.Proofs.Stored

/-!
Creation as a plan: finalizers to commit and resources to put, one after the other. A step that was
done stays done while the others follow, so a plan that was begun any number of times, and broken
off anywhere, does what it does when it is carried out once.
-/

namespace Provisioning.Azure

/-- What a creation can change: the backend, the machine's record, the committed changes, and the
random bytes that are left. -/
structure Holdings where
  backend : Backend
  record : Machine
  history : List FinalizerChange
  entropy : List UInt8

/-- The same with other resources. -/
def Holdings.storing (h : Holdings) (resources : Resources) : Holdings :=
  { h with backend := { h.backend with resources } }

/-- What there is after finalizers were committed. -/
def Holdings.owning (h : Holdings) (owned : List Owned) : Holdings :=
  { h with
    record := (FinalizerEdit.add (owned.map Owned.finalizer)).apply h.record
    history := h.history ++
      Store.changes h.record ((FinalizerEdit.add (owned.map Owned.finalizer)).apply h.record) }

/-- Finalizers that are there are not committed again. -/
theorem Holdings.owning_of_all {h : Holdings} {owned : List Owned}
    (present : ∀ kind ∈ owned, Owned.of h.record kind = true) : h.owning owned = h := by
  have same : (FinalizerEdit.add (owned.map Owned.finalizer)).apply h.record = h.record := by
    refine FinalizerEdit.apply_add_of_all (List.all_eq_true.2 ?_)
    intro finalizer member
    obtain ⟨kind, listed, rfl⟩ := List.mem_map.1 member
    exact present kind listed
  rw [owning, same, Store.changes_self, List.append_nil]

/-- A step of a creation. -/
inductive Step where
  | own (owned : List Owned)
  | put (what : Call)
  | draw

namespace Step

/-- What there is after a step, unless it fails. -/
def apply : Step → Holdings → Option Holdings
  | own owned, h => some (h.owning owned)
  | put what, h =>
      match h.backend.perform what with
      | .ok (_, resources) => some (h.storing resources)
      | .error _ => none
  | draw, h => some { h with entropy := h.entropy.drop World.keyLength }

/-- A step that can be repeated. -/
def Repeatable : Step → Prop
  | own _ => True
  | put what => what.IsPut
  | draw => False

/-- Steps that put different things. -/
def Apart : Step → Step → Prop
  | put first, put last => first.target? ≠ last.target?
  | _, _ => True

/-- What a step does is done. -/
def Kept : Step → Holdings → Prop
  | own owned, h => ∀ kind ∈ owned, Owned.of h.record kind = true
  | put what, h => what.Kept h.backend.resources
  | draw, _ => False

variable {step other : Step} {h next : Holdings}

theorem apply_put_eq_some {what : Call} : (put what).apply h = some next ↔
    ∃ value resources, h.backend.perform what = .ok (value, resources) ∧
      next = h.storing resources := by
  unfold apply
  cases performed : h.backend.perform what with
  | error fault => simp [performed]
  | ok answer =>
      obtain ⟨value, resources⟩ := answer
      simp [performed, eq_comm]

theorem kept_of_apply (repeatable : step.Repeatable) (applied : step.apply h = some next) :
    step.Kept next := by
  cases step with
  | own owned =>
      cases applied
      intro kind member
      simp [Holdings.owning, member]
  | put what =>
      obtain ⟨value, resources, performed, rfl⟩ := apply_put_eq_some.1 applied
      exact Call.kept_of_perform repeatable performed
  | draw => cases repeatable

/-- What is done can be done again without a change. -/
theorem apply_of_kept (kept : step.Kept h) : step.apply h = some h := by
  cases step with
  | own owned => exact congrArg some (Holdings.owning_of_all kept)
  | put what =>
      obtain ⟨value, performed⟩ := Call.perform_of_kept kept
      exact apply_put_eq_some.2 ⟨value, _, performed, rfl⟩
  | draw => cases kept

/-- What is done stays done by other steps. -/
theorem Kept.apply (kept : step.Kept h) (repeatable : other.Repeatable) (apart : step.Apart other)
    (applied : other.apply h = some next) : step.Kept next := by
  cases other with
  | own owned =>
      cases applied
      cases step with
      | own earlier =>
          intro kind member
          simp [Holdings.owning, kept kind member]
      | put what => exact kept
      | draw => cases kept
  | put what =>
      obtain ⟨value, resources, performed, rfl⟩ := apply_put_eq_some.1 applied
      cases step with
      | own owned => exact kept
      | put first => exact Call.Kept.perform kept repeatable apart performed
      | draw => cases kept
  | draw => cases repeatable

end Step

/-- What there is after steps, unless one of them fails. -/
def carryOut : List Step → Holdings → Option Holdings
  | [], h => some h
  | step :: rest, h => (step.apply h).bind (carryOut rest)

section

variable {h next : Holdings} {steps : List Step}

theorem carryOut_append (first last : List Step) (h : Holdings) :
    carryOut (first ++ last) h = (carryOut first h).bind (carryOut last) := by
  induction first generalizing h with
  | nil => rfl
  | cons step rest ih =>
      rw [List.cons_append, carryOut, carryOut, Option.bind_assoc]
      congr 1
      funext next
      exact ih next

theorem carryOut_own (owned : List Owned) (steps : List Step) (h : Holdings) :
    carryOut (.own owned :: steps) h = carryOut steps (h.owning owned) := rfl

theorem exists_of_carryOut_put {what : Call}
    (carried : carryOut (.put what :: steps) h = some next) :
    ∃ value resources, h.backend.perform what = .ok (value, resources) ∧
      carryOut steps (h.storing resources) = some next := by
  obtain ⟨between, applied, carried⟩ := Option.bind_eq_some_iff.1 carried
  obtain ⟨value, resources, performed, rfl⟩ := Step.apply_put_eq_some.1 applied
  exact ⟨value, resources, performed, carried⟩

/-- Whether a step commits the finalizer of a kind. -/
def Step.owns (kind : Owned) : Step → Bool
  | own owned => decide (kind ∈ owned)
  | _ => false

/-- A record has the finalizers that were committed and those it had. -/
theorem of_carryOut (carried : carryOut steps h = some next) (kind : Owned) :
    Owned.of next.record kind = (steps.any (Step.owns kind) || Owned.of h.record kind) := by
  induction steps generalizing h with
  | nil =>
      cases carried
      rfl
  | cons step rest ih =>
      obtain ⟨between, applied, carried⟩ := Option.bind_eq_some_iff.1 carried
      rw [ih carried, List.any_cons]
      cases step with
      | own owned =>
          cases applied
          rw [Holdings.owning, Owned.of_apply_add]
          exact Bool.or_left_comm _ _ _ |>.trans (Bool.or_assoc _ _ _).symm
      | put what =>
          obtain ⟨value, resources, _, rfl⟩ := Step.apply_put_eq_some.1 applied
          rfl
      | draw =>
          cases applied
          rfl

/-- Steps continue the record. -/
theorem continues_of_carryOut (carried : carryOut steps h = some next) :
    Continues h.record next.record := by
  induction steps generalizing h with
  | nil =>
      cases carried
      exact .refl _
  | cons step rest ih =>
      obtain ⟨between, applied, carried⟩ := Option.bind_eq_some_iff.1 carried
      refine Continues.trans ?_ (ih carried)
      cases step with
      | own owned =>
          cases applied
          exact Continues.add (.refl h.record) owned
      | put what =>
          obtain ⟨value, resources, _, rfl⟩ := Step.apply_put_eq_some.1 applied
          exact .refl h.record
      | draw =>
          cases applied
          exact .refl h.record

/-- Steps that can be repeated draw no random bytes. -/
theorem entropy_of_carryOut (repeatable : ∀ step ∈ steps, step.Repeatable)
    (carried : carryOut steps h = some next) : next.entropy = h.entropy := by
  induction steps generalizing h with
  | nil =>
      cases carried
      rfl
  | cons step rest ih =>
      obtain ⟨between, applied, carried⟩ := Option.bind_eq_some_iff.1 carried
      rw [List.forall_mem_cons] at repeatable
      rw [ih repeatable.2 carried]
      cases step with
      | own owned =>
          cases applied
          rfl
      | put what =>
          obtain ⟨value, resources, _, rfl⟩ := Step.apply_put_eq_some.1 applied
          rfl
      | draw => cases repeatable.1

theorem Step.Kept.carryOut {step : Step} (kept : step.Kept h)
    (repeatable : ∀ other ∈ steps, other.Repeatable) (apart : ∀ other ∈ steps, step.Apart other)
    (carried : carryOut steps h = some next) : step.Kept next := by
  induction steps generalizing h with
  | nil =>
      cases carried
      exact kept
  | cons other rest ih =>
      obtain ⟨between, applied, carried⟩ := Option.bind_eq_some_iff.1 carried
      rw [List.forall_mem_cons] at repeatable apart
      exact ih (kept.apply repeatable.1 apart.1 applied) repeatable.2 apart.2 carried

/-- Steps that were carried out are done. -/
theorem kept_of_carryOut (repeatable : ∀ step ∈ steps, step.Repeatable)
    (apart : steps.Pairwise Step.Apart) (carried : carryOut steps h = some next) :
    ∀ step ∈ steps, step.Kept next := by
  induction steps generalizing h with
  | nil => exact fun step member => nomatch member
  | cons step rest ih =>
      obtain ⟨between, applied, carried⟩ := Option.bind_eq_some_iff.1 carried
      rw [List.forall_mem_cons] at repeatable ⊢
      rw [List.pairwise_cons] at apart
      exact ⟨(Step.kept_of_apply repeatable.1 applied).carryOut repeatable.2 apart.1 carried,
        ih repeatable.2 apart.2 carried⟩

theorem carryOut_of_kept (kept : ∀ step ∈ steps, step.Kept h) : carryOut steps h = some h := by
  induction steps with
  | nil => rfl
  | cons step rest ih =>
      rw [List.forall_mem_cons] at kept
      rw [carryOut, Step.apply_of_kept kept.1]
      exact ih kept.2

/-- A last step that undoes what another one would have done in its place. -/
def Step.Replaces (last other : Step) : Prop :=
  ∀ h next, other.apply h = some next → last.apply next = last.apply h

/-- A plan that was begun before does what it would have done at first, even if it was begun with
another last step. -/
theorem carryOut_after_prefix {common begun : List Step} {last other : Step}
    (repeatable : ∀ step ∈ common, step.Repeatable) (apart : common.Pairwise Step.Apart)
    (ends : other.Repeatable) (aside : ∀ step ∈ common, step.Apart other)
    (replaces : last.Replaces other) (begins : begun <+: common ++ [other])
    (carried : carryOut begun h = some next) :
    carryOut (common ++ [last]) next = carryOut (common ++ [last]) h := by
  rcases List.prefix_concat_iff.1 begins with rfl | ⟨rest, rfl⟩
  -- All of the other plan was carried out: its last step is replaced, the rest is kept.
  · rw [carryOut_append] at carried
    obtain ⟨between, carried, ended⟩ := Option.bind_eq_some_iff.1 carried
    have applied : other.apply between = some next := by simpa [carryOut] using ended
    have kept : ∀ step ∈ common, step.Kept next := fun step member =>
      (kept_of_carryOut repeatable apart carried step member).apply ends (aside step member) applied
    rw [carryOut_append, carryOut_append, carryOut_of_kept kept, carried]
    simp only [Option.bind_some, carryOut, replaces between next applied]
  · rw [List.forall_mem_append] at repeatable
    have kept := kept_of_carryOut repeatable.1 (List.pairwise_append.1 apart).1 carried
    rw [List.append_assoc, carryOut_append, carryOut_append begun, carryOut_of_kept kept, carried]

end

theorem Desired.nic_named (c : Config) (uid : String) (first second : Option String)
    (dualStack : Bool) : (nic c uid first second dualStack).Named := by
  cases dualStack with
  | false => exact ⟨by simp [nic, NetworkInterface.ipConfigurations, ipConfiguration],
      by simp [nic, NetworkInterface.ipConfigurations, ipConfiguration]⟩
  | true => exact ⟨by simp [nic, NetworkInterface.ipConfigurations, ipConfiguration],
      by simp [nic, NetworkInterface.ipConfigurations, ipConfiguration]⟩

/-- An interface has the addresses that are asked for, the second one only for both families. -/
theorem Desired.publicAddressIds_nic (c : Config) (uid : String) (first second : Option String)
    (dualStack : Bool) : (nic c uid first second dualStack).publicAddressIds =
      first.toList ++ if dualStack then second.toList else [] := by
  cases first <;> cases second <;> cases dualStack <;> rfl

namespace Create

/-- The ids of the public addresses of an interface. -/
def addressIds (c : Config) (nic : String) (dualStack : Bool) : Option String × Option String :=
  let id := Naming.publicIpId Resources.subscription c.resourceGroup
  if c.assignPublicIp then
    (some (id (Naming.publicIp nic)),
      if dualStack then some (id (Naming.publicIpv6 nic)) else none)
  else (none, none)

/-- The steps of the public addresses. -/
def addressSteps (c : Config) (nic uid : String) (dualStack : Bool) : List Step :=
  if c.assignPublicIp then
    [.own [.publicIp],
      .put (.putPublicIp c.resourceGroup (Naming.publicIp nic)
        (Desired.publicIp c uid ipv4 dualStack))] ++
    if dualStack then
      [.own [.publicIpv6],
        .put (.putPublicIp c.resourceGroup (Naming.publicIpv6 nic)
          (Desired.publicIp c uid ipv6 dualStack))]
    else []
  else []

/-- The interface with its public addresses. -/
def nicCall (c : Config) (nic uid : String) (dualStack : Bool) : Call :=
  let ids := addressIds c nic dualStack
  .putNic c.resourceGroup nic (Desired.nic c uid ids.1 ids.2 dualStack)

/-- The virtual machine on its interface. -/
def vmCall (c : Config) (e : Envelope) (storage : StorageProfile)
    (name uid key userdata : String) : Call :=
  .putVm c.resourceGroup name (Desired.vm c e.operatingSystem storage name uid
    (Naming.nicId Resources.subscription c.resourceGroup (Naming.nic name)) key userdata)

/-- The steps of the network. -/
def networkSteps (c : Config) (e : Envelope) (name uid : String) : List Step :=
  addressSteps c (Naming.nic name) uid e.ipFamily.isDualStack ++
    [.own [.nic], .put (nicCall c (Naming.nic name) uid e.ipFamily.isDualStack)]

/-- The SSH key of a virtual machine, made of random bytes if nobody has one. -/
def keyOf (e : Envelope) (h : Holdings) : String :=
  (Config.sshKey? e.sshPublicKeys).getD (Config.throwawayKey
    ((h.entropy ++ List.replicate World.keyLength 0).take World.keyLength))

/-- A key that somebody has needs no random bytes. -/
theorem keyOf_eq {e : Envelope} {key : String} (usable : Config.sshKey? e.sshPublicKeys = some key)
    (h : Holdings) : keyOf e h = key := by
  rw [keyOf, usable, Option.getD_some]

def keySteps (e : Envelope) : List Step :=
  match Config.sshKey? e.sshPublicKeys with
  | some _ => []
  | none => [.draw]

/-- The steps of the virtual machine, if its disks are known. -/
def vmSteps (c : Config) (e : Envelope) (name uid key userdata : String) : List Step :=
  match c.storageProfile e.operatingSystem with
  | .ok storage =>
      keySteps e ++ [.own [.disks, .vm], .put (vmCall c e storage name uid key userdata)]
  | .error _ => []

/-- All steps of a creation. -/
def steps (c : Config) (e : Envelope) (name uid key userdata : String) : List Step :=
  networkSteps c e name uid ++ vmSteps c e name uid key userdata

variable {c : Config} {e : Envelope} {storage : StorageProfile}

/-- With a key and disks, only the last step depends on the user data. -/
theorem steps_eq {key : String} (usable : Config.sshKey? e.sshPublicKeys = some key)
    (found : c.storageProfile e.operatingSystem = .ok storage) (name uid userdata : String) :
    steps c e name uid key userdata =
      (networkSteps c e name uid ++ [.own [.disks, .vm]]) ++
        [.put (vmCall c e storage name uid key userdata)] := by
  rw [steps, vmSteps, found, keySteps, usable, List.append_assoc]
  rfl

theorem networkSteps_repeatable (c : Config) (e : Envelope) (name uid : String) :
    ∀ step ∈ networkSteps c e name uid, step.Repeatable := by
  have nic (dualStack : Bool) : (nicCall c (Naming.nic name) uid dualStack).IsPut :=
    Desired.nic_named c uid _ _ _
  have address (name : String) (body : PublicIpAddress) :
      (Call.putPublicIp c.resourceGroup name body).IsPut := trivial
  unfold networkSteps addressSteps
  cases c.assignPublicIp <;> cases e.ipFamily.isDualStack <;>
    simp [Step.Repeatable, nic, address]

theorem networkSteps_apart (c : Config) (e : Envelope) (name uid : String) :
    (networkSteps c e name uid).Pairwise Step.Apart := by
  have names := Naming.publicIp_ne_publicIpv6 (Naming.nic name) (Naming.nic name)
  unfold networkSteps addressSteps
  cases c.assignPublicIp <;> cases e.ipFamily.isDualStack <;>
    simp [Step.Apart, Call.target?, nicCall, names]

/-- The virtual machine is put apart from the network. -/
theorem networkSteps_aside (c : Config) (e : Envelope) (storage : StorageProfile)
    (name uid key userdata : String) :
    ∀ step ∈ networkSteps c e name uid,
      step.Apart (.put (vmCall c e storage name uid key userdata)) := by
  unfold networkSteps addressSteps
  cases c.assignPublicIp <;> cases e.ipFamily.isDualStack <;>
    simp [Step.Apart, Call.target?, nicCall, vmCall]

/-- The virtual machine with other user data replaces the one that was put. -/
theorem vmCall_replaces (c : Config) (e : Envelope) (storage : StorageProfile)
    (name uid key userdata other : String) :
    Step.Replaces (.put (vmCall c e storage name uid key userdata))
      (.put (vmCall c e storage name uid key other)) := by
  intro h next applied
  obtain ⟨value, resources, performed, rfl⟩ := Step.apply_put_eq_some.1 applied
  obtain ⟨present, rfl, rfl⟩ := Resources.putVm_eq_ok.1 performed
  have first : (Step.put (vmCall c e storage name uid key userdata)).apply h = some _ :=
    Step.apply_put_eq_some.2 ⟨_, _, Resources.putVm_eq_ok.2 ⟨present, rfl, rfl⟩, rfl⟩
  rw [first]
  refine Step.apply_put_eq_some.2 ⟨_, _, Resources.putVm_eq_ok.2 ⟨present, rfl, ?_⟩, rfl⟩
  exact (Resources.withVm_withVm h.backend.resources ⟨c.resourceGroup, name⟩
    (Desired.vm c _ storage name uid _ key other) (Desired.vm c _ storage name uid _ key userdata)
    rfl rfl rfl).symm

/-- A creation that was begun before, with any user data, does what it would have done at first. -/
theorem carryOut_after_begun {name uid key userdata other : String}
    (usable : Config.sshKey? e.sshPublicKeys = some key)
    (found : c.storageProfile e.operatingSystem = .ok storage) {begun rest : List Step}
    {h next : Holdings}
    (split : steps c e name uid key other = begun ++ rest)
    (carried : carryOut begun h = some next) :
    carryOut (steps c e name uid key userdata) next =
      carryOut (steps c e name uid key userdata) h := by
  rw [steps_eq usable found] at split ⊢
  have ends : Step.Repeatable (.put (vmCall c e storage name uid key other)) := trivial
  refine carryOut_after_prefix ?_ ?_ ends ?_ (vmCall_replaces c e storage name uid key _ other)
    ⟨rest, split.symm⟩ carried
  · rw [List.forall_mem_append]
    exact ⟨networkSteps_repeatable c e name uid, by simp [Step.Repeatable]⟩
  · rw [List.pairwise_append]
    refine ⟨networkSteps_apart c e name uid, by simp, ?_⟩
    intro step _ last member
    cases List.mem_singleton.1 member
    cases step <;> trivial
  · rw [List.forall_mem_append]
    exact ⟨networkSteps_aside c e storage name uid key other, by simp [Step.Apart]⟩

end Create

end Provisioning.Azure
