import Provisioning.Proofs.Arising
import Provisioning.Proofs.Migration

/-!
What a migration does to resources, kind by kind. A step that was done stays done while the others
follow, so a migration that was begun, and broken off anywhere, even between two disks, still leads
to where it led from the start. Main statements: `Migration.Begun.effects_eq`, and
`Migration.Begun.exists_grown`, that a migration brings nothing into existence but what it puts.
-/

namespace Provisioning.Azure

/-- What there is after a call was performed, unless it is refused. -/
def Resources.after (r : Resources) (what : Call) : Option Resources :=
  (({ Backend.empty with resources := r } : Backend).perform what).toOption.map (·.2)

/-- A machine that is given its next identity. -/
structure Migration where
  config : Config
  dualStack : Bool
  machine : Machine
  uid : String

namespace Migration

variable (g : Migration)

/-- The key of a name in the machine's group. -/
def keyOf (name : String) : ResourceKey := ⟨g.config.resourceGroup, name⟩

def nicName : String := Naming.nic g.machine.name

def addressKey : ResourceKey := g.keyOf (Naming.publicIp g.nicName)

def addressV6Key : ResourceKey := g.keyOf (Naming.publicIpv6 g.nicName)

/-- The interface that is put again. -/
def nicBody : NetworkInterface :=
  Desired.nic g.config g.uid
    (MigrateUid.publicIpId? g.config g.machine .publicIp (Naming.publicIp g.nicName))
    (MigrateUid.publicIpId? g.config g.machine .publicIpv6 (Naming.publicIpv6 g.nicName))
    g.dualStack

/-- The one call by which a kind is given the new tag; disks are listed and take a call each. -/
def call? : Owned → Option Call
  | .publicIp => some (.putPublicIp g.config.resourceGroup (Naming.publicIp g.nicName)
      (Desired.publicIp g.config g.uid ipv4 g.dualStack))
  | .publicIpv6 => some (.putPublicIp g.config.resourceGroup (Naming.publicIpv6 g.nicName)
      (Desired.publicIp g.config g.uid ipv6 true))
  | .nic => some (.putNic g.config.resourceGroup g.nicName g.nicBody)
  | .disks => none
  | .vm => some (.tagVm g.config.resourceGroup g.machine.name (Naming.tags g.config.tags g.uid))

/-- Whether a disk belongs to the machine, by either identity. -/
def marks (disk : Disk) : Bool :=
  Naming.hasUid disk.tags g.machine.uid || Naming.hasUid disk.tags g.uid

/-- The disk of a key with the new tag, if it belongs to the machine. -/
def relabel (key : ResourceKey) (disk : Disk) : Disk :=
  if key.group = g.config.resourceGroup ∧ g.marks disk = true then
    { disk with tags := Naming.tags disk.tags g.uid }
  else disk

/-- What there is after a kind was given the new tag, unless that fails. -/
def effect (kind : Owned) (r : Resources) : Option Resources :=
  match g.call? kind with
  | some what => r.after what
  | none => some { r with disks := r.disks.mapValues g.relabel }

/-- What there is after one kind after the other was given the new tag, unless one fails. -/
def effects : List Owned → Resources → Option Resources
  | [], r => some r
  | kind :: rest, r => (g.effect kind r).bind (effects rest)

/-- What a kind is about is the same. -/
def Untouched : Owned → Resources → Resources → Prop
  | .publicIp, r, s => r.publicIps.get? g.addressKey = s.publicIps.get? g.addressKey
  | .publicIpv6, r, s => r.publicIps.get? g.addressV6Key = s.publicIps.get? g.addressV6Key
  | .nic, r, s => r.nics = s.nics
  | .disks, r, s => r.disks = s.disks
  | .vm, r, s => r.vms = s.vms ∧ r.views = s.views

/-- What exists after some kinds were given the new tag: what existed, and the addresses and the
interface among those kinds. -/
structure Grown (kinds : List Owned) (r s : Resources) : Prop where
  publicIps : ∀ key, s.publicIps.contains key = true ↔ r.publicIps.contains key = true ∨
    (.publicIp ∈ kinds ∧ key = g.addressKey) ∨ (.publicIpv6 ∈ kinds ∧ key = g.addressV6Key)
  nics : ∀ key, s.nics.contains key = true ↔ r.nics.contains key = true ∨
    (.nic ∈ kinds ∧ key = g.keyOf g.nicName)
  vms : ∀ key, s.vms.contains key = r.vms.contains key
  disks : ∀ key, s.disks.contains key = r.disks.contains key

/-- A kind has been given the new tag and need not be given it again. -/
def Done : Owned → Resources → Prop
  | .disks, r => r.disks.mapValues g.relabel = r.disks
  | .vm, r => ∃ vm, r.vms.get? (g.keyOf g.machine.name) = some vm ∧
      vm.tags = Naming.tags g.config.tags g.uid
  | kind, r => ∃ what, g.call? kind = some what ∧ what.Kept r

/-- The middle of a step: some of the disks have the new tag; any other step is one call. -/
structure Partway (kind : Owned) (r x : Resources) : Prop where
  rest : x = { r with disks := x.disks }
  disks : ∀ key, x.disks.get? key = r.disks.get? key ∨
    (kind = .disks ∧ x.disks.get? key = (r.disks.get? key).map (g.relabel key))

/-- Where a migration can be broken off: some kinds were given the new tag, and the next one was
begun. -/
inductive Begun : List Owned → Resources → Resources → Prop where
  | start {kinds : List Owned} {r : Resources} : Begun kinds r r
  | partway {kind : Owned} {rest : List Owned} {r x : Resources} :
      g.Partway kind r x → Begun (kind :: rest) r x
  | step {kind : Owned} {rest : List Owned} {r t x : Resources} :
      g.effect kind r = some t → Begun rest t x → Begun (kind :: rest) r x

variable {g} {kind other : Owned} {kinds : List Owned} {r s t x : Resources}

/-- What a step calls is about nothing but resources. -/
theorem perform_call? {what : Call} (calls : g.call? kind = some what) (b : Backend) :
    b.perform what = ({ Backend.empty with resources := b.resources } : Backend).perform what := by
  cases kind with
  | disks => cases calls
  | publicIp | publicIpv6 | nic | vm =>
      cases calls
      rfl

/-- A disk with the new tag belongs to the machine, and is given the same tag again. -/
theorem relabel_relabel (key : ResourceKey) (disk : Disk) :
    g.relabel key (g.relabel key disk) = g.relabel key disk := by
  unfold relabel
  by_cases own : key.group = g.config.resourceGroup ∧ g.marks disk = true
  · rw [if_pos own]
    have marked : g.marks { disk with tags := Naming.tags disk.tags g.uid } = true := by
      simp [marks, Naming.hasUid_tags_iff]
    rw [if_pos ⟨own.1, marked⟩, Naming.tags_tags]
  · rw [if_neg own, if_neg own]

theorem relabel_name (key : ResourceKey) (disk : Disk) : (g.relabel key disk).name = disk.name := by
  unfold relabel
  split <;> rfl

theorem addressKey_ne_addressV6Key : g.addressKey ≠ g.addressV6Key := fun same =>
  Naming.publicIp_ne_publicIpv6 g.nicName g.nicName (congrArg ResourceKey.name same)

theorem nicBody_named : g.nicBody.Named := Desired.nic_named ..

theorem after_eq_some {what : Call} : r.after what = some s ↔
    ∃ value, ({ Backend.empty with resources := r } : Backend).perform what = .ok (value, s) := by
  unfold Resources.after
  cases performed : ({ Backend.empty with resources := r } : Backend).perform what with
  | error fault => simp [Except.toOption]
  | ok answer =>
      obtain ⟨value, next⟩ := answer
      simp [Except.toOption]

/-- What each step changes: an address or the interface is stored, disks are given the new tag, or
the virtual machine is. -/
theorem effect_eq_some (changed : g.effect kind r = some s) :
    match kind with
    | .publicIp => ∃ stored count, s = { r with
        publicIps := r.publicIps.insert g.addressKey stored, addresses := count }
    | .publicIpv6 => ∃ stored count, s = { r with
        publicIps := r.publicIps.insert g.addressV6Key stored, addresses := count }
    | .nic => ∃ stored count, s = { r with
        nics := r.nics.insert (g.keyOf g.nicName) stored, addresses := count }
    | .disks => s = { r with disks := r.disks.mapValues g.relabel }
    | .vm => ∃ vm, r.vms.get? (g.keyOf g.machine.name) = some vm ∧
        s = { r with
          vms := r.vms.insert (g.keyOf g.machine.name)
            { vm with tags := Naming.tags g.config.tags g.uid } } := by
  cases kind with
  | publicIp | publicIpv6 =>
      obtain ⟨value, performed⟩ := after_eq_some.1 changed
      obtain ⟨address, count, _, same⟩ := Call.exists_of_putPublicIp performed
      exact ⟨_, count, same⟩
  | nic =>
      obtain ⟨value, performed⟩ := after_eq_some.1 changed
      obtain ⟨_, addresses, total, _, _, same⟩ := Resources.putNic_eq_ok performed
      exact ⟨_, total, same⟩
  | disks => exact (Option.some.inj changed).symm
  | vm =>
      obtain ⟨value, performed⟩ := after_eq_some.1 changed
      obtain ⟨next, tagged, same⟩ := map_eq_ok.1 performed
      cases same
      exact Resources.exists_of_tagVm tagged

theorem filed_of_effect (filed : r.Filed) (changed : g.effect kind r = some x) : x.Filed := by
  cases calls : g.call? kind with
  | some what =>
      rw [effect, calls] at changed
      obtain ⟨value, performed⟩ := after_eq_some.1 changed
      exact filed.perform (b := { Backend.empty with resources := r }) performed
  | none =>
      rw [effect, calls] at changed
      cases changed
      refine ⟨filed.publicIps, filed.nics, filed.vms, fun key disk found => ?_⟩
      rw [SortedMap.get?_mapValues] at found
      obtain ⟨earlier, stored, rfl⟩ := Option.map_eq_some_iff.1 found
      rw [relabel_name]
      exact filed.disks key earlier stored

theorem filed_of_effects (filed : r.Filed) (changed : g.effects kinds r = some x) : x.Filed := by
  induction kinds generalizing r with
  | nil =>
      cases changed
      exact filed
  | cons kind rest ih =>
      obtain ⟨s, stepped, later⟩ := Option.bind_eq_some_iff.1 changed
      exact ih (filed_of_effect filed stepped) later

/-- The disks of the machine that are listed are those that are to have the new tag. -/
theorem pending (filed : r.Filed) :
    Resources.Pending g.config.resourceGroup g.uid r.disks (r.disks.mapValues g.relabel)
      ((Resources.ofGroup r.disks g.config.resourceGroup).filter g.marks) := by
  constructor
  · intro disk member
    obtain ⟨listed, marked⟩ := List.mem_filter.1 member
    obtain ⟨⟨group, name⟩, inside, found⟩ := Resources.mem_ofGroup_iff.1 listed
    cases inside
    refine ⟨name, disk, filed.disks _ disk found, found, ?_⟩
    rw [SortedMap.get?_mapValues, found, Option.map_some, relabel, if_pos ⟨rfl, marked⟩]
  · intro key
    rw [SortedMap.get?_mapValues]
    cases found : r.disks.get? key with
    | none => exact .inl rfl
    | some disk =>
        by_cases own : key.group = g.config.resourceGroup ∧ g.marks disk = true
        · have listed := Resources.mem_ofGroup_iff.2 ⟨key, own.1, found⟩
          exact .inr ⟨disk, List.mem_filter.2 ⟨listed, own.2⟩, own.1, filed.disks key disk found⟩
        · rw [Option.map_some, relabel, if_neg own]
          exact .inl rfl

theorem Untouched.refl (kind : Owned) (r : Resources) : g.Untouched kind r r := by
  cases kind with
  | vm => exact ⟨rfl, rfl⟩
  | publicIp | publicIpv6 | nic | disks => rfl

theorem Untouched.trans {s t : Resources} (earlier : g.Untouched kind r s)
    (later : g.Untouched kind s t) : g.Untouched kind r t := by
  cases kind with
  | vm => exact ⟨earlier.1.trans later.1, earlier.2.trans later.2⟩
  | publicIp | publicIpv6 | nic | disks => exact Eq.trans earlier later

/-- A step leaves the other kinds as they are. -/
theorem untouched_of_effect (changed : g.effect other r = some s) (apart : kind ≠ other) :
    g.Untouched kind r s := by
  have change := effect_eq_some changed
  have keys := g.addressKey_ne_addressV6Key
  cases other with
  | publicIp =>
      obtain ⟨stored, count, rfl⟩ := change
      cases kind with
      | publicIp => exact absurd rfl apart
      | publicIpv6 => simp [Untouched, keys]
      | nic | disks => rfl
      | vm => exact ⟨rfl, rfl⟩
  | publicIpv6 =>
      obtain ⟨stored, count, rfl⟩ := change
      cases kind with
      | publicIp => simp [Untouched, keys.symm]
      | publicIpv6 => exact absurd rfl apart
      | nic | disks => rfl
      | vm => exact ⟨rfl, rfl⟩
  | nic =>
      obtain ⟨stored, count, rfl⟩ := change
      cases kind with
      | nic => exact absurd rfl apart
      | publicIp | publicIpv6 | disks => rfl
      | vm => exact ⟨rfl, rfl⟩
  | disks =>
      cases change
      cases kind with
      | disks => exact absurd rfl apart
      | publicIp | publicIpv6 | nic => rfl
      | vm => exact ⟨rfl, rfl⟩
  | vm =>
      obtain ⟨vm, found, rfl⟩ := change
      cases kind with
      | vm => exact absurd rfl apart
      | publicIp | publicIpv6 | nic | disks => rfl

theorem untouched_of_effects (changed : g.effects kinds r = some x) (apart : kind ∉ kinds) :
    g.Untouched kind r x := by
  induction kinds generalizing r with
  | nil =>
      cases changed
      exact .refl kind _
  | cons first rest ih =>
      rw [List.mem_cons, not_or] at apart
      obtain ⟨s, stepped, later⟩ := Option.bind_eq_some_iff.1 changed
      exact (untouched_of_effect stepped apart.1).trans (ih later apart.2)

/-- A step brings nothing into existence but what it puts. -/
theorem grown_of_effect (changed : g.effect kind r = some s) : g.Grown [kind] r s := by
  have change := effect_eq_some changed
  cases kind with
  | publicIp | publicIpv6 =>
      obtain ⟨stored, count, rfl⟩ := change
      constructor
      · intro key
        simp [@eq_comm _ key, or_comm]
      · simp
      · simp
      · simp
  | nic =>
      obtain ⟨stored, count, rfl⟩ := change
      constructor
      · simp
      · intro key
        simp [@eq_comm _ key, or_comm]
      · simp
      · simp
  | disks =>
      cases change
      constructor <;> simp
  | vm =>
      obtain ⟨vm, found, rfl⟩ := change
      have present := SortedMap.contains_iff.2 ⟨vm, found⟩
      constructor
      · simp
      · simp
      · intro key
        by_cases same : g.keyOf g.machine.name = key
        · subst same
          simp [present]
        · simp [same]
      · simp

theorem Grown.refl (r : Resources) : g.Grown [] r r := by
  constructor <;> simp

theorem Grown.trans {first last : List Owned} (earlier : g.Grown first r s)
    (later : g.Grown last s t) : g.Grown (first ++ last) r t where
  publicIps key := by
    rw [later.publicIps, earlier.publicIps]
    simp only [List.mem_append]
    grind
  nics key := by
    rw [later.nics, earlier.nics]
    simp only [List.mem_append]
    grind
  vms key := (later.vms key).trans (earlier.vms key)
  disks key := (later.disks key).trans (earlier.disks key)

namespace Partway

theorem refl (kind : Owned) (r : Resources) : g.Partway kind r r := ⟨rfl, fun _ => .inl rfl⟩

/-- In the middle of any step but that of the disks, nothing has changed. -/
theorem eq_of_ne (partway : g.Partway kind r x) (apart : kind ≠ .disks) : x = r := by
  have disks : x.disks = r.disks := SortedMap.ext_get? fun key => by
    rcases partway.disks key with same | ⟨same, _⟩
    · exact same
    · exact absurd same apart
  rw [partway.rest, disks]

theorem grown (partway : g.Partway kind r x) : g.Grown [] r x := by
  have disks (key : ResourceKey) : x.disks.contains key = r.disks.contains key := by
    rw [SortedMap.contains, SortedMap.contains]
    rcases partway.disks key with same | ⟨_, same⟩
    · rw [same]
    · rw [same, Option.isSome_map]
  rw [partway.rest]
  constructor <;> simp [disks]

theorem untouched (partway : g.Partway other r x) (apart : kind ≠ other) :
    g.Untouched kind r x := by
  cases kind with
  | disks =>
      rw [partway.eq_of_ne apart.symm]
      rfl
  | publicIp | publicIpv6 | nic =>
      rw [partway.rest]
      rfl
  | vm =>
      rw [partway.rest]
      exact ⟨rfl, rfl⟩

/-- Whatever part of a step was done, the step leads to the same. -/
theorem effect_eq (partway : g.Partway kind r x) : g.effect kind x = g.effect kind r := by
  by_cases disks : kind = .disks
  · subst disks
    have same : x.disks.mapValues g.relabel = r.disks.mapValues g.relabel := by
      apply SortedMap.ext_get?
      intro key
      rw [SortedMap.get?_mapValues, SortedMap.get?_mapValues]
      rcases partway.disks key with same | ⟨_, same⟩
      · rw [same]
      · rw [same, Option.map_map]
        congr 1
        exact funext (relabel_relabel key)
    change some { x with disks := x.disks.mapValues g.relabel } = some _
    rw [same, partway.rest]
  · rw [partway.eq_of_ne disks]

end Partway

/-- A step that was done is done. -/
theorem done_of_effect (changed : g.effect kind r = some s) : g.Done kind s := by
  cases kind with
  | publicIp | publicIpv6 =>
      obtain ⟨value, performed⟩ := after_eq_some.1 changed
      exact ⟨_, rfl, Call.kept_of_perform trivial performed⟩
  | nic =>
      obtain ⟨value, performed⟩ := after_eq_some.1 changed
      exact ⟨_, rfl, Call.kept_of_perform nicBody_named performed⟩
  | disks =>
      cases changed
      apply SortedMap.ext_get?
      intro key
      rw [SortedMap.get?_mapValues, SortedMap.get?_mapValues, Option.map_map]
      congr 1
      exact funext (relabel_relabel key)
  | vm =>
      obtain ⟨vm, found, rfl⟩ := effect_eq_some changed
      exact ⟨{ vm with tags := Naming.tags g.config.tags g.uid }, by simp, rfl⟩

/-- What is done can be done again without a change. -/
theorem effect_of_done (done : g.Done kind r) : g.effect kind r = some r := by
  cases kind with
  | publicIp | publicIpv6 | nic =>
      obtain ⟨what, same, kept⟩ := done
      rw [effect, same]
      exact after_eq_some.2 (Call.perform_of_kept (b := { Backend.empty with resources := r }) kept)
  | disks =>
      change some { r with disks := r.disks.mapValues g.relabel } = some r
      rw [show r.disks.mapValues g.relabel = r.disks from done]
  | vm =>
      obtain ⟨vm, found, tags⟩ := done
      refine after_eq_some.2 ⟨(), ?_⟩
      change (r.tagVm (g.keyOf g.machine.name) _).map _ = _
      rw [Resources.tagVm_of_some found, ← tags, SortedMap.insert_of_get? found]
      rfl

/-- What is done stays done while its kind is left alone. -/
theorem Done.of_untouched (done : g.Done kind r) (untouched : g.Untouched kind r s)
    (addresses : ∀ key, r.publicIps.contains key = true → s.publicIps.contains key = true) :
    g.Done kind s := by
  cases kind with
  | publicIp | publicIpv6 =>
      obtain ⟨_, ⟨⟩, address, found⟩ := done
      exact ⟨_, rfl, address, untouched.symm.trans found⟩
  | nic =>
      obtain ⟨_, ⟨⟩, named, present, stored, length, found⟩ := done
      refine ⟨_, rfl, named, fun id member => addresses _ (present id member), stored, length, ?_⟩
      rw [← show r.nics = s.nics from untouched, found]
  | disks =>
      change s.disks.mapValues g.relabel = s.disks
      rw [← show r.disks = s.disks from untouched]
      exact done
  | vm =>
      obtain ⟨vm, found, tags⟩ := done
      exact ⟨vm, untouched.1 ▸ found, tags⟩

theorem grown_of_effects (changed : g.effects kinds r = some s) : g.Grown kinds r s := by
  induction kinds generalizing r with
  | nil =>
      cases changed
      exact .refl _
  | cons kind rest ih =>
      obtain ⟨t, first, later⟩ := Option.bind_eq_some_iff.1 changed
      exact (grown_of_effect first).trans (ih later)

namespace Begun

/-- Wherever a migration is broken off, there is what existed and what the steps that were done have
put. -/
theorem exists_grown (begun : g.Begun kinds r x) :
    ∃ applied, applied <+: kinds ∧ g.Grown applied r x := by
  induction begun with
  | start => exact ⟨[], List.nil_prefix, .refl _⟩
  | partway during => exact ⟨[], List.nil_prefix, during.grown⟩
  | @step kind rest r t x first _ ih =>
      obtain ⟨applied, initial, grown⟩ := ih
      exact ⟨kind :: applied, List.cons_prefix_cons.2 ⟨rfl, initial⟩,
        (grown_of_effect first).trans grown⟩

/-- What is done stays done while other kinds are given the new tag. -/
theorem done (begun : g.Begun kinds r x) (apart : kind ∉ kinds) (done : g.Done kind r) :
    g.Done kind x := by
  induction begun with
  | start => exact done
  | partway during =>
      rw [List.mem_cons, not_or] at apart
      refine done.of_untouched (during.untouched apart.1) fun key present => ?_
      exact (during.grown.publicIps key).2 (.inl present)
  | step first _ ih =>
      rw [List.mem_cons, not_or] at apart
      have untouched := untouched_of_effect first apart.1
      refine ih apart.2 (done.of_untouched untouched fun key present => ?_)
      exact ((grown_of_effect first).publicIps key).2 (.inl present)

/-- A migration that was begun leads to where it led from the start. -/
theorem effects_eq (begun : g.Begun kinds r x) (distinct : kinds.Nodup)
    (whole : g.effects kinds r = some s) : g.effects kinds x = some s := by
  induction begun with
  | start => exact whole
  | partway during =>
      rw [effects, during.effect_eq]
      exact whole
  | @step kind rest r t x first later ih =>
      rw [List.nodup_cons] at distinct
      rw [effects, first, Option.bind_some] at whole
      have still := later.done distinct.1 (done_of_effect first)
      rw [effects, effect_of_done still, Option.bind_some]
      exact ih distinct.2 whole

end Begun

/-- What was begun and is ended is what was begun. -/
theorem begun_of_effects (changed : g.effects kinds r = some s) : g.Begun kinds r s := by
  induction kinds generalizing r with
  | nil =>
      cases changed
      exact .start
  | cons kind rest ih =>
      obtain ⟨t, first, later⟩ := Option.bind_eq_some_iff.1 changed
      exact .step first (ih later)

end Migration

/-- The migration of a machine with a resolved configuration. -/
def Migration.resolved (c : Config) (e : Envelope) (machine : Machine) (uid : String) : Migration :=
  ⟨c, e.ipFamily.isDualStack, machine, uid⟩

end Provisioning.Azure
