import Provisioning.Azure.Provider.Inspect
import Provisioning.Azure.Provider.MigrateUid
import Provisioning.Proofs.Resumption
import Provisioning.Proofs.Retag

/-!
A machine that was created is given a new identity. Each kind of what it has is tagged anew in its
turn, and a machine is found by its tag and seen without it. Main statement: `migrateUid_retags`,
that nothing but the tag of the machine changes.
-/

namespace Provisioning.Azure

namespace Resources

variable {r : Resources} {key : ResourceKey}

theorem tagVm_of_some {vm : VirtualMachine} (found : r.vms.get? key = some vm) (tags : Tags) :
    r.tagVm key tags = .ok { r with vms := r.vms.insert key { vm with tags } } := by
  rw [tagVm, look, found]
  rfl

theorem tagDisk_of_some {disk : Disk} (found : r.disks.get? key = some disk) (tags : Tags) :
    r.tagDisk key tags = .ok { r with disks := r.disks.insert key { disk with tags } } := by
  rw [tagDisk, look, found]
  rfl

/-- Disks that become the target when those of a list are tagged. -/
structure Pending (group uid : String) (disks target : SortedMap ResourceKey Disk)
    (list : List Disk) : Prop where
  listed : ∀ disk ∈ list, ∃ name found, disk.name = some name ∧
    disks.get? ⟨group, name⟩ = some found ∧
    target.get? ⟨group, name⟩ = some { found with tags := Naming.tags disk.tags uid }
  settled : ∀ key, disks.get? key = target.get? key ∨
    ∃ disk ∈ list, key.group = group ∧ disk.name = some key.name

theorem Pending.eq {group uid : String} {disks target : SortedMap ResourceKey Disk}
    (pending : Pending group uid disks target []) : disks = target := by
  apply SortedMap.ext_get?
  intro key
  rcases pending.settled key with same | ⟨disk, member, _⟩
  · exact same
  · cases member

/-- The first disk of the list is tagged. -/
theorem Pending.next {group uid name : String} {disks target : SortedMap ResourceKey Disk}
    {disk found : Disk} {rest : List Disk} (pending : Pending group uid disks target (disk :: rest))
    (named : disk.name = some name) (stored : disks.get? ⟨group, name⟩ = some found) :
    Pending group uid (disks.insert ⟨group, name⟩ { found with
      tags := Naming.tags disk.tags uid }) target rest := by
  have wanted : target.get? ⟨group, name⟩ =
      some { found with tags := Naming.tags disk.tags uid } := by
    obtain ⟨other, same, named', stored', wanted⟩ := pending.listed disk List.mem_cons_self
    cases named.symm.trans named'
    cases stored.symm.trans stored'
    exact wanted
  constructor
  · intro later member
    obtain ⟨other, present, named', stored', wanted'⟩ :=
      pending.listed later (List.mem_cons_of_mem _ member)
    -- A later disk of the same name would be tagged once more, with the same result.
    by_cases same : name = other
    · subst same
      cases stored.symm.trans stored'
      exact ⟨name, { found with tags := Naming.tags disk.tags uid }, named', by simp, wanted'⟩
    · refine ⟨other, present, named', ?_, wanted'⟩
      rw [SortedMap.get?_insert, if_neg (by simp [same]), stored']
  · intro key
    by_cases same : ⟨group, name⟩ = key
    · subst same
      exact .inl (by simp [wanted])
    · rcases pending.settled key with settled | ⟨later, member, inside, named'⟩
      · exact .inl (by rw [SortedMap.get?_insert, if_neg same, settled])
      · rcases List.mem_cons.1 member with rfl | member
        · cases named.symm.trans named'
          exact absurd (by rw [← inside]) same
        · exact .inr ⟨later, member, inside, named'⟩

end Resources

/-- In a calm world an operation succeeds. -/
abbrev Succeeds {ε α : Type} (ok : α → World Backend → Prop) (act : ExceptT ε Asking α)
    (w : World Backend) : Prop :=
  Ends (Hindered True) (fun _ _ => True) ok (fun _ _ => False) act w

namespace Succeeds

variable {ε α β : Type} {better : β → World Backend → Prop} {act : ExceptT ε Asking β}
  {w : World Backend}

theorem bind {next : β → ExceptT ε Asking α} {ok : α → World Backend → Prop}
    (first : Succeeds better act w)
    (rest : ∀ value t, better value t → Succeeds ok (next value) t) :
    Succeeds ok (act >>= next) w :=
  Ends.bind (first.mono rest fun _ _ never => never)

theorem mono {ok : β → World Backend → Prop} (met : Succeeds better act w)
    (oks : ∀ value t, better value t → ok value t) : Succeeds ok act w :=
  Ends.mono met oks fun _ _ never => never

end Succeeds

variable {base : SortedMap String Machine} {h : Holdings} {w : World Backend} {r : Resources}

/-- In a calm world a call does what the backend would do. -/
theorem Holds.succeeds {c : Config} {what : Call} {value : what.Value} {resources : Resources}
    (holds : Holds True base h w) (performed : h.backend.perform what = .ok (value, resources)) :
    Succeeds (fun answer u => answer = value ∧ Holds True base (h.storing resources) u)
      (Action.call c what) w := by
  refine holds.call ?_ ?_
  · intro t answer next u outcome after
    cases performed.symm.trans outcome
    exact ⟨trivial, rfl, after⟩
  · intro t fault u failed _
    cases performed.symm.trans (failed trivial)

theorem Create.putPublicIp_succeeds {c : Config} {name uid version : String} {dualStack : Bool}
    {value : PublicIpAddress} {resources : Resources} (holds : Holds True base h w)
    (put : h.backend.resources.putPublicIp ⟨c.resourceGroup, name⟩
      (Desired.publicIp c uid version dualStack) = (value, resources)) :
    Succeeds (fun _ u => Holds True base (h.storing resources) u)
      (Create.putPublicIp c name uid version dualStack) w := by
  have performed : h.backend.perform (.putPublicIp c.resourceGroup name
      (Desired.publicIp c uid version dualStack)) = .ok (value, resources) :=
    congrArg Except.ok put
  exact Succeeds.bind (.context (holds.succeeds performed)) fun _ u after => .pure after.2

namespace MigrateUid

/-- All disks of a list are tagged. -/
theorem tagDisks_succeeds {c : Config} {uid : String} {list : List Disk}
    {target : SortedMap ResourceKey Disk} (holds : Holds True base (h.storing r) w)
    (pending : Resources.Pending c.resourceGroup uid r.disks target list) :
    Succeeds (fun _ u => Holds True base (h.storing { r with disks := target }) u)
      (tagDisks c uid list) w := by
  induction list generalizing r w with
  | nil =>
      rw [← pending.eq]
      exact .pure holds
  | cons disk rest ih =>
      obtain ⟨name, found, named, stored, _⟩ := pending.listed disk List.mem_cons_self
      let tagged : Resources := { r with
        disks := r.disks.insert ⟨c.resourceGroup, name⟩
          { found with tags := Naming.tags disk.tags uid } }
      have performed : (h.storing r).backend.perform
          (.tagDisk c.resourceGroup name (Naming.tags disk.tags uid)) = .ok ((), tagged) :=
        congrArg (Except.map ((), ·)) (Resources.tagDisk_of_some stored _)
      simp only [tagDisks, named]
      refine Succeeds.bind (.context (holds.succeeds performed)) ?_
      rintro _ u ⟨_, after⟩
      exact ih (r := tagged) after (pending.next named stored)

end MigrateUid

namespace Layout

variable {l : Layout} {uids : Owned → String}

/-- Only the tags of what the machine has matter. -/
theorem on_congr {others : Owned → String}
    (same : ∀ kind, l.has kind = true → uids kind = others kind) : l.on r uids = l.on r others := by
  have addresses : l.publicIps r uids = l.publicIps r others := by
    unfold publicIps withAddresses
    cases assigned : l.config.assignPublicIp with
    | false => rfl
    | true =>
        rw [same .publicIp assigned]
        cases both : l.dualStack with
        | false => rfl
        | true => rw [same .publicIpv6 (by simp [has, assigned, both])]
  rw [on, addresses, disks, same .nic rfl, same .vm rfl, same .disks rfl]
  rfl

/-- A public address that is put again has the new tag and the address that it had. -/
theorem putPublicIp_on (has : l.has .publicIp = true) (new : String) :
    (l.on r uids).putPublicIp (l.keyOf (Naming.publicIp l.nicName))
        (Desired.publicIp l.config new ipv4 l.dualStack) =
      ((Desired.publicIp l.config new ipv4 l.dualStack).stored
        (l.keyOf (Naming.publicIp l.nicName)) l.address,
        l.on r (Function.update uids .publicIp new)) := by
  refine (Resources.putPublicIp_of_some (get?_withAddresses has) _).trans (Prod.ext rfl ?_)
  exact congrArg (fun publicIps => { l.on r uids with publicIps }) (insert_withAddresses has new)

theorem putPublicIp_ipv6_on (has : l.has .publicIpv6 = true) (new : String) :
    (l.on r uids).putPublicIp (l.keyOf (Naming.publicIpv6 l.nicName))
        (Desired.publicIp l.config new ipv6 true) =
      ((Desired.publicIp l.config new ipv6 true).stored
        (l.keyOf (Naming.publicIpv6 l.nicName)) l.addressV6,
        l.on r (Function.update uids .publicIpv6 new)) := by
  obtain ⟨assigned, both⟩ := Bool.and_eq_true_iff.1 has
  have addresses (others : Owned → String) : l.publicIps r others = withAddresses l.config l.nicName
      true l.address l.addressV6 (others .publicIp) (others .publicIpv6) r.publicIps := by
    rw [publicIps, both]
  have found : (l.on r uids).publicIps.get? (l.keyOf (Naming.publicIpv6 l.nicName)) = _ :=
    (congrArg (SortedMap.get? · _) (addresses uids)).trans (get?_withAddresses_ipv6 assigned)
  refine (Resources.putPublicIp_of_some found _).trans (Prod.ext rfl ?_)
  refine congrArg (fun publicIps => { l.on r uids with publicIps }) ?_
  exact (congrArg (SortedMap.insert · _ _) (addresses uids)).trans
    ((insert_withAddresses_ipv6 assigned new).trans
      (addresses (Function.update uids .publicIpv6 new)).symm)

/-- An interface that is put again has the new tag and the addresses that it had. -/
theorem putNic_on (wired : l.Wired r) (new : String) :
    (l.on r uids).putNic (l.keyOf l.nicName) (l.nicBody new) =
      .ok ((l.nicBody new).stored (l.keyOf l.nicName) l.privates,
        l.on r (Function.update uids .nic new)) := by
  have found : (l.on r uids).nics.get? (l.keyOf l.nicName) =
      some ((l.nicBody (uids .nic)).stored (l.keyOf l.nicName) l.privates) := by
    simp [on]
  have named : (l.nicBody new).Named := Desired.nic_named ..
  rw [Resources.putNic_of_addressed (wired.present new uids) found named (wired.length new) rfl]
  refine congrArg (fun nics => Except.ok (_, { l.on r uids with nics })) ?_
  exact SortedMap.insert_insert ..

/-- A virtual machine that is tagged anew is what it was. -/
theorem tagVm_on (r : Resources) (uids : Owned → String) (new : String) :
    (l.on r uids).tagVm (l.keyOf l.name) (Naming.tags l.config.tags new) =
      .ok (l.on r (Function.update uids .vm new)) := by
  have found : (l.on r uids).vms.get? (l.keyOf l.name) =
      some ((l.vmBody (uids .vm)).stored (l.keyOf l.name)) := by
    simp [on]
  rw [Resources.tagVm_of_some found]
  exact congrArg (fun vms => Except.ok { l.on r uids with vms }) (SortedMap.insert_insert ..)

end Layout

/-- A machine has the layout of its record, and neither its identity nor the next one is anybody
else's. -/
structure Layout.Migrates (l : Layout) (r : Resources) (machine : Machine) (new : String) :
    Prop where
  name : machine.name = l.name
  kinds : ∀ kind, Owned.of machine kind = l.has kind
  subscription : l.config.subscriptionId = Resources.subscription
  wired : l.Wired r
  unmarked : r.Unmarked machine.uid
  vacant : r.Unmarked new

namespace Layout.Migrates

variable {l : Layout} {machine : Machine} {new : String} {uids : Owned → String}

/-- The disks of the machine become those of its next identity. -/
theorem pending (migrates : l.Migrates r machine new) (before : uids .disks = machine.uid)
    (others : Owned → String) (after : others .disks = new) :
    Resources.Pending l.config.resourceGroup new (l.disks r uids) (l.disks r others)
      ((Resources.ofGroup (l.disks r uids) l.config.resourceGroup).filter fun disk =>
        Naming.hasUid disk.tags machine.uid || Naming.hasUid disk.tags new) := by
  constructor
  · intro disk member
    obtain ⟨listed, marked⟩ := List.mem_filter.1 member
    obtain ⟨⟨group, name⟩, inside, found⟩ := Resources.mem_ofGroup_iff.1 listed
    cases inside
    rw [get?_disks] at found
    cases earlier : r.disks.get? ⟨l.config.resourceGroup, name⟩ with
    | some other =>
        rw [earlier, Option.some_or, Option.some.injEq] at found
        subst found
        simp [migrates.unmarked.disks _ _ earlier, migrates.vacant.disks _ _ earlier] at marked
    | none =>
        rw [earlier, Option.none_or] at found
        split at found
        · rename_i own
          cases found
          refine ⟨name, l.disk name machine.uid, by rw [before]; rfl, ?_, ?_⟩
          · rw [get?_disks, earlier, Option.none_or, if_pos own, before]
          · rw [get?_disks, earlier, Option.none_or, if_pos own, after]
            simp [disk]
        · cases found
  · intro key
    rw [get?_disks, get?_disks]
    cases earlier : r.disks.get? key with
    | some other => exact .inl rfl
    | none =>
        by_cases own : key.group = l.config.resourceGroup ∧ key.name ∈ l.diskNames
        · refine .inr ⟨l.disk key.name machine.uid, List.mem_filter.2 ⟨?_, ?_⟩, own.1, rfl⟩
          · refine Resources.mem_ofGroup_iff.2 ⟨key, own.1, ?_⟩
            rw [get?_disks, earlier, Option.none_or, if_pos own, before]
          · simp [disk, Naming.hasUid_tags_iff]
        · exact .inl (by rw [if_neg own, if_neg own])

/-- The interface that the migration puts is the one that was created, with the new tag. -/
theorem nicBody (migrates : l.Migrates r machine new) (uid : String) :
    Desired.nic l.config uid
        (MigrateUid.publicIpId? l.config machine .publicIp (Naming.publicIp l.nicName))
        (MigrateUid.publicIpId? l.config machine .publicIpv6 (Naming.publicIpv6 l.nicName))
        l.dualStack = l.nicBody uid := by
  unfold MigrateUid.publicIpId? Layout.nicBody Create.addressIds
  rw [migrates.kinds, migrates.kinds, migrates.subscription]
  unfold has
  cases l.config.assignPublicIp <;> cases l.dualStack <;> rfl

/-- What is had of a kind is given the new tag, and nothing else changes. -/
theorem retag (migrates : l.Migrates r machine new) {kind : Owned} (has : l.has kind = true)
    (before : uids kind = machine.uid) (holds : Holds True base (h.storing (l.on r uids)) w) :
    Succeeds (fun _ u => Holds True base (h.storing (l.on r (Function.update uids kind new))) u)
      (MigrateUid.retag l.config l.dualStack machine new kind) w := by
  have name := migrates.name
  cases kind with
  | publicIp =>
      rw [MigrateUid.retag, name]
      have put := Create.putPublicIp_succeeds holds (putPublicIp_on has new)
      exact Succeeds.bind (.context put) fun _ u after => .pure after
  | publicIpv6 =>
      rw [MigrateUid.retag, name]
      have put := Create.putPublicIp_succeeds holds (putPublicIp_ipv6_on has new)
      exact Succeeds.bind (.context put) fun _ u after => .pure after
  | nic =>
      rw [MigrateUid.retag, name]
      have performed : (h.storing (l.on r uids)).backend.perform
          (.putNic l.config.resourceGroup l.nicName (l.nicBody new)) = _ :=
        putNic_on migrates.wired new
      rw [← migrates.nicBody] at performed
      exact Succeeds.bind (.context (holds.succeeds performed)) fun _ u after => .pure after.2
  | disks =>
      rw [MigrateUid.retag]
      have performed : (h.storing (l.on r uids)).backend.perform
          (.listDisks l.config.resourceGroup) = .ok
            (Resources.ofGroup (l.disks r uids) l.config.resourceGroup, l.on r uids) := rfl
      refine Succeeds.bind (holds.succeeds performed) ?_
      rintro _ u ⟨rfl, after⟩
      exact MigrateUid.tagDisks_succeeds after
        (migrates.pending before (Function.update uids .disks new) rfl)
  | vm =>
      rw [MigrateUid.retag, name]
      have performed : (h.storing (l.on r uids)).backend.perform
          (.tagVm l.config.resourceGroup l.name (Naming.tags l.config.tags new)) = .ok ((), _) :=
        congrArg (Except.map ((), ·)) (tagVm_on r uids new)
      exact .context (Succeeds.mono (holds.succeeds performed) fun _ u after => after.2)

/-- One kind after the other is given the new tag. -/
theorem retagAll (migrates : l.Migrates r machine new) {kinds : List Owned} (distinct : kinds.Nodup)
    (has : ∀ kind ∈ kinds, l.has kind = true) (before : ∀ kind ∈ kinds, uids kind = machine.uid)
    (holds : Holds True base (h.storing (l.on r uids)) w) :
    Succeeds (fun _ u => Holds True base
        (h.storing (l.on r fun kind => if kind ∈ kinds then new else uids kind)) u)
      (MigrateUid.retagAll l.config l.dualStack machine new kinds) w := by
  induction kinds generalizing uids w with
  | nil => exact .pure holds
  | cons first rest ih =>
      rw [List.nodup_cons] at distinct
      rw [List.forall_mem_cons] at has before
      refine Succeeds.bind (migrates.retag has.1 before.1 holds) ?_
      intro _ u after
      have still : ∀ kind ∈ rest, Function.update uids first new kind = machine.uid := by
        intro kind member
        have apart : kind ≠ first := fun same => distinct.1 (same ▸ member)
        rw [Function.update_of_ne apart]
        exact before.2 kind member
      have all : (fun kind => if kind ∈ first :: rest then new else uids kind) =
          fun kind => if kind ∈ rest then new else Function.update uids first new kind := by
        funext kind
        by_cases same : kind = first
        · subst same
          simp
        · simp [same]
      rw [all]
      exact ih distinct.2 has.2 still after

end Layout.Migrates

/-- A migration changes the tags of the machine and nothing else. -/
theorem migrateUid_succeeds {l : Layout} {machine : Machine} {new : String} {sources : Sources}
    (migrates : l.Migrates r machine new)
    (resolved : Config.resolve sources machine.providerSpec = .ok (l.config, l.envelope))
    (holds : Holds True base (h.storing (l.on r fun _ => machine.uid)) w) :
    Succeeds (fun _ u => Holds True base (h.storing (l.on r fun _ => new)) u)
      (migrateUid sources machine new) w := by
  have present {kind : Owned} : kind ∈ Owned.present machine ↔ l.has kind = true := by
    simp [Owned.present, Owned.mem_all, migrates.kinds]
  have distinct : (Owned.present machine).Nodup := List.Nodup.filter _ (by decide)
  unfold migrateUid
  rw [resolved]
  refine Ends.known (.bind (.reporting (holds.connect ?_)))
  intro t u after
  have retagged := migrates.retagAll distinct (fun _ => present.1) (fun _ _ => rfl) after
  refine ⟨trivial, .reporting (Succeeds.mono retagged fun _ v after => ?_)⟩
  -- What the machine has not keeps its old tag in the layout, where it does not matter.
  refine Layout.on_congr ?_ ▸ after
  intro kind has
  exact if_pos (present.2 has)

section

variable {m copy : Machine} {c : Config} {e : Envelope} {sources : Sources} {userdata new : String}
  {vm : VirtualMachine} {i : Instance} {u : World Backend}

/-- A machine is asked for in a calm world: what is found and seen is what the backend shows. -/
theorem get_ends (holds : Holds True base h w)
    (resolved : Config.resolve sources m.providerSpec = .ok (c, e)) :
    Ends (Hindered True) (fun _ _ => True)
      (fun i _ => ∃ vm, h.backend.glimpse (Lookup.vm c m.uid).run = .ok vm ∧
        h.backend.glimpse (Lookup.instanceOf c vm).run = .ok i)
      (fun fault _ =>
        (h.backend.glimpse (Lookup.vm c m.uid).run = .error (.cloud .instanceNotFound) →
          fault = .instanceNotFound) ∧
        ∀ vm, h.backend.glimpse (Lookup.vm c m.uid).run = .ok vm →
          ∀ i, h.backend.glimpse (Lookup.instanceOf c vm).run ≠ .ok i)
      (get sources m) w := by
  unfold get
  rw [resolved]
  refine Ends.known (.bind (.reporting (holds.connect ?_)))
  intro t u after
  refine ⟨trivial, .bind (.reporting ((after.reading (Lookup.vm_reading c m.uid)
    fun _ _ _ => trivial).mono ?_ ?_))⟩
  · rintro vm v ⟨after, found⟩
    refine .reporting ((after.reading (Lookup.instanceOf_reading c vm)
      fun _ _ _ => trivial).mono ?_ ?_)
    · exact fun i _ seen => ⟨vm, found, seen.2⟩
    · intro fault _ unseen
      refine ⟨fun absent => (by cases found.symm.trans absent), fun other same i seen => ?_⟩
      cases found.symm.trans same
      cases (unseen trivial).symm.trans seen
  · intro fault _ absent
    refine ⟨fun lost => ?_, fun vm found => ?_⟩
    · cases (absent trivial).symm.trans lost
      rfl
    · cases (absent trivial).symm.trans found

/-- What is found and seen is the answer. -/
theorem get_eq_ok (holds : Holds True base h w)
    (resolved : Config.resolve sources m.providerSpec = .ok (c, e))
    (found : h.backend.glimpse (Lookup.vm c m.uid).run = .ok vm)
    (seen : h.backend.glimpse (Lookup.instanceOf c vm).run = .ok i) :
    (World.run Backend.service (get sources m).run w).1 = .ok i := by
  rcases (get_ends holds resolved).run with
    ⟨other, v, ended, vm', found', seen'⟩ | ⟨fault, v, _, _, unseen⟩
  · cases found.symm.trans found'
    cases seen.symm.trans seen'
    rw [ended]
  · exact absurd seen (unseen vm found i)

/-- Who is not found is said not to be there. -/
theorem get_eq_instanceNotFound (holds : Holds True base h w)
    (resolved : Config.resolve sources m.providerSpec = .ok (c, e))
    (absent : h.backend.glimpse (Lookup.vm c m.uid).run = .error (.cloud .instanceNotFound)) :
    (World.run Backend.service (get sources m).run w).1 = .error .instanceNotFound := by
  rcases (get_ends holds resolved).run with
    ⟨other, v, ended, vm, found, _⟩ | ⟨fault, v, ended, lost, _⟩
  · cases absent.symm.trans found
  · rw [ended, lost absent]

/-- A creation ends with a layout that can be given a new identity, and with the instance that is
then seen. -/
theorem exists_migrates (stored : w.store.get? m.name = some m) (clear : ledger.isClear m = true)
    (resolved : Config.resolve sources m.providerSpec = .ok (c, e))
    (subscribed : c.subscriptionId = Resources.subscription)
    (unmarked : w.backend.resources.Unmarked m.uid) (vacant : w.backend.resources.Unmarked new)
    (created : World.run Backend.service ((create sources userdata).run.run m) w =
      ((.ok i, copy), u)) :
    ∃ (l : Layout) (h : Holdings), l.config = c ∧ l.envelope = e ∧
      l.Migrates w.backend.resources copy new ∧ Continues m copy ∧
      h.backend.resources = (l.on w.backend.resources fun _ => m.uid) ∧
      Holds True w.store.records h u.calm ∧
      h.backend.glimpse (Lookup.instanceOf l.config
        ((l.vmBody m.uid).stored (l.keyOf l.name))).run = .ok i := by
  rcases (create_follows resolved (World.holds_holdings stored)).run with
    ⟨_, _, _, ended, final, creates, rfl, holds⟩ | ⟨_, _, _, ended, _⟩
  · cases ended.symm.trans created
    obtain ⟨storage, storable⟩ := creates.storage
    obtain ⟨l, rfl, rfl, name, wired, made, kinds⟩ := exists_layout storable creates.carried
    have continues : Continues m final.record := continues_of_carryOut creates.carried
    have seen := creates.seen
    rw [← name, Layout.glimpse_readBack made] at seen
    refine ⟨l, final, rfl, rfl, ?_, continues, made, holds.calmed, seen⟩
    exact
      { name := continues.name.trans name.symm
        kinds := fun kind =>
          (kinds kind).trans ((congrArg _ (isClear_iff.1 clear kind)).trans (Bool.or_false _))
        subscription := subscribed
        wired
        unmarked := continues.uid ▸ unmarked
        vacant }
  · cases ended.symm.trans created

/-- After a creation, a machine is given a new identity that nothing carries. That succeeds, and
replaces the tag of the machine wherever it is and nothing else; the machine is seen under its new
identity as it was under the old one, under which it is no longer found. -/
theorem migrateUid_retags (stored : w.store.get? m.name = some m) (clear : ledger.isClear m = true)
    (resolved : Config.resolve sources m.providerSpec = .ok (c, e))
    (subscribed : c.subscriptionId = Resources.subscription)
    (unmarked : w.backend.resources.Unmarked m.uid) (vacant : w.backend.resources.Unmarked new)
    (created : World.run Backend.service ((create sources userdata).run.run m) w =
      ((.ok i, copy), u)) :
    ∃ v, World.run Backend.service (migrateUid sources copy new).run u.calm = (.ok (), v) ∧
      v.backend.resources = u.backend.resources.retag m.uid new ∧
      (World.run Backend.service (get sources copy).run u.calm).1 = .ok i ∧
      (World.run Backend.service (get sources { copy with uid := new }).run v).1 = .ok i ∧
      (m.uid ≠ new →
        (World.run Backend.service (get sources copy).run v).1 = .error .instanceNotFound) := by
  obtain ⟨l, h, rfl, rfl, migrates, continues, made, holds, seen⟩ :=
    exists_migrates stored clear resolved subscribed unmarked vacant created
  have same : Config.resolve sources copy.providerSpec = .ok (l.config, l.envelope) :=
    continues.providerSpec ▸ resolved
  have before : Holds True w.store.records
      (h.storing (l.on w.backend.resources fun _ => copy.uid)) u.calm := by
    rw [continues.uid, ← made]
    exact holds
  rcases (migrateUid_succeeds migrates same before).run with ⟨_, v, ended, after⟩ | ⟨_, _, _, never⟩
  · have retagged : (h.storing (l.on w.backend.resources fun _ => new)).backend =
        h.backend.retag m.uid new := by
      rw [Backend.retag, made, Layout.retag_on unmarked]
      rfl
    have found := Layout.glimpse_vm (b := h.backend) unmarked made
    have foundAfter := Layout.glimpse_vm
      (b := (h.storing (l.on w.backend.resources fun _ => new)).backend) vacant rfl
    refine ⟨v, ended, ?_, ?_, ?_, ?_⟩
    · have resources : u.backend.resources = _ := holds.resources.trans made
      rw [after.resources, resources, Layout.retag_on unmarked]
      rfl
    · exact get_eq_ok holds same (continues.uid ▸ found) seen
    · refine get_eq_ok (m := { copy with uid := new }) after same foundAfter ?_
      rw [retagged]
      exact (Lookup.glimpse_instanceOf_retag h.backend m.uid new l.config _).trans seen
    · intro different
      refine get_eq_instanceNotFound after same ?_
      rw [continues.uid]
      exact Layout.glimpse_vm_of_ne unmarked different.symm rfl
  · exact never.elim

/-- A machine of both families, with two addresses and a data disk, is given its next identity. -/
theorem migrateUid_retags_made : ∃ i copy u v,
    World.run Backend.service ((create Sample.sources "data").run.run Sample.machine)
      Sample.world.calm = ((.ok i, copy), u) ∧
    World.run Backend.service (migrateUid Sample.sources copy "next").run u.calm = (.ok (), v) ∧
    v.backend.resources = u.backend.resources.retag Sample.machine.uid "next" ∧
    (World.run Backend.service (get Sample.sources copy).run u.calm).1 = .ok i ∧
    (World.run Backend.service (get Sample.sources { copy with uid := "next" }).run v).1 = .ok i ∧
    (Sample.machine.uid ≠ "next" → (World.run Backend.service (get Sample.sources copy).run v).1 =
      .error .instanceNotFound) := by
  obtain ⟨i, copy, u, created⟩ := Sample.exists_made
  have vacant (uid : String) : Sample.world.calm.backend.resources.Unmarked uid :=
    .of_isEmpty Sample.begins.empty
  have stored : Sample.world.calm.store.get? Sample.machine.name = some Sample.machine :=
    Sample.begins.stored
  have clear : ledger.isClear Sample.machine = true := by decide +kernel
  have subscribed : Sample.resolved.1.subscriptionId = Resources.subscription := by
    decide +kernel
  obtain ⟨v, migrated⟩ := migrateUid_retags stored clear Sample.resolve_spec subscribed
    (vacant Sample.machine.uid) (vacant "next") created
  exact ⟨i, copy, u, v, created, migrated⟩

end

end Provisioning.Azure
