import Provisioning.Azure.Provider.Cleanup
import Provisioning.Azure.Provider.Inspect
import Provisioning.Proofs.Extension

/-!
The virtual machines that a teardown leaves. It looks for the machine in the whole subscription and
deletes in the machine's group alone, so what carries the machine's tag elsewhere is left, although
the finalizer is taken off. Main statement: `vms_of_cleanup`.
-/

namespace Provisioning.Azure

open Relation

/-- The virtual machines without those of a group that carry a machine's tag. -/
def Resources.survivors (r : Resources) (group uid : String) :
    SortedMap ResourceKey VirtualMachine :=
  r.vms.filter fun key vm => !(key.group == group && Naming.hasUid vm.tags uid)

variable {r : Resources} {w : World Backend} {c : Config} {uid : String}

/-- Where everything is stored under its own name, the tagged virtual machines of a group are those
whose names are listed. -/
theorem Resources.Filed.get?_survivors (filed : r.Filed) (group : String) (key : ResourceKey) :
    (r.survivors group uid).get? key =
      if key.group = group ∧ key.name ∈ ((Resources.ofGroup r.vms group).filter fun vm =>
        Naming.hasUid vm.tags uid).filterMap (·.name) then none
      else r.vms.get? key := by
  rw [survivors, SortedMap.get?_filter]
  have listed : key.group = group → ∀ vm, r.vms.get? key = some vm →
      (key.name ∈ ((ofGroup r.vms group).filter fun vm =>
        Naming.hasUid vm.tags uid).filterMap (·.name) ↔ Naming.hasUid vm.tags uid = true) := by
    intro inside vm found
    subst inside
    constructor
    · intro member
      obtain ⟨place, other, group, stored, tagged, named⟩ := exists_of_mem_listed member
      have name := filed.vms place other stored
      rw [named, Option.some.injEq] at name
      have same : place = key := by
        cases place
        cases key
        cases group
        cases name
        rfl
      rw [same, found] at stored
      cases stored
      exact tagged
    · exact fun tagged => name_mem_listed found (filed.vms key vm found) tagged
  cases found : r.vms.get? key with
  | none => simp
  | some vm =>
      by_cases inside : key.group = group
      · have known := listed inside vm found
        cases tagged : Naming.hasUid vm.tags uid with
        | true => simp [inside, known.2 tagged, tagged]
        | false =>
            rw [tagged] at known
            simp [inside, tagged, known]
      · simp [inside]

/-- What has some virtual machines, each stored under its own name, in a calm world. -/
def ShowsVms (vms : SortedMap ResourceKey VirtualMachine) (_ : Unit) (w : World Backend) : Prop :=
  ∃ r, Shows True r w ∧ r.Filed ∧ r.vms = vms

/-- In a calm world a machine is found exactly if something carries its tag. -/
theorem Shows.lookup (shows : Shows True r w) :
    (Lookup.vm c uid).Meets (Hindered True) (Leaves fun _ => True)
      (fun vm u => Shows True r u ∧
        r.vms.values.find? (fun vm => Naming.hasUid vm.tags uid) = some vm)
      (fun fault u => Shows True r u ∧
        r.vms.values.find? (fun vm => Naming.hasUid vm.tags uid) = none ∧
        fault = .cloud .instanceNotFound) w := by
  refine .bind (shows.call ?_ fun _ _ _ _ failed _ => (by cases failed trivial))
  intro b all next u same performed shown
  change Except.ok (b.resources.vms.values, b.resources) = _ at performed
  rw [same] at performed
  cases performed
  refine ⟨trivial, ?_⟩
  cases found : r.vms.values.find? fun vm => Naming.hasUid vm.tags uid with
  | none => exact .throw ⟨shown, rfl, rfl⟩
  | some vm => exact .pure ⟨shown, rfl⟩

namespace Cleanup

/-- The virtual machines after the deletion of something of a kind. -/
def vmsAfter (group : String) (owned : Owned) (vms : SortedMap ResourceKey VirtualMachine)
    (name : String) : SortedMap ResourceKey VirtualMachine :=
  if owned = .vm then vms.erase ⟨group, name⟩ else vms

/-- Only the deletion of a virtual machine deletes one. -/
theorem vms_of_removal {b : Backend} {group name : String} {owned : Owned}
    {value : (owned.removal group name).Value} {next : Resources}
    (performed : b.perform (owned.removal group name) = .ok (value, next)) :
    next.vms = vmsAfter group owned b.resources.vms name := by
  rw [Backend.perform_removal owned performed]
  cases owned <;> rfl

/-- A deletion that succeeds. -/
theorem delete_meets (owned : Owned) (name : String) (filed : r.Filed) (shows : Shows True r w) :
    (Action.call c (owned.removal c.resourceGroup name)).Meets (Hindered True)
      (Leaves fun _ => True)
      (fun _ u => ShowsVms (vmsAfter c.resourceGroup owned r.vms name) () u) (fun _ _ => True)
      w := by
  refine shows.call ?_ fun _ _ _ _ _ _ => ⟨trivial, trivial⟩
  intro b value next u same performed shown
  subst same
  exact ⟨trivial, next, shown, filed.perform performed, vms_of_removal performed⟩

/-- One deletion after the other. -/
theorem deleteAll_meets {group : String} (owned : Owned) {delete : String → Action Unit}
    (deletes : ∀ name r w, r.Filed → Shows True r w →
      (delete name).Meets (Hindered True) (Leaves fun _ => True)
        (ShowsVms (vmsAfter group owned r.vms name)) (fun _ _ => True) w)
    (names : List String) (filed : r.Filed) (shows : Shows True r w) :
    (deleteAll delete names).Meets (Hindered True) (Leaves fun _ => True)
      (ShowsVms (names.foldl (vmsAfter group owned) r.vms)) (fun _ _ => True) w := by
  induction names generalizing r w with
  | nil => exact .pure ⟨r, shows, filed, rfl⟩
  | cons name rest ih =>
      refine .bind ((deletes name r w filed shows).mono ?_ fun _ _ met => met)
      rintro _ t ⟨s, shown, filed, vms⟩
      rw [List.foldl_cons, ← vms]
      exact ih filed shown

theorem foldl_vmsAfter_of_ne {group : String} {owned : Owned} (apart : owned ≠ .vm)
    (names : List String) (vms : SortedMap ResourceKey VirtualMachine) :
    names.foldl (vmsAfter group owned) vms = vms := by
  induction names with
  | nil => rfl
  | cons name rest ih => rw [List.foldl_cons, vmsAfter, if_neg apart, ih]

theorem get?_foldl_vmsAfter (group : String) (names : List String)
    (vms : SortedMap ResourceKey VirtualMachine) (key : ResourceKey) :
    (names.foldl (vmsAfter group .vm) vms).get? key =
      if key.group = group ∧ key.name ∈ names then none else vms.get? key := by
  induction names generalizing vms with
  | nil => simp
  | cons name rest ih =>
      rw [List.foldl_cons, ih, vmsAfter, if_pos rfl, SortedMap.get?_erase]
      by_cases first : (⟨group, name⟩ : ResourceKey) = key
      · subst first
        simp
      · have other : ¬(key.group = group ∧ key.name = name) := by
          rintro ⟨rfl, rfl⟩
          exact first rfl
        rw [if_neg first]
        congr 1
        grind

/-- Whoever is found nowhere has nothing to delete. -/
theorem survivors_of_find? (group : String)
    (absent : r.vms.values.find? (fun vm => Naming.hasUid vm.tags uid) = none) :
    r.survivors group uid = r.vms := by
  apply SortedMap.ext_get?
  intro key
  rw [Resources.survivors, SortedMap.get?_filter]
  cases found : r.vms.get? key with
  | none => rfl
  | some vm =>
      have other := List.find?_eq_none.1 absent vm (SortedMap.mem_values_iff.2 ⟨key, found⟩)
      simp [other]

/-- The tagged virtual machines of the machine's group are deleted, whether or not there are others
elsewhere. -/
theorem deleteVms_meets (filed : r.Filed) (shows : Shows True r w) :
    (deleteVms c uid).Meets (Hindered True) (Leaves fun _ => True)
      (ShowsVms (r.survivors c.resourceGroup uid)) (fun _ _ => True) w := by
  refine .bind (shows.call ?_ fun _ _ _ _ _ _ => ⟨trivial, trivial⟩)
  intro b vms next u same performed shown
  change Except.ok (Resources.ofGroup b.resources.vms _, b.resources) = _ at performed
  rw [same] at performed
  cases performed
  have left : ∀ names : List String, names = ((Resources.ofGroup r.vms c.resourceGroup).filter
      fun vm => Naming.hasUid vm.tags uid).filterMap (·.name) →
      names.foldl (vmsAfter c.resourceGroup .vm) r.vms = r.survivors c.resourceGroup uid := by
    rintro _ rfl
    apply SortedMap.ext_get?
    intro key
    rw [get?_foldl_vmsAfter, filed.get?_survivors]
  refine ⟨trivial, left _ rfl ▸ deleteAll_meets .vm ?_ _ filed shown⟩
  exact fun name _ _ filed shows => delete_meets .vm name filed shows

theorem vmExists_meets (shows : Shows True r w) :
    (vmExists c uid).Meets (Hindered True) (Leaves fun _ => True)
      (fun found u => Shows True r u ∧
        (found = false → r.vms.values.find? (fun vm => Naming.hasUid vm.tags uid) = none))
      (fun _ _ => True) w := by
  refine Program.Safe.bind (Program.Safe.mono ?_ shows.lookup)
  rintro (fault | vm) u met
  · obtain ⟨shown, absent, rfl⟩ := met
    exact ⟨shown, fun _ => absent⟩
  · exact ⟨met.1, nofun⟩

/-- Deletions of another kind leave the virtual machines, whatever is listed. -/
theorem deleteListed_meets {kind : Owned} (apart : kind ≠ .vm) {listing : Call}
    (reads : listing.isWrite = false) (names : listing.Value → List String)
    {delete : String → Action Unit}
    (deletes : ∀ name r w, r.Filed → Shows True r w →
      (delete name).Meets (Hindered True) (Leaves fun _ => True)
        (ShowsVms (vmsAfter c.resourceGroup kind r.vms name)) (fun _ _ => True) w)
    (filed : r.Filed) (shows : Shows True r w) :
    (Action.call c listing >>= fun listed => deleteAll delete (names listed) : Action Unit).Meets
      (Hindered True) (Leaves fun _ => True) (ShowsVms r.vms) (fun _ _ => True) w := by
  refine .bind (shows.call ?_ fun _ _ _ _ _ _ => ⟨trivial, trivial⟩)
  intro b listed next u same performed shown
  have kept := Backend.perform_of_read reads performed
  rw [same] at kept
  subst kept
  have deleted := deleteAll_meets kind deletes (names listed) filed shown
  rw [foldl_vmsAfter_of_ne apart] at deleted
  exact ⟨trivial, deleted⟩

/-- Deleting what is of a kind deletes virtual machines only if that is the kind. -/
theorem delete_kind_meets (kind : Owned) (name : String) (filed : r.Filed)
    (shows : Shows True r w) :
    (delete c name uid kind).Meets (Hindered True) (Leaves fun _ => True)
      (ShowsVms (if kind = .vm then r.survivors c.resourceGroup uid else r.vms))
      (fun _ _ => True) w := by
  cases kind with
  | vm =>
      refine .bind ((vmExists_meets shows).mono ?_ fun _ _ met => met)
      rintro found u ⟨shown, absent⟩
      cases found with
      | true => exact .context (deleteVms_meets filed shown)
      | false => exact .pure ⟨r, shown, filed, (survivors_of_find? _ (absent rfl)).symm⟩
  | disks =>
      exact .context (deleteListed_meets (by decide) rfl _
        (fun name _ _ filed shows => delete_meets .disks name filed shows) filed shows)
  | nic =>
      exact .context (deleteListed_meets (by decide) rfl _
        (fun name _ _ filed shows => delete_meets .nic name filed shows) filed shows)
  | publicIp =>
      exact .context (deleteListed_meets (by decide) rfl _
        (fun name _ _ filed shows => delete_meets .publicIp name filed shows) filed shows)
  | publicIpv6 =>
      exact .context (deleteListed_meets (by decide) rfl _
        (fun name _ _ filed shows => delete_meets .publicIpv6 name filed shows) filed shows)

end Cleanup

/-- In a calm world nothing comes in between. -/
theorem Hindered.eq_of_calm {v : World Backend} (changes : ReflTransGen (Hindered True) w v) :
    w = v := by
  induction changes with
  | refl => rfl
  | tail _ change _ => exact absurd trivial change.1

/-- A commit changes no resources, and leaves a calm world calm. -/
theorem Shows.disown {m : Machine} (shows : Shows True r w) (owned : Owned) :
    Recorded.Meets (Hindered True) (Leaves fun _ => True) (fun _ _ u => Shows True r u)
      (fun _ _ _ => True) (disown owned) m w := by
  refine .copy ?_
  split
  · intro t changes
    cases Hindered.eq_of_calm changes
    have quiet := shows.calm trivial
    refine ⟨trivial, ?_⟩
    have served : World.serve Backend.service (.commit m.name (.remove owned.finalizer)) w =
        ((w.store.commit m.name (.remove owned.finalizer)).1,
          { w with store := (w.store.commit m.name (.remove owned.finalizer)).2 }) := rfl
    rw [served, Store.commit, if_neg (by rw [quiet.2]; exact Nat.lt_irrefl 0)]
    cases found : w.store.get? m.name with
    | none => trivial
    | some stored => exact ⟨shows.resources, fun _ => quiet⟩
  · exact .pure shows

variable {m copy : Machine} {e : Envelope} {sources again : Sources} {v : World Backend}

/-- Of one kind after the other, only the virtual machines have any to delete. -/
theorem Cleanup.tearDown_meets {n : Machine} {name : String} (kinds : List Owned)
    (distinct : kinds.Nodup) (filed : r.Filed) (shows : Shows True r w) :
    Recorded.Meets (Hindered True) (Leaves fun _ => True)
      (fun _ _ u => ShowsVms (if .vm ∈ kinds then r.survivors c.resourceGroup uid else r.vms) () u)
      (fun _ _ _ => True) (tearDown c name uid kinds) n w := by
  induction kinds generalizing r n w with
  | nil => exact .pure ⟨r, shows, filed, rfl⟩
  | cons kind rest ih =>
      rw [List.nodup_cons] at distinct
      refine .bind (.recorded ((delete_kind_meets kind name filed shows).mono ?_
        fun _ _ _ => trivial))
      rintro _ t ⟨s, shown, filed, vms⟩
      refine .bind ((shown.disown kind).mono ?_ fun _ _ _ _ => trivial)
      intro _ p u shown
      refine (ih distinct.2 filed shown).mono ?_ fun _ _ _ _ => trivial
      rintro _ q v ⟨x, shown, filed, left⟩
      refine ⟨x, shown, filed, left.trans ?_⟩
      by_cases same : kind = .vm
      · subst same
        rw [if_neg distinct.1, if_pos List.mem_cons_self, vms, if_pos rfl]
      · rw [if_neg same] at vms
        have elsewhere : .vm ∈ kind :: rest ↔ .vm ∈ rest := by
          simp [Ne.symm same]
        simp only [elsewhere, Resources.survivors, vms]

/-- In a calm world whoever is tagged nowhere is not found. -/
theorem get_of_absent (resolved : Config.resolve sources m.providerSpec = .ok (c, e))
    (shows : Shows True r w)
    (absent : ∀ key vm, r.vms.get? key = some vm → Naming.hasUid vm.tags m.uid = false) :
    (World.run Backend.service (get sources m).run w).1 = .error .instanceNotFound := by
  have none : r.vms.values.find? (fun vm => Naming.hasUid vm.tags m.uid) = none := by
    refine List.find?_eq_none.2 fun vm listed => ?_
    obtain ⟨key, stored⟩ := SortedMap.mem_values_iff.1 listed
    simp [absent key vm stored]
  have lost : Ends (Hindered True) (Leaves fun _ => True) (fun _ _ => False)
      (fun fault _ => fault = .instanceNotFound) (get sources m) w := by
    unfold get
    rw [resolved]
    have connects : (Action.connect c).Meets (Hindered True) (Leaves fun _ => True)
        (fun _ u => Shows True r u) (fun _ _ => False) w := shows.connect trivial
    refine .known (.bind (.reporting (connects.mono ?_ fun _ _ never => never.elim)))
    intro _ t shown
    refine .bind (.reporting (shown.lookup.mono ?_ ?_))
    · rintro vm u ⟨_, found⟩
      cases none.symm.trans found
    · rintro _ u ⟨_, _, rfl⟩
      rfl
  rcases lost.run with ⟨_, _, _, never⟩ | ⟨_, _, ended, same⟩
  · exact never.elim
  · rw [ended, same]

/-- After a teardown without faults that takes the finalizer off, the virtual machines are those
that were there, without the ones that carry the machine's tag in its group; if nothing carried it
in another group, the machine is not found any more. -/
theorem vms_of_cleanup (arises : w.backend.resources.Arises)
    (resolved : Config.resolve sources m.providerSpec = .ok (c, e))
    (owned : Owned.of m .vm = true)
    (still : Config.resolve again m.providerSpec = .ok (c, e))
    (finished : World.run Backend.service ((cleanup sources).run.run m) w.calm =
      ((.ok true, copy), v)) :
    v.backend.resources.vms = w.backend.resources.survivors c.resourceGroup m.uid ∧
    ((∀ key vm, w.backend.resources.vms.get? key = some vm →
        Naming.hasUid vm.tags m.uid = true → key.group = c.resourceGroup) →
      (World.run Backend.service (get again m).run v).1 = .error .instanceNotFound) := by
  have shows : Shows True w.backend.resources w.calm := ⟨rfl, fun _ => w.calm_calm⟩
  have member : .vm ∈ Owned.remaining m := Owned.mem_remaining.2 owned
  have tears : Recorded.Meets (Hindered True) (Leaves fun _ => True)
      (fun _ _ u => ShowsVms (w.backend.resources.survivors c.resourceGroup m.uid) () u)
      (fun _ _ _ => True) (cleanup sources) m w.calm := by
    refine .copy (.settle ?_ fun _ _ => trivial)
    rw [resolved]
    rintro _ ⟨⟩
    have connects : (Action.connect c).Meets (Hindered True) (Leaves fun _ => True)
        (fun _ u => Shows True w.backend.resources u) (fun _ _ => True) w.calm :=
      shows.connect trivial
    refine .bind (.recorded (connects.mono ?_ fun _ _ met => met))
    intro _ t shown
    have torn : Recorded.Meets (Hindered True) (Leaves fun _ => True) _ _
        (Cleanup.tearDown c m.name m.uid (Owned.remaining m)) m t :=
      Cleanup.tearDown_meets _ (Owned.remaining_nodup m) arises.filed shown
    rw [if_pos member] at torn
    exact .bind (torn.mono (fun _ _ _ left => .copy (.pure left)) fun _ _ _ met => met)
  rcases tears.run with ⟨_, _, u, ended, r, shown, _, vms⟩ | ⟨_, _, u, ended, _⟩
  · cases ended.symm.trans finished
    refine ⟨shown.resources ▸ vms, fun inside => get_of_absent still shown ?_⟩
    intro key vm found
    rw [vms, Resources.survivors, SortedMap.get?_filter, Option.filter_eq_some_iff] at found
    cases tagged : Naming.hasUid vm.tags m.uid with
    | false => rfl
    | true => simp [tagged, inside key vm found.1 tagged] at found
  · cases ended.symm.trans finished

namespace Sample

/-- A teardown of the machine whose virtual machine is in some group. -/
def tornDown (group : String) : (Except CloudError Bool × Machine) × World Backend :=
  World.run Backend.service ((cleanup Sample.sources).run.run owner) (placed group).calm

theorem exists_tornDown : ∃ copy v, tornDown "rg" = ((.ok true, copy), v) := by
  have succeeds : (tornDown "rg").1.1.toOption = some true := by decide +kernel
  generalize tornDown "rg" = result at succeeds ⊢
  obtain ⟨⟨fault | finished, copy⟩, v⟩ := result
  · cases succeeds
  · cases succeeds
    exact ⟨copy, v, rfl⟩

end Sample

/-- A machine that is in its own group is not found after its teardown. -/
theorem vms_of_cleanup_placed : ∃ copy v,
    Sample.tornDown "rg" = ((.ok true, copy), v) ∧
    v.backend.resources.vms = (Sample.placed "rg").backend.resources.survivors "rg" "uid" ∧
    (World.run Backend.service (get Sample.sources Sample.owner).run v).1 =
      .error .instanceNotFound := by
  obtain ⟨copy, v, finished⟩ := Sample.exists_tornDown
  have owned : Owned.of Sample.owner .vm = true := by decide +kernel
  obtain ⟨vms, lost⟩ := vms_of_cleanup (Sample.arises_placed "rg") Sample.resolve_spec owned
    Sample.resolve_spec finished
  refine ⟨copy, v, finished, vms, lost fun key vm found _ => ?_⟩
  rw [Sample.placed, Resources.withVm, SortedMap.get?_insert] at found
  split at found
  · rename_i same
    cases same
    rfl
  · cases found

/-- A teardown says that nothing is left and takes the finalizer off, and the machine is still found
in another group. -/
theorem exists_vm_after_cleanup : (Sample.placed "other").backend.resources.Arises ∧
    (Sample.placed "other").store.get? Sample.owner.name = some Sample.owner ∧
    Owned.of Sample.owner .vm = true ∧
    (Sample.tornDown "other").1.1.toOption = some true ∧
    Owned.of (Sample.tornDown "other").1.2 .vm = false ∧
    (Sample.tornDown "other").2.backend.resources.Tagged Sample.owner.uid ⟨"other", "m"⟩ .vm ∧
    (World.run Backend.service (get Sample.sources Sample.owner).run
      (Sample.tornDown "other").2).1 ≠ .error .instanceNotFound := by
  have owned : Owned.of Sample.owner .vm = true := by decide +kernel
  have finished : (Sample.tornDown "other").1.1.toOption = some true := by decide +kernel
  have discharged : Owned.of (Sample.tornDown "other").1.2 .vm = false := by decide +kernel
  have tagged : (Sample.tornDown "other").2.backend.resources.Tagged Sample.owner.uid
      ⟨"other", "m"⟩ .vm := by
    decide +kernel
  have answer : (match (World.run Backend.service (get Sample.sources Sample.owner).run
      (Sample.tornDown "other").2).1 with
      | .error fault => fault.isNotFound
      | .ok _ => false) = false := by
    decide +kernel
  refine ⟨Sample.arises_placed "other", rfl, owned, finished, discharged, tagged, fun same => ?_⟩
  rw [same] at answer
  cases answer

end Provisioning.Azure
