import Provisioning.Proofs.Failures
import Provisioning.Proofs.Teardown
import Provisioning.Proofs.Traces

/-!
The life of one machine that is also migrated. A migration that is broken off leaves what it has
migrated under an identity that the record does not have, and a teardown goes by the identity of the
record. Main statement: `stray_of_discharged`, that whatever is left of a kind when a teardown takes
its finalizer off bears an identity to which a migration was broken off.
-/

namespace Provisioning.Azure

open Relation
open Program (Reaches Course)

/-- What can become of a world in which a machine is created, torn down, and migrated; migrations
were broken off to some identities that are still open, and to others that a teardown has lost. An
operation is handed the stored record and resolves its configuration to the same one each time; the
record gets the next identity exactly when a migration succeeds. -/
inductive Career (c : Config) (name : String) (w : World Backend) :
    (opened lost : List String) → World Backend → Prop where
  | start : Career c name w [] [] w
  | outside {opened lost : List String} {v u : World Backend} : Career c name w opened lost v →
      Faulted (· ≠ .cloud .instanceNotFound) v u → Career c name w opened lost u
  | create {opened lost : List String} {v u : World Backend} {n : Machine} {sources : Sources}
      {userdata : String} {e : Envelope} {left : Asking (Except CloudError Instance × Machine)} :
      Career c name w opened lost v → v.store.get? name = some n →
      Config.resolve sources n.providerSpec = .ok (c, e) →
      Reaches (World.serve Backend.service) (Faulted (· ≠ .cloud .instanceNotFound))
        ((create sources userdata).run.run n) v left u →
      Career c name w opened lost u
  | cleanup {opened lost : List String} {v u : World Backend} {n : Machine} {sources : Sources}
      {e : Envelope} {left : Asking (Except CloudError Bool × Machine)} :
      Career c name w opened lost v → v.store.get? name = some n →
      Config.resolve sources n.providerSpec = .ok (c, e) →
      Reaches (World.serve Backend.service) (Faulted (· ≠ .cloud .instanceNotFound))
        ((cleanup sources).run.run n) v left u →
      Career c name w [] (opened ++ lost) u
  | migrated {opened lost : List String} {v u : World Backend} {n : Machine} {sources : Sources}
      {e : Envelope} {uid : String} :
      Career c name w opened lost v → v.store.get? name = some n →
      Config.resolve sources n.providerSpec = .ok (c, e) →
      Reaches (World.serve Backend.service) (Faulted (· ≠ .cloud .instanceNotFound))
        (migrateUid sources n uid).run v (.done (.ok ())) u →
      Career c name w (opened.filter (· ≠ uid)) lost
        { u with store := u.store.insert { n with uid } }
  | brokenOff {opened lost : List String} {v u : World Backend} {n : Machine} {sources : Sources}
      {e : Envelope} {uid : String} {left : Asking (Except CloudError Unit)} :
      Career c name w opened lost v → v.store.get? name = some n →
      Config.resolve sources n.providerSpec = .ok (c, e) →
      Reaches (World.serve Backend.service) (Faulted (· ≠ .cloud .instanceNotFound))
        (migrateUid sources n uid).run v left u →
      Career c name w (uid :: opened) lost u

/-- An identity that something of a kind may bear: that of the record or one that is still open, if
the record has the finalizer; or one that is lost. -/
def Accepts (opened lost : List String) (n : Machine) (kind : Owned) (uid : String) : Prop :=
  (kind.of n = true ∧ uid ∈ n.uid :: opened) ∨ uid ∈ lost

/-- A record is stored, and everything at the backend bears an identity that is accepted. -/
structure Charted (group : String) (opened lost : List String) (n : Machine) (w : World Backend) :
    Prop where
  stored : w.store.get? n.name = some n
  traced : w.backend.resources.Traced group n.name (Accepts opened lost n)
  faults : FaultsAre (· ≠ .cloud .instanceNotFound) w

variable {c : Config} {e : Envelope} {sources : Sources} {group : String}
  {opened lost : List String} {m n : Machine} {w v u : World Backend} {uid : String}

/-- A world has the records of another. -/
def SameRecords (v u : World Backend) : Prop := u.store.records = v.store.records

/-- A migration changes no record. -/
theorem sameRecords_of_migrateUid {possible : AzureError → Prop}
    {left : Asking (Except CloudError Unit)}
    (resolved : Config.resolve sources n.providerSpec = .ok (c, e))
    (reached : Reaches (World.serve Backend.service) (Faulted possible)
      (migrateUid sources n uid).run v left u) : SameRecords v u := by
  have calls (what : Call) : Fails (fun _ _ => True) (fun q => ∀ name edit, q ≠ .commit name edit)
      (fun _ => True) (Action.call c what) := ⟨nofun, fun _ _ _ _ => trivial⟩
  have asks : Fails (fun _ _ => True) (fun q => ∀ name edit, q ≠ .commit name edit)
      (fun _ => True) (migrateUid sources n uid) := by
    unfold migrateUid
    rw [resolved]
    refine .known (.bind (.adapt ⟨nofun, fun _ _ _ _ => trivial⟩) fun _ => .adapt ?_)
    exact MigrateUid.retagAll_fails calls (fun _ _ _ => trivial) _ _
  obtain ⟨had, course⟩ := Course.exists_of_reaches reached
  have initially : SameRecords v v := rfl
  refine (course.tells asks initially ?_ ?_).1
  · intro s t here change
    cases change <;> exact here
  · intro q s permitted here
    refine ⟨trivial, ?_⟩
    cases q with
    | commit name edit => exact absurd rfl (permitted name edit)
    | call | connect | recallSize | rememberSize | throwawayBytes => exact here

namespace Charted

theorem faulted (charted : Charted group opened lost n v)
    (change : Faulted (· ≠ .cloud .instanceNotFound) v u) : Charted group opened lost n u := by
  have faults := charted.faults.faulted change
  cases change with
  | call => exact { charted with faults }
  | update => exact { charted with faults }

/-- The chart is kept by what creates the machine. -/
theorem upkeep : Upkeep (Faulted (· ≠ .cloud .instanceNotFound)) group
    (Charted group opened lost) where
  stored charted := charted.stored
  outside charted change := charted.faulted change
  answered charted makes answers :=
    { stored := by rw [answers.store, charted.stored]
      traced := charted.traced.made makes
        (fun _ present => .inl ⟨present, List.mem_cons_self⟩) answers.performed
      faults := fun operation fault found =>
        charted.faults operation fault (answers.faults ▸ found) }
  added {n w} kinds charted :=
    { stored := by rw [FinalizerEdit.apply_name, Store.get?_committed]
      traced := by
        rw [FinalizerEdit.apply_name]
        refine charted.traced.mono fun kind uid accepted => ?_
        unfold Accepts
        rw [Owned.of_apply_add, FinalizerEdit.apply_uid]
        refine accepted.imp (fun own => ⟨?_, own.2⟩) id
        rw [own.1, Bool.or_true]
      faults := charted.faults }
  alike charted resources faults records :=
    { stored := by rw [Store.get?, records, ← Store.get?, charted.stored]
      traced := resources ▸ charted.traced
      faults := fun operation fault found =>
        charted.faults operation fault (faults operation fault found) }

/-- Wherever a creation is cut off, its machine is charted as before. -/
theorem create {userdata : String} {left : Asking (Except CloudError Instance × Machine)}
    (charted : Charted c.resourceGroup opened lost n v)
    (resolved : Config.resolve sources n.providerSpec = .ok (c, e))
    (reached : Reaches (World.serve Backend.service) (Faulted (· ≠ .cloud .instanceNotFound))
      ((create sources userdata).run.run n) v left u) :
    ∃ p, Charted c.resourceGroup opened lost p u ∧ p.name = n.name := by
  have held : Holding (Charted c.resourceGroup opened lost) n v u := by
    refine reached.keeps (upkeep.create_meets charted resolved) ⟨n, charted, .refl n⟩ ?_ ?_
    · rintro s t ⟨p, here, continues⟩ change
      exact ⟨p, here.faulted change, continues⟩
    · exact fun _ held => held
  obtain ⟨p, later, continues⟩ := held
  exact ⟨p, later, continues.name⟩

/-- A teardown has come to some point wherever it is cut off. -/
theorem exists_at {left : Asking (Except CloudError Bool × Machine)}
    (charted : Charted c.resourceGroup opened lost n v)
    (resolved : Config.resolve sources n.providerSpec = .ok (c, e))
    (reached : Reaches (World.serve Backend.service) (Faulted (· ≠ .cloud .instanceNotFound))
      ((cleanup sources).run.run n) v left u) :
    ∃ done, (⟨c, n, v⟩ : Teardown).At (· ≠ .cloud .instanceNotFound) done u := by
  have first : (⟨c, n, v⟩ : Teardown).At (· ≠ .cloud .instanceNotFound) [] v :=
    Teardown.at_first charted.stored charted.traced.filed charted.faults
  exact Teardown.exists_at resolved first reached

/-- What is left where a teardown is cut off bears an identity that was accepted, and if its kind is
done not that of the record. -/
theorem left_of_at {done : List Owned} {key : ResourceKey} {tags : Tags} {kind : Owned}
    (charted : Charted c.resourceGroup opened lost n v)
    (here : (⟨c, n, v⟩ : Teardown).At (· ≠ .cloud .instanceNotFound) done u)
    (bears : u.backend.resources.Bears key tags kind) :
    kind.Houses c.resourceGroup n.name key ∧ ∃ uid, Naming.hasUid tags uid = true ∧
      Accepts opened lost n kind uid ∧ (kind ∈ done → uid ≠ n.uid) := by
  obtain ⟨houses, uid, own, accepted⟩ := charted.traced.borne (here.fewer bears)
  refine ⟨houses, uid, own, accepted, fun member same => ?_⟩
  have inside : key.group = c.resourceGroup := by
    cases kind with
    | disks => exact houses
    | publicIp | publicIpv6 | nic | vm => exact congrArg ResourceKey.group houses
  refine here.gone (fun genuine => genuine rfl) kind member key inside ?_
  exact Resources.tagged_iff_bears.2 ⟨tags, bears, same ▸ own⟩

/-- After a teardown no migration is open any more; what was open is lost. -/
theorem cleanup {left : Asking (Except CloudError Bool × Machine)}
    (charted : Charted c.resourceGroup opened lost n v)
    (resolved : Config.resolve sources n.providerSpec = .ok (c, e))
    (reached : Reaches (World.serve Backend.service) (Faulted (· ≠ .cloud .instanceNotFound))
      ((cleanup sources).run.run n) v left u) :
    ∃ p, Charted c.resourceGroup [] (opened ++ lost) p u ∧ p.name = n.name := by
  obtain ⟨done, here⟩ := charted.exists_at resolved reached
  refine ⟨(⟨c, n, v⟩ : Teardown).record done, ⟨here.stored, ⟨here.filed, ?_⟩, here.faults⟩, rfl⟩
  intro key tags kind bears
  obtain ⟨houses, uid, own, accepted, apart⟩ := charted.left_of_at here bears
  refine ⟨houses, uid, own, ?_⟩
  rcases accepted with ⟨present, member⟩ | member
  · rcases List.mem_cons.1 member with rfl | member
    · have remains : kind ∉ done := fun member => apart member rfl
      refine .inl ⟨?_, List.mem_cons_self⟩
      rw [Teardown.of_record, present, Bool.true_and, decide_eq_true remains]
    · exact .inr (List.mem_append_left _ member)
  · exact .inr (List.mem_append_right _ member)

/-- Wherever a migration is broken off, it is open. -/
theorem brokenOff {left : Asking (Except CloudError Unit)}
    (charted : Charted c.resourceGroup opened lost n v)
    (resolved : Config.resolve sources n.providerSpec = .ok (c, e))
    (reached : Reaches (World.serve Backend.service) (Faulted (· ≠ .cloud .instanceNotFound))
      (migrateUid sources n uid).run v left u) :
    Charted c.resourceGroup (uid :: opened) lost n u := by
  have shows : Shows False v.backend.resources v := ⟨rfl, False.elim⟩
  have begun : (Migration.resolved c e n uid).Begun (Owned.present n) v.backend.resources
      u.backend.resources := by
    have hindered := reached.weaken fun _ _ change =>
      Hindered.of_faulted (change.mono fun _ _ => trivial)
    refine hindered.keeps (migrateUid_meets resolved charted.traced.filed shows) .start ?_
      fun _ left => left
    intro s t begun change
    obtain ⟨_, faulted⟩ := change
    cases faulted <;> exact begun
  have kept := sameRecords_of_migrateUid resolved reached
  refine ⟨?_, (begun.traced charted.traced).mono ?_, charted.faults.reaches reached⟩
  · rw [Store.get?, show u.store.records = v.store.records from kept, ← Store.get?, charted.stored]
  · rintro kind other (accepted | ⟨present, rfl⟩)
    · refine accepted.imp (fun own => ⟨own.1, ?_⟩) id
      exact List.mem_cons.2 ((List.mem_cons.1 own.2).imp id (List.mem_cons_of_mem _))
    · exact .inl ⟨(List.mem_filter.1 present).2, List.mem_cons_of_mem _ List.mem_cons_self⟩

/-- When a migration has succeeded and the record has the next identity, no migration to that is
open any more. -/
theorem migrated (charted : Charted c.resourceGroup opened lost n v)
    (resolved : Config.resolve sources n.providerSpec = .ok (c, e))
    (reached : Reaches (World.serve Backend.service) (Faulted (· ≠ .cloud .instanceNotFound))
      (migrateUid sources n uid).run v (.done (.ok ())) u) :
    Charted c.resourceGroup (opened.filter (· ≠ uid)) lost { n with uid }
      { u with store := u.store.insert { n with uid } } := by
  have shows : Shows False v.backend.resources v := ⟨rfl, False.elim⟩
  have hindered := reached.weaken fun _ _ change =>
    Hindered.of_faulted (change.mono fun _ _ => trivial)
  obtain ⟨t, outside, x, changed, shown⟩ :=
    (migrateUid_meets resolved charted.traced.filed shows).of_reaches_ok hindered
  have moved := Migration.traced_of_effects charted.traced changed
  rw [← (shown.outside outside).resources] at moved
  have faults : FaultsAre (· ≠ .cloud .instanceNotFound) u := charted.faults.reaches reached
  refine ⟨?_, moved.mono ?_, faults⟩
  · simp [Store.get?, Store.insert]
  · rintro kind other (⟨present, rfl⟩ | ⟨⟨present, member⟩ | member, apart⟩)
    · exact .inl ⟨(List.mem_filter.1 present).2, List.mem_cons_self⟩
    · have different : other ≠ n.uid := apart (List.mem_filter.2 ⟨Owned.mem_all kind, present⟩)
      have still : other ∈ opened := (List.mem_cons.1 member).resolve_left different
      refine .inl ⟨present, List.mem_cons.2 ?_⟩
      by_cases same : other = uid
      · exact .inl same
      · exact .inr (List.mem_filter.2 ⟨still, by simp [same]⟩)
    · exact .inr member

end Charted

/-- At every point of its life a machine is charted. -/
theorem Career.charted (career : Career c m.name w opened lost v) (begins : Begins m w) :
    ∃ n, n.name = m.name ∧ Charted c.resourceGroup opened lost n v := by
  -- The record that an operation is handed is the charted one.
  have handed {opened lost : List String} {v : World Backend} {n p : Machine}
      (same : p.name = m.name) (charted : Charted c.resourceGroup opened lost p v)
      (found : v.store.get? m.name = some n) :
      n.name = m.name ∧ Charted c.resourceGroup opened lost n v := by
    have stored := charted.stored
    rw [same, found] at stored
    cases stored
    exact ⟨same, charted⟩
  induction career with
  | start => exact ⟨m, rfl, begins.stored, .of_isEmpty begins.empty, begins.faults⟩
  | outside _ change ih =>
      obtain ⟨n, same, charted⟩ := ih
      exact ⟨n, same, charted.faulted change⟩
  | create _ found resolved reached ih =>
      obtain ⟨p, same, earlier⟩ := ih
      obtain ⟨named, charted⟩ := handed same earlier found
      obtain ⟨q, later, still⟩ := charted.create resolved reached
      exact ⟨q, still.trans named, later⟩
  | cleanup _ found resolved reached ih =>
      obtain ⟨p, same, earlier⟩ := ih
      obtain ⟨named, charted⟩ := handed same earlier found
      obtain ⟨q, later, still⟩ := charted.cleanup resolved reached
      exact ⟨q, still.trans named, later⟩
  | migrated _ found resolved reached ih =>
      obtain ⟨p, same, earlier⟩ := ih
      obtain ⟨named, charted⟩ := handed same earlier found
      refine ⟨_, ?_, charted.migrated resolved reached⟩
      exact named
  | brokenOff _ found resolved reached ih =>
      obtain ⟨p, same, earlier⟩ := ih
      obtain ⟨named, charted⟩ := handed same earlier found
      exact ⟨_, named, charted.brokenOff resolved reached⟩

/-- Whatever is left of a kind when a teardown has taken its finalizer off bears an identity to
which a migration was broken off, and not that of the record. -/
theorem stray_of_discharged {left : Asking (Except CloudError Bool × Machine)} {p : Machine}
    {kind : Owned} {key : ResourceKey} {tags : Tags} (begins : Begins m w)
    (career : Career c m.name w opened lost v) (found : v.store.get? m.name = some n)
    (resolved : Config.resolve sources n.providerSpec = .ok (c, e))
    (reached : Reaches (World.serve Backend.service) (Faulted (· ≠ .cloud .instanceNotFound))
      ((cleanup sources).run.run n) v left u)
    (stored : u.store.get? m.name = some p) (present : kind.of n = true)
    (discharged : kind.of p = false) (bears : u.backend.resources.Bears key tags kind) :
    ∃ uid ∈ opened ++ lost, Naming.hasUid tags uid = true ∧ uid ≠ n.uid := by
  obtain ⟨handed, same, charted⟩ := career.charted begins
  have equal := charted.stored
  rw [same, found] at equal
  cases equal
  obtain ⟨done, here⟩ := charted.exists_at resolved reached
  have kept : u.store.get? n.name = _ := here.stored
  rw [same, stored] at kept
  cases kept
  have member : kind ∈ done := by
    rw [Teardown.of_record, present, Bool.true_and, decide_eq_false_iff_not, not_not] at discharged
    exact discharged
  obtain ⟨_, uid, own, accepted, apart⟩ := charted.left_of_at here bears
  refine ⟨uid, List.mem_append.2 ?_, own, apart member⟩
  exact accepted.imp (fun inside => (List.mem_cons.1 inside.2).resolve_left (apart member)) id

namespace Sample

/-- After a creation, the next interface cannot be put. -/
def stranded : World Backend :=
  { made.2 with backend := made.2.backend.failNext "put_nic" (.api 500 "Busy" "try again") }

/-- A migration that is broken off at the interface, when the addresses have the next identity. -/
def adrift : Except CloudError Unit × World Backend :=
  World.run Backend.service (migrateUid Sample.sources (stored stranded) "next").run stranded

/-- The teardown that follows, with nothing in its way. -/
def swept : (Except CloudError Bool × Machine) × World Backend :=
  World.run Backend.service ((cleanup Sample.sources).run.run (stored stranded)) adrift.2

theorem reaches_made {rely : World Backend → World Backend → Prop} :
    Reaches (World.serve Backend.service) rely ((create Sample.sources "data").run.run machine)
      world (.done made.1) made.2 := by
  have calm : world.calm = world := rfl
  rw [← calm]
  exact Program.reaches_run _ _

theorem lives_stranded : Lives resolved.1 machine.name world stranded := by
  have created : Lives resolved.1 machine.name world made.2 :=
    .create .start begins.stored resolve_spec reaches_made
  exact created.outside (.inl (.call _ _ _ nofun))

theorem reaches_adrift {rely : World Backend → World Backend → Prop} :
    Reaches (World.serve Backend.service) rely
      (migrateUid Sample.sources (stored stranded) "next").run stranded (.done adrift.1)
      adrift.2 := Program.reaches_run _ _

theorem career_adrift : Career resolved.1 machine.name world ["next"] [] adrift.2 := by
  have created : Career resolved.1 machine.name world [] [] made.2 :=
    .create .start begins.stored resolve_spec reaches_made
  have failing : Career resolved.1 machine.name world [] [] stranded :=
    created.outside (.call _ _ _ nofun)
  obtain ⟨found, same⟩ := stored_of_lives lives_stranded
  exact failing.brokenOff found same reaches_adrift

/-- The migration has left the record as it was. -/
theorem stored_adrift : adrift.2.store.get? machine.name = some (stored stranded) ∧
    Config.resolve Sample.sources (stored stranded).providerSpec =
      .ok (resolved.1, resolved.2) := by
  obtain ⟨found, same⟩ := stored_of_lives lives_stranded
  have reached : Reaches (World.serve Backend.service) (Faulted fun _ => True)
      (migrateUid Sample.sources (stored stranded) "next").run stranded (.done adrift.1)
      adrift.2 := reaches_adrift
  have kept := sameRecords_of_migrateUid same reached
  refine ⟨?_, same⟩
  rw [Store.get?, show adrift.2.store.records = stranded.store.records from kept]
  exact found

/-- The teardown says that nothing is left and takes the finalizer of the address off, which still
bears the next identity. -/
theorem discharged_swept : (swept.2.store.get? machine.name).isSome = true ∧
    Owned.publicIp.of (stored stranded) = true ∧ swept.1.1.toOption = some true ∧
    Owned.publicIp.of (stored swept.2) = false ∧
    swept.2.backend.resources.Tagged "next" ⟨"rg", "m-netiface-pubip"⟩ .publicIp := by
  decide +kernel

end Sample

/-- A teardown after a migration that was broken off says that nothing is left and takes the
finalizer of the address off, and the address is still there. -/
theorem exists_stray_after_cleanup : Begins Sample.machine Sample.world ∧
    Career Sample.resolved.1 Sample.machine.name Sample.world ["next"] [] Sample.adrift.2 ∧
    Sample.adrift.2.store.get? Sample.machine.name = some (Sample.stored Sample.stranded) ∧
    Owned.publicIp.of (Sample.stored Sample.stranded) = true ∧
    Sample.swept.1.1.toOption = some true ∧
    Owned.publicIp.of (Sample.stored Sample.swept.2) = false ∧
    Sample.swept.2.backend.resources.Tagged "next" ⟨"rg", "m-netiface-pubip"⟩ .publicIp :=
  ⟨Sample.begins, Sample.career_adrift, Sample.stored_adrift.1, Sample.discharged_swept.2⟩

/-- The address that is left after that teardown bears the identity of the migration. -/
theorem stray_of_discharged_swept :
    Sample.swept.2.store.get? Sample.machine.name = some (Sample.stored Sample.swept.2) ∧
    Owned.publicIp.of (Sample.stored Sample.stranded) = true ∧
    Owned.publicIp.of (Sample.stored Sample.swept.2) = false ∧
    ∃ tags, Sample.swept.2.backend.resources.Bears ⟨"rg", "m-netiface-pubip"⟩ tags .publicIp ∧
      ∃ uid ∈ ["next"] ++ [], Naming.hasUid tags uid = true ∧
        uid ≠ (Sample.stored Sample.stranded).uid := by
  obtain ⟨found, same⟩ := Sample.stored_adrift
  obtain ⟨kept, present, _, discharged, tagged⟩ := Sample.discharged_swept
  have stored : Sample.swept.2.store.get? Sample.machine.name =
      some (Sample.stored Sample.swept.2) := by
    obtain ⟨n, found⟩ := Option.isSome_iff_exists.1 kept
    rw [Sample.stored, found, Option.getD_some]
  have reached : Reaches (World.serve Backend.service) (Faulted (· ≠ .cloud .instanceNotFound))
      ((cleanup Sample.sources).run.run (Sample.stored Sample.stranded)) Sample.adrift.2
      (.done Sample.swept.1) Sample.swept.2 := Program.reaches_run _ _
  obtain ⟨tags, bears, _⟩ := Resources.tagged_iff_bears.1 tagged
  exact ⟨stored, present, discharged, tags, bears, stray_of_discharged Sample.begins
    Sample.career_adrift found same reached stored present discharged bears⟩

end Provisioning.Azure
