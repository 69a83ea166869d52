import Provisioning.Proofs.Relabelling

/-!
What a migration leaves behind it, step by step, while faults come in between and wherever it is
broken off. Main statement: `migrateUid_extends`, that a migration brings only the addresses and
the interface of the machine into existence.
-/

namespace Provisioning.Azure

open Relation

/-- A world has certain resources, and nothing is in the way of a calm one. -/
structure Shows (calm : Prop) (r : Resources) (w : World Backend) : Prop where
  resources : w.backend.resources = r
  calm : calm → w.Calm

/-- A request leaves resources of which something holds. -/
def Leaves (allowed : Resources → Prop) (_ w : World Backend) : Prop := allowed w.backend.resources

variable {calm : Prop} {r : Resources} {w v : World Backend} {allowed : Resources → Prop}

namespace Shows

theorem outside (shows : Shows calm r w) (changes : ReflTransGen (Hindered calm) w v) :
    Shows calm r v := by
  induction changes with
  | refl => exact shows
  | tail _ change ih =>
      obtain ⟨restless, faulted⟩ := change
      cases faulted <;> exact ⟨ih.resources, fun quiet => absurd quiet restless⟩

/-- A call does what the backend does, and in a calm world fails only if the backend refuses it. -/
theorem call {c : Config} {what : Call} {ok : what.Value → World Backend → Prop}
    {fails : AzureError → World Backend → Prop} (shows : Shows calm r w)
    (answered : ∀ (b : Backend) value next u, b.resources = r →
      b.perform what = .ok (value, next) → Shows calm next u → allowed next ∧ ok value u)
    (refused : ∀ (b : Backend) fault u, b.resources = r →
      (calm → b.perform what = .error fault) → Shows calm r u → allowed r ∧ fails fault u) :
    (Action.call c what).Meets (Hindered calm) (Leaves allowed) ok fails w := by
  refine .call ?_ ?_
  · intro t value u changes answers
    have before := shows.outside changes
    exact answered t.backend value u.backend.resources u before.resources answers.performed
      ⟨rfl, fun quiet => answers.calm (before.calm quiet)⟩
  · intro t fault u changes refuses
    have before := shows.outside changes
    have after : Shows calm r u :=
      ⟨refuses.resources.trans before.resources, fun quiet => refuses.calm (before.calm quiet)⟩
    obtain ⟨left, failed⟩ := refused t.backend fault u before.resources
      (fun quiet => refuses.of_calm (before.calm quiet)) after
    refine ⟨?_, failed⟩
    rw [Leaves, after.resources]
    exact left

/-- A client changes no resources. -/
theorem connect {c : Config} {fails : AzureError → World Backend → Prop} (shows : Shows calm r w)
    (here : allowed r) :
    (Action.connect c).Meets (Hindered calm) (Leaves allowed) (fun _ u => Shows calm r u) fails
      w := by
  refine .connect ?_
  intro t u changes bare store faults _
  have before := shows.outside changes
  have same : u.backend.resources = t.backend.resources := by
    change u.backend.bare.resources = t.backend.bare.resources
    rw [bare]
  have after : Shows calm r u := by
    refine ⟨same.trans before.resources, fun quiet => ⟨faults.trans (before.calm quiet).1, ?_⟩⟩
    rw [store]
    exact (before.calm quiet).2
  refine ⟨?_, after⟩
  rw [Leaves, after.resources]
  exact here

end Shows

namespace Migration

variable {g : Migration} {kind : Owned} {kinds : List Owned}

/-- The one call of a step does the step, and in a calm world fails only if the step does. -/
theorem call_meets {what : Call} (calls : g.call? kind = some what) (shows : Shows calm r w)
    (during : allowed r) (after : ∀ x, g.effect kind r = some x → allowed x) :
    (Action.call g.config what).Meets (Hindered calm) (Leaves allowed)
      (fun _ u => ∃ x, g.effect kind r = some x ∧ Shows calm x u)
      (fun _ u => Shows calm r u ∧ (calm → g.effect kind r = none)) w := by
  have effect : g.effect kind r = r.after what := by rw [effect, calls]
  refine shows.call ?_ ?_
  · intro b value next u same performed shown
    rw [perform_call? calls, same] at performed
    have changed := effect.trans (after_eq_some.2 ⟨value, performed⟩)
    exact ⟨after _ changed, _, changed, shown⟩
  · intro b fault u same failed shown
    refine ⟨during, shown, fun quiet => ?_⟩
    have performed := failed quiet
    rw [perform_call? calls, same] at performed
    rw [effect, Resources.after, performed]
    rfl

/-- Disks of a list are tagged, and each of the others has the new tag already, if it is to have
it. -/
theorem tagDisks_meets {disks : SortedMap ResourceKey Disk} {list : List Disk}
    (shows : Shows calm { r with disks } w)
    (pending : Resources.Pending g.config.resourceGroup g.uid disks (r.disks.mapValues g.relabel)
      list)
    (partway : g.Partway .disks r { r with disks })
    (during : ∀ x, g.Partway .disks r x → allowed x) :
    (MigrateUid.tagDisks g.config g.uid list).Meets (Hindered calm) (Leaves allowed)
      (fun _ u => ∃ x, g.effect .disks r = some x ∧ Shows calm x u)
      (fun _ u => ∃ x, g.Partway .disks r x ∧ Shows calm x u ∧ ¬calm) w := by
  induction list generalizing disks w with
  | nil =>
      refine .pure ⟨_, rfl, ?_⟩
      rw [← pending.eq]
      exact shows
  | cons disk rest ih =>
      obtain ⟨name, found, named, stored, wanted⟩ := pending.listed disk List.mem_cons_self
      have tagged := Resources.tagDisk_of_some (r := { r with disks }) stored
        (Naming.tags disk.tags g.uid)
      have next : g.Partway .disks r { r with
          disks := disks.insert ⟨g.config.resourceGroup, name⟩
            { found with tags := Naming.tags disk.tags g.uid } } := by
        refine ⟨rfl, fun key => ?_⟩
        by_cases same : (⟨g.config.resourceGroup, name⟩ : ResourceKey) = key
        · subst same
          rw [SortedMap.get?_mapValues] at wanted
          exact .inr ⟨rfl, by rw [SortedMap.get?_insert, if_pos rfl, wanted]⟩
        · rw [SortedMap.get?_insert, if_neg same]
          exact partway.disks key
      simp only [MigrateUid.tagDisks, named]
      refine .bind (.context (shows.call ?_ ?_))
      · intro b value resources u same performed shown
        change (b.resources.tagDisk _ _).map _ = _ at performed
        rw [same, tagged] at performed
        cases (Prod.mk.inj (Except.ok.inj performed)).2
        exact ⟨during _ next, ih shown (pending.next named stored) next⟩
      · intro b fault u same failed shown
        refine ⟨during _ partway, _, partway, shown, fun quiet => ?_⟩
        have performed := failed quiet
        change (b.resources.tagDisk _ _).map _ = _ at performed
        rw [same, tagged] at performed
        cases performed

/-- A step does what it is to do, or is broken off in its middle; in a calm world it fails only if
it cannot be done. -/
theorem retag_meets (filed : r.Filed) (shows : Shows calm r w)
    (during : ∀ x, g.Partway kind r x → allowed x)
    (after : ∀ x, g.effect kind r = some x → allowed x) :
    (MigrateUid.retag g.config g.dualStack g.machine g.uid kind).Meets (Hindered calm)
      (Leaves allowed) (fun _ u => ∃ x, g.effect kind r = some x ∧ Shows calm x u)
      (fun _ u => ∃ x, g.Partway kind r x ∧ Shows calm x u ∧ (calm → g.effect kind r = none))
      w := by
  have here : allowed r := during r (.refl kind r)
  have broken (u : World Backend) (met : Shows calm r u ∧ (calm → g.effect kind r = none)) :
      ∃ x, g.Partway kind r x ∧ Shows calm x u ∧ (calm → g.effect kind r = none) :=
    ⟨r, .refl kind r, met⟩
  cases kind with
  | publicIp | publicIpv6 =>
      have put := call_meets (g := g) rfl shows here after
      refine .bind (.context (.bind (.context (put.mono ?_ fun _ u met => broken u met))))
      exact fun _ u done => .pure (.pure done)
  | nic =>
      have put := call_meets (g := g) rfl shows here after
      refine .bind (.context (put.mono ?_ fun _ u met => broken u met))
      exact fun _ u done => .pure done
  | disks =>
      refine .bind (shows.call ?_ ?_)
      · intro b disks next u same performed shown
        change Except.ok (Resources.ofGroup b.resources.disks _, b.resources) = _ at performed
        rw [same] at performed
        cases performed
        refine ⟨here, (tagDisks_meets shown (pending filed) (.refl .disks r) during).mono ?_ ?_⟩
        · exact fun _ u done => done
        · rintro _ u ⟨x, partway, shown, restless⟩
          exact ⟨x, partway, shown, fun quiet => absurd quiet restless⟩
      · intro b fault u same failed shown
        refine ⟨here, r, .refl .disks r, shown, fun quiet => ?_⟩
        cases failed quiet
  | vm =>
      have tagged := call_meets (g := g) rfl shows here after
      exact .context (tagged.mono (fun _ u done => done) fun _ u met => broken u met)

/-- One step is done after the other, until one is broken off. -/
theorem retagAll_meets (filed : r.Filed) (shows : Shows calm r w)
    (during : ∀ x, g.Begun kinds r x → allowed x) :
    (MigrateUid.retagAll g.config g.dualStack g.machine g.uid kinds).Meets (Hindered calm)
      (Leaves allowed) (fun _ u => ∃ x, g.effects kinds r = some x ∧ Shows calm x u)
      (fun _ u => ∃ x, g.Begun kinds r x ∧ Shows calm x u ∧ (calm → g.effects kinds r = none))
      w := by
  induction kinds generalizing r w with
  | nil => exact .pure ⟨r, rfl, shows⟩
  | cons kind rest ih =>
      refine .bind ((retag_meets filed shows (fun x partway => during x (.partway partway))
        fun x changed => during x (.step changed .start)).mono ?_ ?_)
      · rintro _ t ⟨s, changed, shown⟩
        have whole : g.effects (kind :: rest) r = g.effects rest s := by
          rw [effects, changed, Option.bind_some]
        refine (ih (filed_of_effect filed changed) shown
          fun x begun => during x (.step changed begun)).mono ?_ ?_
        · exact fun _ u done => whole ▸ done
        · rintro _ u ⟨x, begun, shown, stuck⟩
          exact ⟨x, .step changed begun, shown, fun quiet => whole.trans (stuck quiet)⟩
      · rintro _ t ⟨x, partway, shown, stuck⟩
        refine ⟨x, .partway partway, shown, fun quiet => ?_⟩
        rw [effects, stuck quiet, Option.bind_none]

end Migration

variable {c : Config} {e : Envelope} {sources : Sources} {m : Machine} {uid : String}

/-- A migration leaves resources where it can be broken off. It succeeds only with what it is to
do, and fails in a calm world only if that cannot be done. -/
theorem migrateUid_meets (resolved : Config.resolve sources m.providerSpec = .ok (c, e))
    (filed : r.Filed) (shows : Shows calm r w) :
    Ends (Hindered calm)
      (Leaves ((Migration.resolved c e m uid).Begun (Owned.present m) r))
      (fun _ u => ∃ x, (Migration.resolved c e m uid).effects (Owned.present m) r = some x ∧
        Shows calm x u)
      (fun _ u => ∃ x, (Migration.resolved c e m uid).Begun (Owned.present m) r x ∧
        Shows calm x u ∧
        (calm → (Migration.resolved c e m uid).effects (Owned.present m) r = none))
      (migrateUid sources m uid) w := by
  unfold migrateUid
  rw [resolved]
  refine .known (.bind (.reporting ((shows.connect .start).mono ?_ fun _ _ met => met)))
  intro _ t shown
  exact .reporting (Migration.retagAll_meets filed shown fun x begun => begun)

/-- At every point of its life a machine has what a backend can come to have. -/
theorem Lives.arises {name : String} (lives : Lives c name w v)
    (arises : w.backend.resources.Arises) : v.backend.resources.Arises := by
  have stable {s t : World Backend} (kept : s.backend.resources.Arises) (change : Disturbed s t) :
      t.backend.resources.Arises := by
    rcases change with faulted | removed
    · exact kept.faulted faulted
    · obtain ⟨what, value, _, answers⟩ := removed.answers
      exact kept.perform answers.performed
  induction lives with
  | start => exact arises
  | outside _ change ih => exact stable ih change
  | create _ _ _ reached ih => exact ih.reaches reached stable
  | cleanup _ _ _ reached ih => exact ih.reaches reached stable

/-- A migration, undisturbed or not, successful or not, deletes nothing and brings nothing into
existence but the addresses and the interface of the machine, under the names derived from its own
and only if its record has their finalizers. -/
theorem migrateUid_extends (resolved : Config.resolve sources m.providerSpec = .ok (c, e))
    (arises : w.backend.resources.Arises) :
    ∃ applied, applied <+: Owned.present m ∧
      ((World.run Backend.service (migrateUid sources m uid).run w).1 = .ok () →
        applied = Owned.present m) ∧
      (Migration.resolved c e m uid).Grown applied w.backend.resources
        (World.run Backend.service (migrateUid sources m uid).run w).2.backend.resources := by
  have shows : Shows False w.backend.resources w := ⟨rfl, False.elim⟩
  rcases (migrateUid_meets resolved arises.filed shows).run with
    ⟨_, v, ended, x, changed, shown⟩ | ⟨fault, v, ended, x, begun, shown, _⟩
  · rw [ended, shown.resources]
    exact ⟨Owned.present m, List.prefix_rfl, fun _ => rfl, Migration.grown_of_effects changed⟩
  · rw [ended, shown.resources]
    obtain ⟨applied, initial, grown⟩ := begun.exists_grown
    exact ⟨applied, initial, nofun, grown⟩

namespace Sample

theorem arises_placed (group : String) : (placed group).backend.resources.Arises := by
  have unwired : ∀ reference ∈ bare.interfaces, world.backend.resources.nics.contains
      ⟨group, Naming.nameOfId (reference.id.getD "")⟩ = true := by
    intro reference member
    cases (show reference ∈ [] from member)
  have stored : world.backend.resources.putVm ⟨group, "m"⟩ bare =
      .ok (bare.stored ⟨group, "m"⟩, (placed group).backend.resources) :=
    Resources.putVm_eq_ok.2 ⟨unwired, rfl, rfl⟩
  have put : world.backend.perform (.putVm group "m" bare) = .ok (_, _) := stored
  exact .perform .empty put

/-- The next address cannot be put. -/
def refusing : World Backend :=
  { world with backend := world.backend.failNext "put_public_ip" (.api 500 "Busy" "try again") }

/-- A creation whose first put fails: the finalizer of the address is committed. -/
def halted : World Backend :=
  ((create Sample.sources "data").run.run machine).stateAfter (World.serve Backend.service) 100
    refusing

theorem lives_halted : Lives resolved.1 machine.name world halted := by
  have broken : Lives resolved.1 machine.name world refusing :=
    .outside .start (.inl (.call _ _ _ nofun))
  obtain ⟨left, reached⟩ := Program.exists_reaches_stateAfter 100
    ((create Sample.sources "data").run.run machine) refusing
  exact broken.create begins.stored resolve_spec reached

end Sample

/-- A migration brings an address into existence whose creation failed. -/
theorem exists_address_of_migrateUid : Begins Sample.machine Sample.world ∧
    ledger.isClear Sample.machine = true ∧
    Lives Sample.resolved.1 Sample.machine.name Sample.world Sample.halted ∧
    Sample.halted.store.get? Sample.machine.name = some (Sample.stored Sample.halted) ∧
    Sample.halted.backend.resources.publicIps.contains ⟨"rg", "m-netiface-pubip"⟩ = false ∧
    (World.run Backend.service (migrateUid Sample.sources (Sample.stored Sample.halted) "next").run
      Sample.halted.calm).2.backend.resources.publicIps.contains ⟨"rg", "m-netiface-pubip"⟩ =
      true := by
  obtain ⟨found, _⟩ := Sample.stored_of_lives Sample.lives_halted
  have before : Sample.halted.backend.resources.publicIps.contains ⟨"rg", "m-netiface-pubip"⟩ =
      false := by
    decide +kernel
  have after : (World.run Backend.service
      (migrateUid Sample.sources (Sample.stored Sample.halted) "next").run
      Sample.halted.calm).2.backend.resources.publicIps.contains ⟨"rg", "m-netiface-pubip"⟩ =
      true := by
    decide +kernel
  have clear : ledger.isClear Sample.machine = true := by decide +kernel
  exact ⟨Sample.begins, clear, Sample.lives_halted, found, before, after⟩

/-- After a creation whose first put failed, a migration adds the address and nothing else. -/
theorem migrateUid_extends_halted :
    ∃ applied, applied <+: Owned.present (Sample.stored Sample.halted) ∧
      ((World.run Backend.service
        (migrateUid Sample.sources (Sample.stored Sample.halted) "next").run
        Sample.halted.calm).1 = .ok () → applied = Owned.present (Sample.stored Sample.halted)) ∧
      (Migration.resolved Sample.resolved.1 Sample.resolved.2 (Sample.stored Sample.halted)
        "next").Grown applied Sample.halted.backend.resources
        (World.run Backend.service
          (migrateUid Sample.sources (Sample.stored Sample.halted) "next").run
          Sample.halted.calm).2.backend.resources := by
  obtain ⟨_, same⟩ := Sample.stored_of_lives Sample.lives_halted
  have arises : Sample.halted.calm.backend.resources.Arises := Sample.lives_halted.arises .empty
  exact migrateUid_extends same arises

end Provisioning.Azure
