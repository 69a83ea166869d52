import Provisioning.Proofs.Extension

/-!
Migrations that fail or are cut off and are tried again. Each attempt leaves the resources where a
migration can be broken off, and the undisturbed attempt that follows ends as the first one would
have. Main statement: `migrateUid_retriable`.
-/

namespace Provisioning.Azure

open Program (Reaches)

variable {w v u : World Backend}

namespace Migration

variable {g : Migration} {kinds : List Owned}

/-- A migration under faults fails at a kind: a client was made, the kinds before it were given the
new tag, and giving it to that kind ends with a fault. -/
def FailsAt (g : Migration) (before : List Owned) (failing : Owned) (fault : AzureError)
    (w v : World Backend) : Prop :=
  ∃ t, Reaches (World.serve Backend.service) (Faulted fun _ => True)
      (Action.connect g.config >>= fun _ =>
        MigrateUid.retagAll g.config g.dualStack g.machine g.uid before : Action Unit).run w
      (.done (.ok ())) t ∧
    Reaches (World.serve Backend.service) (Faulted fun _ => True)
      (MigrateUid.retag g.config g.dualStack g.machine g.uid failing).run t
      (.done (.error fault)) v

/-- Whoever fails to give kinds the new tag fails at one of them. -/
theorem exists_failing {rely : World Backend → World Backend → Prop} {fault : AzureError}
    (reached : Reaches (World.serve Backend.service) rely
      (MigrateUid.retagAll g.config g.dualStack g.machine g.uid kinds).run w
      (.done (.error fault)) v) :
    ∃ before failing after t, kinds = before ++ failing :: after ∧
      Reaches (World.serve Backend.service) rely
        (MigrateUid.retagAll g.config g.dualStack g.machine g.uid before).run w
        (.done (.ok ())) t ∧
      Reaches (World.serve Backend.service) rely
        (MigrateUid.retag g.config g.dualStack g.machine g.uid failing).run t
        (.done (.error fault)) v := by
  induction kinds generalizing w with
  | nil => cases reached.eq_of_done
  | cons kind rest ih =>
      rcases Asking.reaches_of_bind reached with ⟨_, ⟨⟩, failed⟩ | ⟨value, t, first, later⟩
      · exact ⟨[], kind, rest, w, rfl, .start, failed⟩
      · obtain ⟨before, failing, after, u, same, begun, failed⟩ := ih later
        exact ⟨kind :: before, failing, after, u, by rw [same, List.cons_append],
          Asking.reaches_bind first begun, failed⟩

end Migration

/-- After a migration has failed at a kind, that kind is partly done at most, and no later one is
touched. -/
theorem Migration.FailsAt.untouched {g : Migration} {before after : List Owned} {failing : Owned}
    {fault : AzureError} (fails : g.FailsAt before failing fault w v)
    (filed : w.backend.resources.Filed) (distinct : (before ++ failing :: after).Nodup) :
    ∀ kind ∈ after, g.Untouched kind w.backend.resources v.backend.resources := by
  obtain ⟨t, begun, failed⟩ := fails
  have shows : Shows False w.backend.resources w := ⟨rfl, False.elim⟩
  have first : (Action.connect g.config >>= fun _ =>
      MigrateUid.retagAll g.config g.dualStack g.machine g.uid before : Action Unit).Meets
      (Hindered False) (Leaves fun _ => True)
      (fun _ u => ∃ x, g.effects before w.backend.resources = some x ∧ Shows False x u)
      (fun _ _ => True) w := by
    have connected : (Action.connect g.config).Meets (Hindered False) (Leaves fun _ => True)
        (fun _ u => Shows False w.backend.resources u) (fun _ _ => True) w := shows.connect trivial
    refine .bind (connected.mono ?_ fun _ _ met => met)
    intro _ s shown
    exact (retagAll_meets filed shown fun _ _ => trivial).mono (fun _ _ done => done)
      fun _ _ _ => trivial
  obtain ⟨s, outside, x, changed, shown⟩ :=
    first.of_reaches_ok (begun.weaken fun _ _ => Hindered.of_faulted)
  have second : (MigrateUid.retag g.config g.dualStack g.machine g.uid failing).Meets
      (Hindered False) (Leaves fun _ => True) _ _ t :=
    retag_meets (filed_of_effects filed changed) (shown.outside outside) (fun _ _ => trivial)
      fun _ _ => trivial
  obtain ⟨s', outside', y, partway, left, _⟩ :=
    second.of_reaches_error (failed.weaken fun _ _ => Hindered.of_faulted)
  rw [(left.outside outside').resources]
  intro kind later
  rw [List.nodup_append, List.nodup_cons] at distinct
  obtain ⟨_, ⟨notLater, _⟩, apart⟩ := distinct
  have notBefore : kind ∉ before := fun member =>
    apart kind member kind (List.mem_cons_of_mem _ later) rfl
  have notFailing : kind ≠ failing := fun same => notLater (same ▸ later)
  exact (untouched_of_effects changed notBefore).trans (partway.untouched notFailing)

variable {m : Machine} {uid : String} {c : Config} {e : Envelope} {sources again : Sources}

/-- What can become of a world in which a machine is migrated to one identity again and again, with
the same configuration each time. An attempt may fail, and it may be cut off, too. -/
inductive Retries (c : Config) (e : Envelope) (m : Machine) (uid : String) (w : World Backend) :
    World Backend → Prop where
  | start : Retries c e m uid w w
  | outside {v u : World Backend} : Retries c e m uid w v → Faulted (fun _ => True) v u →
      Retries c e m uid w u
  | migrate {v u : World Backend} {sources : Sources} {left : Asking (Except CloudError Unit)} :
      Retries c e m uid w v → Config.resolve sources m.providerSpec = .ok (c, e) →
      Reaches (World.serve Backend.service) (Faulted fun _ => True) (migrateUid sources m uid).run v
        left u →
      Retries c e m uid w u

theorem Retries.arises (retries : Retries c e m uid w v) (arises : w.backend.resources.Arises) :
    v.backend.resources.Arises := by
  induction retries with
  | start => exact arises
  | outside _ change ih => exact ih.faulted change
  | migrate _ _ reached ih => exact ih.reaches reached fun kept change => kept.faulted change

/-- Wherever attempts have led, a migration still leads to where it led at first. -/
theorem Retries.effects_eq {s : Resources} (retries : Retries c e m uid w v)
    (arises : w.backend.resources.Arises)
    (whole : (Migration.resolved c e m uid).effects (Owned.present m) w.backend.resources =
      some s) :
    (Migration.resolved c e m uid).effects (Owned.present m) v.backend.resources = some s := by
  induction retries with
  | start => exact whole
  | outside _ change ih => cases change <;> exact ih
  | @migrate v u sources left earlier resolved reached ih =>
      have shows : Shows False v.backend.resources v := ⟨rfl, False.elim⟩
      have begun : (Migration.resolved c e m uid).Begun (Owned.present m) v.backend.resources
          u.backend.resources := by
        refine (reached.weaken fun _ _ => Hindered.of_faulted).keeps
          (migrateUid_meets resolved (earlier.arises arises).filed shows) .start ?_
          fun _ left => left
        intro s t begun change
        obtain ⟨_, faulted⟩ := change
        cases faulted <;> exact begun
      exact begun.effects_eq (Owned.present_nodup m) ih

/-- In a calm world a migration ends with what it is to do. -/
theorem migrateUid_eq_ok {s : Resources}
    (resolved : Config.resolve sources m.providerSpec = .ok (c, e))
    (arises : w.backend.resources.Arises)
    (whole : (Migration.resolved c e m uid).effects (Owned.present m) w.backend.resources =
      some s) :
    ∃ last, World.run Backend.service (migrateUid sources m uid).run w.calm = (.ok (), last) ∧
      last.backend.resources = s := by
  have shows : Shows True w.backend.resources w.calm := ⟨rfl, fun _ => w.calm_calm⟩
  rcases (migrateUid_meets resolved arises.filed shows).run with
    ⟨_, last, ended, x, changed, shown⟩ | ⟨_, _, _, _, _, _, stuck⟩
  · cases changed.symm.trans whole
    exact ⟨last, ended, shown.resources⟩
  · cases (stuck trivial).symm.trans whole

/-- A migration that fails has failed at a kind. -/
theorem exists_failsAt {fault : CloudError}
    (resolved : Config.resolve sources m.providerSpec = .ok (c, e))
    (reached : Reaches (World.serve Backend.service) (Faulted fun _ => True)
      (migrateUid sources m uid).run w (.done (.error fault)) v) :
    ∃ before failing after cause, Owned.present m = before ++ failing :: after ∧
      fault = cause.toCloud ∧ (Migration.resolved c e m uid).FailsAt before failing cause w v := by
  have shows : Shows False w.backend.resources w := ⟨rfl, False.elim⟩
  -- A client is made for everybody, so what fails is one of the steps.
  have connects : (Action.connect c).Meets (Hindered False) (Leaves fun _ => True)
      (fun _ u => Shows False w.backend.resources u) (fun _ _ => False) w := shows.connect trivial
  unfold migrateUid at reached
  rw [resolved] at reached
  have parts : Reaches (World.serve Backend.service) (Faulted fun _ => True)
      ((Action.connect c).reporting AzureError.toCloud >>= fun _ =>
        (MigrateUid.retagAll c e.ipFamily.isDualStack m uid (Owned.present m)).reporting
          AzureError.toCloud : Operation Unit).run w (.done (.error fault)) v := reached
  rcases Asking.reaches_of_bind parts with ⟨other, ⟨⟩, failed⟩ | ⟨_, t, connected, later⟩
  · obtain ⟨own, same, failed⟩ := Asking.reaches_of_reporting failed
    cases own with
    | ok value => cases same
    | error cause =>
        obtain ⟨u, _, never⟩ := connects.of_reaches_error
          (failed.weaken fun _ _ => Hindered.of_faulted)
        exact never.elim
  · obtain ⟨own, same, connected⟩ := Asking.reaches_of_reporting connected
    obtain ⟨outcome, reported, failed⟩ := Asking.reaches_of_reporting later
    cases own with
    | error cause => cases same
    | ok value =>
        cases outcome with
        | ok value => cases reported
        | error cause =>
            cases reported
            obtain ⟨before, failing, after, u, order, begun, broken⟩ :=
              Migration.exists_failing (g := Migration.resolved c e m uid) failed
            exact ⟨before, failing, after, cause, order, rfl, u,
              Asking.reaches_bind connected begun, broken⟩

/-- Migration can be retried. Where it succeeds undisturbed, it still does so after any attempts to
migrate the machine to that identity, failed or cut off anywhere, and ends with the same resources;
a further attempt that fails at a kind leaves all later kinds as they were before it; and a second
migration changes nothing. -/
theorem migrateUid_retriable (arises : w.backend.resources.Arises)
    (resolved : Config.resolve sources m.providerSpec = .ok (c, e))
    (succeeds : World.run Backend.service (migrateUid sources m uid).run w.calm = (.ok (), u))
    (retries : Retries c e m uid w v)
    (still : Config.resolve again m.providerSpec = .ok (c, e)) :
    (∃ last, World.run Backend.service (migrateUid again m uid).run v.calm = (.ok (), last) ∧
      last.backend.resources = u.backend.resources) ∧
    (∀ fault x, Reaches (World.serve Backend.service) (Faulted fun _ => True)
        (migrateUid again m uid).run v (.done (.error fault)) x →
      ∃ before failing after cause, Owned.present m = before ++ failing :: after ∧
        fault = cause.toCloud ∧
        (Migration.resolved c e m uid).FailsAt before failing cause v x ∧
        ∀ kind ∈ after, (Migration.resolved c e m uid).Untouched kind v.backend.resources
          x.backend.resources) ∧
    ∃ last, World.run Backend.service (migrateUid again m uid).run u.calm = (.ok (), last) ∧
      last.backend.resources = u.backend.resources := by
  have shows : Shows True w.backend.resources w.calm := ⟨rfl, fun _ => w.calm_calm⟩
  have whole : (Migration.resolved c e m uid).effects (Owned.present m) w.backend.resources =
      some u.backend.resources := by
    rcases (migrateUid_meets resolved arises.filed shows).run with
      ⟨_, _, ended, x, changed, shown⟩ | ⟨_, _, ended, _⟩
    · cases ended.symm.trans succeeds
      rw [changed, shown.resources]
    · cases ended.symm.trans succeeds
  have filed := (retries.arises arises).filed
  refine ⟨migrateUid_eq_ok still (retries.arises arises) (retries.effects_eq arises whole), ?_, ?_⟩
  · intro fault x reached
    obtain ⟨before, failing, after, cause, order, same, fails⟩ := exists_failsAt still reached
    have distinct := order ▸ Owned.present_nodup m
    exact ⟨before, failing, after, cause, order, same, fails, fails.untouched filed distinct⟩
  · have ended : u = (World.run Backend.service (migrateUid sources m uid).run w.calm).2 := by
      rw [succeeds]
    have calmed : w.calm.backend.resources.Arises := arises
    have later : u.backend.resources.Arises := ended ▸ calmed.run _
    exact migrateUid_eq_ok still later
      ((Migration.begun_of_effects whole).effects_eq (Owned.present_nodup m) whole)

namespace Sample

/-- A migration with nothing in its way. -/
def migrated : Except CloudError Unit × World Backend :=
  World.run Backend.service (migrateUid Sample.sources owner "next").run (placed "rg").calm

/-- A migration that is cut off after the first of the disks. -/
def torn : World Backend :=
  (migrateUid Sample.sources owner "next").run.stateAfter (World.serve Backend.service) 3
    (placed "rg")

theorem exists_migrated : ∃ u, migrated = (.ok (), u) := by
  have succeeds : migrated.1.toOption.isSome = true := by decide +kernel
  generalize migrated = result at succeeds ⊢
  obtain ⟨fault | _, u⟩ := result
  · cases succeeds
  · exact ⟨u, rfl⟩

theorem retries_torn : Retries resolved.1 resolved.2 owner "next" (placed "rg") torn := by
  obtain ⟨left, reached⟩ := Program.exists_reaches_stateAfter 3
    (migrateUid Sample.sources owner "next").run (placed "rg")
  exact .migrate .start resolve_spec reached

end Sample

/-- The migration after one that was cut off between two disks ends as the first would have. -/
theorem migrateUid_retriable_torn : ∃ u last,
    World.run Backend.service (migrateUid Sample.sources Sample.owner "next").run
      (Sample.placed "rg").calm = (.ok (), u) ∧
    Retries Sample.resolved.1 Sample.resolved.2 Sample.owner "next" (Sample.placed "rg")
      Sample.torn ∧
    Sample.torn.backend.resources.Tagged "next" ⟨"rg", "m_DataDisk_0"⟩ .disks ∧
    Sample.torn.backend.resources.Tagged Sample.owner.uid ⟨"rg", "m_OsDisk_1"⟩ .disks ∧
    World.run Backend.service (migrateUid Sample.sources Sample.owner "next").run
      Sample.torn.calm = (.ok (), last) ∧
    last.backend.resources = u.backend.resources := by
  obtain ⟨u, succeeds⟩ := Sample.exists_migrated
  obtain ⟨⟨last, ended, same⟩, _⟩ := migrateUid_retriable (Sample.arises_placed "rg")
    Sample.resolve_spec succeeds Sample.retries_torn Sample.resolve_spec
  have first : Sample.torn.backend.resources.Tagged "next" ⟨"rg", "m_DataDisk_0"⟩ .disks := by
    decide +kernel
  have second : Sample.torn.backend.resources.Tagged Sample.owner.uid ⟨"rg", "m_OsDisk_1"⟩
      .disks := by
    decide +kernel
  exact ⟨u, last, succeeds, Sample.retries_torn, first, second, ended, same⟩

end Provisioning.Azure
