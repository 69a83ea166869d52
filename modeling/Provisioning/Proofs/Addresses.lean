import Provisioning.Azure.Provider.Inspect
import Provisioning.Proofs.Isolation
import Provisioning.Proofs.Orderly
import Provisioning.Proofs.Retag

/-!
Several machines are created, torn down and migrated, one by one or at the same time, with faults in
between, and whoever is created or asked for in between shows its addresses. Main statement:
`addresses_of_interleaved`, that no address is given out twice, and that none is left out of an
instance.
-/

namespace Provisioning.Azure

open Relation
open Program (Reaches)

section

variable {α ι τ : Type} {group : String} {parties : ι → Party} {w v u : World Backend}

/-- A request that keeps addresses in order. -/
def Request.Orderly (group : String) : Request → Prop
  | .call _ what => what.Orderly group
  | _ => True

theorem Request.permits_orderly (group : String) : Permits (Request.Orderly group) :=
  ⟨fun _ => trivial, fun _ _ read => Call.orderly_of_read read group, trivial⟩

/-- Addresses do not depend on records. -/
theorem Request.commits_orderly (inv : World Backend → Prop) (group : String) :
    Commits inv (Request.Orderly group) fun _ => True :=
  fun _ _ _ => Recorded.Asks.update trivial trivial fun _ _ _ _ => trivial

/-- Every operation keeps addresses in order. -/
theorem Task.Of.orderly {p : Party} {t : Task} (of : t.Of group p) (whole : p.Whole)
    (inv : World Backend → Prop) :
    t.program.Confined (World.serve Backend.service) inv (Request.Orderly group) fun _ => True := by
  have permits := Request.permits_orderly group
  have commits := Request.commits_orderly inv group
  have puts (uid : String) (c : Config) (e : Envelope)
      (resolved : Config.resolve t.sources t.machine.providerSpec = .ok (c, e)) (what : Call)
      (own : what.Puts c t.machine.name uid) : what.Orderly group := by
    rw [of.name] at own
    exact of.placed c e resolved ▸ own.orderly whole
  unfold program
  split
  · exact .ended (create_asks permits trivial commits
      fun c e found what own _ => puts _ c e found what own)
  · exact .ended (cleanup_asks permits trivial commits
      fun _ _ _ kind _ _ name _ => Call.orderly_removal kind _ name group)
  · exact .ended (migrateUid_asks permits (puts _) fun _ _ _ _ _ _ _ _ _ => trivial)

/-- An orderly request keeps addresses in order. -/
theorem Resources.Orderly.serve {q : Request} (orderly : w.backend.resources.Orderly group)
    (own : q.Orderly group) :
    (World.serve Backend.service q w).2.backend.resources.Orderly group := by
  cases q with
  | call credentials what =>
      rcases serve_call credentials what w with ⟨_, _, answers⟩ | ⟨_, _, refuses⟩
      · exact orderly.perform own answers.performed
      · exact refuses.resources ▸ orderly
  | connect | commit | recallSize | rememberSize | throwawayBytes => exact orderly

theorem Interleaved.orderly [DecidableEq τ] {serves : τ → ι} {running : τ → Asking Unit}
    (interleaved : Interleaved group parties serves w running v)
    (whole : ∀ i, (parties i).Whole) (initially : w.backend.resources.Orderly group) :
    v.backend.resources.Orderly group := by
  have faulted (s t : World Backend) (orderly : s.backend.resources.Orderly group)
      (change : Faulted (fun _ => True) s t) : t.backend.resources.Orderly group := by
    cases change <;> exact orderly
  exact (interleaved.confined (fun _ _ of => of.orderly (whole _) _)
    (fun _ _ _ orderly own => orderly.serve own) faulted initially).1

section Reading

variable {possible : AzureError → Prop} {m copy : Machine} {sources : Sources} {userdata : String}
  {i : Instance}

/-- Faults are placed beside what a backend has. -/
theorem bare_of_faulted (changes : ReflTransGen (Faulted possible) w v) :
    v.backend.bare = w.backend.bare := by
  induction changes with
  | refl => rfl
  | tail _ change ih => cases change <;> exact ih

/-- What a reading program ends with, if it succeeds at all, is what the backend shows, and that has
not changed. -/
theorem Reading.meets {b : Backend} {act : Action α} (reads : Reading act.run)
    (shown : w.backend.bare = b) :
    act.Meets (Faulted possible) (fun _ _ => True)
      (fun value u => u.backend.bare = b ∧ b.glimpse act.run = .ok value) (fun _ _ => True) w := by
  unfold Action.Meets Ends
  generalize act.run = program at reads
  induction reads generalizing w with
  | done outcome =>
      cases outcome with
      | error fault => trivial
      | ok value => exact ⟨shown, rfl⟩
  | @call credentials what next read fails goesOn ih =>
      intro t changes
      refine ⟨trivial, ?_⟩
      have before := (bare_of_faulted changes).trans shown
      rcases serve_call credentials what t with ⟨value, same, answers⟩ | ⟨fault, same, _⟩
      · have after := answers.rest
        rw [Backend.perform_of_read read answers.performed] at after
        have performed := answers.performed
        rw [← Backend.perform_bare, before] at performed
        rw [same, Backend.glimpse_call, performed]
        exact ih value (after.trans before)
      · obtain ⟨other, ended⟩ := fails fault
        rw [same, ended]
        trivial

/-- What comes before may have done anything. -/
theorem Recorded.Meets.after {β : Type} {rely : World Backend → World Backend → Prop}
    {ok : β → Machine → World Backend → Prop} {part : Recorded Asking α}
    {next : α → Recorded Asking β}
    (later : ∀ value n t, Recorded.Meets rely (fun _ _ => True) ok (fun _ _ _ => True)
      (next value) n t) (n : Machine) (t : World Backend) :
    Recorded.Meets rely (fun _ _ => True) ok (fun _ _ _ => True) (part >>= next) n t := by
  refine Program.Safe.after ?_ (part.run.run n) t
  rintro ⟨fault | value, p⟩ s
  · trivial
  · exact later value p s

theorem Create.resources_shows {c : Config} {e : Envelope} {name uid : String} (n : Machine)
    (t : World Backend) :
    Recorded.Meets (Faulted possible) (fun _ _ => True)
      (fun i _ u => u.backend.bare.glimpse (readBack c name).run = .ok i) (fun _ _ _ => True)
      (resources c e name uid userdata) n t := by
  unfold resources
  refine .after (fun ids n t => ?_) n t
  refine .after (fun _ n t => ?_) n t
  refine .after (fun nicId n t => ?_) n t
  refine .settle (fun storage _ => ?_) fun _ _ => trivial
  refine .after (fun key n t => ?_) n t
  refine .after (fun _ n t => ?_) n t
  refine .after (fun _ n t => ?_) n t
  refine .recorded (((readBack_reading c name).meets rfl).mono ?_ fun _ _ met => met)
  rintro i u ⟨same, seen⟩
  rw [same]
  exact seen

/-- A creation that succeeds ends with what it has read back. -/
theorem create_shows : Recorded.Meets (Faulted possible) (fun _ _ => True)
    (fun i _ u => ∃ c e, Config.resolve sources m.providerSpec = .ok (c, e) ∧
      u.backend.bare.glimpse (Create.readBack c m.name).run = .ok i)
    (fun _ _ _ => True) (create sources userdata) m w := by
  refine .copy (.settle ?_ fun _ _ => trivial)
  rintro ⟨c, e⟩ settled
  refine .after (fun _ n t => ?_) m w
  exact (Create.resources_shows n t).mono (fun i _ u seen => ⟨c, e, mapError_eq_ok.1 settled, seen⟩)
    fun _ _ _ met => met

/-- What is read back by name is the virtual machine of that name. -/
theorem Create.glimpse_readBack_eq_ok {b : Backend} {c : Config} {name : String} :
    b.glimpse (readBack c name).run = .ok i ↔
      ∃ vm, b.resources.vms.get? ⟨c.resourceGroup, name⟩ = some vm ∧
        b.glimpse (Lookup.instanceOf c vm).run = .ok i := by
  rw [readBack, Backend.glimpse_bind, Backend.glimpse_context _ _ (.ofCall c rfl),
    Backend.glimpse_ofCall, Backend.perform, Resources.look]
  cases b.resources.vms.get? ⟨c.resourceGroup, name⟩ <;>
    simp [Except.map, Except.mapError, Except.bind]

/-- Whoever is asked for and found is found by its tag. -/
theorem get_shows : Ends (Faulted possible) (fun _ _ => True)
    (fun i u => u.backend.bare = w.backend.bare ∧
      ∃ c e vm, Config.resolve sources m.providerSpec = .ok (c, e) ∧
        w.backend.bare.glimpse (Lookup.vm c m.uid).run = .ok vm ∧
        w.backend.bare.glimpse (Lookup.instanceOf c vm).run = .ok i)
    (fun _ _ => True) (get sources m) w := by
  unfold get
  cases resolved : Config.resolve sources m.providerSpec with
  | error fault => trivial
  | ok known =>
      obtain ⟨c, e⟩ := known
      refine Ends.known (.bind (.reporting (.connect fun t u changes same _ _ _ => ⟨trivial, ?_⟩)))
      have before := same.trans (bare_of_faulted changes)
      refine .bind (.reporting (((Lookup.vm_reading c m.uid).meets before).mono ?_
        fun _ _ met => met))
      rintro vm t ⟨still, found⟩
      refine .reporting (((Lookup.instanceOf_reading c vm).meets still).mono ?_ fun _ _ met => met)
      rintro i u ⟨after, seen⟩
      exact ⟨after, c, e, vm, rfl, found, seen⟩

end Reading

/-- Every address is given out, and only once. -/
structure Resources.Addressed (r : Resources) : Prop where
  external : ∀ key address, r.publicIps.get? key = some address →
    ∃ text, address.properties.ipAddress = some text
  internal : ∀ key nic, r.nics.get? key = some nic → ∀ c ∈ nic.ipConfigurations,
    ∃ text, c.properties.privateAddress = some text
  apart : ∀ slot other text, r.addressAt slot = some text → r.addressAt other = some text →
    slot = other

/-- When machines have names of one segment, and at first nothing is at the backend, then whatever
has been done for all of them in whatever order, every address is given out once; and whoever is
then created, or asked for, is shown with all addresses of its interface and no other ones. -/
theorem addresses_of_interleaved [DecidableEq τ] {serves : τ → ι} {running : τ → Asking Unit}
    (whole : ∀ i, (parties i).Whole) (empty : w.backend.resources.isEmpty = true)
    (interleaved : Interleaved group parties serves w running v) :
    v.backend.resources.Addressed ∧
    (∀ worker sources m userdata i copy u,
      (⟨sources, m, .create userdata⟩ : Task).Of group (parties (serves worker)) →
      Reaches (World.serve Backend.service) (Faulted fun _ => True)
        ((create sources userdata).run.run m) v (.done (.ok i, copy)) u →
      ∃ vm, i.name = m.name ∧ u.backend.resources.Portrays group vm i) ∧
    ∀ sources m i u,
      (∀ c e, Config.resolve sources m.providerSpec = .ok (c, e) → c.resourceGroup = group) →
      Reaches (World.serve Backend.service) (Faulted fun _ => True) (get sources m).run v
        (.done (.ok i)) u →
      ∃ vm, Naming.hasUid vm.tags m.uid = true ∧ u.backend.resources.Portrays group vm i := by
  have initially : w.backend.resources.Orderly group := .of_isEmpty empty
  have here := interleaved.orderly whole initially
  refine ⟨⟨here.external, here.internal, here.numbered.apart⟩, ?_, ?_⟩
  · intro worker sources m userdata i copy u of reached
    -- The creation is one more task of a worker.
    have begun := interleaved.task worker of
    have ended := reached.bind fun _ => (Program.done () : Asking Unit)
    change Reaches _ _ (Task.program ⟨sources, m, .create userdata⟩) v _ u at ended
    rw [← Function.update_self worker (Task.program _) running] at ended
    have later := (begun.reaches ended).orderly whole initially
    obtain ⟨t, changes, c, e, resolved, seen⟩ := reached.safe create_shows
    rw [← bare_of_faulted changes] at seen
    obtain ⟨vm, found, shown⟩ := Create.glimpse_readBack_eq_ok.1 seen
    have placed : c.resourceGroup = group := of.placed c e resolved
    subst placed
    exact ⟨vm, later.portrays (b := u.backend.bare) found shown⟩
  · intro sources m i u placed reached
    obtain ⟨t, changes, same, c, e, vm, resolved, found, seen⟩ := get_shows.of_reaches_ok reached
    have inside := placed c e resolved
    subst inside
    have still : u.backend.bare = v.backend.bare := (bare_of_faulted changes).trans same
    rw [Lookup.glimpse_vm] at found
    split at found
    · rename_i first
      cases found
      obtain ⟨key, stored⟩ := SortedMap.mem_values_iff.1 (List.mem_of_find?_eq_some first)
      have portrayed := (here.portrays (b := v.backend.bare) stored seen).2
      rw [← still] at portrayed
      exact ⟨vm, by simpa using List.find?_some first, portrayed⟩
    · cases found

end

namespace Sample

/-- The other machine was created while a creation of the first one had put an address. -/
def crowded : World Backend :=
  (creating neighbour).program.stateAfter (World.serve Backend.service) 100 begun

theorem interleaved_crowded : ∃ running, Interleaved "rg" parties id shared running crowded := by
  have first : (creating machine).Of "rg" (parties true) :=
    ⟨rfl, rfl, nofun, resourceGroup_of_resolve⟩
  have other : (creating neighbour).Of "rg" (parties false) :=
    ⟨rfl, .inl rfl, nofun, resourceGroup_of_resolve⟩
  have nothing : Interleaved "rg" parties id shared (fun _ => .done ()) shared := .start
  have earlier := (nothing.task true first).goesOn true 3
  rw [Function.update_self] at earlier
  have later := (earlier.task false other).goesOn false 100
  rw [Function.update_self] at later
  exact ⟨_, later⟩

/-- The other machine is asked for. -/
def asked : Except CloudError Instance × World Backend :=
  World.run Backend.service (get sources neighbour).run crowded

theorem exists_asked : ∃ i, asked.1 = .ok i ∧ i.addresses.size = 4 := by
  have size : asked.1.toOption.map (·.addresses.size) = some 4 := by decide +kernel
  generalize asked.1 = outcome at size ⊢
  cases outcome with
  | error fault => cases size
  | ok i => exact ⟨i, rfl, Option.some.inj size⟩

end Sample

/-- After the other machine was created in between, it is shown with its four addresses. -/
theorem addresses_of_interleaved_crowded : ∃ running i vm,
    Interleaved "rg" Sample.parties id Sample.shared running Sample.crowded ∧
    Sample.crowded.backend.resources.Addressed ∧
    Sample.asked.1 = .ok i ∧ i.addresses.size = 4 ∧
    Sample.asked.2.backend.resources.Portrays "rg" vm i := by
  obtain ⟨running, interleaved⟩ := Sample.interleaved_crowded
  obtain ⟨addressed, _, gets⟩ := addresses_of_interleaved Sample.whole rfl interleaved
  obtain ⟨i, got, size⟩ := Sample.exists_asked
  have reached : Reaches (World.serve Backend.service) (Faulted fun _ => True)
      (get Sample.sources Sample.neighbour).run Sample.crowded (.done Sample.asked.1)
      Sample.asked.2 := Program.reaches_run _ _
  rw [got] at reached
  obtain ⟨vm, _, shown⟩ := gets _ _ _ _ Sample.resourceGroup_of_resolve reached
  exact ⟨running, i, vm, interleaved, addressed, got, size, shown⟩

end Provisioning.Azure
