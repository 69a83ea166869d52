import Provisioning.Proofs.Confinement
import Provisioning.Proofs.Session

/-!
Several machines are created, torn down and migrated at the same time. Their requests to the one
backend and the one store come in any order. Main statement: `spares_of_interleaved`, that what is
asked for one machine leaves the others as they are and is not hindered by them.
-/

namespace Provisioning.Azure

/-- What can be done for a machine. -/
inductive Errand where
  | create (userdata : String)
  | cleanup
  | migrateUid (uid : String)

/-- An operation with a copy of a machine's record. -/
structure Task where
  sources : Sources
  machine : Machine
  errand : Errand

namespace Task

/-- The requests of an operation. -/
def program (t : Task) : Asking Unit :=
  match t.errand with
  | .create userdata => (create t.sources userdata).run.run t.machine >>= fun _ => .done ()
  | .cleanup => (cleanup t.sources).run.run t.machine >>= fun _ => .done ()
  | .migrateUid uid => (migrateUid t.sources t.machine uid).run >>= fun _ => .done ()

/-- An operation is for a machine, by its name and its identities, and in a resource group. -/
structure Of (group : String) (p : Party) (t : Task) : Prop where
  name : t.machine.name = p.name
  uid : p.uids t.machine.uid
  next : ∀ uid, t.errand = .migrateUid uid → p.uids uid
  placed : ∀ c e, Config.resolve t.sources t.machine.providerSpec = .ok (c, e) →
    c.resourceGroup = group

end Task

/-- The call that a program makes next. -/
def Asking.call? {α : Type} : Asking α → Option Call
  | .ask (.call _ what) _ => some what
  | _ => none

theorem Asking.exists_of_call? {α : Type} {program : Asking α} {what : Call}
    (asks : Asking.call? program = some what) :
    ∃ credentials next, program = .ask (.call credentials what) next := by
  cases program with
  | done value => cases asks
  | ask q next =>
      cases q with
      | call credentials other =>
          cases asks
          exact ⟨credentials, next, rfl⟩
      | connect | commit | recallSize | rememberSize | throwawayBytes => cases asks

section Interleavings

variable {ι τ : Type} {group : String} {parties : ι → Party} {i j : ι} {w : World Backend}

/-- An operation asks only for its machine. -/
theorem Task.Of.keeps {t : Task} (of : t.Of group (parties i))
    (apart : Pairwise fun i j => (parties i).Apart (parties j)) (whole : (parties i).Whole) :
    Keeps group parties i (fun _ => True) t.program := by
  unfold program
  split
  · exact .ended (create_stays of.placed whole of.uid of.name _)
  · exact .ended (cleanup_stays of.placed apart of.uid of.name)
  · rename_i uid same
    exact .ended (migrateUid_stays of.placed apart whole of.name of.uid (of.next uid same))

namespace Shared

variable {q : Request}

/-- What is asked for one machine changes nothing at the backend but what is under its names. -/
theorem serve_aside (shared : Shared group parties w) (own : q.For group (parties i)) :
    w.backend.resources.Agree (fun kind name => name ∉ (parties i).names kind)
      (World.serve Backend.service q w).2.backend.resources := by
  cases q with
  | call credentials what =>
      rcases serve_call credentials what w with ⟨_, _, answers⟩ | ⟨_, _, refuses⟩
      · exact shared.divided.aside own answers.performed
      · rw [refuses.resources]
        exact .refl _ _
  | connect | commit | recallSize | rememberSize | throwawayBytes => exact .refl _ _

/-- What is asked for one machine changes no record but its own. -/
theorem serve_record (shared : Shared group parties w) (own : q.For group (parties i))
    {name : String} (other : name ≠ (parties i).name) :
    (World.serve Backend.service q w).2.store.get? name = w.store.get? name := by
  cases q with
  | commit machine edit =>
      change (w.store.commit machine edit).2.get? name = _
      unfold Store.commit
      split
      · rfl
      · cases found : w.store.get? machine with
        | none => rfl
        | some stored =>
            have named : (edit.apply stored).name ≠ name := by
              rw [edit.apply_name, shared.records machine stored found, own]
              exact other.symm
            exact (SortedMap.get?_insert _ _ _ _).trans (if_neg named)
  | connect | call | recallSize | rememberSize | throwawayBytes => rfl

/-- What is asked for one of the machines leaves the world shared. -/
theorem serve (shared : Shared group parties w) (own : q.For group (parties i)) :
    Shared group parties (World.serve Backend.service q w).2 := by
  cases q with
  | call credentials what =>
      refine ⟨?_, shared.records⟩
      rcases serve_call credentials what w with ⟨_, _, answers⟩ | ⟨_, _, refuses⟩
      · exact shared.divided.perform own answers.performed
      · rw [refuses.resources]
        exact shared.divided
  | commit machine edit =>
      refine ⟨shared.divided, ?_⟩
      change ∀ name m, (w.store.commit machine edit).2.get? name = some m → m.name = name
      unfold Store.commit
      split
      · exact shared.records
      · cases found : w.store.get? machine with
        | none => exact shared.records
        | some stored => exact SortedMap.forall_insert shared.records rfl
  | connect | recallSize | rememberSize | throwawayBytes => exact ⟨shared.divided, shared.records⟩

theorem faulted {possible : AzureError → Prop} {v : World Backend}
    (shared : Shared group parties w) (change : Faulted possible w v) :
    Shared group parties v := by
  cases change <;> exact ⟨shared.divided, shared.records⟩

end Shared

/-- What can become of a world while several workers act at it, each for one machine, and of what
each of them has still to do. A worker may give up and begin something else at any time, and calls
and changes of records may be made to fail. -/
inductive Interleaved (group : String) (parties : ι → Party) (serves : τ → ι) [DecidableEq τ]
    (w : World Backend) : (τ → Asking Unit) → World Backend → Prop where
  | start : Interleaved group parties serves w (fun _ => .done ()) w
  | fault {running v u} : Interleaved group parties serves w running v →
      Faulted (fun _ => True) v u → Interleaved group parties serves w running u
  | task {running v} (worker : τ) {t : Task} : Interleaved group parties serves w running v →
      t.Of group (parties (serves worker)) →
      Interleaved group parties serves w (Function.update running worker t.program) v
  | request {running v} {worker : τ} {q : Request} {next} :
      Interleaved group parties serves w running v → running worker = .ask q next →
      Interleaved group parties serves w
        (Function.update running worker (next (World.serve Backend.service q v).1))
        (World.serve Backend.service q v).2

/-- Whatever has happened, an invariant holds that every request of every operation keeps while it
holds, and every worker goes on asking only for what keeps it. -/
theorem Interleaved.confined [DecidableEq τ] {serves : τ → ι} {running : τ → Asking Unit}
    {v : World Backend} {inv : World Backend → Prop} {allowed : τ → Request → Prop}
    (interleaved : Interleaved group parties serves w running v)
    (tasks : ∀ worker (t : Task), t.Of group (parties (serves worker)) →
      t.program.Confined (World.serve Backend.service) inv (allowed worker) fun _ => True)
    (served : ∀ worker q v, inv v → allowed worker q → inv (World.serve Backend.service q v).2)
    (faulted : ∀ v u, inv v → Faulted (fun _ => True) v u → inv u) (initially : inv w) :
    inv v ∧ ∀ worker, (running worker).Confined (World.serve Backend.service) inv (allowed worker)
      fun _ => True := by
  -- Both are carried together: a worker asks only for what is allowed because the invariant holds,
  -- and that goes on holding because every worker does.
  induction interleaved with
  | start => exact ⟨initially, fun _ => trivial⟩
  | fault _ change ih => exact ⟨faulted _ _ ih.1 change, ih.2⟩
  | task worker _ of ih =>
      refine ⟨ih.1, fun other => ?_⟩
      by_cases same : other = worker
      · subst same
        rw [Function.update_self]
        exact tasks other _ of
      · rw [Function.update_of_ne same]
        exact ih.2 other
  | @request running v worker q next _ asks ih =>
      have confined := ih.2 worker
      rw [asks] at confined
      refine ⟨served worker q v ih.1 confined.1, fun other => ?_⟩
      by_cases same : other = worker
      · subst same
        rw [Function.update_self]
        exact confined.2 v ih.1
      · rw [Function.update_of_ne same]
        exact ih.2 other

/-- Whatever has happened, the world is shared, and every worker goes on asking only for its
machine. -/
theorem Interleaved.shared [DecidableEq τ] {serves : τ → ι} {running : τ → Asking Unit}
    {v : World Backend} (interleaved : Interleaved group parties serves w running v)
    (apart : Pairwise fun i j => (parties i).Apart (parties j))
    (whole : ∀ i, (parties i).Whole) (initially : Shared group parties w) :
    Shared group parties v ∧
      ∀ worker, Keeps group parties (serves worker) (fun _ => True) (running worker) :=
  interleaved.confined (fun _ _ of => of.keeps apart (whole _))
    (fun _ _ _ shared own => shared.serve own) (fun _ _ shared change => shared.faulted change)
    initially

/-- A request leaves a machine's resources and its record, and if it is a deletion that the backend
refuses, none of what is in its way is the machine's. -/
structure Request.Spares (q : Request) (p : Party) (w : World Backend) : Prop where
  resources : w.backend.resources.Agree (fun kind name => name ∈ p.names kind)
    (World.serve Backend.service q w).2.backend.resources
  record : (World.serve Backend.service q w).2.store.get? p.name = w.store.get? p.name
  refused : ∀ credentials (kind : Owned) place name fault,
    q = .call credentials (kind.removal place name) →
    w.backend.perform (kind.removal place name) = .error fault →
      (∃ user, w.backend.resources.Blocks ⟨place, name⟩ user kind) ∧
      ∀ user, w.backend.resources.Blocks ⟨place, name⟩ user kind → user.name ∉ p.names kind.user

/-- A deletion is of something under the names of the machine that it is for. -/
theorem Call.For.own_of_removal {p : Party} {kind : Owned} {place name : String}
    (own : (kind.removal place name).For group p) : name ∈ p.names kind := by
  cases kind <;> exact own.2

/-- When machines have names of one segment, all different, and no identity in common, and at first
nothing is at the backend and every record is under its own name, then whatever has been asked for
all of them in whatever order, the next request for one machine spares every other. -/
theorem spares_of_interleaved [DecidableEq τ] {serves : τ → ι} {running : τ → Asking Unit}
    {v : World Backend} (apart : Pairwise fun i j => (parties i).Apart (parties j))
    (whole : ∀ i, (parties i).Whole) (empty : w.backend.resources.isEmpty = true)
    (records : ∀ name m, w.store.get? name = some m → m.name = name)
    (interleaved : Interleaved group parties serves w running v) {worker : τ} {q : Request}
    {next : q.Answer → Asking Unit} (asks : running worker = .ask q next)
    (other : serves worker ≠ j) : q.Spares (parties j) v := by
  obtain ⟨shared, keeps⟩ := interleaved.shared apart whole ⟨.of_isEmpty empty, records⟩
  have own : q.For group (parties (serves worker)) := (asks ▸ keeps worker).1
  have names := (apart other).names
  refine ⟨(shared.serve_aside own).mono ?_, shared.serve_record own names.symm, ?_⟩
  · exact fun kind name theirs mine => names (Party.eq_of_mem_names mine theirs)
  · rintro credentials kind place name fault rfl refused
    have target : name ∈ (parties (serves worker)).names kind := Call.For.own_of_removal own
    exact ⟨shared.divided.exists_blocks refused,
      fun user blocks => shared.divided.not_blocks whole names target blocks⟩

/-- What can happen to a worker that is left alone is one of the things that can happen. -/
theorem Interleaved.reaches [DecidableEq τ] {serves : τ → ι} {running : τ → Asking Unit}
    {v u : World Backend} {left : Asking Unit} {worker : τ}
    (interleaved : Interleaved group parties serves w running v)
    (reached : Program.Reaches (World.serve Backend.service) (Faulted fun _ => True)
      (running worker) v left u) :
    Interleaved group parties serves w (Function.update running worker left) u := by
  induction reached with
  | start =>
      rw [Function.update_eq_self]
      exact interleaved
  | outside _ change ih => exact ih.fault change
  | request _ ih =>
      have later := ih.request (Function.update_self worker _ running)
      rwa [Function.update_idem] at later

/-- A worker is left alone for so many requests. -/
theorem Interleaved.goesOn [DecidableEq τ] {serves : τ → ι} {running : τ → Asking Unit}
    {v : World Backend} (interleaved : Interleaved group parties serves w running v) (worker : τ)
    (count : Nat) :
    Interleaved group parties serves w
      (Function.update running worker
        ((running worker).left (World.serve Backend.service) count v))
      ((running worker).stateAfter (World.serve Backend.service) count v) :=
  interleaved.reaches (Program.reaches_stateAfter count _ v)

end Interleavings

namespace Sample

/-- Two machines, one of which may be migrated. -/
def parties : Bool → Party
  | true => ⟨"m", fun uid => uid = "uid"⟩
  | false => ⟨"n", fun uid => uid = "vid" ∨ uid = "next"⟩

def neighbour : Machine := ⟨"n", "vid", spec, []⟩

/-- Both records are stored. -/
def shared : World Backend := { world with store := world.store.insert neighbour }

def creating (m : Machine) : Task := ⟨sources, m, .create "data"⟩

/-- The record says that the machine may own an address. -/
def cleaning : Task :=
  ⟨sources, { machine with finalizers := [Owned.publicIp.finalizer] }, .cleanup⟩

/-- A creation of the first machine has put an address. -/
def begun : World Backend :=
  (creating machine).program.stateAfter (World.serve Backend.service) 3 shared

/-- A creation of the other machine has put its interface, which refers to its own addresses. -/
def passed : World Backend :=
  (creating neighbour).program.stateAfter (World.serve Backend.service) 7 begun

/-- A teardown of the first machine has found the address. -/
def about : World Backend :=
  cleaning.program.stateAfter (World.serve Backend.service) 2 passed

theorem apart : Pairwise fun i j => (parties i).Apart (parties j) := by
  have none (uid : String) (mine : (parties true).uids uid) : ¬(parties false).uids uid := by
    cases (show uid = "uid" from mine)
    exact (by decide : ¬("uid" = "vid" ∨ "uid" = "next"))
  intro i j different
  cases i <;> cases j
  · exact absurd rfl different
  · exact ⟨by decide, fun uid theirs mine => none uid mine theirs⟩
  · exact ⟨by decide, none⟩
  · exact absurd rfl different

theorem whole (i : Bool) : (parties i).Whole := by
  unfold Party.Whole
  cases i <;> decide

/-- All operations are in the group of the specification. -/
theorem resourceGroup_of_resolve (c : Config) (e : Envelope)
    (same : Config.resolve sources spec = .ok (c, e)) : c.resourceGroup = "rg" := by
  cases resolve_spec.symm.trans same
  rfl

theorem records (name : String) (m : Machine) (found : shared.store.get? name = some m) :
    m.name = name := by
  have none : ∀ name m, Store.empty.records.get? name = some m → m.name = name := nofun
  exact SortedMap.forall_insert (SortedMap.forall_insert none rfl) rfl name m found

theorem interleaved : ∃ running, Interleaved "rg" parties id shared running about ∧
    running true = cleaning.program.left (World.serve Backend.service) 2 passed := by
  have first : (creating machine).Of "rg" (parties true) :=
    ⟨rfl, rfl, nofun, resourceGroup_of_resolve⟩
  have other : (creating neighbour).Of "rg" (parties false) :=
    ⟨rfl, .inl rfl, nofun, resourceGroup_of_resolve⟩
  have last : cleaning.Of "rg" (parties true) :=
    ⟨rfl, rfl, nofun, resourceGroup_of_resolve⟩
  have nothing : Interleaved "rg" parties id shared (fun _ => .done ()) shared := .start
  have earlier := (nothing.task true first).goesOn true 3
  rw [Function.update_self] at earlier
  have between := (earlier.task false other).goesOn false 7
  rw [Function.update_self] at between
  have later := (between.task true last).goesOn true 2
  rw [Function.update_self] at later
  exact ⟨_, later, Function.update_self _ _ _⟩

end Sample

/-- While the other machine is being created, the deletion of an address of the first spares it. -/
theorem spares_of_interleaved_teardown : ∃ running credentials next,
    Interleaved "rg" Sample.parties id Sample.shared running Sample.about ∧
    running true =
      .ask (.call credentials (.deletePublicIp "rg" "m-netiface-pubip")) next ∧
    Sample.about.backend.resources.nics.contains ⟨"rg", "n-netiface"⟩ = true ∧
    (Request.call credentials (.deletePublicIp "rg" "m-netiface-pubip")).Spares
      (Sample.parties false) Sample.about := by
  obtain ⟨running, interleaved, left⟩ := Sample.interleaved
  have known : Asking.call? (running true) = some (.deletePublicIp "rg" "m-netiface-pubip") ∧
      Sample.about.backend.resources.nics.contains ⟨"rg", "n-netiface"⟩ = true := by
    rw [left]
    decide +kernel
  obtain ⟨credentials, next, asks⟩ := Asking.exists_of_call? known.1
  exact ⟨running, credentials, next, interleaved, asks, known.2,
    spares_of_interleaved Sample.apart Sample.whole rfl Sample.records interleaved asks (by decide)⟩

end Provisioning.Azure
