import Provisioning.Proofs.Lifecycle

/-!
The life of one machine: creations and teardowns in any order, each of which may be disturbed
before every request and cut off after any of them. Main statements: `finalizer_of_tagged`, that
nothing is ever left at the backend of which the stored record does not know; and
`cleanup_converges`, that one undisturbed teardown then leaves nothing.
-/

namespace Provisioning.Azure

open Program (Reaches)

/-- What can become of a world in which a machine is created and torn down. An operation is handed
the stored record and resolves its configuration to the same one each time. -/
inductive Lives (c : Config) (name : String) (w : World Backend) : World Backend → Prop where
  | start : Lives c name w w
  | outside {v u : World Backend} : Lives c name w v → Disturbed v u → Lives c name w u
  | create {v u : World Backend} {n : Machine} {sources : Sources} {userdata : String}
      {e : Envelope} {left : Asking (Except CloudError Instance × Machine)} :
      Lives c name w v → v.store.get? name = some n →
      Config.resolve sources n.providerSpec = .ok (c, e) →
      Reaches (World.serve Backend.service) Disturbed ((create sources userdata).run.run n) v
        left u →
      Lives c name w u
  | cleanup {v u : World Backend} {n : Machine} {sources : Sources} {e : Envelope}
      {left : Asking (Except CloudError Bool × Machine)} :
      Lives c name w v → v.store.get? name = some n →
      Config.resolve sources n.providerSpec = .ok (c, e) →
      Reaches (World.serve Backend.service) Disturbed ((cleanup sources).run.run n) v left u →
      Lives c name w u

variable {c : Config} {m n : Machine} {w v u : World Backend}

/-- Wherever a part of an operation is cut off, the stored record is in charge. -/
theorem Recorded.Meets.inCharge {α : Type} {group : String} {part : Recorded Asking α}
    {ok : α → Machine → World Backend → Prop} {fails : CloudError → Machine → World Backend → Prop}
    {left : Asking (Except CloudError α × Machine)}
    (met : Recorded.Meets (Outside False) (InCharge group n) ok fails part n w)
    (tracked : Tracked False group n w)
    (reached : Reaches (World.serve Backend.service) Disturbed (part.run.run n) w left v) :
    InCharge group n w v := by
  refine (reached.weaken fun _ _ change => (⟨not_false, change⟩ : Outside False _ _)).keeps met
    (tracked.inCharge (.refl n)) ?_ fun _ charged => charged
  rintro s t ⟨p, tracked, continues⟩ change
  exact (tracked.disturbed change).inCharge continues

/-- The record in charge is the stored one. -/
theorem InCharge.tracked {group : String} (charged : InCharge group m w v)
    (found : v.store.get? m.name = some n) : Tracked False group n v ∧ Continues m n := by
  obtain ⟨p, tracked, continues⟩ := charged
  have stored := tracked.stored
  rw [continues.name, found] at stored
  cases stored
  exact ⟨tracked, continues⟩

/-- An operation on the stored record leaves it in charge of the machine it began with. -/
theorem InCharge.goesOn {group : String} (charged : InCharge group m w v)
    (found : v.store.get? m.name = some n)
    (operation : Tracked False group n v → InCharge group n v u) : InCharge group m w u := by
  obtain ⟨tracked, continues⟩ := charged.tracked found
  obtain ⟨q, later, still⟩ := operation tracked
  exact ⟨q, later, continues.trans still⟩

/-- A machine's record is stored, nothing is at the backend, and no fault is placed that looks like
a lost instance. -/
structure Begins (m : Machine) (w : World Backend) : Prop where
  stored : w.store.get? m.name = some m
  empty : w.backend.resources.isEmpty = true
  faults : FaultsAre (· ≠ .cloud .instanceNotFound) w

/-- At every point of its life the stored record of a machine is in charge. -/
theorem Lives.inCharge (lives : Lives c m.name w v) (begins : Begins m w) :
    InCharge c.resourceGroup m w v := by
  induction lives with
  | start => exact ⟨m, ⟨begins.stored, .of_isEmpty begins.empty, begins.faults, nofun⟩, .refl m⟩
  | outside _ change ih =>
      obtain ⟨n, tracked, continues⟩ := ih
      exact (tracked.disturbed ⟨not_false, change⟩).inCharge continues
  | create _ found resolved reached ih =>
      exact ih.goesOn found fun tracked => (create_meets resolved tracked).inCharge tracked reached
  | cleanup _ found resolved reached ih =>
      exact ih.goesOn found fun tracked => (cleanup_meets resolved tracked).inCharge tracked reached

namespace Sample

/-- A network of both families, public addresses, a data disk, and a user who writes the machine's
own tag. -/
def spec : ProviderSpec where
  value := some (.object [
    ("cloudProvider", .string "azure"),
    ("operatingSystem", .string "ubuntu"),
    ("operatingSystemSpec", .object []),
    ("network", .object [("ipFamily", .string "IPv4+IPv6")]),
    ("sshPublicKeys", .strings [" ", "ssh-rsa key"]),
    ("cloudProviderSpec", .object [
      ("subscriptionID", .string Resources.subscription),
      ("resourceGroup", .string "rg"),
      ("dataDiskSize", .nat 10),
      ("tags", .object [("Machine-UID", .string "mine"), ("team", .string "web")]),
      ("assignPublicIP", .bool true)])])

def sources : Sources := ⟨fun _ => .ok none, fun _ => .ok none, fun _ => .error .absent⟩

def machine : Machine := ⟨"m", "uid", spec, ["example.com/backup"]⟩

/-- The record of the machine is stored, and nothing is at the backend. -/
def world : World Backend := ⟨Backend.empty, Store.empty.insert machine, Cache.empty 1, 0, []⟩

/-- The configuration of the machine and its envelope. -/
def resolved : Config × Envelope := (Config.resolve sources spec).toOption.get (by rfl)

theorem resolve_spec : Config.resolve sources spec = .ok (resolved.1, resolved.2) := by rfl

/-- A virtual machine with a data disk and no interface. -/
def bare : VirtualMachine where
  id := none
  name := none
  location := none
  tags := Naming.tags ∅ machine.uid
  plan := none
  zones := []
  properties :=
    { VirtualMachineProperties.empty with
      storageProfile := (resolved.1.storageProfile resolved.2.operatingSystem).toOption }

/-- The record of a machine that may have a virtual machine and disks. -/
def owner : Machine := { machine with finalizers := [Owned.disks.finalizer, Owned.vm.finalizer] }

/-- The record is stored, and the virtual machine and its two disks are in some group. -/
def placed (group : String) : World Backend :=
  { world with
    backend := { world.backend with
      resources := world.backend.resources.withVm ⟨group, "m"⟩ bare }
    store := Store.empty.insert owner }

/-- The next virtual machine cannot be put. -/
def failing : World Backend :=
  { world with backend := world.backend.failNext "put_vm" (.api 500 "Busy" "try again") }

/-- A creation that fails. -/
def created : World Backend :=
  ((create sources "data").run.run machine).stateAfter (World.serve Backend.service) 100 failing

/-- The record that is stored in a world. -/
def stored (w : World Backend) : Machine := (w.store.get? machine.name).getD machine

/-- A teardown that is cut off before it looks for interfaces. -/
def interrupted : World Backend :=
  ((cleanup sources).run.run (stored created)).stateAfter (World.serve Backend.service) 5 created

theorem begins : Begins machine world := ⟨by rfl, by rfl, nofun⟩

/-- The stored record is there, and its configuration is the same, at every point. -/
theorem stored_of_lives {v : World Backend} (lives : Lives resolved.1 machine.name world v) :
    v.store.get? machine.name = some (stored v) ∧
      Config.resolve sources (stored v).providerSpec = .ok (resolved.1, resolved.2) := by
  obtain ⟨n, tracked, continues⟩ := lives.inCharge begins
  have found := tracked.stored
  rw [continues.name] at found
  rw [stored, found, Option.getD_some, continues.providerSpec]
  exact ⟨rfl, resolve_spec⟩

/-- A creation that succeeds ends with an instance. -/
theorem exists_of_succeeds {ended : (Except CloudError Instance × Machine) × World Backend}
    (succeeds : ended.1.1.toOption.isSome = true) : ∃ i copy u, ended = ((.ok i, copy), u) := by
  obtain ⟨⟨fault | i, copy⟩, u⟩ := ended
  · cases succeeds
  · exact ⟨i, copy, u, rfl⟩

theorem lives_created : Lives resolved.1 machine.name world created := by
  have broken : Lives resolved.1 machine.name world failing :=
    .outside .start (.inl (.call _ _ _ nofun))
  obtain ⟨left, reached⟩ := Program.exists_reaches_stateAfter 100 _ failing
  exact broken.create begins.stored resolve_spec reached

theorem lives_interrupted : Lives resolved.1 machine.name world interrupted := by
  obtain ⟨found, same⟩ := stored_of_lives lives_created
  obtain ⟨left, reached⟩ := Program.exists_reaches_stateAfter 5 _ created
  exact lives_created.cleanup found same reached

end Sample

/-- Whatever carries the tag of a machine, at any point of its life, the stored record has its
finalizer. -/
theorem finalizer_of_tagged (begins : Begins m w) (lives : Lives c m.name w v)
    {key : ResourceKey} {owned : Owned} (tagged : v.backend.resources.Tagged m.uid key owned) :
    ∃ n, v.store.get? m.name = some n ∧ n.hasFinalizer owned.finalizer = true := by
  obtain ⟨n, tracked, continues⟩ := lives.inCharge begins
  refine ⟨n, continues.name ▸ tracked.stored, ?_⟩
  exact tracked.accounted.of_tagged (continues.uid.symm ▸ tagged)

/-- The interface is left after a failed creation. -/
theorem finalizer_of_tagged_created : Begins Sample.machine Sample.world ∧
    Lives Sample.resolved.1 Sample.machine.name Sample.world Sample.created ∧
    Sample.created.backend.resources.Tagged Sample.machine.uid ⟨"rg", "m-netiface"⟩ .nic ∧
    ∃ n, Sample.created.store.get? Sample.machine.name = some n ∧
      n.hasFinalizer Owned.nic.finalizer = true := by
  have tagged : Sample.created.backend.resources.Tagged Sample.machine.uid
      ⟨"rg", "m-netiface"⟩ .nic := by decide +kernel
  exact ⟨Sample.begins, Sample.lives_created, tagged,
    finalizer_of_tagged Sample.begins Sample.lives_created tagged⟩

/-- At any point of a machine's life one teardown without faults and rejections succeeds, says that
nothing is left, and is right; the record keeps the finalizers of others in their order. -/
theorem cleanup_converges (begins : Begins m w) (lives : Lives c m.name w v)
    (found : v.store.get? m.name = some n) {sources : Sources} {e : Envelope}
    (resolved : Config.resolve sources n.providerSpec = .ok (c, e)) :
    ∃ u, World.run Backend.service ((cleanup sources).run.run n) v.calm =
        ((.ok true, { n with finalizers := foreign n }), u) ∧
      u.store.get? m.name = some { n with finalizers := foreign n } ∧
      foreign n = foreign m ∧ u.backend.resources.isEmpty = true := by
  obtain ⟨tracked, continues⟩ := (lives.inCharge begins).tracked found
  have calm : Tracked True c.resourceGroup n v.calm :=
    ⟨tracked.stored, tracked.accounted, nofun, fun _ => v.calm_calm⟩
  rcases (cleanup_meets resolved calm).run with
    ⟨value, last, u, ended, later, still, rfl, clear⟩ | ⟨_, _, _, _, _, _, restless⟩
  · have kept := still.eq_of_clear clear
    have stored := later.stored
    rw [still.name, continues.name] at stored
    exact ⟨u, kept ▸ ended, kept ▸ stored, continues.foreign,
      later.accounted.isEmpty_of_clear clear⟩
  · exact absurd trivial restless

/-- The teardown after an interrupted one deletes the interface and both addresses. -/
theorem cleanup_converges_interrupted : Begins Sample.machine Sample.world ∧
    Lives Sample.resolved.1 Sample.machine.name Sample.world Sample.interrupted ∧
    Sample.interrupted.backend.resources.isEmpty = false ∧
    Sample.interrupted.store.get? Sample.machine.name =
      some (Sample.stored Sample.interrupted) ∧
    ∃ u, World.run Backend.service
        ((cleanup Sample.sources).run.run (Sample.stored Sample.interrupted))
        Sample.interrupted.calm =
        ((.ok true, { Sample.stored Sample.interrupted with
          finalizers := foreign (Sample.stored Sample.interrupted) }), u) ∧
      u.store.get? Sample.machine.name = some { Sample.stored Sample.interrupted with
        finalizers := foreign (Sample.stored Sample.interrupted) } ∧
      foreign (Sample.stored Sample.interrupted) = foreign Sample.machine ∧
      u.backend.resources.isEmpty = true := by
  obtain ⟨found, resolved⟩ := Sample.stored_of_lives Sample.lives_interrupted
  exact ⟨Sample.begins, Sample.lives_interrupted, by decide +kernel, found,
    cleanup_converges Sample.begins Sample.lives_interrupted found resolved⟩

end Provisioning.Azure
