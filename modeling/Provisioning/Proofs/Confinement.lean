import Mathlib.Logic.Pairwise
import Provisioning.Proofs.Footprint
import Provisioning.Proofs.Ownership

/-!
What the operations for a machine ask for while others use the same backend and the same store. It
is enough to know that everything there is divided among the machines: then creation, teardown and
migration make no call and no commit but for their own machine.
-/

namespace Provisioning

namespace Azure

variable {ι : Type}

/-- The backend is divided among the machines, and each record is stored under its own name. -/
structure Shared (group : String) (parties : ι → Party) (w : World Backend) : Prop where
  divided : Divided group parties w.backend.resources
  records : ∀ name m, w.store.get? name = some m → m.name = name

/-- A request for one machine. -/
def Request.For (group : String) (p : Party) : Request → Prop
  | .call _ what => what.For group p
  | .commit machine _ => machine = p.name
  | _ => True

variable {group : String} {parties : ι → Party} {i : ι} {α β : Type}

/-- A program asks only for one of the machines that share a world, and its value meets a
postcondition. -/
def Keeps (group : String) (parties : ι → Party) (i : ι) (post : α → Prop) (program : Asking α) :
    Prop :=
  program.Confined (World.serve Backend.service) (Shared group parties)
    (Request.For group (parties i)) post

/-- A program that may fail asks only for one of the machines, and if it succeeds its value meets a
postcondition. -/
abbrev Stays {ε : Type} (group : String) (parties : ι → Party) (i : ι) (post : α → Prop)
    (act : ExceptT ε Asking α) : Prop :=
  Asks (Shared group parties) (Request.For group (parties i)) post act

/-- A part of an operation asks only for its machine and keeps a copy of that machine's record, and
if it succeeds its value meets a postcondition. -/
abbrev Recorded.Stays (group : String) (parties : ι → Party) (i : ι) (post : α → Prop)
    (part : Recorded Asking α) (m : Machine) : Prop :=
  Recorded.Asks (Shared group parties) (Request.For group (parties i))
    (fun n => n.name = (parties i).name) post part m

/-- Reading is for any machine. -/
theorem Request.permits_for (group : String) (p : Party) : Permits (Request.For group p) :=
  ⟨fun _ => trivial, fun _ _ read => Call.for_of_read read group p, trivial⟩

/-- A commit of the machine's record gives the committed one, which has the same name. -/
theorem Shared.commits (group : String) (parties : ι → Party) (i : ι) :
    Commits (Shared group parties) (Request.For group (parties i))
      (fun n => n.name = (parties i).name) :=
  fun n named edit => Recorded.Asks.update named named fun _ stored shared found =>
    (edit.apply_name stored).trans ((shared.records n.name stored found).trans named)

variable {c : Config} {m : Machine} {p : Party} {kind : Owned} {name uid : String}
  {sources : Sources}

/-- What is put with the tag of a machine carries it. -/
theorem marks_tags (mine : p.uids uid) (user : Tags) : p.Marks (Naming.tags user uid) :=
  ⟨uid, mine, Naming.hasUid_tags_iff.2 rfl⟩

/-- An id of a machine's address ends with the name of the address. -/
theorem nameOfId_mem_names (whole : p.Whole) {id : String} (own : name ∈ p.names .publicIp)
    (named : Naming.IsPublicIpId group name id) : Naming.nameOfId id ∈ p.names .publicIp := by
  obtain ⟨subscription, rfl⟩ := named
  rw [Naming.publicIpId, Naming.nameOfId_resourceId (whole.of_mem_names own)]
  exact own

/-- The disks of a machine are two at most. -/
theorem Create.diskNames_subset {os : OperatingSystem} {storage : StorageProfile}
    {nicId key userdata disk : String} (found : c.storageProfile os = .ok storage) (p : Party)
    (member : disk ∈ Resources.diskNames p.name
      (Desired.vm c os storage p.name uid nicId key userdata)) : disk ∈ p.names .disks := by
  unfold Config.storageProfile at found
  cases image : c.image os with
  | error fault =>
      rw [image] at found
      cases found
  | ok reference =>
      rw [image] at found
      cases found
      rcases List.mem_cons.1 member with rfl | data
      · exact List.mem_cons_self
      · change disk ∈ List.map _ (if _ then _ else _) at data
        split at data
        · cases data
        · exact List.mem_cons_of_mem _ data

/-- What is put for a machine is the machine's and refers to what is the machine's. -/
theorem Call.Puts.own {what : Call} (puts : what.Puts c p.name uid) (whole : p.Whole)
    (mine : p.uids uid) : what.For c.resourceGroup p := by
  have first : Naming.publicIp (Naming.nic p.name) ∈ p.names .publicIp := List.mem_cons_self
  have second : Naming.publicIpv6 (Naming.nic p.name) ∈ p.names .publicIp :=
    List.mem_cons_of_mem _ List.mem_cons_self
  have interface : Naming.nic p.name ∈ p.names .nic := List.mem_singleton_self _
  have vm : p.name ∈ p.names .vm := List.mem_singleton_self _
  cases puts with
  | publicIp => exact ⟨rfl, first, marks_tags mine c.tags⟩
  | publicIpv6 => exact ⟨rfl, second, marks_tags mine c.tags⟩
  | nic dualStack ids idsV6 =>
      refine ⟨rfl, interface, marks_tags mine c.tags, fun id member => ?_⟩
      rw [Desired.publicAddressIds_nic, List.mem_append] at member
      rcases member with attached | attached
      · exact nameOfId_mem_names whole first (ids id (Option.mem_toList.1 attached))
      · cases dualStack with
        | false => cases attached
        | true => exact nameOfId_mem_names whole second (idsV6 id (Option.mem_toList.1 attached))
  | vm key userdata found =>
      refine ⟨rfl, vm, marks_tags mine c.tags, fun id member => ?_,
        fun _ => Create.diskNames_subset found p⟩
      cases List.mem_singleton.1 member
      rw [Naming.nicId, Naming.nameOfId_resourceId (whole.of_mem_names interface)]
      exact interface
  | tagVm => exact ⟨rfl, vm, marks_tags mine c.tags⟩

theorem Call.for_removal (own : name ∈ p.names kind) : (kind.removal group name).For group p := by
  cases kind <;> exact ⟨rfl, own⟩

/-- A creation asks only for its machine. -/
theorem create_stays
    (placed : ∀ c e, Config.resolve sources m.providerSpec = .ok (c, e) → c.resourceGroup = group)
    (whole : (parties i).Whole) (mine : (parties i).uids m.uid)
    (named : m.name = (parties i).name) (userdata : String) :
    Recorded.Stays group parties i (fun _ => True) (create sources userdata) m := by
  refine create_asks (Request.permits_for _ _) named (Shared.commits _ _ _) ?_
  intro c e resolved what puts _
  cases placed c e resolved
  rw [named] at puts
  exact puts.own whole mine

/-- What is listed with a tag of a machine is under the names of that machine. -/
theorem own_of_listed {ν : Type} {map : SortedMap ResourceKey ν} {label : ν → Option String}
    {tags : ν → Tags} {keep : ν → Bool} {kind : Owned}
    (apart : Pairwise fun i j => (parties i).Apart (parties j))
    (divided : ∀ key value, map.get? key = some value →
      ∃ j, (parties j).Holds group kind key (label value) (tags value))
    (marked : ∀ value, keep value = true → (parties i).Marks (tags value)) (place : String)
    (member : name ∈ ((Resources.ofGroup map place).filter keep).filterMap label) :
    name ∈ (parties i).names kind := by
  obtain ⟨key, value, _, stored, keeps, labelled⟩ := Resources.exists_of_mem_listed member
  obtain ⟨j, holds⟩ := divided key value stored
  obtain ⟨uid, mine, tagged⟩ := marked value keeps
  obtain ⟨other, theirs, also⟩ := holds.marked
  -- One tag has one identity, and no two machines have that one.
  cases Naming.uid_unique tagged also
  have same : j = i := by
    by_contra different
    exact (apart different).uids uid theirs mine
  cases same
  rw [holds.name, Option.some.injEq] at labelled
  exact labelled ▸ holds.own

/-- What a teardown lists of a kind is its machine's. -/
theorem Divided.own_of_listed {r : Resources} (divided : Divided group parties r)
    (apart : Pairwise fun i j => (parties i).Apart (parties j)) (mine : (parties i).uids uid)
    {place : String} (member : name ∈ r.listed place uid kind) :
    name ∈ (parties i).names kind := by
  have marked {tags : Tags} (tagged : Naming.hasUid tags uid = true) : (parties i).Marks tags :=
    ⟨uid, mine, tagged⟩
  cases kind with
  | vm =>
      exact Azure.own_of_listed apart
        (fun key vm found => (divided.vms key vm found).imp fun _ => And.left)
        (fun _ => marked) _ member
  | disks =>
      exact Azure.own_of_listed apart
        (fun key disk found => (divided.disks key disk found).imp fun _ => And.left)
        (fun _ => marked) _ member
  | nic =>
      exact Azure.own_of_listed apart
        (fun key nic found => (divided.nics key nic found).imp fun _ => And.left)
        (fun _ => marked) _ member
  | publicIp | publicIpv6 =>
      change name ∈ (parties i).names .publicIp
      exact Azure.own_of_listed apart divided.publicIps
        (fun _ kept => marked (Bool.and_eq_true_iff.1 kept).1) _ member

/-- A teardown asks only for its machine. -/
theorem cleanup_stays
    (placed : ∀ c e, Config.resolve sources m.providerSpec = .ok (c, e) → c.resourceGroup = group)
    (apart : Pairwise fun i j => (parties i).Apart (parties j)) (mine : (parties i).uids m.uid)
    (named : m.name = (parties i).name) :
    Recorded.Stays group parties i (fun _ => True) (cleanup sources) m := by
  refine cleanup_asks (Request.permits_for _ _) named (Shared.commits _ _ _) ?_
  intro c e resolved kind w shared name member
  cases placed c e resolved
  exact Call.for_removal (shared.divided.own_of_listed apart mine member)

/-- A migration asks only for its machine. -/
theorem migrateUid_stays
    (placed : ∀ c e, Config.resolve sources m.providerSpec = .ok (c, e) → c.resourceGroup = group)
    (apart : Pairwise fun i j => (parties i).Apart (parties j)) (whole : (parties i).Whole)
    (named : m.name = (parties i).name) (before : (parties i).uids m.uid)
    (after : (parties i).uids uid) :
    Stays group parties i (fun _ => True) (migrateUid sources m uid) := by
  refine migrateUid_asks (Request.permits_for _ _) ?_ ?_
  · intro c e resolved what puts
    cases placed c e resolved
    rw [named] at puts
    exact puts.own whole after
  · intro c e resolved w shared disk member name labelled
    cases placed c e resolved
    refine ⟨rfl, own_of_listed apart
      (fun key disk found => (shared.divided.disks key disk found).imp fun _ => And.left)
      (fun disk kept => ?_) _ (List.mem_filterMap.2 ⟨disk, member, labelled⟩),
      marks_tags after disk.tags⟩
    rcases Bool.or_eq_true_iff.1 kept with old | new
    · exact ⟨m.uid, before, old⟩
    · exact ⟨uid, after, new⟩

end Azure

end Provisioning
