import Provisioning.Azure.Provider.Validate
import Provisioning.Proofs.Ownership
import Provisioning.Proofs.Resumption
import Provisioning.Proofs.Retag
import Provisioning.Proofs.Sight

/-!
A creation of which the specification was validated has nothing in its way: none of its steps can
be refused, and what it reads back can be seen. Main statement: `create_of_validated`.
-/

namespace Provisioning.Azure

section

variable {α β γ ε : Type} {service : Service γ} {w : World γ}

/-- What is in two parts ends with a value only if both do. -/
theorem World.run_bind_ok {act : ExceptT ε Asking β} {next : β → ExceptT ε Asking α} {value : α}
    (ended : (World.run service (act >>= next).run w).1 = .ok value) :
    ∃ first v, World.run service act.run w = (.ok first, v) ∧
      (World.run service (next first).run v).1 = .ok value := by
  have parts := Program.run_bind (World.serve service) act.run (ExceptT.bindCont next) w
  replace ended := (congrArg Prod.fst parts).symm.trans ended
  unfold World.run
  generalize act.run.run (World.serve service) w = result at ended
  obtain ⟨fault | first, v⟩ := result
  · cases ended
  · exact ⟨first, v, rfl, ended⟩

/-- What is known from the outset ends with what is known. -/
theorem World.run_liftExcept (outcome : Except ε α) :
    World.run service (liftExcept outcome : ExceptT ε Asking α).run w = (outcome, w) := by
  cases outcome <;> rfl

/-- A specification that passes validation resolves to a configuration whose image is known. -/
theorem exists_of_validated {sources : Sources} {spec : ProviderSpec}
    (validated : (World.run service (validate sources spec).run w).1 = .ok ()) :
    ∃ c e image, Config.resolve sources spec = .ok (c, e) ∧
      c.image e.operatingSystem = .ok image := by
  unfold validate at validated
  obtain ⟨⟨c, e⟩, v, resolved, validated⟩ := World.run_bind_ok validated
  rw [World.run_liftExcept] at resolved
  obtain ⟨_, v, _, validated⟩ := World.run_bind_ok validated
  obtain ⟨_, v, _, validated⟩ := World.run_bind_ok validated
  obtain ⟨_, v, _, validated⟩ := World.run_bind_ok validated
  obtain ⟨_, v, _, validated⟩ := World.run_bind_ok validated
  unfold Validate.remote at validated
  obtain ⟨_, v, _, validated⟩ := World.run_bind_ok validated
  obtain ⟨_, v, _, validated⟩ := World.run_bind_ok validated
  obtain ⟨_, v, _, validated⟩ := World.run_bind_ok validated
  obtain ⟨_, v, _, validated⟩ := World.run_bind_ok validated
  unfold Validate.image at validated
  obtain ⟨image, v, known, _⟩ := World.run_bind_ok validated
  rw [World.run_liftExcept] at known
  exact ⟨c, e, image, mapError_eq_ok.1 (Prod.mk.inj resolved).1,
    mapError_eq_ok.1 (Prod.mk.inj known).1⟩

end

variable {c : Config} {e : Envelope} {storage : StorageProfile} {name uid : String}

/-- A public address can always be owned and put. -/
theorem exists_carryOut_publicIp {rest : List Step}
    (goesOn : ∀ h, ∃ last, carryOut rest h = some last) (owned : List Owned) (group : String)
    (body : PublicIpAddress) (h : Holdings) :
    ∃ last, carryOut (.own owned :: .put (.putPublicIp group name body) :: rest) h = some last := by
  have applied : (Step.put (.putPublicIp group name body)).apply (h.owning owned) = some _ :=
    Step.apply_put_eq_some.2 ⟨_, _, rfl, rfl⟩
  obtain ⟨last, carried⟩ := goesOn
    ((h.owning owned).storing (h.backend.resources.putPublicIp ⟨group, name⟩ body).2)
  exact ⟨last, by rw [carryOut_own, carryOut, applied, Option.bind_some]; exact carried⟩

/-- The steps of the public addresses are never refused. -/
theorem exists_carryOut_addressSteps (c : Config) (nic uid : String) (dualStack : Bool)
    (h : Holdings) : ∃ last, carryOut (Create.addressSteps c nic uid dualStack) h = some last := by
  have ended (h : Holdings) : ∃ last, carryOut [] h = some last := ⟨h, rfl⟩
  unfold Create.addressSteps
  split
  · split
    · exact exists_carryOut_publicIp (exists_carryOut_publicIp ended _ _ _) _ _ _ h
    · exact exists_carryOut_publicIp ended _ _ _ h
  · exact ended h

/-- The public addresses that an interface is to have are there. -/
theorem contains_addressIds (whole : '/' ∉ name.toList) (dualStack : Bool)
    (address addressV6 : Option String) (publicIps : SortedMap ResourceKey PublicIpAddress) :
    ∀ id ∈ (Desired.nic c uid (Create.addressIds c (Naming.nic name) dualStack).1
        (Create.addressIds c (Naming.nic name) dualStack).2 dualStack).publicAddressIds,
      (withAddresses c (Naming.nic name) dualStack address addressV6 uid uid publicIps).contains
        ⟨c.resourceGroup, Naming.nameOfId id⟩ = true := by
  have first := Naming.nameOfId_publicIpId whole Resources.subscription c.resourceGroup
  have second := Naming.nameOfId_publicIpId_ipv6 whole Resources.subscription c.resourceGroup
  intro id member
  rw [Desired.publicAddressIds_nic] at member
  unfold Create.addressIds at member
  unfold withAddresses
  split at member
  · rename_i assigned
    cases dualStack with
    | false =>
        cases List.mem_singleton.1 member
        simp [assigned, first]
    | true =>
        rcases List.mem_cons.1 member with rfl | later
        · simp [assigned, first]
        · cases List.mem_singleton.1 later
          simp [assigned, second]
  · cases dualStack <;> cases member

/-- A key, whoever has it, is never refused. -/
theorem exists_carryOut_keySteps {rest : List Step} {h : Holdings}
    (goesOn : ∀ between : Holdings, between.backend = h.backend →
      ∃ last, carryOut rest between = some last) (e : Envelope) :
    ∃ last, carryOut (Create.keySteps e ++ rest) h = some last := by
  unfold Create.keySteps
  split
  · exact goesOn h rfl
  · exact goesOn { h with entropy := h.entropy.drop World.keyLength } rfl

/-- A creation whose image is known is never refused. -/
theorem exists_carryOut_steps (whole : '/' ∉ name.toList)
    (found : c.storageProfile e.operatingSystem = .ok storage) (uid key userdata : String)
    (h : Holdings) : ∃ last, carryOut (Create.steps c e name uid key userdata) h = some last := by
  obtain ⟨first, begun⟩ := exists_carryOut_addressSteps c (Naming.nic name) uid
    e.ipFamily.isDualStack h
  obtain ⟨address, addressV6, count, addressed⟩ := exists_addresses begun
  -- The interface refers to the addresses that were just put.
  have present : ∀ id ∈ (Desired.nic c uid
      (Create.addressIds c (Naming.nic name) e.ipFamily.isDualStack).1
      (Create.addressIds c (Naming.nic name) e.ipFamily.isDualStack).2
      e.ipFamily.isDualStack).publicAddressIds,
      first.backend.resources.publicIps.contains ⟨c.resourceGroup, Naming.nameOfId id⟩ = true := by
    rw [addressed]
    exact contains_addressIds whole _ address addressV6 _
  obtain ⟨nic, next, wired⟩ : ∃ nic next, (first.owning [.nic]).backend.perform
      (Create.nicCall c (Naming.nic name) uid e.ipFamily.isDualStack) = .ok (nic, next) :=
    Resources.exists_putNic present
  have applied := Step.apply_put_eq_some.2 ⟨nic, next, wired, rfl⟩
  obtain ⟨_, privates, total, _, _, rfl⟩ := Resources.putNic_eq_ok wired
  rw [Create.steps, Create.networkSteps, List.append_assoc, carryOut_append, begun,
    Option.bind_some]
  change ∃ last, carryOut (.own [.nic] :: .put _ :: Create.vmSteps c e name uid key userdata)
    first = some last
  rw [carryOut_own, carryOut, applied, Option.bind_some, Create.vmSteps, found]
  refine exists_carryOut_keySteps (fun between same => ?_) e
  -- The virtual machine refers to the interface that was just put.
  have segment := Naming.nameOfId_nicId whole Resources.subscription c.resourceGroup
  obtain ⟨vm, after, put⟩ : ∃ vm after, (between.owning [.disks, .vm]).backend.perform
      (Create.vmCall c e storage name uid key userdata) = .ok (vm, after) := by
    refine ⟨_, _, Resources.putVm_eq_ok.2 ⟨fun reference member => ?_, rfl, rfl⟩⟩
    cases List.mem_singleton.1 member
    change between.backend.resources.nics.contains _ = true
    rw [same]
    simp [Holdings.storing, segment]
  have last := Step.apply_put_eq_some.2 ⟨vm, after, put, rfl⟩
  exact ⟨_, by rw [carryOut_own, carryOut, last]; rfl⟩

namespace Layout

variable {l : Layout} {r : Resources} {b : Backend}

/-- A machine whose name is one segment of an id is seen where it is laid out. -/
theorem exists_glimpse_instanceOf (whole : '/' ∉ l.name.toList) (wired : l.Wired r)
    (shown : b.resources = l.on r fun _ => uid) :
    ∃ i, b.glimpse (Lookup.instanceOf l.config ((l.vmBody uid).stored (l.keyOf l.name))).run =
      .ok i := by
  have segment : Naming.nameOfId (Naming.nicId Resources.subscription l.config.resourceGroup
      l.nicName) = l.nicName := Naming.nameOfId_nicId whole _ _
  obtain ⟨view, viewed⟩ : ∃ view, b.resources.instanceView (l.keyOf l.name) = .ok view := by
    rw [shown, Resources.instanceView, if_pos (by simp [on])]
    exact ⟨_, rfl⟩
  have there : b.resources.nics.get? ⟨l.config.resourceGroup, Naming.nameOfId
      (Naming.nicId Resources.subscription l.config.resourceGroup l.nicName)⟩ =
      some ((l.nicBody uid).stored (l.keyOf l.nicName) l.privates) := by
    rw [shown, segment, on]
    exact (SortedMap.get?_insert _ _ _ _).trans (if_pos rfl)
  have present : b.resources.HasPublic l.config.resourceGroup
      ((l.nicBody uid).stored (l.keyOf l.nicName) l.privates).publicAddressIds := by
    intro id member
    rw [shown]
    exact wired.present uid _ id (NetworkInterface.mem_publicAddressIds_stored member)
  have known := Naming.resourceId_ne_empty "Microsoft.Network/networkInterfaces"
    Resources.subscription l.config.resourceGroup l.nicName
  exact ⟨_, (Lookup.glimpse_instanceOf_eq_ok rfl rfl rfl known).2
    ⟨view, _, viewed, there, present, rfl⟩⟩

end Layout

variable {sources : Sources} {userdata : String} {m : Machine} {w v : World Backend}

/-- A machine whose specification has passed validation, at whatever backend, is created, whatever
is at the backend where it is created. -/
theorem create_of_validated
    (validated : (World.run Backend.service (validate sources m.providerSpec).run w).1 = .ok ())
    (whole : '/' ∉ m.name.toList) (stored : v.store.get? m.name = some m) (calm : v.Calm) :
    ∃ i copy u, World.run Backend.service ((create sources userdata).run.run m) v =
      ((.ok i, copy), u) := by
  obtain ⟨c, e, image, resolved, known⟩ := exists_of_validated validated
  obtain ⟨storage, found⟩ : ∃ storage, c.storageProfile e.operatingSystem = .ok storage := by
    rw [Config.storageProfile, known]
    exact ⟨_, rfl⟩
  obtain ⟨last, carried⟩ := exists_carryOut_steps whole found m.uid
    (Create.keyOf e (v.holdings m)) userdata (v.holdings m)
  obtain ⟨l, rfl, rfl, name, wired, made, _⟩ := exists_layout found carried
  obtain ⟨i, seen⟩ := Layout.exists_glimpse_instanceOf (name.symm ▸ whole) wired made
  rw [← Layout.glimpse_readBack made, name] at seen
  have creates : Creates l.config l.envelope m.name m.uid (Create.keyOf l.envelope (v.holdings m))
      userdata (v.holdings m) i last := ⟨⟨storage, found⟩, carried, seen⟩
  have holds : Holds True v.store.records (v.holdings m) v :=
    { World.holds_holdings stored with calm := fun _ => calm }
  rcases (create_follows resolved holds).run with
    ⟨j, copy, u, ended, _⟩ | ⟨_, _, _, _, fails⟩
  · exact ⟨j, copy, u, ended⟩
  · exact absurd creates (fails trivial i last)

namespace Sample

/-- A specification with all that has to be there, for both families. -/
def complete : ProviderSpec where
  value := some (.object [
    ("cloudProvider", .string "azure"),
    ("operatingSystem", .string "ubuntu"),
    ("operatingSystemSpec", .object []),
    ("network", .object [("ipFamily", .string "IPv4+IPv6")]),
    ("cloudProviderSpec", .object [
      ("subscriptionID", .string "subscription"),
      ("tenantID", .string "tenant"),
      ("clientID", .string "client"),
      ("clientSecret", .string "secret"),
      ("resourceGroup", .string "rg"),
      ("vmSize", .string "Standard_F2"),
      ("vnetName", .string "net"),
      ("subnetName", .string "default"),
      ("assignPublicIP", .bool true)])])

/-- The subnet of the specification is there. -/
def networked : World Backend :=
  { world with backend := world.backend.withSubnet ⟨"rg", "net", "default"⟩ }

/-- What a failed creation of the machine has left, under a record with another specification. -/
def leftover : World Backend :=
  { created with store := Store.empty.insert { machine with providerSpec := complete } }

end Sample

/-- A validated machine is created where a creation under another specification had failed. -/
theorem create_of_validated_leftover :
    (World.run Backend.service (validate Sample.sources Sample.complete).run Sample.networked).1 =
      .ok () ∧
    Sample.leftover.backend.resources.isEmpty = false ∧
    ∃ i copy u, World.run Backend.service ((create Sample.sources "data").run.run
      { Sample.machine with providerSpec := Sample.complete }) Sample.leftover =
        ((.ok i, copy), u) := by
  have validated : (World.run Backend.service (validate Sample.sources Sample.complete).run
      Sample.networked).1 = .ok () := by decide +kernel
  have calm : Sample.leftover.Calm := ⟨by decide +kernel, rfl⟩
  exact ⟨validated, by decide +kernel, create_of_validated
    (m := { Sample.machine with providerSpec := Sample.complete }) validated (by decide) rfl calm⟩

end Provisioning.Azure
