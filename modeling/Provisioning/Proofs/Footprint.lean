import Provisioning.Azure.Provider.Cleanup
import Provisioning.Azure.Provider.MigrateUid
import Provisioning.Proofs.Accounted
import Provisioning.Proofs.Confined
import Provisioning.Proofs.Plan

/-!
The requests of the operations that change something. `Call.Puts` are the calls by which a machine
is created or migrated, and `Resources.listed` is what a teardown deletes. Main statements:
`create_asks`, `cleanup_asks` and `migrateUid_asks`, that these, calls that read and commits of the
machine's record are all that an operation asks for, whatever else goes on in the world.
-/

namespace Provisioning.Azure

/-- An id of a public address of a group, in whichever subscription. -/
def Naming.IsPublicIpId (group name id : String) : Prop :=
  ∃ subscription, id = publicIpId subscription group name

/-- A call by which a machine is created or migrated to an identity, except for those that tag
disks. -/
inductive Call.Puts (c : Config) (machine uid : String) : Call → Prop where
  | publicIp (version : String) (dualStack : Bool) :
      Puts c machine uid (.putPublicIp c.resourceGroup (Naming.publicIp (Naming.nic machine))
        (Desired.publicIp c uid version dualStack))
  | publicIpv6 (version : String) (dualStack : Bool) :
      Puts c machine uid (.putPublicIp c.resourceGroup (Naming.publicIpv6 (Naming.nic machine))
        (Desired.publicIp c uid version dualStack))
  | nic {first second : Option String} (dualStack : Bool) :
      (∀ id ∈ first,
        Naming.IsPublicIpId c.resourceGroup (Naming.publicIp (Naming.nic machine)) id) →
      (∀ id ∈ second,
        Naming.IsPublicIpId c.resourceGroup (Naming.publicIpv6 (Naming.nic machine)) id) →
      Puts c machine uid (.putNic c.resourceGroup (Naming.nic machine)
        (Desired.nic c uid first second dualStack))
  | vm {os : OperatingSystem} {storage : StorageProfile} (key userdata : String) :
      c.storageProfile os = .ok storage →
      Puts c machine uid (.putVm c.resourceGroup machine (Desired.vm c os storage machine uid
        (Naming.nicId Resources.subscription c.resourceGroup (Naming.nic machine)) key userdata))
  | tagVm : Puts c machine uid (.tagVm c.resourceGroup machine (Naming.tags c.tags uid))

/-- The custom data of a virtual machine, as the backend keeps it. -/
def VirtualMachine.customData? (vm : VirtualMachine) : Option String :=
  vm.properties.osProfile.bind (·.customData)

/-- A call of a creation, which provides the virtual machine with certain user data. -/
def Call.Provides (userdata : String) : Call → Prop
  | putPublicIp .. | putNic .. => True
  | putVm _ _ body => body.customData? = some (Config.encodeCustomData userdata)
  | _ => False

/-- The names of what is listed with a tag in a group; addresses are told apart by their version as
well. -/
def Resources.listed (r : Resources) (group uid : String) : Owned → List String
  | .publicIp => ((ofGroup r.publicIps group).filter fun address =>
      Naming.hasUid address.tags uid && address.version == ipv4).filterMap (·.name)
  | .publicIpv6 => ((ofGroup r.publicIps group).filter fun address =>
      Naming.hasUid address.tags uid && address.version == ipv6).filterMap (·.name)
  | .nic => ((ofGroup r.nics group).filter fun nic => Naming.hasUid nic.tags uid).filterMap (·.name)
  | .disks => ((ofGroup r.disks group).filter fun disk => Naming.hasUid disk.tags uid).filterMap
      (·.name)
  | .vm => ((ofGroup r.vms group).filter fun vm => Naming.hasUid vm.tags uid).filterMap (·.name)

/-- The disks of a group with one of two tags. -/
def Resources.disksWith (r : Resources) (group old new : String) : List Disk :=
  (ofGroup r.disks group).filter fun disk =>
    Naming.hasUid disk.tags old || Naming.hasUid disk.tags new

/-- What every operation may ask for. -/
structure Permits (allowed : Request → Prop) : Prop where
  connect : ∀ credentials, allowed (.connect credentials)
  reading : ∀ credentials (what : Call), what.isWrite = false → allowed (.call credentials what)
  throwawayBytes : allowed .throwawayBytes

/-- What an operation does with the record of its machine: it may commit any change of a copy, and
has then a copy of the same kind. -/
def Commits (inv : World Backend → Prop) (allowed : Request → Prop) (copies : Machine → Prop) :
    Prop :=
  ∀ n, copies n → ∀ edit : FinalizerEdit,
    Recorded.Asks inv allowed copies (fun _ => True) (Ledger.update commit edit) n

variable {inv : World Backend → Prop} {allowed : Request → Prop} {copies : Machine → Prop}
  {c : Config} {m : Machine} {machine uid userdata : String} {sources : Sources}

namespace Create

theorem putPublicIp_asks {name version : String} {dualStack : Bool}
    (own : allowed (.call c.credentials
      (.putPublicIp c.resourceGroup name (Desired.publicIp c uid version dualStack)))) :
    Asks inv allowed (Naming.IsPublicIpId c.resourceGroup name)
      (putPublicIp c name uid version dualStack) := by
  refine .bind (.context (.call own ?_))
  intro w created next _ performed
  refine .pure ⟨Resources.subscription, ?_⟩
  rw [Call.id_of_putPublicIp performed, Option.getD_some]

theorem publicIps_asks (kept : copies m)
    (commits : Commits inv allowed copies)
    (puts : ∀ what : Call, what.Puts c machine uid → what.Provides userdata →
      allowed (.call c.credentials what))
    (dualStack : Bool) :
    Recorded.Asks inv allowed copies
      (fun ids =>
        (∀ id ∈ ids.1,
          Naming.IsPublicIpId c.resourceGroup (Naming.publicIp (Naming.nic machine)) id) ∧
        ∀ id ∈ ids.2,
          Naming.IsPublicIpId c.resourceGroup (Naming.publicIpv6 (Naming.nic machine)) id)
      (publicIps c (Naming.nic machine) uid dualStack) m := by
  unfold publicIps
  split
  · refine .bind ((Recorded.Asks.own kept (commits m kept _)).mono fun _ _ m kept => ?_)
    refine .bind (.recorded kept ((putPublicIp_asks (puts _ (.publicIp _ _) trivial)).mono
      fun id own m kept => ?_))
    split
    · refine .bind ((Recorded.Asks.own kept (commits m kept _)).mono fun _ _ m kept => ?_)
      refine .bind (.recorded kept ((putPublicIp_asks (puts _ (.publicIpv6 _ _) trivial)).mono
        fun idV6 ownV6 m kept => ?_))
      exact .pure kept ⟨by simpa using own, by simpa using ownV6⟩
    · exact .pure kept ⟨by simpa using own, nofun⟩
  · exact .pure kept ⟨nofun, nofun⟩

theorem putNic_asks {ids : Option String × Option String} {dualStack : Bool}
    (own : allowed (.call c.credentials (.putNic c.resourceGroup (Naming.nic machine)
      (Desired.nic c uid ids.1 ids.2 dualStack)))) :
    Asks inv allowed
      (· = Naming.nicId Resources.subscription c.resourceGroup (Naming.nic machine))
      (putNic c (Naming.nic machine) uid ids dualStack) := by
  refine .bind (.context (.call own ?_))
  intro w created next _ performed
  refine .pure ?_
  rw [Call.id_of_putNic performed, Option.getD_some]

theorem sshKey_confined (permits : Permits allowed) (keys : List String) :
    (sshKey keys).Confined (World.serve Backend.service) inv allowed fun _ => True := by
  unfold sshKey
  split
  · trivial
  · exact ⟨permits.throwawayBytes, fun _ _ => trivial⟩

end Create

/-- A creation puts what is the machine's, and provides it with the user data. -/
theorem create_asks (permits : Permits allowed) (kept : copies m)
    (commits : Commits inv allowed copies)
    (puts : ∀ c e, Config.resolve sources m.providerSpec = .ok (c, e) →
      ∀ what : Call, what.Puts c m.name m.uid → what.Provides userdata →
        allowed (.call c.credentials what)) :
    Recorded.Asks inv allowed copies (fun _ => True) (create sources userdata) m := by
  refine .copy (.settle kept ?_)
  rintro ⟨c, e⟩ settled
  have own := puts c e (mapError_eq_ok.1 settled)
  refine .bind (.recorded kept ((Asks.connect (permits.connect _)).mono fun _ _ n kept => ?_))
  refine .bind ((Create.publicIps_asks kept commits own _).mono fun ids attached n kept => ?_)
  refine .bind ((Recorded.Asks.own kept (commits n kept _)).mono fun _ _ n kept => ?_)
  refine .bind (.recorded kept ((Create.putNic_asks
    (own _ (.nic _ attached.1 attached.2) trivial)).mono fun nicId wired n kept => ?_))
  cases wired
  refine .settle kept fun storage found => ?_
  refine .bind (.lift kept ((Create.sshKey_confined permits _).mono fun key _ n kept => ?_))
  refine .bind ((Recorded.Asks.own kept (commits n kept _)).mono fun _ _ n kept => ?_)
  refine .bind (.recorded kept (.context (.call
    (own _ (.vm key userdata (mapError_eq_ok.1 found)) rfl) fun _ _ _ _ _ n kept => ?_)))
  exact .recorded kept (.reading (Create.readBack_reading c m.name) permits.reading)

namespace Cleanup

theorem deleteAll_asks {delete : String → Action Unit} (names : List String)
    (deletes : ∀ name ∈ names, Asks inv allowed (fun _ => True) (delete name)) :
    Asks inv allowed (fun _ => True) (deleteAll delete names) := by
  induction names with
  | nil => exact .pure trivial
  | cons name rest ih =>
      rw [List.forall_mem_cons] at deletes
      exact .bind (deletes.1.mono fun _ _ => ih deletes.2)

/-- A listing is followed by the deletions of what it has listed. -/
theorem deleteListed_asks (permits : Permits allowed) {kind : Owned} {listing : Call}
    (reads : listing.isWrite = false) {names : listing.Value → List String}
    (listed : ∀ (b : Backend) value next, b.perform listing = .ok (value, next) →
      names value = b.resources.listed c.resourceGroup uid kind)
    (removes : ∀ w, inv w → ∀ name ∈ w.backend.resources.listed c.resourceGroup uid kind,
      allowed (.call c.credentials (kind.removal c.resourceGroup name)))
    {delete : String → Action Unit}
    (deletes : ∀ name, allowed (.call c.credentials (kind.removal c.resourceGroup name)) →
      Asks inv allowed (fun _ => True) (delete name)) :
    Asks inv allowed (fun _ => True)
      (Action.call c listing >>= fun found => deleteAll delete (names found)) := by
  refine .bind (.call (permits.reading _ _ reads) fun w value next here performed => ?_)
  rw [listed w.backend value next performed]
  exact deleteAll_asks _ fun name member => deletes name (removes w here name member)

theorem vmExists_asks (permits : Permits allowed) (c : Config) (uid : String) :
    Asks inv allowed (fun _ => True) (vmExists c uid) := by
  refine Program.Confined.bind (Program.Confined.mono ?_
    (Asks.reading (Lookup.vm_reading c uid) permits.reading))
  rintro (fault | vm) _
  · exact fun _ _ => trivial
  · exact fun _ _ => trivial

/-- What is listed of a kind is deleted. -/
theorem delete_asks (permits : Permits allowed) (name : String) (kind : Owned)
    (removes : ∀ w, inv w → ∀ name ∈ w.backend.resources.listed c.resourceGroup uid kind,
      allowed (.call c.credentials (kind.removal c.resourceGroup name))) :
    Asks inv allowed (fun _ => True) (delete c name uid kind) := by
  cases kind with
  | vm =>
      refine .bind ((vmExists_asks permits c uid).mono fun found _ => ?_)
      split
      · refine .context (deleteListed_asks permits rfl ?_ removes
          fun _ own => .call own fun _ _ _ _ _ => trivial)
        rintro b _ _ ⟨⟩
        rfl
      · exact .pure trivial
  | disks | nic | publicIp | publicIpv6 =>
      refine .context (deleteListed_asks permits rfl ?_ removes
        fun _ own => .call own fun _ _ _ _ _ => trivial)
      rintro b _ _ ⟨⟩
      rfl

theorem tearDown_asks (permits : Permits allowed) (kept : copies m)
    (commits : Commits inv allowed copies)
    (removes : ∀ kind w, inv w → ∀ name ∈ w.backend.resources.listed c.resourceGroup uid kind,
      allowed (.call c.credentials (kind.removal c.resourceGroup name)))
    (name : String) (kinds : List Owned) :
    Recorded.Asks inv allowed copies (fun _ => True) (tearDown c name uid kinds) m := by
  induction kinds generalizing m with
  | nil => exact .pure kept trivial
  | cons kind rest ih =>
      refine .bind (.recorded kept ((delete_asks permits name kind (removes kind)).mono
        fun _ _ n kept => ?_))
      exact .bind ((Recorded.Asks.disown kept (commits n kept _)).mono fun _ _ _ kept => ih kept)

end Cleanup

/-- A teardown deletes what it has listed. -/
theorem cleanup_asks (permits : Permits allowed) (kept : copies m)
    (commits : Commits inv allowed copies)
    (removes : ∀ c e, Config.resolve sources m.providerSpec = .ok (c, e) → ∀ (kind : Owned) w,
      inv w → ∀ name ∈ w.backend.resources.listed c.resourceGroup m.uid kind,
        allowed (.call c.credentials (kind.removal c.resourceGroup name))) :
    Recorded.Asks inv allowed copies (fun _ => True) (cleanup sources) m := by
  refine .copy (.settle kept ?_)
  rintro ⟨c, e⟩ settled
  have own := removes c e (mapError_eq_ok.1 settled)
  refine .bind (.recorded kept ((Asks.connect (permits.connect _)).mono fun _ _ n kept => ?_))
  refine .bind ((Cleanup.tearDown_asks permits kept commits own _ _).mono fun _ _ left kept => ?_)
  exact .copy (.pure kept trivial)

namespace MigrateUid

theorem tagDisks_asks (disks : List Disk)
    (own : ∀ disk ∈ disks, ∀ name, disk.name = some name → allowed (.call c.credentials
      (.tagDisk c.resourceGroup name (Naming.tags disk.tags uid)))) :
    Asks inv allowed (fun _ => True) (tagDisks c uid disks) := by
  induction disks with
  | nil => exact .pure trivial
  | cons disk rest ih =>
      rw [List.forall_mem_cons] at own
      unfold tagDisks
      split
      · exact ih own.2
      · rename_i name named
        exact .bind (.context (.call (own.1 name named) fun _ _ _ _ _ => ih own.2))

theorem isPublicIpId_of_publicIpId? {kind : Owned} {name : String} :
    ∀ id ∈ publicIpId? c m kind name, Naming.IsPublicIpId c.resourceGroup name id := by
  intro id member
  unfold publicIpId? at member
  split at member
  · cases member
    exact ⟨c.subscriptionId, rfl⟩
  · cases member

theorem retag_asks (permits : Permits allowed)
    (puts : ∀ what : Call, what.Puts c m.name uid → allowed (.call c.credentials what))
    (tags : ∀ w, inv w → ∀ disk ∈ w.backend.resources.disksWith c.resourceGroup m.uid uid,
      ∀ name, disk.name = some name → allowed (.call c.credentials
        (.tagDisk c.resourceGroup name (Naming.tags disk.tags uid))))
    (dualStack : Bool) (kind : Owned) :
    Asks inv allowed (fun _ => True) (retag c dualStack m uid kind) := by
  cases kind with
  | publicIp =>
      exact .bind (.context ((Create.putPublicIp_asks (puts _ (.publicIp _ _))).mono
        fun _ _ => .pure trivial))
  | publicIpv6 =>
      exact .bind (.context ((Create.putPublicIp_asks (puts _ (.publicIpv6 _ _))).mono
        fun _ _ => .pure trivial))
  | nic =>
      exact .bind (.context (.call
        (puts _ (.nic _ isPublicIpId_of_publicIpId? isPublicIpId_of_publicIpId?))
        fun _ _ _ _ _ => .pure trivial))
  | disks =>
      refine .bind (.call (permits.reading _ _ rfl) ?_)
      rintro w _ _ here ⟨⟩
      exact tagDisks_asks _ (tags w here)
  | vm => exact .context (.call (puts _ .tagVm) fun _ _ _ _ _ => trivial)

theorem retagAll_asks {kinds : List Owned} {dualStack : Bool}
    (retags : ∀ kind, Asks inv allowed (fun _ => True) (retag c dualStack m uid kind)) :
    Asks inv allowed (fun _ => True) (retagAll c dualStack m uid kinds) := by
  induction kinds with
  | nil => exact .pure trivial
  | cons kind rest ih => exact .bind ((retags kind).mono fun _ _ => ih)

end MigrateUid

/-- A migration puts what is the machine's, and tags the disks that it has listed. -/
theorem migrateUid_asks (permits : Permits allowed)
    (puts : ∀ c e, Config.resolve sources m.providerSpec = .ok (c, e) →
      ∀ what : Call, what.Puts c m.name uid → allowed (.call c.credentials what))
    (tags : ∀ c e, Config.resolve sources m.providerSpec = .ok (c, e) → ∀ w, inv w →
      ∀ disk ∈ w.backend.resources.disksWith c.resourceGroup m.uid uid,
      ∀ name, disk.name = some name → allowed (.call c.credentials
        (.tagDisk c.resourceGroup name (Naming.tags disk.tags uid)))) :
    Asks inv allowed (fun _ => True) (migrateUid sources m uid) := by
  refine .known ?_
  rintro ⟨c, e⟩ settled
  have resolved := mapError_eq_ok.1 settled
  refine .bind (.reporting ((Asks.connect (permits.connect _)).mono fun _ _ => ?_))
  exact .reporting (MigrateUid.retagAll_asks
    (MigrateUid.retag_asks permits (puts c e resolved) (tags c e resolved) _))

end Provisioning.Azure
