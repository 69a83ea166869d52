import Provisioning.Proofs.Plan

/-!
What a creation leaves at the backend: the resources it found, with those of the machine laid out
among them. The layout is a function of the identity under which each kind is tagged. Main
statement: `exists_layout`, that every creation ends with a layout.
-/

namespace Provisioning.Azure

/-- Public addresses with those of an interface. -/
def withAddresses (c : Config) (nic : String) (dualStack : Bool) (address addressV6 : Option String)
    (uid uidV6 : String) (publicIps : SortedMap ResourceKey PublicIpAddress) :
    SortedMap ResourceKey PublicIpAddress :=
  let key : ResourceKey := ⟨c.resourceGroup, Naming.publicIp nic⟩
  let keyV6 : ResourceKey := ⟨c.resourceGroup, Naming.publicIpv6 nic⟩
  if c.assignPublicIp then
    let first := publicIps.insert key
      ((Desired.publicIp c uid ipv4 dualStack).stored key address)
    if dualStack then
      first.insert keyV6 ((Desired.publicIp c uidV6 ipv6 dualStack).stored keyV6 addressV6)
    else first
  else publicIps

/-- Where there are public addresses does not depend on how they are tagged. -/
theorem contains_withAddresses (c : Config) (nic : String) (dualStack : Bool)
    (address addressV6 : Option String) (uid uidV6 other otherV6 : String)
    (publicIps : SortedMap ResourceKey PublicIpAddress) (key : ResourceKey) :
    (withAddresses c nic dualStack address addressV6 uid uidV6 publicIps).contains key =
      (withAddresses c nic dualStack address addressV6 other otherV6 publicIps).contains key := by
  unfold withAddresses
  cases c.assignPublicIp <;> cases dualStack <;> simp

section

variable {c : Config} {nic : String} {dualStack : Bool} {address addressV6 : Option String}
  {uid uidV6 : String} {publicIps : SortedMap ResourceKey PublicIpAddress}

theorem get?_withAddresses (assigned : c.assignPublicIp = true) :
    (withAddresses c nic dualStack address addressV6 uid uidV6 publicIps).get?
        ⟨c.resourceGroup, Naming.publicIp nic⟩ =
      some ((Desired.publicIp c uid ipv4 dualStack).stored
        ⟨c.resourceGroup, Naming.publicIp nic⟩ address) := by
  have apart := Naming.publicIp_ne_publicIpv6 nic nic
  unfold withAddresses
  cases dualStack <;> simp [assigned, apart.symm]

theorem get?_withAddresses_ipv6 (assigned : c.assignPublicIp = true) :
    (withAddresses c nic true address addressV6 uid uidV6 publicIps).get?
        ⟨c.resourceGroup, Naming.publicIpv6 nic⟩ =
      some ((Desired.publicIp c uidV6 ipv6 true).stored
        ⟨c.resourceGroup, Naming.publicIpv6 nic⟩ addressV6) := by
  simp [withAddresses, assigned]

/-- A public address of the first version, put again with another tag. -/
theorem insert_withAddresses (assigned : c.assignPublicIp = true) (new : String) :
    (withAddresses c nic dualStack address addressV6 uid uidV6 publicIps).insert
        ⟨c.resourceGroup, Naming.publicIp nic⟩ ((Desired.publicIp c new ipv4 dualStack).stored
          ⟨c.resourceGroup, Naming.publicIp nic⟩ address) =
      withAddresses c nic dualStack address addressV6 new uidV6 publicIps := by
  have apart : (⟨c.resourceGroup, Naming.publicIp nic⟩ : ResourceKey) ≠
      ⟨c.resourceGroup, Naming.publicIpv6 nic⟩ := by
    simp [Naming.publicIp_ne_publicIpv6]
  unfold withAddresses
  cases dualStack with
  | false => simp [assigned, SortedMap.insert_insert]
  | true => simp [assigned, SortedMap.insert_insert_insert _ apart]

theorem insert_withAddresses_ipv6 (assigned : c.assignPublicIp = true) (new : String) :
    (withAddresses c nic true address addressV6 uid uidV6 publicIps).insert
        ⟨c.resourceGroup, Naming.publicIpv6 nic⟩ ((Desired.publicIp c new ipv6 true).stored
          ⟨c.resourceGroup, Naming.publicIpv6 nic⟩ addressV6) =
      withAddresses c nic true address addressV6 uid new publicIps := by
  simp [withAddresses, assigned, SortedMap.insert_insert]

end

/-- What is fixed for a machine apart from its identity, with the addresses that were given out. -/
structure Layout where
  config : Config
  envelope : Envelope
  storage : StorageProfile
  name : String
  key : String
  userdata : String
  address : Option String
  addressV6 : Option String
  privates : List String
  count : Nat

namespace Layout

variable (l : Layout)

def dualStack : Bool := l.envelope.ipFamily.isDualStack

def nicName : String := Naming.nic l.name

/-- The key of a resource of the machine. -/
def keyOf (name : String) : ResourceKey := ⟨l.config.resourceGroup, name⟩

/-- The interface as it is asked for. -/
def nicBody (uid : String) : NetworkInterface :=
  let ids := Create.addressIds l.config l.nicName l.dualStack
  Desired.nic l.config uid ids.1 ids.2 l.dualStack

/-- The virtual machine as it is asked for. -/
def vmBody (uid : String) : VirtualMachine :=
  Desired.vm l.config l.envelope.operatingSystem l.storage l.name uid
    (Naming.nicId Resources.subscription l.config.resourceGroup l.nicName) l.key l.userdata

/-- Whether the machine has something of a kind. -/
def has : Owned → Bool
  | .publicIp => l.config.assignPublicIp
  | .publicIpv6 => l.config.assignPublicIp && l.dualStack
  | .nic | .disks | .vm => true

variable (r : Resources) (uids : Owned → String)

/-- The public addresses with those of the machine. -/
def publicIps : SortedMap ResourceKey PublicIpAddress :=
  withAddresses l.config l.nicName l.dualStack l.address l.addressV6 (uids .publicIp)
    (uids .publicIpv6) r.publicIps

/-- The disks with those of the machine. -/
def disks : SortedMap ResourceKey Disk :=
  Resources.addDisks r.disks l.config.resourceGroup
    (Naming.vmId Resources.subscription l.config.resourceGroup l.name) (l.vmBody (uids .disks))
    (Resources.diskNames l.name (l.vmBody (uids .disks)))

/-- The names of the machine's disks. -/
def diskNames : List String :=
  Naming.osDisk l.name :: l.storage.dataDisks.map fun disk => Naming.dataDisk l.name disk.lun

/-- A disk of the machine. -/
def disk (name uid : String) : Disk :=
  ⟨some (Naming.diskId Resources.subscription l.config.resourceGroup name), some name,
    some l.config.location, Naming.tags l.config.tags uid,
    some (Naming.vmId Resources.subscription l.config.resourceGroup l.name)⟩

/-- A disk is one that was there before or one of the machine. -/
theorem get?_disks (key : ResourceKey) :
    (l.disks r uids).get? key = (r.disks.get? key).or
      (if key.group = l.config.resourceGroup ∧ key.name ∈ l.diskNames then
        some (l.disk key.name (uids .disks)) else none) :=
  Resources.get?_addDisks ..

/-- The resources with those of the machine. -/
def on : Resources where
  publicIps := l.publicIps r uids
  nics := r.nics.insert (l.keyOf l.nicName)
    ((l.nicBody (uids .nic)).stored (l.keyOf l.nicName) l.privates)
  vms := r.vms.insert (l.keyOf l.name) ((l.vmBody (uids .vm)).stored (l.keyOf l.name))
  views :=
    if r.views.contains (l.keyOf l.name) then r.views
    else r.views.insert (l.keyOf l.name) (.ofCodes ["ProvisioningState/creating"])
  disks := l.disks r uids
  addresses := l.count

/-- The public addresses of the interface are there, and every configuration has an address. -/
structure Wired (l : Layout) (r : Resources) : Prop where
  present : ∀ uid uids, ∀ id ∈ (l.nicBody uid).publicAddressIds,
    (l.publicIps r uids).contains (l.keyOf (Naming.nameOfId id)) = true
  length : ∀ uid, l.privates.length = (l.nicBody uid).ipConfigurations.length

end Layout

variable {h next : Holdings} {rest : List Step}

theorem exists_of_carryOut_putPublicIp {group name : String} {body : PublicIpAddress}
    (carried : carryOut (.put (.putPublicIp group name body) :: rest) h = some next) :
    ∃ address count, carryOut rest (h.storing { h.backend.resources with
      publicIps := h.backend.resources.publicIps.insert ⟨group, name⟩
        (body.stored ⟨group, name⟩ address)
      addresses := count }) = some next := by
  obtain ⟨value, resources, performed, carried⟩ := exists_of_carryOut_put carried
  obtain ⟨address, count, rfl, rfl⟩ := Call.exists_of_putPublicIp performed
  exact ⟨address, count, carried⟩

/-- The public addresses of a creation. -/
theorem exists_addresses {c : Config} {nic uid : String} {dualStack : Bool}
    (carried : carryOut (Create.addressSteps c nic uid dualStack) h = some next) :
    ∃ address addressV6 count, next.backend.resources = { h.backend.resources with
      publicIps := withAddresses c nic dualStack address addressV6 uid uid
        h.backend.resources.publicIps
      addresses := count } := by
  unfold Create.addressSteps at carried
  unfold withAddresses
  cases assigned : c.assignPublicIp with
  | false =>
      simp only [assigned] at carried
      cases carried
      exact ⟨none, none, _, rfl⟩
  | true =>
      simp only [assigned, if_true] at carried
      obtain ⟨address, count, carried⟩ := exists_of_carryOut_putPublicIp carried
      cases dualStack with
      | false =>
          cases carried
          exact ⟨address, none, count, rfl⟩
      | true =>
          obtain ⟨addressV6, total, carried⟩ := exists_of_carryOut_putPublicIp carried
          cases carried
          exact ⟨address, addressV6, total, rfl⟩

/-- Random bytes for a key change no resources. -/
theorem exists_of_carryOut_keySteps {e : Envelope}
    (carried : carryOut (Create.keySteps e ++ rest) h = some next) :
    ∃ between : Holdings, between.backend = h.backend ∧ carryOut rest between = some next := by
  unfold Create.keySteps at carried
  split at carried
  · exact ⟨h, rfl, carried⟩
  · exact ⟨{ h with entropy := h.entropy.drop World.keyLength }, rfl, carried⟩

/-- The finalizers that a creation commits are those of what the machine has. -/
theorem any_owns_steps {c : Config} {e : Envelope} {storage : StorageProfile}
    (found : c.storageProfile e.operatingSystem = .ok storage) (name uid key userdata : String)
    (kind : Owned) (l : Layout) (config : l.config = c) (envelope : l.envelope = e) :
    (Create.steps c e name uid key userdata).any (Step.owns kind) = l.has kind := by
  have keys : (Create.keySteps e).any (Step.owns kind) = false := by
    unfold Create.keySteps
    split <;> rfl
  subst config envelope
  rw [Create.steps, Create.networkSteps, Create.vmSteps, found, List.any_append, List.any_append,
    List.any_append, keys]
  unfold Create.addressSteps Layout.has Layout.dualStack
  cases kind <;> cases l.config.assignPublicIp <;>
    cases l.envelope.ipFamily.isDualStack <;> rfl

/-- Every creation ends with a layout among the resources it found. -/
theorem exists_layout {c : Config} {e : Envelope} {storage : StorageProfile}
    {name uid key userdata : String} (found : c.storageProfile e.operatingSystem = .ok storage)
    (carried : carryOut (Create.steps c e name uid key userdata) h = some next) :
    ∃ l : Layout, l.config = c ∧ l.envelope = e ∧ l.name = name ∧ l.Wired h.backend.resources ∧
      next.backend.resources = l.on h.backend.resources (fun _ => uid) ∧
      ∀ kind, Owned.of next.record kind = (l.has kind || Owned.of h.record kind) := by
  have owned := of_carryOut carried
  rw [Create.steps, Create.networkSteps, List.append_assoc, carryOut_append] at carried
  obtain ⟨first, begun, carried⟩ := Option.bind_eq_some_iff.1 carried
  obtain ⟨address, addressV6, count, addressed⟩ := exists_addresses begun
  obtain ⟨value, resources, performed, carried⟩ :=
    exists_of_carryOut_put (carryOut_own [.nic] _ first ▸ carried)
  obtain ⟨present, privates, total, length, rfl, rfl⟩ := Resources.putNic_eq_ok performed
  rw [Create.vmSteps, found] at carried
  obtain ⟨second, kept, carried⟩ := exists_of_carryOut_keySteps carried
  obtain ⟨value, resources, performed, carried⟩ :=
    exists_of_carryOut_put (carryOut_own [.disks, .vm] _ second ▸ carried)
  obtain ⟨_, rfl, rfl⟩ := Resources.putVm_eq_ok.1 performed
  cases carried
  let l : Layout := ⟨c, e, storage, name, key, userdata, address, addressV6, privates, total⟩
  have addresses : (first.owning [.nic]).backend.resources.publicIps =
      l.publicIps h.backend.resources (fun _ => uid) := congrArg Resources.publicIps addressed
  refine ⟨l, rfl, rfl, rfl, ⟨?_, fun _ => length⟩, ?_, ?_⟩
  · intro other uids id member
    have there := present id member
    rw [addresses] at there
    exact (contains_withAddresses _ _ _ _ _ _ _ uid uid _ _).trans there
  · change second.backend.resources.withVm _ _ = _
    rw [kept]
    change ({ first.backend.resources with
      nics := first.backend.resources.nics.insert _ _
      addresses := total } : Resources).withVm _ _ = _
    rw [addressed]
    rfl
  · intro kind
    rw [owned kind, any_owns_steps found name uid key userdata kind l rfl rfl]

end Provisioning.Azure
