import Provisioning.Proofs.Maps
import Provisioning.Proofs.Reading

/-!
What is seen of a virtual machine with one interface. Main statement: `glimpse_instanceOf_eq_ok`,
that it is seen exactly if it is there with its interface and all addresses that are attached to
the interface, and then with the private address of each configuration and the public one attached
to it.
-/

namespace Provisioning.Azure

namespace Resources

/-- The public address that an id stands for in a group, if it was given out. -/
def publicText (r : Resources) (group id : String) : Option String :=
  (r.publicIps.get? ⟨group, Naming.nameOfId id⟩).bind (·.properties.ipAddress)

/-- Public addresses are there under the names of ids. -/
def HasPublic (r : Resources) (group : String) (ids : List String) : Prop :=
  ∀ id ∈ ids, r.publicIps.contains ⟨group, Naming.nameOfId id⟩ = true

@[simp] theorem hasPublic_nil (r : Resources) (group : String) : r.HasPublic group [] := nofun

@[simp] theorem hasPublic_cons {r : Resources} {group id : String} {ids : List String} :
    r.HasPublic group (id :: ids) ↔
      r.publicIps.contains ⟨group, Naming.nameOfId id⟩ = true ∧ r.HasPublic group ids :=
  List.forall_mem_cons

end Resources

/-- The addresses of a configuration: its private one, and the public one that is attached. -/
def IpConfiguration.addresses (r : Resources) (group : String) (configuration : IpConfiguration) :
    List (Option String × AddressClass) :=
  (configuration.properties.privateAddress, .internal) ::
    configuration.publicAddressId?.toList.map fun id => (r.publicText group id, .external)

/-- The addresses of an interface. -/
def NetworkInterface.addresses (r : Resources) (group : String) (nic : NetworkInterface) :
    List (Option String × AddressClass) :=
  nic.ipConfigurations.flatMap (·.addresses r group)

namespace Lookup

/-- Adds an address, if it was given out. -/
def add (found : Addresses) (address : Option String × AddressClass) : Addresses :=
  match address.1 with
  | some text => found.insert text address.2
  | none => found

theorem addInternal_eq (found : Addresses) (configuration : IpConfiguration) :
    addInternal found configuration =
      add found (configuration.properties.privateAddress, .internal) := by
  unfold addInternal add
  cases configuration.properties.privateAddress <;> rfl

theorem addExternal_eq (found : Addresses) (address : PublicIpAddress) :
    addExternal found address = add found (address.properties.ipAddress, .external) := by
  unfold addExternal add
  cases address.properties.ipAddress <;> rfl

variable {b : Backend} {c : Config} {found out : Addresses}

/-- Configurations are seen exactly if all attached addresses are there. -/
theorem glimpse_configurationAddresses_eq_ok {configurations : List IpConfiguration} :
    b.glimpse (configurationAddresses c found configurations).run = .ok out ↔
      b.resources.HasPublic c.resourceGroup (configurations.filterMap (·.publicAddressId?)) ∧
      out = (configurations.flatMap (·.addresses b.resources c.resourceGroup)).foldl add found := by
  induction configurations generalizing found with
  | nil =>
      change Except.ok found = .ok out ↔ _
      rw [Except.ok.injEq, eq_comm]
      simp
  | cons configuration rest ih =>
      rw [configurationAddresses, addInternal_eq, List.flatMap_cons, List.foldl_append,
        IpConfiguration.addresses, List.foldl_cons]
      cases attached : configuration.publicAddressId? with
      | none =>
          rw [List.filterMap_cons_none attached]
          exact ih
      | some id =>
          rw [List.filterMap_cons_some attached, Resources.hasPublic_cons, SortedMap.contains_iff,
            Backend.glimpse_bind, Backend.glimpse_ofCall, Backend.perform, Resources.look]
          cases there : b.resources.publicIps.get? ⟨c.resourceGroup, Naming.nameOfId id⟩ with
          | none => exact ⟨nofun, nofun⟩
          | some address =>
              change b.glimpse (configurationAddresses c (addExternal _ address) rest).run = _ ↔ _
              have text : b.resources.publicText c.resourceGroup id =
                  address.properties.ipAddress := by
                rw [Resources.publicText, there, Option.bind_some]
              rw [ih, addExternal_eq, ← text]
              simp

variable {vm : VirtualMachine} {reference : InterfaceReference} {name id : String}

/-- The addresses of the only interface are seen exactly if it is there, with all addresses that
are attached. -/
theorem glimpse_addresses_eq_ok (single : vm.interfaces = [reference])
    (refers : reference.id = some id) (known : id ≠ "") :
    b.glimpse (addresses c vm).run = .ok out ↔
      ∃ nic, b.resources.nics.get? ⟨c.resourceGroup, Naming.nameOfId id⟩ = some nic ∧
        b.resources.HasPublic c.resourceGroup nic.publicAddressIds ∧
        out = (nic.addresses b.resources c.resourceGroup).foldl add ∅ := by
  obtain ⟨_, properties⟩ := reference
  cases refers
  have given : ¬id.isEmpty = true := by simpa using known
  rw [addresses, single]
  change b.glimpse (interfaceAddresses c ∅ 0 [⟨some id, properties⟩]).run = _ ↔ _
  simp only [interfaceAddresses, Option.getD_some]
  rw [if_neg given, Backend.glimpse_bind, Backend.glimpse_ofCall, Backend.perform, Resources.look]
  cases there : b.resources.nics.get? ⟨c.resourceGroup, Naming.nameOfId id⟩ with
  | none =>
      constructor
      · intro found
        cases found
      · rintro ⟨_, found, _⟩
        cases found
  | some nic =>
      -- Nothing comes after the only interface.
      have last : b.glimpse (configurationAddresses c ∅ nic.ipConfigurations >>= pure).run =
          b.glimpse (configurationAddresses c ∅ nic.ipConfigurations).run := by
        rw [Backend.glimpse_bind]
        cases b.glimpse (configurationAddresses c ∅ nic.ipConfigurations).run <;> rfl
      change b.glimpse (configurationAddresses c ∅ nic.ipConfigurations >>= pure).run = _ ↔ _
      rw [last, glimpse_configurationAddresses_eq_ok]
      simp only [Option.some.injEq, exists_eq_left']
      rfl

/-- A virtual machine with one interface is seen exactly if both are there, with all addresses that
are attached. -/
theorem glimpse_instanceOf_eq_ok {i : Instance} (named : vm.name = some name)
    (single : vm.interfaces = [reference]) (refers : reference.id = some id) (known : id ≠ "") :
    b.glimpse (instanceOf c vm).run = .ok i ↔
      ∃ view nic, b.resources.instanceView ⟨c.resourceGroup, name⟩ = .ok view ∧
        b.resources.nics.get? ⟨c.resourceGroup, Naming.nameOfId id⟩ = some nic ∧
        b.resources.HasPublic c.resourceGroup nic.publicAddressIds ∧
        i = ⟨vm.id.getD name, name, (nic.addresses b.resources c.resourceGroup).foldl add ∅,
          view.status⟩ := by
  rw [instanceOf, named]
  change b.glimpse (instanceNamed c vm name).run = _ ↔ _
  rw [instanceNamed, Backend.glimpse_bind, Backend.glimpse_context _ _ (.ofCall c rfl),
    Backend.glimpse_ofCall, Backend.perform]
  cases viewed : b.resources.instanceView ⟨c.resourceGroup, name⟩ with
  | error fault => exact ⟨nofun, nofun⟩
  | ok view =>
      change b.glimpse ((addresses c vm).context _ >>= fun found => pure _).run = _ ↔ _
      rw [Backend.glimpse_bind, Backend.glimpse_context _ _ (addresses_reading c vm)]
      cases found : b.glimpse (addresses c vm).run with
      | error fault =>
          refine ⟨nofun, ?_⟩
          rintro ⟨_, nic, _, there, present, _⟩
          have seen := (glimpse_addresses_eq_ok (b := b) (c := c) single refers known).2
            ⟨nic, there, present, rfl⟩
          cases found.symm.trans seen
      | ok out =>
          obtain ⟨nic, there, present, rfl⟩ := (glimpse_addresses_eq_ok single refers known).1 found
          change Except.ok (Instance.withAddresses _ _) = Except.ok i ↔ _
          simp [there, present, Instance.withAddresses, Instance.withStatus, Instance.named,
            SortedMap.empty_union, eq_comm]

end Lookup

end Provisioning.Azure
