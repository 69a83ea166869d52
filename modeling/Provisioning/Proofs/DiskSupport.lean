import Provisioning.Azure.DiskSku

/-!
Which disks a size of virtual machine supports, by the rules for premium and ultra disks. `Meets`
states the rules, `supports_iff` says when a disk is accepted. The two part where the first location
that a size tells of has neither zones nor details of zones: there an ultra disk is accepted if no
zone is requested, whatever the size advertises.
-/

namespace Provisioning.Azure

namespace ResourceSku

/-- The size advertises a capability as true. -/
def Advertises (vm : ResourceSku) (name : String) : Prop :=
  ∃ capabilities ∈ vm.capabilities, ⟨name, "True"⟩ ∈ capabilities

/-- The size tells nothing of zones: of no location, or of a first one without zones. -/
def Zoneless (vm : ResourceSku) : Prop :=
  ∀ info ∈ vm.locationInfo.head?, info.zones = [] ∧ info.zoneDetails = []

/-- A detail of the first location names a zone and advertises ultra disks. -/
def UltraIn (vm : ResourceSku) (zone : String) : Prop :=
  ∃ info ∈ vm.locationInfo.head?, ∃ detail ∈ info.zoneDetails,
    zone ∈ detail.names ∧ ⟨"UltraSSDAvailable", "True"⟩ ∈ detail.capabilities

/-- The size tells of a location, but nothing of its zones. -/
def Bare (vm : ResourceSku) : Prop := vm.locationInfo ≠ [] ∧ vm.Zoneless

end ResourceSku

namespace DiskSku

/-- The rules that a disk SKU and the requested zones have to meet. -/
structure Meets (vm : ResourceSku) (sku : String) (zones : List String) : Prop where
  named : vm.name.isSome
  described : vm.capabilities.isSome
  premium : sku = premium → vm.Advertises "PremiumIO"
  everywhere : sku = ultra → vm.Zoneless → vm.Advertises "UltraSSDAvailable"
  zonal : sku = ultra → ¬vm.Zoneless → ∀ zone ∈ zones, vm.UltraIn zone

variable {vm : ResourceSku} {sku name : String} {zones : List String}
  {capabilities : List Capability}

theorem hasCapability_iff : hasCapability capabilities name = true ↔
    ⟨name, "True"⟩ ∈ capabilities := by
  simp only [hasCapability, List.any_eq_true, Bool.and_eq_true, beq_iff_eq]
  constructor
  · intro found
    obtain ⟨⟨_, _⟩, member, rfl, rfl⟩ := found
    exact member
  · intro member
    exact ⟨_, member, rfl, rfl⟩

theorem advertises_iff (described : vm.capabilities = some capabilities) :
    vm.Advertises name ↔ hasCapability capabilities name = true := by
  simp only [ResourceSku.Advertises, described, Option.mem_def, Option.some.injEq, exists_eq_left',
    hasCapability_iff]

theorem ultraIn_iff {info : LocationInfo} {rest : List LocationInfo} {zone : String}
    (told : vm.locationInfo = info :: rest) :
    vm.UltraIn zone ↔ ultraInZone info zone = true := by
  simp only [ResourceSku.UltraIn, told, List.head?_cons, Option.mem_def, Option.some.injEq,
    exists_eq_left', ultraInZone, List.any_eq_true, Bool.and_eq_true, List.contains_iff_mem,
    hasCapability_iff]

theorem not_ultraIn_of_bare (bare : vm.Bare) (zone : String) : ¬vm.UltraIn zone := by
  intro offered
  obtain ⟨info, first, detail, listed, _⟩ := offered
  have silent := (bare.2 info first).2
  rw [silent] at listed
  cases listed

/-- A malformed size supports nothing. -/
theorem exists_of_supports (accepted : supports vm sku zones = .ok ()) :
    ∃ name capabilities, vm.name = some name ∧ vm.capabilities = some capabilities := by
  unfold supports at accepted
  split at accepted
  next name capabilities named described => exact ⟨name, capabilities, named, described⟩
  next => cases accepted

theorem supports_premium_iff (named : vm.name = some name)
    (described : vm.capabilities = some capabilities) :
    supports vm premium zones = .ok () ↔ vm.Advertises "PremiumIO" := by
  rw [advertises_iff described]
  simp only [supports, named, described, if_true]
  by_cases offered : hasCapability capabilities "PremiumIO" = true
  · simp only [offered, if_true]
  · simp only [offered, if_false, reduceCtorEq]

/-- An ultra disk is accepted by what the size advertises only if it tells of no location. -/
theorem supports_ultra_iff (named : vm.name = some name)
    (described : vm.capabilities = some capabilities) :
    supports vm ultra zones = .ok () ↔
      (vm.locationInfo = [] → vm.Advertises "UltraSSDAvailable") ∧
        (vm.locationInfo ≠ [] → ∀ zone ∈ zones, vm.UltraIn zone) := by
  have other : ultra ≠ premium := by decide
  rw [advertises_iff described]
  simp only [supports, named, described, if_neg other, if_true]
  cases told : vm.locationInfo with
  | nil =>
      by_cases offered : hasCapability capabilities "UltraSSDAvailable" = true <;> simp [offered]
  | cons info rest =>
      simp only [ultraIn_iff told, reduceCtorEq, false_implies, true_and, ne_eq,
        not_false_eq_true, forall_const]
      cases missing : zones.find? fun zone => !ultraInZone info zone with
      | none => simpa using missing
      | some zone =>
          have lacks := List.find?_some missing
          simp only [reduceCtorEq, false_iff]
          intro all
          have offers := all zone (List.mem_of_find?_eq_some missing)
          simp [offers] at lacks

theorem supports_of_other (named : vm.name.isSome) (described : vm.capabilities.isSome)
    (plain : sku ≠ premium) (slow : sku ≠ ultra) : supports vm sku zones = .ok () := by
  obtain ⟨name, named⟩ := Option.isSome_iff_exists.1 named
  obtain ⟨capabilities, described⟩ := Option.isSome_iff_exists.1 described
  simp only [supports, named, described, if_neg plain, if_neg slow]

/-- For a size that tells of locations but not of zones, only the requested zones count. -/
theorem supports_bare_iff (bare : vm.Bare) : supports vm ultra zones = .ok () ↔
    vm.name.isSome ∧ vm.capabilities.isSome ∧ zones = [] := by
  constructor
  · intro accepted
    obtain ⟨name, capabilities, named, described⟩ := exists_of_supports accepted
    have zonal := ((supports_ultra_iff named described).1 accepted).2 bare.1
    refine ⟨by rw [named]; rfl, by rw [described]; rfl, ?_⟩
    rw [List.eq_nil_iff_forall_not_mem]
    intro zone requested
    exact not_ultraIn_of_bare bare zone (zonal zone requested)
  · intro ⟨hasName, hasCapabilities, unzoned⟩
    obtain ⟨name, named⟩ := Option.isSome_iff_exists.1 hasName
    obtain ⟨capabilities, described⟩ := Option.isSome_iff_exists.1 hasCapabilities
    rw [supports_ultra_iff named described, unzoned]
    exact ⟨fun empty => absurd empty bare.1, fun _ => nofun⟩

/-- Apart from ultra disks for a size that tells of locations but not of zones, the rules decide. -/
theorem supports_iff_meets (told : ¬(sku = ultra ∧ vm.Bare)) :
    supports vm sku zones = .ok () ↔ Meets vm sku zones := by
  constructor
  · intro accepted
    obtain ⟨name, capabilities, named, described⟩ := exists_of_supports accepted
    constructor
    · rw [named]; rfl
    · rw [described]; rfl
    · intro same
      subst same
      exact (supports_premium_iff named described).1 accepted
    · intro same zoneless
      subst same
      have unlocated : vm.locationInfo = [] :=
        Decidable.byContradiction fun located => told ⟨rfl, located, zoneless⟩
      exact ((supports_ultra_iff named described).1 accepted).1 unlocated
    · intro same zonal
      subst same
      have located : vm.locationInfo ≠ [] := by
        intro unlocated
        exact zonal (by simp [ResourceSku.Zoneless, unlocated])
      exact ((supports_ultra_iff named described).1 accepted).2 located
  · intro meets
    obtain ⟨name, named⟩ := Option.isSome_iff_exists.1 meets.named
    obtain ⟨capabilities, described⟩ := Option.isSome_iff_exists.1 meets.described
    by_cases isPremium : sku = premium
    · subst isPremium
      exact (supports_premium_iff named described).2 (meets.premium rfl)
    by_cases isUltra : sku = ultra
    · subst isUltra
      rw [supports_ultra_iff named described]
      constructor
      · intro unlocated
        exact meets.everywhere rfl (by simp [ResourceSku.Zoneless, unlocated])
      · intro located
        exact meets.zonal rfl fun zoneless => told ⟨rfl, located, zoneless⟩
    · exact supports_of_other meets.named meets.described isPremium isUltra

/-- A disk SKU is accepted if it meets the rules, but an ultra disk for a size that tells of
locations and not of their zones is accepted exactly if no zone is requested. -/
theorem supports_iff (vm : ResourceSku) (sku : String) (zones : List String) :
    supports vm sku zones = .ok () ↔
      (¬(sku = ultra ∧ vm.Bare) ∧ Meets vm sku zones) ∨
        (sku = ultra ∧ vm.Bare ∧ vm.name.isSome ∧ vm.capabilities.isSome ∧ zones = []) := by
  by_cases bare : sku = ultra ∧ vm.Bare
  · obtain ⟨rfl, bare⟩ := bare
    simp only [supports_bare_iff bare, bare, and_self, not_true_eq_false, false_and, true_and,
      false_or]
  · rw [supports_iff_meets bare]
    constructor
    · intro meets
      exact .inl ⟨bare, meets⟩
    · intro either
      rcases either with ⟨_, meets⟩ | ⟨isUltra, isBare, _⟩
      · exact meets
      · exact absurd ⟨isUltra, isBare⟩ bare

/-- A size that tells of a location without zones and advertises nothing. -/
def plainSize : ResourceSku :=
  ⟨some "Standard_D2s_v3", some "virtualMachines", ["westeurope"],
    [⟨some "westeurope", [], []⟩], some []⟩

/-- An ultra disk is accepted that nothing of the size advertises. -/
theorem exists_unadvertised :
    ¬∀ vm sku zones, supports vm sku zones = .ok () ↔ Meets vm sku zones := by
  intro decided
  have accepted : supports plainSize ultra [] = .ok () := by rfl
  have zoneless : plainSize.Zoneless := by
    intro info first
    cases first
    exact ⟨rfl, rfl⟩
  obtain ⟨capabilities, described, listed⟩ :=
    ((decided plainSize ultra []).1 accepted).everywhere rfl zoneless
  cases described
  cases listed

end DiskSku

end Provisioning.Azure
