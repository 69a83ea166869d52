import Provisioning.Azure.Desired
import Provisioning.Azure.Provider.Inspect
import Provisioning.Proofs.ControllerFile
import Provisioning.Proofs.Session
import Provisioning.Proofs.Validation

/-!
Which machines are in an availability set. `Config.Joins` states the rule. The virtual machine that
is asked for and the file of the cloud controller follow it; the check of ultra disks, which go with
no availability set, turns away more: a machine that names a set and declines it, and one that wants
a set and names none. Main statement: `refused_iff_joins`.
-/

namespace Provisioning.Azure

namespace Config

/-- The machine joins an availability set: one is named, and it is not declined. -/
def Joins (c : Config) : Prop := c.availabilitySet ≠ "" ∧ c.assignAvailabilitySet ≠ some false

/-- A set is named and declined. -/
def Declines (c : Config) : Prop := c.availabilitySet ≠ "" ∧ c.assignAvailabilitySet = some false

/-- A set is wanted and none is named. -/
def Lacks (c : Config) : Prop := c.availabilitySet = "" ∧ c.assignAvailabilitySet = some true

variable {c : Config}

theorem effectiveAvailabilitySet_of_joins (joins : c.Joins) :
    c.effectiveAvailabilitySet = some c.availabilitySet := by
  unfold effectiveAvailabilitySet
  rw [if_neg]
  simpa [Joins] using joins

theorem effectiveAvailabilitySet_of_not_joins (apart : ¬c.Joins) :
    c.effectiveAvailabilitySet = none := by
  unfold effectiveAvailabilitySet
  rw [if_pos]
  by_cases named : c.availabilitySet = ""
  · simp [named]
  · have declined : c.assignAvailabilitySet = some false :=
      Decidable.byContradiction fun other => apart ⟨named, other⟩
    simp [declined]

end Config

/-- The machine that is asked for refers to a set exactly if the machine joins one. -/
theorem Desired.availabilitySet_isSome (c : Config) (os : OperatingSystem)
    (storage : StorageProfile) (name uid nicId key userdata : String) :
    (vm c os storage name uid nicId key userdata).properties.availabilitySet.isSome ↔ c.Joins := by
  change (c.availabilitySetId.map SubResource.ofId).isSome ↔ c.Joins
  rw [Option.isSome_map, Config.availabilitySetId, Option.isSome_map]
  by_cases joins : c.Joins
  · simp [Config.effectiveAvailabilitySet_of_joins joins, joins]
  · simp [Config.effectiveAvailabilitySet_of_not_joins joins, joins]

namespace ControllerConfig

/-- A text is an object whose primary availability set has a name. -/
def NamesSet (text : String) : Prop :=
  ∃ file name, Json.parse? text = some file ∧
    file.get? "primaryAvailabilitySetName" = some (.string name) ∧ name ≠ ""

theorem get?_encode (file : ControllerConfig) :
    (codec.encode file).get? "primaryAvailabilitySetName" =
      some (.string file.primaryAvailabilitySetName) := rfl

theorem namesSet_render (file : ControllerConfig) :
    NamesSet file.render ↔ file.primaryAvailabilitySetName ≠ "" := by
  constructor
  · intro names
    obtain ⟨_, name, found, member, some⟩ := names
    cases (parse?_render file).symm.trans found
    cases (get?_encode file).symm.trans member
    exact some
  · intro some
    exact ⟨_, _, parse?_render file, get?_encode file, some⟩

theorem primaryAvailabilitySetName_ofConfig (c : Config) :
    (ofConfig c).primaryAvailabilitySetName ≠ "" ↔ c.Joins := by
  change c.effectiveAvailabilitySet.getD "" ≠ "" ↔ c.Joins
  by_cases joins : c.Joins
  · simp [Config.effectiveAvailabilitySet_of_joins joins, joins, joins.1]
  · simp [Config.effectiveAvailabilitySet_of_not_joins joins, joins]

end ControllerConfig

namespace DiskSku

/-- The fault of an ultra disk for a machine in an availability set. -/
def inSet : AzureError :=
  .invalidConfig "data disk SKU 'UltraSSD_LRS' does not support availability sets"

/-- A fault of which the text begins otherwise is another one. -/
theorem ne_inSet_of_head {text : String} (other : text.toList.head? ≠ some 'd') :
    AzureError.invalidConfig text ≠ inSet := by
  intro same
  rw [AzureError.invalidConfig.inj same] at other
  exact other rfl

/-- That a size does not support an ultra disk is another fault. -/
theorem supports_ultra_ne_inSet (vm : ResourceSku) (zones : List String) :
    supports vm ultra zones ≠ .error inSet := by
  have unfit (size : String) : unsupported size ultra ≠ inSet :=
    ne_inSet_of_head (by simp [toString])
  have zonal (size zone : String) : AzureError.invalidConfig
      s!"VM SKU '{size}' does not support disk SKU '{ultra}' in zone '{zone}'" ≠ inSet :=
    ne_inSet_of_head (by simp [toString])
  have malformed : AzureError.invalidConfig "invalid VM SKU object" ≠ inSet :=
    ne_inSet_of_head (by simp)
  intro refused
  unfold supports at refused
  split at refused
  next name capabilities _ _ =>
    rw [if_neg (by decide), if_pos rfl] at refused
    cases told : vm.locationInfo with
    | nil =>
        rw [told] at refused
        dsimp only at refused
        split at refused
        next => cases refused
        next => exact unfit name (Except.error.inj refused)
    | cons info rest =>
        rw [told] at refused
        dsimp only at refused
        split at refused
        next => cases refused
        next zone _ => exact zonal name zone (Except.error.inj refused)
  next => exact malformed (Except.error.inj refused)

variable {vm : ResourceSku} {c : Config}

theorem checkOsDisk_of_supported (supported : ∀ sku ∈ c.osDiskSku,
    sku ∈ forOsDisks ∧ supports vm sku c.zones = .ok ()) : checkOsDisk vm c = .ok () := by
  unfold checkOsDisk
  split
  next => rfl
  next sku asked =>
    obtain ⟨offered, fits⟩ := supported sku asked
    rw [if_pos (List.contains_iff_mem.2 offered), fits]

/-- An ultra disk is turned away for a set exactly if a set is named or wanted. -/
theorem checkDataDisk_eq_inSet (disk : c.dataDiskSku = some ultra) :
    checkDataDisk vm c = .error inSet ↔ c.Joins ∨ c.Declines ∨ c.Lacks := by
  have known : (!forDataDisks.contains ultra) = false := by decide
  have asks : asksForAvailabilitySet c = true ↔ c.Joins ∨ c.Declines ∨ c.Lacks := by
    simp only [asksForAvailabilitySet, Config.Joins, Config.Declines, Config.Lacks]
    by_cases named : c.availabilitySet = ""
    · simp [named]
    · by_cases declined : c.assignAvailabilitySet = some false <;> simp [named, declined]
  rw [← asks]
  simp only [checkDataDisk, disk, known, Bool.false_eq_true, if_false]
  by_cases asked : asksForAvailabilitySet c = true
  · simp only [asked, decide_true, Bool.and_self, if_true, iff_true]
    rfl
  · simp only [Bool.not_eq_true] at asked
    simp only [asked, Bool.and_false, Bool.false_eq_true, if_false, iff_false]
    exact supports_ultra_ne_inSet vm c.zones

end DiskSku

section

variable {α β γ ε : Type} {service : Service γ} {w : World γ}

/-- What follows a part that has ended well goes on where that part has ended. -/
theorem World.run_bind_of_ok {act : ExceptT ε Asking β} {next : β → ExceptT ε Asking α} {first : β}
    (ended : (World.run service act.run w).1 = .ok first) :
    World.run service (act >>= next).run w =
      World.run service (next first).run (World.run service act.run w).2 := by
  have parts := Program.run_bind (World.serve service) act.run (ExceptT.bindCont next) w
  refine parts.trans ?_
  unfold World.run at ended ⊢
  generalize act.run.run (World.serve service) w = result at ended
  obtain ⟨_, v⟩ := result
  cases ended
  rfl

/-- What an action attempts is of no account if it succeeds. -/
theorem World.run_context_of_ok {act : Action β} {first : β}
    (ended : (World.run service act.run w).1 = .ok first) (attempt : String) :
    (World.run service (act.context attempt).run w).1 = .ok first := by
  have parts := Program.run_bind (World.serve service) act.run
    (fun outcome => .done (outcome.mapError fun fault => fault.context attempt)) w
  refine (congrArg Prod.fst parts).trans ?_
  unfold World.run at ended
  generalize act.run.run (World.serve service) w = result at ended
  obtain ⟨_, v⟩ := result
  cases ended
  rfl

/-- Where a data disk is asked for and the size is found, the check of the disks decides. -/
theorem Validate.run_diskSkus {c : Config} {vm : ResourceSku} (disk : c.dataDiskSku.isSome)
    (found : (World.run service (size c).run w).1 = .ok vm) :
    (World.run service (diskSkus c).run w).1 = DiskSku.check vm c := by
  unfold diskSkus
  rw [if_neg (by simp [Option.isNone_iff_eq_none, Option.isSome_iff_ne_none.1 disk])]
  rw [World.run_bind_of_ok (World.run_context_of_ok found _), World.run_liftExcept]

end

variable {β : Type} {service : Service β} {w : World β} {c : Config} {vm : ResourceSku}

/-- The machine that is asked for and the file of the cloud controller agree on whether a machine
is in an availability set, and if it has an ultra disk and its size is found, it is turned away if
it is. It is turned away as well if a set is named and declined, or wanted and not named. -/
theorem refused_iff_joins (found : (World.run service (Validate.size c).run w).1 = .ok vm)
    (supported : ∀ sku ∈ c.osDiskSku,
      sku ∈ DiskSku.forOsDisks ∧ DiskSku.supports vm sku c.zones = .ok ())
    (disk : c.dataDiskSku = some DiskSku.ultra) :
    (∀ os storage name uid nicId key userdata, (Desired.vm c os storage name uid nicId key
      userdata).properties.availabilitySet.isSome ↔ c.Joins) ∧
    (∀ sources spec e, Config.resolve sources spec = .ok (c, e) →
      ∃ file, cloudConfig sources spec = .ok file ∧
        (ControllerConfig.NamesSet file.text ↔ c.Joins)) ∧
    ((World.run service (Validate.diskSkus c).run w).1 = .error DiskSku.inSet ↔
      c.Joins ∨ c.Declines ∨ c.Lacks) := by
  refine ⟨Desired.availabilitySet_isSome c, ?_, ?_⟩
  · intro sources spec e resolved
    refine ⟨⟨(ControllerConfig.ofConfig c).render, providerName⟩, ?_, ?_⟩
    · rw [cloudConfig, resolved]
      rfl
    · rw [ControllerConfig.namesSet_render, ControllerConfig.primaryAvailabilitySetName_ofConfig]
  · rw [Validate.run_diskSkus (by rw [disk]; rfl) found, ← DiskSku.checkDataDisk_eq_inSet disk,
      DiskSku.check, DiskSku.checkOsDisk_of_supported supported]
    rfl

namespace Sample

/-- A machine with an ultra disk that names an availability set, with a switch for the set. -/
def grouped (switch : Option Bool) : Config :=
  { resolved.1 with
    location := "westeurope"
    vmSize := "Standard_D2s_v3"
    availabilitySet := "workers"
    assignAvailabilitySet := switch
    osDiskSku := some DiskSku.premium
    dataDiskSku := some DiskSku.ultra }

/-- A size that supports premium and ultra disks. -/
def ultraSize : ResourceSku :=
  ⟨some "Standard_D2s_v3", some "virtualMachines", ["westeurope"], [],
    some [⟨"PremiumIO", "True"⟩, ⟨"UltraSSDAvailable", "True"⟩]⟩

/-- The size is offered. -/
def offering : World Backend :=
  { world with backend := { world.backend with sizes := [ultraSize] } }

theorem offering_size (switch : Option Bool) : (World.run Backend.service
    (Validate.size (grouped switch)).run offering).1 = .ok ultraSize := by
  rfl

theorem supports_premium (switch : Option Bool) : ∀ sku ∈ (grouped switch).osDiskSku,
    sku ∈ DiskSku.forOsDisks ∧
      DiskSku.supports ultraSize sku (grouped switch).zones = .ok () := by
  rintro _ ⟨⟩
  exact ⟨by decide, by rfl⟩

end Sample

/-- A machine that joins the set it names is turned away. -/
theorem refused_iff_joins_named : (Sample.grouped none).Joins ∧
    (World.run Backend.service (Validate.diskSkus (Sample.grouped none)).run Sample.offering).1 =
      .error DiskSku.inSet := by
  have joins : (Sample.grouped none).Joins := ⟨by decide, by decide⟩
  refine ⟨joins, ?_⟩
  exact (refused_iff_joins (Sample.offering_size none) (Sample.supports_premium none) rfl).2.2.2
    (.inl joins)

/-- A machine that declines the set it names is turned away, though it asks for a virtual machine in
no set and its cloud controller is told of none. -/
theorem exists_refused_apart : ∃ (c : Config) (w : World Backend) (vm : ResourceSku),
    (World.run Backend.service (Validate.size c).run w).1 = .ok vm ∧
    (∀ sku ∈ c.osDiskSku, sku ∈ DiskSku.forOsDisks ∧
      DiskSku.supports vm sku c.zones = .ok ()) ∧
    c.dataDiskSku = some DiskSku.ultra ∧
    (∀ os storage name uid nicId key userdata, (Desired.vm c os storage name uid nicId key
      userdata).properties.availabilitySet = none) ∧
    ¬ControllerConfig.NamesSet (ControllerConfig.ofConfig c).render ∧
    (World.run Backend.service (Validate.diskSkus c).run w).1 = .error DiskSku.inSet := by
  refine ⟨Sample.grouped (some false), Sample.offering, Sample.ultraSize,
    Sample.offering_size _, Sample.supports_premium _, rfl, fun _ _ _ _ _ _ _ => rfl, ?_, by rfl⟩
  rw [ControllerConfig.namesSet_render]
  exact fun named => named rfl

end Provisioning.Azure
