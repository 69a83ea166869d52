import Provisioning.Proofs.Relabelling
import Provisioning.Proofs.Tags
import Provisioning.Proofs.Upkeep

/-!
Which identities the resources of a machine bear. `Traced` bounds them kind by kind; a call of a
creation stays within the bound, and a migration moves it, wherever it is broken off. Main
statements: `Resources.Traced.made`, `Migration.traced_of_effects` and
`Migration.Begun.traced`.
-/

namespace Provisioning.Azure

/-- Everything lies where a machine has it, under its own name, and bears an identity that is
allowed for its kind. -/
structure Resources.Traced (group machine : String) (allowed : Owned → String → Prop)
    (r : Resources) : Prop where
  filed : r.Filed
  borne : ∀ {key tags kind}, r.Bears key tags kind → kind.Houses group machine key ∧
    ∃ uid, Naming.hasUid tags uid = true ∧ allowed kind uid

namespace Resources.Traced

variable {group machine : String} {allowed wider : Owned → String → Prop} {r : Resources}

theorem mono (traced : r.Traced group machine allowed)
    (implies : ∀ kind uid, allowed kind uid → wider kind uid) : r.Traced group machine wider where
  filed := traced.filed
  borne bears := by
    obtain ⟨houses, uid, own, permitted⟩ := traced.borne bears
    exact ⟨houses, uid, own, implies _ uid permitted⟩

/-- Where there is nothing, nothing bears an identity. -/
theorem of_isEmpty (empty : r.isEmpty = true) : r.Traced group machine allowed := by
  obtain ⟨publicIps, nics, vms, disks⟩ := Resources.isEmpty_iff.1 empty
  refine ⟨?_, fun {key tags kind} bears => ?_⟩
  · constructor <;> simp [publicIps, nics, vms, disks]
  · cases kind <;> simp [Resources.Bears, publicIps, nics, vms, disks] at bears

/-- Only disks have changed, and each of them bears an identity that is allowed then. -/
theorem withDisks {disks : SortedMap ResourceKey Disk} (traced : r.Traced group machine allowed)
    (implies : ∀ kind uid, kind ≠ .disks → allowed kind uid → wider kind uid)
    (stored : ∀ key disk, disks.get? key = some disk → disk.name = some key.name ∧
      Owned.disks.Houses group machine key ∧
        ∃ uid, Naming.hasUid disk.tags uid = true ∧ wider .disks uid) :
    { r with disks }.Traced group machine wider := by
  refine ⟨⟨traced.filed.publicIps, traced.filed.nics, traced.filed.vms,
    fun key disk found => (stored key disk found).1⟩, fun {key tags kind} bears => ?_⟩
  have others (earlier : r.Bears key tags kind) (other : kind ≠ .disks) :
      kind.Houses group machine key ∧ ∃ uid, Naming.hasUid tags uid = true ∧ wider kind uid := by
    obtain ⟨houses, uid, own, permitted⟩ := traced.borne earlier
    exact ⟨houses, uid, own, implies kind uid other permitted⟩
  cases kind with
  | disks =>
      obtain ⟨disk, found, rfl⟩ := bears
      exact (stored key disk found).2
  | publicIp | publicIpv6 | nic | vm => exact others bears nofun

end Resources.Traced

/-- What is made for a machine is where the machine has it, bears its identity, and is of a kind
whose finalizer the record has. -/
theorem Call.Makes.of_gives {group : String} {m : Machine} {what : Call} {key : ResourceKey}
    {tags : Tags} {kind : Owned} (makes : what.Makes group m) (given : what.Gives key tags kind) :
    kind.Houses group m.name key ∧ kind.of m = true ∧ Naming.hasUid tags m.uid = true := by
  cases what with
  | putPublicIp place name body =>
      obtain ⟨other, version, houses, present, tagged⟩ := makes
      obtain ⟨rfl, same, rfl⟩ := given
      cases Owned.eq_of_version? other kind version same
      exact ⟨houses, present, tagged⟩
  | putNic place name body =>
      obtain ⟨rfl, rfl, rfl⟩ := given
      exact makes
  | putVm place name body =>
      obtain ⟨houses, disks, vm, tagged⟩ := makes
      obtain ⟨⟨rfl, rfl⟩ | ⟨inside, rfl⟩, rfl⟩ := given
      · exact ⟨houses, vm, tagged⟩
      · exact ⟨inside.trans (congrArg ResourceKey.group houses), disks, tagged⟩
  | tagVm | tagDisk => cases makes
  | _ => exact given.elim

/-- What is made for a machine stays traced if the machine's identity is allowed for each kind whose
finalizer its record has. -/
theorem Resources.Traced.made {group : String} {m : Machine} {allowed : Owned → String → Prop}
    {b : Backend} {what : Call} {value : what.Value} {next : Resources}
    (traced : b.resources.Traced group m.name allowed) (makes : what.Makes group m)
    (permitted : ∀ kind : Owned, kind.of m = true → allowed kind m.uid)
    (performed : b.perform what = .ok (value, next)) : next.Traced group m.name allowed where
  filed := traced.filed.perform performed
  borne bears := by
    rcases Resources.Bears.of_perform performed bears with given | ⟨earlier, _⟩
    · obtain ⟨houses, present, own⟩ := makes.of_gives given
      exact ⟨houses, m.uid, own, permitted _ present⟩
    · exact traced.borne earlier

namespace Migration

variable {g : Migration} {allowed : Owned → String → Prop} {kind other : Owned}
  {kinds rest : List Owned} {r s x : Resources} {key : ResourceKey} {tags : Tags}

/-- The identities that are allowed after some kinds were migrated: each of these has the next one,
and no more the old one. -/
def Moved (g : Migration) (kinds : List Owned) (allowed : Owned → String → Prop) (kind : Owned)
    (uid : String) : Prop :=
  (kind ∈ kinds ∧ uid = g.uid) ∨ (allowed kind uid ∧ (kind ∈ kinds → uid ≠ g.machine.uid))

/-- The identities that are allowed while some kinds are migrated. -/
def Moving (g : Migration) (kinds : List Owned) (allowed : Owned → String → Prop) (kind : Owned)
    (uid : String) : Prop :=
  allowed kind uid ∨ (kind ∈ kinds ∧ uid = g.uid)

/-- Kinds are migrated one after the other. -/
theorem Moved.cons {uid : String} (moved : g.Moved rest (g.Moved [kind] allowed) other uid) :
    g.Moved (kind :: rest) allowed other uid := by
  unfold Moved at moved ⊢
  simp only [List.mem_cons, List.not_mem_nil, or_false] at moved ⊢
  rcases moved with ⟨later, next⟩ | ⟨⟨first, next⟩ | ⟨permitted, left⟩, also⟩
  · exact .inl ⟨.inr later, next⟩
  · exact .inl ⟨.inl first, next⟩
  · exact .inr ⟨permitted, fun member => member.elim left also⟩

theorem Moving.cons {uid : String} (moving : g.Moving rest (g.Moved [kind] allowed) other uid) :
    g.Moving (kind :: rest) allowed other uid := by
  rcases moving with (⟨first, next⟩ | ⟨permitted, _⟩) | ⟨later, next⟩
  · exact .inr ⟨List.mem_cons.2 (.inl (List.mem_singleton.1 first)), next⟩
  · exact .inl permitted
  · exact .inr ⟨List.mem_cons_of_mem _ later, next⟩

/-- The one call of a step gives the next identity to the kind where the machine has it. -/
theorem gives_of_call? {what : Call} (calls : g.call? other = some what)
    (given : what.Gives key tags kind) : kind = other ∧
      kind.Houses g.config.resourceGroup g.machine.name key ∧ Naming.hasUid tags g.uid = true := by
  cases other with
  | publicIp =>
      cases calls
      obtain ⟨rfl, version, rfl⟩ := given
      cases Owned.eq_of_version? kind .publicIp version rfl
      exact ⟨rfl, rfl, Naming.hasUid_tags_iff.2 rfl⟩
  | publicIpv6 =>
      cases calls
      obtain ⟨rfl, version, rfl⟩ := given
      cases Owned.eq_of_version? kind .publicIpv6 version rfl
      exact ⟨rfl, rfl, Naming.hasUid_tags_iff.2 rfl⟩
  | nic | vm =>
      cases calls
      obtain ⟨rfl, rfl, rfl⟩ := given
      exact ⟨rfl, rfl, Naming.hasUid_tags_iff.2 rfl⟩
  | disks => cases calls

/-- The one call of a step replaces what the machine has of the kind. -/
theorem replaces_of_call? {what : Call} (calls : g.call? kind = some what)
    (houses : kind.Houses g.config.resourceGroup g.machine.name key) : what.Replaces key kind := by
  cases kind with
  | publicIp | publicIpv6 | nic | vm =>
      cases calls
      exact ⟨houses, rfl⟩
  | disks => cases calls

/-- A disk that was given the new tag, if it was to have it, bears an identity that is allowed
then. -/
theorem traced_relabel (traced : r.Traced g.config.resourceGroup g.machine.name allowed)
    {disk : Disk} (found : r.disks.get? key = some disk) :
    (g.relabel key disk).name = some key.name ∧
      Owned.disks.Houses g.config.resourceGroup g.machine.name key ∧
        ∃ uid, Naming.hasUid (g.relabel key disk).tags uid = true ∧
          g.Moved [.disks] allowed .disks uid := by
  have bears : r.Bears key disk.tags .disks := ⟨disk, found, rfl⟩
  obtain ⟨houses, uid, own, permitted⟩ := traced.borne bears
  refine ⟨(relabel_name key disk).trans (traced.filed.disks key disk found), houses, ?_⟩
  unfold relabel
  split
  · exact ⟨g.uid, Naming.hasUid_tags_iff.2 rfl, .inl ⟨List.mem_singleton_self _, rfl⟩⟩
  · rename_i others
    refine ⟨uid, own, .inr ⟨permitted, ?_⟩⟩
    rintro _ rfl
    exact others ⟨houses, by rw [marks, own, Bool.true_or]⟩

/-- A step gives its kind the next identity and takes the old one. -/
theorem traced_of_effect (traced : r.Traced g.config.resourceGroup g.machine.name allowed)
    (changed : g.effect kind r = some s) :
    s.Traced g.config.resourceGroup g.machine.name (g.Moved [kind] allowed) := by
  cases calls : g.call? kind with
  | some what =>
      refine ⟨filed_of_effect traced.filed changed, fun {key tags other} bears => ?_⟩
      rw [effect, calls] at changed
      obtain ⟨value, performed⟩ := after_eq_some.1 changed
      rcases Resources.Bears.of_perform performed bears with given | ⟨earlier, kept⟩
      · obtain ⟨rfl, houses, own⟩ := gives_of_call? calls given
        exact ⟨houses, g.uid, own, .inl ⟨List.mem_singleton_self _, rfl⟩⟩
      · obtain ⟨houses, uid, own, permitted⟩ := traced.borne earlier
        refine ⟨houses, uid, own, .inr ⟨permitted, fun member => ?_⟩⟩
        cases List.mem_singleton.1 member
        exact absurd (replaces_of_call? calls houses) kept
  | none =>
      rw [effect, calls] at changed
      cases changed
      cases kind with
      | publicIp | publicIpv6 | nic | vm => cases calls
      | disks =>
          refine traced.withDisks (fun kind uid other permitted => ?_) fun key disk found => ?_
          · exact .inr ⟨permitted, fun member => absurd (List.mem_singleton.1 member) other⟩
          · rw [SortedMap.get?_mapValues] at found
            obtain ⟨earlier, stored, rfl⟩ := Option.map_eq_some_iff.1 found
            exact traced_relabel traced stored

/-- After a whole migration each kind bears the next identity, and no more the old one. -/
theorem traced_of_effects (traced : r.Traced g.config.resourceGroup g.machine.name allowed)
    (changed : g.effects kinds r = some s) :
    s.Traced g.config.resourceGroup g.machine.name (g.Moved kinds allowed) := by
  induction kinds generalizing r allowed with
  | nil =>
      cases changed
      exact traced.mono fun kind uid permitted => .inr ⟨permitted, nofun⟩
  | cons kind rest ih =>
      obtain ⟨t, first, later⟩ := Option.bind_eq_some_iff.1 changed
      exact (ih (traced_of_effect traced first) later).mono fun _ _ => Moved.cons

/-- In the middle of a step a kind may bear either identity. -/
theorem Partway.traced (partway : g.Partway kind r x)
    (traced : r.Traced g.config.resourceGroup g.machine.name allowed) :
    x.Traced g.config.resourceGroup g.machine.name (g.Moving [kind] allowed) := by
  rw [partway.rest]
  refine traced.withDisks (fun _ _ _ => .inl) fun key disk found => ?_
  rcases partway.disks key with same | ⟨rfl, same⟩
  · rw [same] at found
    have bears : r.Bears key disk.tags .disks := ⟨disk, found, rfl⟩
    obtain ⟨houses, uid, own, permitted⟩ := traced.borne bears
    exact ⟨traced.filed.disks key disk found, houses, uid, own, .inl permitted⟩
  · rw [same] at found
    obtain ⟨earlier, stored, rfl⟩ := Option.map_eq_some_iff.1 found
    obtain ⟨named, houses, uid, own, moved⟩ := traced_relabel traced stored
    exact ⟨named, houses, uid, own, moved.symm.imp And.left id⟩

/-- Wherever a migration is broken off, the kinds that were to be migrated may bear either
identity. -/
theorem Begun.traced (begun : g.Begun kinds r x)
    (traced : r.Traced g.config.resourceGroup g.machine.name allowed) :
    x.Traced g.config.resourceGroup g.machine.name (g.Moving kinds allowed) := by
  induction begun generalizing allowed with
  | start => exact traced.mono fun _ _ => .inl
  | partway during =>
      refine (during.traced traced).mono fun kind uid moving => moving.imp id ?_
      rintro ⟨first, next⟩
      exact ⟨List.mem_cons.2 (.inl (List.mem_singleton.1 first)), next⟩
  | step first _ ih => exact (ih (traced_of_effect traced first)).mono fun _ _ => Moving.cons

end Migration

end Provisioning.Azure
