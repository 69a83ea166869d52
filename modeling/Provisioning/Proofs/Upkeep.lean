import Provisioning.Azure.Provider.Create
import Provisioning.Proofs.Accounted
import Provisioning.Proofs.Reading
import Provisioning.Proofs.Requests

/-!
What a creation asks for, with which record in the store. `Upkeep` says what an invariant of the
stored record and the world must survive: a put under the machine's own names of what the record
accounts for, finalizers that are added, and whatever leaves resources and records alone. Main
statement: `Upkeep.create_meets`, that a creation keeps any such invariant.
-/

namespace Provisioning.Azure

open Relation

/-- Where a machine has what it has of a kind: under a name derived from its own, or for its disks
anywhere in its group. -/
def Owned.Houses (group machine : String) (key : ResourceKey) : Owned → Prop
  | .publicIp => key = ⟨group, Naming.publicIp (Naming.nic machine)⟩
  | .publicIpv6 => key = ⟨group, Naming.publicIpv6 (Naming.nic machine)⟩
  | .nic => key = ⟨group, Naming.nic machine⟩
  | .disks => key.group = group
  | .vm => key = ⟨group, machine⟩

/-- A call by which a machine is created: it reads, or it puts something where the machine has it,
with its tag, and the record accounts for it. -/
def Call.Makes (group : String) (m : Machine) : Call → Prop
  | putPublicIp place name body => ∃ kind : Owned, kind.version? = some body.version ∧
      kind.Houses group m.name ⟨place, name⟩ ∧ kind.of m = true ∧
      Naming.hasUid body.tags m.uid = true
  | putNic place name body => Owned.nic.Houses group m.name ⟨place, name⟩ ∧
      Owned.nic.of m = true ∧ Naming.hasUid body.tags m.uid = true
  | putVm place name body => Owned.vm.Houses group m.name ⟨place, name⟩ ∧
      Owned.disks.of m = true ∧ Owned.vm.of m = true ∧ Naming.hasUid body.tags m.uid = true
  | what => what.isWrite = false

theorem Call.makes_of_read {what : Call} (read : what.isWrite = false) (group : String)
    (m : Machine) : what.Makes group m := by
  cases what with
  | putPublicIp | putNic | putVm => cases read
  | _ => exact read

/-- What an invariant of a stored record must survive so that creation keeps it. -/
structure Upkeep (rely : World Backend → World Backend → Prop) (group : String)
    (inv : Machine → World Backend → Prop) : Prop where
  stored : ∀ {n w}, inv n w → w.store.get? n.name = some n
  outside : ∀ {n w v}, inv n w → rely w v → inv n v
  answered : ∀ {n w v} {what : Call} {value : what.Value}, inv n w → what.Makes group n →
    Answers w what value v → inv n v
  added : ∀ {n w} (kinds : List Owned), inv n w →
    inv ((FinalizerEdit.add (kinds.map Owned.finalizer)).apply n)
      { w with store := w.store.committed n (.add (kinds.map Owned.finalizer)) }
  alike : ∀ {n w v}, inv n w → v.backend.resources = w.backend.resources →
    (∀ operation fault, v.backend.faults.get? operation = some fault →
      w.backend.faults.get? operation = some fault) →
    v.store.records = w.store.records → inv n v

/-- After a request an invariant holds of a record that goes on from the first one. -/
def Holding (inv : Machine → World Backend → Prop) (m : Machine) (_ u : World Backend) : Prop :=
  ∃ n, inv n u ∧ Continues m n

namespace Upkeep

variable {rely : World Backend → World Backend → Prop} {c : Config}
  {inv : Machine → World Backend → Prop} {m n : Machine} {w v : World Backend}

section Requests

variable {group : String}

theorem outsides (upkeep : Upkeep rely group inv) (here : inv n w)
    (changes : ReflTransGen rely w v) : inv n v := by
  induction changes with
  | refl => exact here
  | tail _ change ih => exact upkeep.outside ih change

theorem call (upkeep : Upkeep rely group inv) (here : inv n w) (continues : Continues m n)
    {what : Call} (makes : what.Makes group n) :
    (Action.call c what).Meets rely (Holding inv m) (fun _ u => inv n u) (fun _ u => inv n u)
      w := by
  refine .call ?_ ?_
  · intro t value u changes answers
    have after := upkeep.answered (upkeep.outsides here changes) makes answers
    exact ⟨⟨n, after, continues⟩, after⟩
  · intro t fault u changes refuses
    have after := upkeep.alike (upkeep.outsides here changes) refuses.resources refuses.faults
      (congrArg Store.records refuses.store)
    exact ⟨⟨n, after, continues⟩, after⟩

theorem connect (upkeep : Upkeep rely group inv) (here : inv n w) (continues : Continues m n) :
    (Action.connect c).Meets rely (Holding inv m) (fun _ u => inv n u) (fun _ u => inv n u) w := by
  refine .connect ?_
  intro t u changes bare store faults _
  have resources : u.backend.resources = t.backend.resources := by
    change u.backend.bare.resources = t.backend.bare.resources
    rw [bare]
  have after := upkeep.alike (upkeep.outsides here changes) resources
    (fun operation fault found => faults ▸ found) (congrArg Store.records store)
  exact ⟨⟨n, after, continues⟩, after⟩

/-- Once finalizers are committed the record has them and those it had. -/
theorem own (upkeep : Upkeep rely group inv) (here : inv n w) (continues : Continues m n)
    (kinds : List Owned) :
    Recorded.Meets rely (Holding inv m)
      (fun _ p u => inv p u ∧ Continues m p ∧
        ∀ kind, Owned.of p kind = (decide (kind ∈ kinds) || Owned.of n kind))
      (fun _ p u => inv p u ∧ Continues m p) (own kinds) n w := by
  refine .copy ?_
  split
  · rename_i present
    refine .pure ⟨here, continues, fun kind => ?_⟩
    rw [← Owned.of_apply_add, FinalizerEdit.apply_add_of_all present]
  · refine .update (fun t changes => upkeep.stored (upkeep.outsides here changes)) ?_ ?_
    · intro t changes
      have after := upkeep.added kinds (upkeep.outsides here changes)
      have goesOn := continues.add kinds
      exact ⟨⟨_, after, goesOn⟩, after, goesOn, Owned.of_apply_add kinds n⟩
    · intro t fault changes _
      have after : inv n { t with store := t.store.rejectNext (t.store.rejections - 1) } :=
        upkeep.alike (upkeep.outsides here changes) rfl (fun _ _ found => found) rfl
      exact ⟨⟨n, after, continues⟩, after, continues⟩

/-- Reading changes nothing. -/
theorem reading {α : Type} {act : Action α} (upkeep : Upkeep rely group inv)
    (reads : Reading act.run) (here : inv n w) (continues : Continues m n) :
    act.Meets rely (Holding inv m) (fun _ u => inv n u) (fun _ u => inv n u) w := by
  unfold Action.Meets Ends
  generalize act.run = program at reads
  induction reads generalizing w with
  | done outcome => cases outcome <;> exact here
  | @call credentials what next read fails goesOn ih =>
      intro t changes
      have before := upkeep.outsides here changes
      rcases serve_call credentials what t with ⟨value, same, answers⟩ | ⟨fault, same, refuses⟩
      · have after := upkeep.answered before (Call.makes_of_read read group n) answers
        exact ⟨⟨n, after, continues⟩, same ▸ ih value after⟩
      · have after := upkeep.alike before refuses.resources refuses.faults
          (congrArg Store.records refuses.store)
        obtain ⟨other, ended⟩ := fails fault
        refine ⟨⟨n, after, continues⟩, ?_⟩
        rw [same, ended]
        exact after

/-- The bytes of a throwaway key are drawn from the tape alone. -/
theorem sshKey (upkeep : Upkeep rely group inv) (here : inv n w) (continues : Continues m n)
    (keys : List String) :
    (Create.sshKey keys).Safe (World.serve Backend.service) rely (Holding inv m)
      (fun _ u => inv n u) w := by
  unfold Create.sshKey
  split
  · exact here
  · intro t changes
    have after : inv n { t with entropy := t.entropy.drop World.keyLength } :=
      upkeep.alike (upkeep.outsides here changes) rfl (fun _ _ found => found) rfl
    exact ⟨⟨n, after, continues⟩, after⟩

end Requests

theorem putPublicIp (upkeep : Upkeep rely c.resourceGroup inv) (here : inv n w)
    (continues : Continues m n) (kind : Owned) {version : String}
    (same : kind.version? = some version) (present : kind.of n = true) {name : String}
    (houses : kind.Houses c.resourceGroup m.name ⟨c.resourceGroup, name⟩) (dualStack : Bool) :
    (Create.putPublicIp c name m.uid version dualStack).Meets rely (Holding inv m)
      (fun _ u => inv n u) (fun _ u => inv n u) w := by
  have makes : (Call.putPublicIp c.resourceGroup name
      (Desired.publicIp c m.uid version dualStack)).Makes c.resourceGroup n :=
    ⟨kind, same, continues.name ▸ houses, present, Naming.hasUid_tags_iff.2 continues.uid.symm⟩
  refine .bind (.context ((upkeep.call here continues makes).mono ?_ fun _ _ after => after))
  exact fun _ u after => .pure after

theorem putNic (upkeep : Upkeep rely c.resourceGroup inv) (here : inv n w)
    (continues : Continues m n) (present : Owned.nic.of n = true)
    (publicIps : Option String × Option String) (dualStack : Bool) :
    (Create.putNic c (Naming.nic m.name) m.uid publicIps dualStack).Meets rely (Holding inv m)
      (fun _ u => inv n u) (fun _ u => inv n u) w := by
  have makes : (Call.putNic c.resourceGroup (Naming.nic m.name)
      (Desired.nic c m.uid publicIps.1 publicIps.2 dualStack)).Makes c.resourceGroup n := by
    refine ⟨?_, present, Naming.hasUid_tags_iff.2 continues.uid.symm⟩
    rw [continues.name]
    rfl
  refine .bind (.context ((upkeep.call here continues makes).mono ?_ fun _ _ after => after))
  exact fun _ u after => .pure after

/-- Each public address is put after its finalizer is committed. -/
theorem publicIps (upkeep : Upkeep rely c.resourceGroup inv) (here : inv n w)
    (continues : Continues m n) (dualStack : Bool) :
    Recorded.Meets rely (Holding inv m) (fun _ p u => inv p u ∧ Continues m p)
      (fun _ p u => inv p u ∧ Continues m p)
      (Create.publicIps c (Naming.nic m.name) m.uid dualStack) n w := by
  unfold Create.publicIps
  split
  · refine .bind ((upkeep.own here continues [.publicIp]).mono ?_ fun _ _ _ met => met)
    rintro _ p u ⟨here, continues, owns⟩
    refine .bind (.recorded ((upkeep.putPublicIp here continues .publicIp rfl (by simp [owns]) rfl
      dualStack).mono ?_ fun _ _ after => ⟨after, continues⟩))
    intro _ t here
    split
    · refine .bind ((upkeep.own here continues [.publicIpv6]).mono ?_ fun _ _ _ met => met)
      rintro _ q v ⟨here, continues, owns⟩
      refine .bind (.recorded ((upkeep.putPublicIp here continues .publicIpv6 rfl (by simp [owns])
        rfl dualStack).mono ?_ fun _ _ after => ⟨after, continues⟩))
      exact fun _ _ after => .pure ⟨after, continues⟩
    · exact .pure ⟨here, continues⟩
  · exact .pure ⟨here, continues⟩

/-- A creation keeps what each of its requests keeps. -/
theorem create_meets {sources : Sources} {userdata : String} {e : Envelope}
    (upkeep : Upkeep rely c.resourceGroup inv) (here : inv m w)
    (resolved : Config.resolve sources m.providerSpec = .ok (c, e)) :
    Recorded.Meets rely (Holding inv m) (fun _ p u => inv p u ∧ Continues m p)
      (fun _ p u => inv p u ∧ Continues m p) (create sources userdata) m w := by
  refine .copy (.settle ?_ ?_)
  · rw [resolved]
    rintro _ ⟨⟩
    refine .bind (.recorded ((upkeep.connect here (.refl m)).mono (fun _ u here => ?_)
      fun _ _ after => ⟨after, .refl m⟩))
    refine .bind ((upkeep.publicIps here (.refl m) _).mono ?_ fun _ _ _ met => met)
    rintro ips p u ⟨here, continues⟩
    refine .bind ((upkeep.own here continues [.nic]).mono ?_ fun _ _ _ met => met)
    rintro _ p u ⟨here, continues, owns⟩
    refine .bind (.recorded ((upkeep.putNic here continues (by simp [owns]) _ _).mono ?_
      fun _ _ after => ⟨after, continues⟩))
    intro nicId u here
    refine .settle (fun storage _ => ?_) fun _ _ => ⟨here, continues⟩
    refine .bind (.lift ((upkeep.sshKey here continues _).mono fun key u here => ?_))
    refine .bind ((upkeep.own here continues [.disks, .vm]).mono ?_ fun _ _ _ met => met)
    rintro _ p u ⟨here, continues, owns⟩
    have makes : (Call.putVm c.resourceGroup m.name (Desired.vm c e.operatingSystem storage m.name
        m.uid nicId key userdata)).Makes c.resourceGroup p := by
      refine ⟨?_, by simp [owns], by simp [owns], Naming.hasUid_tags_iff.2 continues.uid.symm⟩
      rw [continues.name]
      rfl
    refine .bind (.recorded (.context ((upkeep.call here continues makes).mono ?_
      fun _ _ after => ⟨after, continues⟩)))
    intro _ u here
    exact .recorded ((upkeep.reading (Create.readBack_reading c m.name) here continues).mono
      (fun _ _ after => ⟨after, continues⟩) fun _ _ after => ⟨after, continues⟩)
  · rw [resolved]
    intro fault failed
    cases failed

end Upkeep

end Provisioning.Azure
