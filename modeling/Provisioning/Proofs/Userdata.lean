import Provisioning.Kubeconfig
import Provisioning.Proofs.Addresses
import Provisioning.Proofs.Base64
import Provisioning.Proofs.Blanks
import Provisioning.Proofs.Session
import Provisioning.Proofs.Utf8
import Provisioning.Proofs.Verdict

/-!
Texts that travel in Base64: the user data of a machine, and the certificate in a kubeconfig. Main
statement: `userdata_survives`, that both are read as they were written, and that nothing else is
taken for a certificate.
-/

namespace Provisioning

open Provisioning.Text

/-! ### Certificates -/

namespace Kubeconfig

/-- A kubeconfig of one cluster with a certificate. -/
def single (name server data : String) : Kubeconfig := ⟨[⟨name, server, some data⟩]⟩

variable {name server data : String}

/-- The certificate is the text of the bytes that the trimmed data stands for. -/
theorem authorityCertificate_of_spells {bytes : List UInt8}
    (spells : Base64.Spells (trim data).toList bytes) :
    (single name server data).authorityCertificate = .ok (Utf8.decode bytes) := by
  simp only [authorityCertificate, single, soleCluster, ok_bind, Base64.decode?_eq_some.2 spells]

/-- Data is refused exactly if it stands for no bytes. -/
theorem authorityCertificate_eq_error :
    (single name server data).authorityCertificate = .error .invalidAuthorityData ↔
      ∀ bytes, ¬Base64.Spells (trim data).toList bytes := by
  constructor
  · intro refused bytes spells
    cases (authorityCertificate_of_spells spells).symm.trans refused
  · intro none
    cases read : Base64.decode? (trim data) with
    | none => simp only [authorityCertificate, single, soleCluster, ok_bind, read]
    | some bytes => exact absurd (Base64.decode?_eq_some.1 read) (none bytes)

/-- A text that was encoded is the certificate, whatever blanks stand around it. -/
theorem authorityCertificate_encodeCustomData {before after : String}
    (leading : ∀ c ∈ before.toList, isBlank c = true)
    (trailing : ∀ c ∈ after.toList, isBlank c = true) (text : String) :
    (single name server
      (before ++ Azure.Config.encodeCustomData text ++ after)).authorityCertificate = .ok text := by
  have spells : Base64.Spells (Azure.Config.encodeCustomData text).toList (Utf8.encode text) :=
    Base64.decode?_eq_some.1 (Base64.decode?_encode _)
  have trimmed : trim (before ++ Azure.Config.encodeCustomData text ++ after) =
      Azure.Config.encodeCustomData text := by
    rw [trim, String.toList_append, String.toList_append,
      (Trims.of_solid leading spells.not_blank trailing).trimList_eq, String.ofList_toList]
  rw [← trimmed] at spells
  rw [authorityCertificate_of_spells spells, Utf8.decode_encode]

end Kubeconfig

namespace Azure

open Program (Reaches)

/-! ### User data -/

/-- The user data of a virtual machine, as it is read from its custom data. -/
def VirtualMachine.userdata? (vm : VirtualMachine) : Option String :=
  (vm.customData?.bind Base64.decode?).map Utf8.decode

theorem VirtualMachine.userdata?_of_customData? {vm : VirtualMachine} {userdata : String}
    (given : vm.customData? = some (Config.encodeCustomData userdata)) :
    vm.userdata? = some userdata := by
  rw [userdata?, given, Option.bind_some, Config.encodeCustomData, Base64.decode?_encode,
    Option.map_some, Utf8.decode_encode]

variable {userdata : String} {w v u : World Backend} {m : Machine} {sources : Sources}

/-- A request that reads, or one of a creation that provides certain user data. -/
def Request.Provides (userdata : String) : Request → Prop
  | .call _ what => what.isWrite = false ∨ what.Provides userdata
  | _ => True

/-- Every virtual machine was there before as it is, or has certain user data. -/
def Provided (userdata : String) (w v : World Backend) : Prop :=
  ∀ key vm, v.backend.resources.vms.get? key = some vm →
    w.backend.resources.vms.get? key = some vm ∨ vm.userdata? = some userdata

namespace Provided

theorem perform {b : Backend} {what : Call} {value : what.Value} {next : Resources}
    (provides : what.Provides userdata) (performed : b.perform what = .ok (value, next)) :
    ∀ key vm, next.vms.get? key = some vm →
      b.resources.vms.get? key = some vm ∨ vm.userdata? = some userdata := by
  cases what with
  | putPublicIp group name body =>
      obtain ⟨address, count, _, rfl⟩ := Call.exists_of_putPublicIp performed
      exact fun _ _ => .inl
  | putNic group name body =>
      obtain ⟨_, addresses, total, _, _, rfl⟩ := Resources.putNic_eq_ok performed
      exact fun _ _ => .inl
  | putVm group name body =>
      obtain ⟨_, _, rfl⟩ := Resources.putVm_eq_ok.1 performed
      refine SortedMap.forall_insert (fun _ _ => .inl) (.inr ?_)
      have given : (body.stored ⟨group, name⟩).customData? =
          some (Config.encodeCustomData userdata) := provides
      exact VirtualMachine.userdata?_of_customData? given
  | _ => cases provides

theorem of_resources (same : v.backend.resources = w.backend.resources) :
    Provided userdata w v := by
  intro key vm found
  rw [same] at found
  exact .inl found

theorem refl (userdata : String) (w : World Backend) : Provided userdata w w := of_resources rfl

theorem trans (first : Provided userdata w v) (last : Provided userdata v u) :
    Provided userdata w u := by
  intro key vm found
  rcases last key vm found with earlier | provided
  · exact first key vm earlier
  · exact .inr provided

theorem serve {q : Request} (own : q.Provides userdata) (w : World Backend) :
    Provided userdata w (World.serve Backend.service q w).2 := by
  cases q with
  | call credentials what =>
      rcases own with reads | provides
      · exact of_resources (World.resources_serve (q := .call credentials what) reads)
      · rcases serve_call credentials what w with ⟨value, _, answers⟩ | ⟨fault, _, refuses⟩
        · exact perform provides answers.performed
        · exact of_resources refuses.resources
  | connect | commit | recallSize | rememberSize | throwawayBytes => exact refl userdata w

theorem faulted {possible : AzureError → Prop} (change : Faulted possible w v) :
    Provided userdata w v := by
  cases change with
  | call | update => exact refl userdata w

/-- Whatever a creation has done wherever it is cut off, new virtual machines have its user data. -/
theorem of_create {left : Asking (Except CloudError Instance × Machine)}
    (reached : Reaches (World.serve Backend.service) (Faulted fun _ => True)
      ((create sources userdata).run.run m) w left v) : Provided userdata w v := by
  have permits : Permits (Request.Provides userdata) :=
    ⟨fun _ => trivial, fun _ _ reads => .inl reads, trivial⟩
  have commits : Commits (Provided userdata w) (Request.Provides userdata) fun _ => True :=
    fun _ _ _ => Recorded.Asks.update trivial trivial fun _ _ _ _ => trivial
  have asks : Recorded.Asks (Provided userdata w) (Request.Provides userdata) (fun _ => True)
      (fun _ => True) (create sources userdata) m :=
    create_asks permits trivial commits fun _ _ _ _ _ provides => .inr provides
  exact (asks.reaches reached (refl userdata w) (fun before change => before.trans (faulted change))
    fun before own => before.trans (serve own _)).1

end Provided

/-- A virtual machine is there and has certain user data. -/
def Resources.Has (r : Resources) (key : ResourceKey) (userdata : String) : Prop :=
  ∃ vm, r.vms.get? key = some vm ∧ vm.userdata? = some userdata

theorem Resources.Has.of_bare {key : ResourceKey} (has : v.backend.resources.Has key userdata)
    (same : u.backend.bare = v.backend.bare) : u.backend.resources.Has key userdata := by
  change u.backend.bare.resources.Has key userdata
  rw [same]
  exact has

theorem Create.resources_provides {c : Config} {e : Envelope} {name uid : String} (n : Machine)
    (t : World Backend) :
    Recorded.Meets (Faulted fun _ => True) (fun _ _ => True)
      (fun _ _ u => u.backend.resources.Has ⟨c.resourceGroup, name⟩ userdata) (fun _ _ _ => True)
      (resources c e name uid userdata) n t := by
  unfold resources
  refine .after (fun ids n t => ?_) n t
  refine .after (fun _ n t => ?_) n t
  refine .after (fun nicId n t => ?_) n t
  refine .settle (fun storage _ => ?_) fun _ _ => trivial
  refine .after (fun key n t => ?_) n t
  refine .after (fun _ n t => ?_) n t
  refine .bind (.recorded (.context (.call ?_ fun _ _ _ _ _ => ⟨trivial, trivial⟩)))
  intro t value u _ answers
  obtain ⟨_, _, next⟩ := Resources.putVm_eq_ok.1 answers.performed
  have stored : u.backend.resources.Has ⟨c.resourceGroup, name⟩ userdata := by
    let body := Desired.vm c e.operatingSystem storage name uid nicId key userdata
    have given : (body.stored ⟨c.resourceGroup, name⟩).customData? =
        some (Config.encodeCustomData userdata) := rfl
    refine ⟨body.stored ⟨c.resourceGroup, name⟩, ?_, VirtualMachine.userdata?_of_customData? given⟩
    rw [next, Resources.withVm, SortedMap.get?_insert, if_pos rfl]
  refine ⟨trivial, .recorded (((readBack_reading c name).meets rfl).mono ?_ fun _ _ met => met)⟩
  rintro _ s ⟨same, _⟩
  exact stored.of_bare same

/-- A creation that succeeds has provided the machine with the user data. -/
theorem create_provides : Recorded.Meets (Faulted fun _ => True) (fun _ _ => True)
    (fun _ _ u => ∃ c e, Config.resolve sources m.providerSpec = .ok (c, e) ∧
      u.backend.resources.Has ⟨c.resourceGroup, m.name⟩ userdata)
    (fun _ _ _ => True) (create sources userdata) m w := by
  refine .copy (.settle ?_ fun _ _ => trivial)
  rintro ⟨c, e⟩ settled
  refine .after (fun _ n t => ?_) m w
  exact (Create.resources_provides n t).mono
    (fun _ _ _ stored => ⟨c, e, mapError_eq_ok.1 settled, stored⟩) fun _ _ _ met => met

theorem has_of_create {i : Instance} {copy : Machine}
    (reached : Reaches (World.serve Backend.service) (Faulted fun _ => True)
      ((create sources userdata).run.run m) w (.done (.ok i, copy)) v) :
    ∃ c e, Config.resolve sources m.providerSpec = .ok (c, e) ∧
      v.backend.resources.Has ⟨c.resourceGroup, m.name⟩ userdata := by
  obtain ⟨u, changes, c, e, resolved, stored⟩ := reached.safe create_provides
  exact ⟨c, e, resolved, stored.of_bare (bare_of_faulted changes)⟩

/-- What was encoded is decoded as it was: by whoever reads a certificate, whatever blanks stand
around it, and by a machine that reads its user data, wherever its creation was cut off. No other
data is taken for a certificate. -/
theorem userdata_survives (text : String) :
    (∀ name server before after, (∀ c ∈ before.toList, isBlank c = true) →
      (∀ c ∈ after.toList, isBlank c = true) →
      (Kubeconfig.single name server
        (before ++ Config.encodeCustomData text ++ after)).authorityCertificate = .ok text) ∧
    (∀ sources m w v left, Reaches (World.serve Backend.service) (Faulted fun _ => True)
        ((create sources text).run.run m) w left v →
      Provided text w v ∧
      ∀ i copy, left = .done (.ok i, copy) →
        ∃ c e, Config.resolve sources m.providerSpec = .ok (c, e) ∧
          v.backend.resources.Has ⟨c.resourceGroup, m.name⟩ text) ∧
    ∀ name server data,
      (Kubeconfig.single name server data).authorityCertificate = .error .invalidAuthorityData ↔
        ∀ bytes, ¬Base64.Spells (trim data).toList bytes := by
  refine ⟨fun _ _ _ _ leading trailing => ?_, fun _ _ _ _ _ reached => ?_, fun _ _ _ => ?_⟩
  · exact Kubeconfig.authorityCertificate_encodeCustomData leading trailing text
  · refine ⟨.of_create reached, ?_⟩
    rintro i copy rfl
    exact has_of_create reached
  · exact Kubeconfig.authorityCertificate_eq_error

namespace Sample

/-- A creation with user data that is not all ASCII. -/
def scripted : (Except CloudError Instance × Machine) × World Backend :=
  World.run Backend.service ((create Sample.sources "#cloud: ü").run.run machine) world

theorem exists_scripted : ∃ i copy u, scripted = ((.ok i, copy), u) :=
  exists_of_succeeds (by decide +kernel)

end Sample

/-- A script with blanks around it, and data whose last digit has bits under the padding. -/
theorem userdata_survives_script :
    (Kubeconfig.single "prod" "https://api" "\n I2Nsb3VkOiDDvA==\u2003").authorityCertificate =
      .ok "#cloud: ü" ∧
    Sample.scripted.2.backend.resources.Has
      ⟨Sample.resolved.1.resourceGroup, Sample.machine.name⟩ "#cloud: ü" ∧
    (Kubeconfig.single "prod" "https://api" "QR==").authorityCertificate =
      .error .invalidAuthorityData ∧ ∀ bytes, ¬Base64.Spells (trim "QR==").toList bytes := by
  have ⟨reads, creates, refuses⟩ := userdata_survives "#cloud: ü"
  have written : "\n " ++ Config.encodeCustomData "#cloud: ü" ++ "\u2003" =
      "\n I2Nsb3VkOiDDvA==\u2003" := by decide +kernel
  have read := reads "prod" "https://api" "\n " "\u2003" (List.all_eq_true.1 (by decide))
    (List.all_eq_true.1 (by decide))
  rw [written] at read
  obtain ⟨i, copy, u, created⟩ := Sample.exists_scripted
  have reached : Reaches (World.serve Backend.service) (Faulted fun _ => True)
      ((create Sample.sources "#cloud: ü").run.run Sample.machine) Sample.world
      (.done Sample.scripted.1) Sample.scripted.2 := Program.reaches_run _ _
  rw [created] at reached
  obtain ⟨c, e, resolved, has⟩ := (creates _ _ _ _ _ reached).2 i copy rfl
  cases Sample.resolve_spec.symm.trans resolved
  have refused : (Kubeconfig.single "prod" "https://api" "QR==").authorityCertificate =
      .error .invalidAuthorityData := by decide +kernel
  rw [created]
  exact ⟨read, has, refused, (refuses _ _ _).1 refused⟩

end Azure

end Provisioning
