import Provisioning.Proofs.Resolution
import Provisioning.Proofs.Utf8

/-!
What the environment has to do with a configuration: it is asked for the four credentials, and only
where they are missing. `Config.filled` is a configuration resolved without an environment and
filled in from one, and `ofSettings_eq` says that this is the one resolved with it. Main statement:
`resolve_within`.
-/

namespace Provisioning

/-- A text is read from the bytes of that text, and from no others. -/
theorem Environment.read_eq_ok {e : Environment} {name text : String} :
    e.read name = .ok text ↔ e.bytes? name = some (Text.Utf8.encode text) := by
  unfold read
  cases e.bytes? name with
  | none => exact iff_of_false nofun nofun
  | some bytes =>
      rw [Option.some.injEq, ← Text.Utf8.text?_eq_some]
      dsimp only
      cases Text.Utf8.text? bytes with
      | none => exact iff_of_false nofun nofun
      | some found => simp

/-- A variable that names no environment variable. -/
def StringVar.nameless (v : StringVar) : StringVar := { v with envVar := none }

namespace Sources

/-- The same secrets and config maps in another environment. -/
def within (s : Sources) (e : Environment) : Sources := { s with environment := e.read }

/-- The same secrets and config maps in an empty environment. -/
def bare (s : Sources) : Sources := { s with environment := fun _ => .error .absent }

theorem orEnvironment_bare (s : Sources) (own : Option String) (default text : String) :
    s.bare.orEnvironment own default text = text := by
  unfold orEnvironment fromEnvironment
  by_cases missing : text = ""
  · rw [if_pos missing, missing]
    cases own.filter fun name => !name.isEmpty <;> rfl
  · rw [if_neg missing]

theorem stringOrEnv_bare (s : Sources) (v : StringVar) (default : String) :
    s.bare.stringOrEnv v default = s.string v := by
  have same : s.bare.orEnvironment v.envVar default = id :=
    funext (s.orEnvironment_bare v.envVar default)
  rw [stringOrEnv_eq, same, Except.map_id]
  rfl

end Sources

namespace Azure

/-- A configuration with its credentials filled in from the environment where they are missing. -/
def Config.filled (sources : Sources) (s : Settings) (c : Config) : Config := { c with
  subscriptionId := TextField.subscriptionId.orEnvironment sources s c.subscriptionId
  tenantId := TextField.tenantId.orEnvironment sources s c.tenantId
  clientId := TextField.clientId.orEnvironment sources s c.clientId
  clientSecret := TextField.clientSecret.orEnvironment sources s c.clientSecret }

/-- A section is resolved without the environment and then filled in from it. -/
theorem ofSettings_eq (sources : Sources) (s : Settings) :
    Config.ofSettings sources s =
      (Config.ofSettings sources.bare s).map (Config.filled sources s) := by
  unfold Config.ofSettings
  -- Both sides look up the same texts in the same order, one filling in as it goes.
  simp only [Sources.stringOrEnv_bare]
  simp only [Sources.stringOrEnv_eq, bind_of_map, map_of_bind]
  rfl

namespace TextField

variable {sources : Sources} {s : Settings} {field : TextField}

theorem isSome_of_mem_names {name : String} (listed : name ∈ field.names s) :
    field.fallback?.isSome = true := by
  unfold names at listed
  cases standard : field.fallback? with
  | some default => rfl
  | none =>
      rw [standard] at listed
      cases listed

theorem held_filled (sources : Sources) (s : Settings) (c : Config) (field : TextField) :
    field.held (c.filled sources s) = field.orEnvironment sources s (field.held c) := by
  cases field <;> rfl

/-- What has a text does not take it from the environment. -/
theorem orEnvironment_of_ne {text : String} (there : text ≠ "") :
    field.orEnvironment sources s text = text := by
  unfold orEnvironment Sources.orEnvironment
  cases field.fallback? with
  | some default => exact if_neg there
  | none => rfl

theorem orEnvironment_bare (sources : Sources) (s : Settings) (field : TextField) (text : String) :
    field.orEnvironment sources.bare s text = text := by
  unfold orEnvironment
  cases field.fallback? with
  | some default => exact sources.orEnvironment_bare _ default text
  | none => rfl

/-- A name of its own hides the standard one if the environment has a text under it. -/
theorem orEnvironment_of_own {name default : String} (standard : field.fallback? = some default)
    (own : (field.written s).envVar = some name) (given : name ≠ "") :
    field.orEnvironment sources s "" =
      (sources.inherited? name).getD ((sources.inherited? default).getD "") := by
  have kept : (!name.isEmpty) = true := by simpa using given
  unfold orEnvironment
  rw [standard]
  change sources.fromEnvironment (field.written s).envVar default = _
  unfold Sources.fromEnvironment
  rw [own, Option.filter_some, if_pos kept, Option.bind_some]

/-- There is no variable without a name, so that an empty name does not hide the standard one. -/
theorem orEnvironment_within {e : Environment} {name default : String}
    (standard : field.fallback? = some default) (own : (field.written s).envVar = some name) :
    field.orEnvironment (sources.within e) s "" =
      (e.get? name).getD ((e.get? default).getD "") := by
  by_cases given : name = ""
  · subst given
    unfold orEnvironment
    rw [standard]
    change (sources.within e).fromEnvironment (field.written s).envVar default = _
    unfold Sources.fromEnvironment
    rw [own]
    rfl
  · exact orEnvironment_of_own standard own given

/-- Without an environment a credential holds what its own variable says. -/
theorem string_of_ofSettings_bare {c : Config} (credential : field.fallback?.isSome = true)
    (settled : Config.ofSettings sources.bare s = .ok c) :
    sources.string (field.written s) = .ok (field.held c) := by
  obtain ⟨texts, publicIp, said, _, rfl⟩ := ofSettings_eq_ok.1 settled
  have own : field ≠ .vnetResourceGroup := by
    rintro rfl
    cases credential
  have told := said field
  rw [said_eq, funext (orEnvironment_bare sources s field), map_eq_ok] at told
  obtain ⟨text, known, rfl⟩ := told
  rw [held_config own]
  exact known

end TextField

/-- A section without the names of environment variables that are not for credentials. -/
def Settings.essential (s : Settings) : Settings := { s with
  location := s.location.nameless
  resourceGroup := s.resourceGroup.nameless
  vnetResourceGroup := s.vnetResourceGroup.nameless
  vmSize := s.vmSize.nameless
  vnetName := s.vnetName.nameless
  subnetName := s.subnetName.nameless
  loadBalancerSku := s.loadBalancerSku.nameless
  routeTableName := s.routeTableName.nameless
  availabilitySet := s.availabilitySet.nameless
  securityGroupName := s.securityGroupName.nameless
  imageId := s.imageId.nameless }

theorem ofSettings_essential (sources : Sources) (s : Settings) :
    Config.ofSettings sources s.essential = Config.ofSettings sources s :=
  rfl

/-- Two environments fill in the same if they say the same of what is missing. -/
theorem filled_congr {first second : Sources} {s : Settings} {c : Config}
    (same : ∀ field : TextField, field.held c = "" → ∀ name ∈ field.names s,
      first.inherited? name = second.inherited? name) :
    c.filled first s = c.filled second s := by
  have filled (field : TextField) :
      field.orEnvironment first s (field.held c) = field.orEnvironment second s (field.held c) := by
    by_cases missing : field.held c = ""
    · exact TextField.orEnvironment_congr (same field missing) _
    · rw [TextField.orEnvironment_of_ne missing, TextField.orEnvironment_of_ne missing]
  have subscription := filled .subscriptionId
  have tenant := filled .tenantId
  have client := filled .clientId
  have secret := filled .clientSecret
  unfold TextField.held at subscription tenant client secret
  unfold Config.filled
  rw [subscription, tenant, client, secret]

/-- Two configurations differ in credentials alone, and in those only where they are missing and
the environments differ in a name that is for them. -/
structure Differ (sources : Sources) (s : Settings) (first second : Environment) (c d : Config) :
    Prop where
  others : d = { c with
    subscriptionId := d.subscriptionId
    tenantId := d.tenantId
    clientId := d.clientId
    clientSecret := d.clientSecret }
  due : ∀ field : TextField, field.held c ≠ field.held d →
    sources.string (field.written s) = .ok "" ∧
      ∃ name ∈ field.names s, first.get? name ≠ second.get? name

variable {sources : Sources} {spec : ProviderSpec} {envelope : Envelope} {s : Settings}

theorem differ_filled {c : Config} (settled : Config.ofSettings sources.bare s = .ok c)
    (first second : Environment) :
    Differ sources s first second (c.filled (sources.within first) s)
      (c.filled (sources.within second) s) where
  others := rfl
  due field different := by
    rw [TextField.held_filled, TextField.held_filled] at different
    have missing : field.held c = "" := by
      refine Decidable.byContradiction fun there => different ?_
      rw [TextField.orEnvironment_of_ne there, TextField.orEnvironment_of_ne there]
    have named : ¬∀ name ∈ field.names s, first.get? name = second.get? name :=
      fun same => different (TextField.orEnvironment_congr same _)
    simp only [Classical.not_forall] at named
    obtain ⟨name, listed, changed⟩ := named
    refine ⟨?_, name, listed, changed⟩
    have credential := TextField.isSome_of_mem_names listed
    rw [TextField.string_of_ofSettings_bare credential settled, missing]

/-- A specification that can be read resolves as its section does. -/
theorem Parses.resolve_eq (parses : Parses spec envelope s) (sources : Sources) :
    Config.resolve sources spec =
      ((Config.ofSettings sources s).mapError AzureError.cloud).map fun c => (c, envelope) := by
  have outer := ofSpec_eq_ok.2 ⟨parses.outer, parses.system⟩
  have inner := ofJson_eq_ok.2 parses.inner
  simp only [Config.resolve, outer, inner, mapError_ok, ok_bind]
  cases Config.ofSettings sources s <;> rfl

/-- Only the section of a specification makes a difference; one that cannot be read fails alike. -/
theorem resolve_congr {first second : Sources}
    (same : ∀ envelope s, Parses spec envelope s →
      Config.ofSettings first s = Config.ofSettings second s) :
    Config.resolve first spec = Config.resolve second spec := by
  cases outer : Envelope.ofSpec spec with
  | error fault => simp only [Config.resolve, outer, mapError_error, error_bind]
  | ok envelope =>
      cases inner : Settings.ofJson envelope.cloudProviderSpec with
      | error fault => simp only [Config.resolve, outer, inner, mapError_ok, ok_bind, error_bind]
      | ok s =>
          obtain ⟨written, system⟩ := ofSpec_eq_ok.1 outer
          have parses : Parses spec envelope s := ⟨written, system, ofJson_eq_ok.1 inner⟩
          rw [parses.resolve_eq, parses.resolve_eq, same envelope s parses]

/-- Environments that say the same of the credentials that are missing resolve to the same. -/
theorem ofSettings_within {first second : Environment}
    (same : ∀ field : TextField, sources.string (field.written s) = .ok "" →
      ∀ name ∈ field.names s, first.get? name = second.get? name) :
    Config.ofSettings (sources.within first) s = Config.ofSettings (sources.within second) s := by
  rw [ofSettings_eq, ofSettings_eq (sources.within second)]
  change (Config.ofSettings sources.bare s).map _ = (Config.ofSettings sources.bare s).map _
  cases settled : Config.ofSettings sources.bare s with
  | error fault => rfl
  | ok c =>
      refine congrArg Except.ok (filled_congr fun field missing name listed => ?_)
      have credential : field.fallback?.isSome = true := TextField.isSome_of_mem_names listed
      have said := TextField.string_of_ofSettings_bare credential settled
      rw [missing] at said
      exact same field said name listed

/-- What fails in one environment fails in each, and for the same reason. -/
theorem resolve_within_error {first : Environment} {fault : AzureError}
    (ended : Config.resolve (sources.within first) spec = .error fault) (second : Environment) :
    Config.resolve (sources.within second) spec = .error fault := by
  rw [← ended]
  refine resolve_congr fun envelope s parses => ?_
  rw [parses.resolve_eq, ofSettings_eq] at ended
  rw [ofSettings_eq, ofSettings_eq (sources.within first)]
  change (Config.ofSettings sources.bare s).map _ = (Config.ofSettings sources.bare s).map _
  change (((Config.ofSettings sources.bare s).map _).mapError _).map _ = _ at ended
  cases settled : Config.ofSettings sources.bare s with
  | error fault => rfl
  | ok c =>
      rw [settled] at ended
      cases ended

/-- What resolves in one environment has been filled in from it. -/
theorem Parses.exists_filled (parses : Parses spec envelope s) {e : Environment} {c : Config}
    (ended : Config.resolve (sources.within e) spec = .ok (c, envelope)) :
    ∃ plain, Config.ofSettings sources.bare s = .ok plain ∧
      plain.filled (sources.within e) s = c := by
  obtain ⟨r, again, settled⟩ := resolve_eq_ok.1 ended
  obtain ⟨_, rfl⟩ := parses.unique again
  rw [ofSettings_eq, map_eq_ok] at settled
  exact settled

theorem Parses.resolve_of_bare (parses : Parses spec envelope s) {plain : Config}
    (settled : Config.ofSettings sources.bare s = .ok plain) (e : Environment) :
    Config.resolve (sources.within e) spec =
      .ok (plain.filled (sources.within e) s, envelope) := by
  refine resolve_eq_ok.2 ⟨s, parses, ?_⟩
  rw [ofSettings_eq, map_eq_ok]
  exact ⟨plain, settled, rfl⟩

/-- The environment supplies missing credentials and nothing else. Environments that say the same of
what is missing make no difference, and neither does a name of an environment variable that is
written elsewhere. Any other environment changes no error, and only those credentials that are
missing and for which it says something else; and a name of its own hides the standard one of a
credential if there is a text under it, be it empty, but not if there is none. -/
theorem resolve_within (sources : Sources) (spec : ProviderSpec) (first second : Environment) :
    ((∀ envelope s, Parses spec envelope s → ∀ field : TextField,
        sources.string (field.written s) = .ok "" →
        ∀ name ∈ field.names s, first.get? name = second.get? name) →
      Config.resolve (sources.within first) spec = Config.resolve (sources.within second) spec) ∧
    (∀ other envelope envelope' s r, Parses spec envelope s → Parses other envelope' r →
      s.essential = r.essential →
      (Config.resolve (sources.within first) spec).map Prod.fst =
        (Config.resolve (sources.within first) other).map Prod.fst) ∧
    (∀ fault, Config.resolve (sources.within first) spec = .error fault →
      Config.resolve (sources.within second) spec = .error fault) ∧
    ∀ c envelope s, Config.resolve (sources.within first) spec = .ok (c, envelope) →
      Parses spec envelope s →
      (∃ d, Config.resolve (sources.within second) spec = .ok (d, envelope) ∧
        Differ sources s first second c d) ∧
      ∀ (field : TextField) (name default : String), field.fallback? = some default →
        sources.string (field.written s) = .ok "" → (field.written s).envVar = some name →
        (∀ value, first.read name = .ok value → field.held c = value) ∧
        ∀ lack, first.read name = .error lack → field.held c = (first.get? default).getD "" := by
  refine ⟨fun same => ?_, ?_, ?_, ?_⟩
  · exact resolve_congr fun envelope s parses => ofSettings_within (same envelope s parses)
  · intro other envelope envelope' s r parses parses' same
    have settled : Config.ofSettings (sources.within first) s =
        Config.ofSettings (sources.within first) r := by
      rw [← ofSettings_essential, same, ofSettings_essential]
    rw [parses.resolve_eq, parses'.resolve_eq, settled]
    cases Config.ofSettings (sources.within first) r <;> rfl
  · intro fault ended
    exact resolve_within_error ended second
  · intro c envelope s ended parses
    obtain ⟨plain, settled, rfl⟩ := parses.exists_filled ended
    refine ⟨⟨_, parses.resolve_of_bare settled second, differ_filled settled first second⟩, ?_⟩
    intro field name default standard missing own
    have credential : field.fallback?.isSome = true := by rw [standard]; rfl
    have said := TextField.string_of_ofSettings_bare credential settled
    have empty : field.held plain = "" := Except.ok.inj (said.symm.trans missing)
    have held : field.held (plain.filled (sources.within first) s) =
        (first.get? name).getD ((first.get? default).getD "") := by
      rw [TextField.held_filled, empty]
      exact TextField.orEnvironment_within standard own
    constructor
    · intro value there
      have found : first.get? name = some value := congrArg Except.toOption there
      rw [held, found]
      rfl
    · intro lack missing
      have lost : first.get? name = none := congrArg Except.toOption missing
      rw [held, lost]
      rfl

namespace Sample

def guarded : Sources := referred.sources inherited

/-- An environment with credentials that nobody asked for. -/
def meddling : Environment := .ofTexts (.ofList [("AZURE_CLIENT_ID", "client"),
  ("AZURE_CLIENT_SECRET", "foreign"), ("AZURE_SUBSCRIPTION_ID", "foreign"),
  ("AZURE_TENANT_ID", "standard"), ("MY_TENANT", "tenant")])

/-- An environment in which the name that the specification gives is empty. -/
def vacant : Environment :=
  .ofTexts (.ofList [("AZURE_TENANT_ID", "standard"), ("MY_TENANT", "")])

variable {envelope : Envelope} {s : Settings} (parses : Parses referring envelope s)

include parses

theorem clientSecret_ne : guarded.string s.clientSecret ≠ .ok "" := by
  obtain ⟨_, _, _, secret⟩ := credentials_of_parses parses
  rw [secret]
  change Except.ok "hidden" ≠ .ok ""
  simp

/-- The tenant and the client are missing, of which both environments say the same. -/
theorem inherited_eq_meddling (field : TextField)
    (missing : guarded.string (field.written s) = .ok "") :
    ∀ name ∈ field.names s, inherited.get? name = meddling.get? name := by
  obtain ⟨subscription, tenant, client, _⟩ := credentials_of_parses parses
  intro name listed
  cases field with
  | subscriptionId =>
      have there : guarded.string s.subscriptionId ≠ .ok "" := by
        rw [subscription]
        change Except.ok "subscription" ≠ .ok ""
        simp
      exact absurd missing there
  | clientSecret => exact absurd missing (clientSecret_ne parses)
  | tenantId =>
      simp only [TextField.names, TextField.fallback?, TextField.written, tenant] at listed
      rcases List.mem_cons.1 listed with rfl | own
      · decide +kernel
      · cases List.mem_singleton.1 own
        decide +kernel
  | clientId =>
      simp only [TextField.names, TextField.fallback?, TextField.written, client] at listed
      cases List.mem_singleton.1 listed
      decide +kernel
  | _ => cases listed

end Sample

/-- Secrets in the environment do not replace one that is there, and an empty tenant is not replaced
by the standard one. -/
theorem resolve_within_meddling :
    Sample.inherited.get? "AZURE_CLIENT_SECRET" ≠ Sample.meddling.get? "AZURE_CLIENT_SECRET" ∧
    Config.resolve (Sample.guarded.within Sample.inherited) Sample.referring =
      Config.resolve (Sample.guarded.within Sample.meddling) Sample.referring ∧
    ∃ c d envelope s,
      Config.resolve (Sample.guarded.within Sample.vacant) Sample.referring = .ok (c, envelope) ∧
      Config.resolve (Sample.guarded.within Sample.meddling) Sample.referring = .ok (d, envelope) ∧
      Differ Sample.guarded s Sample.vacant Sample.meddling c d ∧
      c.tenantId = "" ∧ c.clientSecret = "hidden" ∧ d.clientSecret = "hidden" := by
  refine ⟨by decide +kernel, ?_, ?_⟩
  · exact (resolve_within Sample.guarded Sample.referring Sample.inherited Sample.meddling).1
      fun _ _ parses => Sample.inherited_eq_meddling parses
  · have held : (Config.resolve (Sample.guarded.within Sample.vacant)
        Sample.referring).toOption.map (fun resolution => resolution.1.clientSecret) =
      some "hidden" := by decide +kernel
    cases ended : Config.resolve (Sample.guarded.within Sample.vacant) Sample.referring with
    | error fault =>
        rw [ended] at held
        cases held
    | ok resolution =>
        rw [ended] at held
        obtain ⟨c, envelope⟩ := resolution
        obtain ⟨s, parses, _⟩ := resolve_eq_ok.1 ended
        obtain ⟨⟨d, other, differ⟩, own⟩ := (resolve_within Sample.guarded Sample.referring
          Sample.vacant Sample.meddling).2.2.2 c envelope s ended parses
        obtain ⟨_, tenant, _, _⟩ := Sample.credentials_of_parses parses
        have missing : Sample.guarded.string s.tenantId = .ok "" := by
          rw [tenant]
          rfl
        have named : s.tenantId.envVar = some "MY_TENANT" := by
          rw [tenant]
          rfl
        have blank : Sample.vacant.read "MY_TENANT" = .ok "" :=
          Environment.read_eq_ok.2 (by decide +kernel)
        have hides : c.tenantId = "" := (own .tenantId "MY_TENANT" _ rfl missing named).1 "" blank
        have kept : c.clientSecret = "hidden" := Option.some.inj held
        have unchanged : c.clientSecret = d.clientSecret := Decidable.byContradiction
          fun changed => Sample.clientSecret_ne parses (differ.due .clientSecret changed).1
        exact ⟨c, d, envelope, s, rfl, other, differ, hides, kept, unchanged.symm.trans kept⟩

namespace Sample

/-- A specification whose tenant is in the environment under some name. -/
def borrowing (name : String) : ProviderSpec where
  value := some (.object [
    ("cloudProvider", .string "azure"),
    ("operatingSystem", .string "ubuntu"),
    ("operatingSystemSpec", .object []),
    ("cloudProviderSpec", .object [("tenantID", .object [("envVar", .string name)])])])

/-- The tenant of a specification in an environment. -/
def tenant? (e : Environment) (spec : ProviderSpec) : Option String :=
  (Config.resolve (.ofEnvironment e) spec).toOption.map fun resolution => resolution.1.tenantId

/-- An environment in which a variable is there but its value is no text. -/
def garbled : Environment :=
  ⟨.ofList [("AZURE_TENANT_ID", Text.Utf8.encode "standard"), ("MY_TENANT", [0xFF])]⟩

/-- An environment with some variable besides the standard one for the tenant. -/
def besides (value : String) : Environment :=
  .ofTexts (.ofList [("AZURE_TENANT_ID", "standard"), ("X", value)])

end Sample

/-- A name of its own does not hide the standard one although the environment has a variable of that
name, if that is no text; and a name with an equals sign reaches into a variable that no field
names. -/
theorem exists_unhidden :
    Sample.garbled.bytes? "MY_TENANT" = some [0xFF] ∧
      Sample.tenant? Sample.garbled (Sample.borrowing "MY_TENANT") = some "standard" ∧
      Sample.tenant? (Sample.besides "z") (Sample.borrowing "X=y") = some "standard" ∧
      Sample.tenant? (Sample.besides "y=found") (Sample.borrowing "X=y") = some "found" := by
  decide +kernel

end Azure

end Provisioning
