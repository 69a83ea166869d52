import Provisioning.Azure.Config
import Provisioning.Proofs.Outcomes

/-!
When a configuration can be resolved from a table of secrets and config maps, and what its fields
then are. `Settings.Found` says that whatever the variables of a section refer to is in the table,
`Settings.config` puts a configuration together from what they say. Main statement:
`resolve_iff_found`.
-/

namespace Provisioning

open Provisioning.Text

namespace Record

theorem mem_of_stranger?_eq_none {known : List String} {members : List (String × Json)} :
    ∀ {start : Nat}, stranger? known start members = none →
      ∀ member ∈ members, member.1 ∈ known := by
  induction members with
  | nil => simp
  | cons first rest ih =>
      intro start none member listed
      unfold stranger? at none
      split at none
      · rename_i here
        rcases List.mem_cons.1 listed with rfl | later
        · exact List.contains_iff_mem.1 here
        · exact ih none member later
      · cases none

/-- A strict record has no members but its fields. -/
theorem mem_names_of_decode {τ : Type} {title : String} {record : Record τ}
    {members : List (String × Json)} {values : τ}
    (read : record.decode title true (.object members) = .ok values) :
    ∀ member ∈ members, member.1 ∈ record.names := by
  unfold decode at read
  cases strange : stranger? record.names 0 members with
  | none => exact mem_of_stranger?_eq_none strange
  | some stranger =>
      simp only [strange, if_true] at read
      cases rest : record.fromMembers members <;> simp [rest, Placed.both] at read

end Record

/-- An entry of a table that a variable can refer to. -/
inductive Reference where
  | secret (ref : KeyRef)
  | configMap (ref : KeyRef)

namespace Reference

/-- The reference that counts, which is the one to a secret if there are two. -/
def select : Option KeyRef → Option KeyRef → Option Reference
  | some ref, _ => some (.secret ref)
  | none, some ref => some (.configMap ref)
  | none, none => none

end Reference

namespace SecretTable

/-- The text that a reference stands for, if it is in the table. -/
def text? (t : SecretTable) : Reference → Option String
  | .secret ref => last? ref t.secrets
  | .configMap ref => last? ref t.configMaps

/-- A reference that counts is looked up or there is no result. -/
theorem referenced_eq_ok {t : SecretTable} (reliable : t.failures = []) (e : Environment)
    (secret configMap : Option KeyRef) {found : Option String} :
    (t.sources e).referenced secret configMap = .ok found ↔
      (∀ reference ∈ Reference.select secret configMap, (t.text? reference).isSome = true) ∧
        (Reference.select secret configMap).bind t.text? = found := by
  have calm (ref : KeyRef) : last? ref t.failures = none := by
    rw [reliable]
    rfl
  cases secret with
  | some ref =>
      simp only [Sources.referenced, Sources.secretValue, sources, calm, Reference.select]
      cases there : last? ref t.secrets <;> simp [ok_bind, ok_map, error_map, text?, there]
  | none =>
      cases configMap with
      | some ref =>
          simp only [Sources.referenced, Sources.configMapValue, sources, Reference.select]
          cases there : last? ref t.configMaps <;> simp [ok_bind, ok_map, error_map, text?, there]
      | none => simp [Sources.referenced, Reference.select]

end SecretTable

namespace StringVar

def reference? (v : StringVar) : Option Reference :=
  Reference.select v.secretKeyRef v.configMapKeyRef

/-- A variable without a value of its own refers to what is there, if to anything. -/
def Found (v : StringVar) (t : SecretTable) : Prop :=
  v.value = "" → ∀ reference ∈ v.reference?, (t.text? reference).isSome = true

/-- The value of a variable, or the text that it refers to. -/
def text (v : StringVar) (t : SecretTable) : String :=
  if v.value = "" then (v.reference?.bind t.text?).getD "" else v.value

end StringVar

namespace BoolVar

def reference? (v : BoolVar) : Option Reference :=
  Reference.select v.secretKeyRef v.configMapKeyRef

/-- A variable without a value of its own refers to a truth value, if to anything. -/
def Found (v : BoolVar) (t : SecretTable) : Prop :=
  v.value = none → ∀ reference ∈ v.reference?, ∃ text, t.text? reference = some text ∧
    trim text ∈ Sources.trueWords ++ Sources.falseWords

/-- The value of a variable, or the truth value that it refers to. -/
def truth (v : BoolVar) (t : SecretTable) : Option Bool :=
  v.value.or ((v.reference?.bind t.text?).map fun text => trim text ∈ Sources.trueWords)

end BoolVar

namespace Sources

/-- What is said for a variable that has this text. -/
def orEnvironment (s : Sources) (own : Option String) (default text : String) : String :=
  if text = "" then s.fromEnvironment own default else text

/-- The environment is asked only after the text is known. -/
theorem stringOrEnv_eq (s : Sources) (v : StringVar) (default : String) :
    s.stringOrEnv v default = (s.string v).map (s.orEnvironment v.envVar default) := by
  unfold stringOrEnv
  cases s.string v with
  | error fault => rfl
  | ok text =>
      change (if text.isEmpty then _ else _) = Except.ok (s.orEnvironment v.envVar default text)
      simp only [orEnvironment, String.isEmpty_iff]
      split <;> rfl

/-- The environment is asked for two names at most. -/
theorem orEnvironment_congr {first second : Sources} {own : Option String} {default : String}
    (same : ∀ name ∈ default :: own.toList, first.inherited? name = second.inherited? name)
    (text : String) :
    first.orEnvironment own default text = second.orEnvironment own default text := by
  have standard := same default List.mem_cons_self
  have named : (own.filter fun name => !name.isEmpty).bind first.inherited? =
      (own.filter fun name => !name.isEmpty).bind second.inherited? := by
    cases own with
    | none => rfl
    | some name =>
        rw [Option.filter_some]
        split
        · exact same name (List.mem_cons_of_mem default List.mem_cons_self)
        · rfl
  unfold orEnvironment fromEnvironment
  rw [standard, named]

theorem parseBool_eq_ok {raw : String} {truth : Bool} :
    parseBool raw = .ok truth ↔
      trim raw ∈ trueWords ++ falseWords ∧ decide (trim raw ∈ trueWords) = truth := by
  unfold parseBool
  simp only [List.contains_iff_mem, List.mem_append]
  by_cases yes : trim raw ∈ trueWords
  · simp [yes]
  · by_cases no : trim raw ∈ falseWords <;> simp [yes, no]

variable {t : SecretTable} (reliable : t.failures = []) (e : Environment)

include reliable

theorem string_eq_ok {v : StringVar} {text : String} :
    (t.sources e).string v = .ok text ↔ v.Found t ∧ v.text t = text := by
  unfold Sources.string StringVar.Found StringVar.text StringVar.reference?
  simp only [String.isEmpty_iff]
  by_cases missing : v.value = ""
  · simp only [missing, if_true, forall_const, map_eq_ok, t.referenced_eq_ok reliable]
    constructor
    · rintro ⟨_, ⟨there, rfl⟩, same⟩
      exact ⟨there, same⟩
    · rintro ⟨there, same⟩
      exact ⟨_, ⟨there, rfl⟩, same⟩
  · simp [missing]

theorem bool_eq_ok {v : BoolVar} {truth : Option Bool} :
    (t.sources e).bool v = .ok truth ↔ v.Found t ∧ v.truth t = truth := by
  unfold Sources.bool BoolVar.Found BoolVar.truth BoolVar.reference?
  cases v.value with
  | some value => simp
  | none =>
      simp only [bind_eq_ok, t.referenced_eq_ok reliable, forall_const, Option.none_or]
      cases Reference.select v.secretKeyRef v.configMapKeyRef with
      | none => simp
      | some reference =>
          cases there : t.text? reference with
          | none => simp [there]
          | some raw => simp [there, map_eq_ok, parseBool_eq_ok, and_assoc]

end Sources

namespace Azure

/-- The fields of a configuration that hold text, each with a variable of its own. -/
inductive TextField where
  | subscriptionId
  | tenantId
  | clientId
  | clientSecret
  | location
  | resourceGroup
  | vnetResourceGroup
  | vmSize
  | vnetName
  | subnetName
  | loadBalancerSku
  | routeTableName
  | availabilitySet
  | securityGroupName
  | imageId
  deriving DecidableEq, Repr

namespace TextField

/-- The variable of a field. -/
def written (s : Settings) : TextField → StringVar
  | .subscriptionId => s.subscriptionId
  | .tenantId => s.tenantId
  | .clientId => s.clientId
  | .clientSecret => s.clientSecret
  | .location => s.location
  | .resourceGroup => s.resourceGroup
  | .vnetResourceGroup => s.vnetResourceGroup
  | .vmSize => s.vmSize
  | .vnetName => s.vnetName
  | .subnetName => s.subnetName
  | .loadBalancerSku => s.loadBalancerSku
  | .routeTableName => s.routeTableName
  | .availabilitySet => s.availabilitySet
  | .securityGroupName => s.securityGroupName
  | .imageId => s.imageId

/-- What a field holds. -/
def held (c : Config) : TextField → String
  | .subscriptionId => c.subscriptionId
  | .tenantId => c.tenantId
  | .clientId => c.clientId
  | .clientSecret => c.clientSecret
  | .location => c.location
  | .resourceGroup => c.resourceGroup
  | .vnetResourceGroup => c.vnetResourceGroup
  | .vmSize => c.vmSize
  | .vnetName => c.vnetName
  | .subnetName => c.subnetName
  | .loadBalancerSku => c.loadBalancerSku
  | .routeTableName => c.routeTableName
  | .availabilitySet => c.availabilitySet
  | .securityGroupName => c.securityGroupName
  | .imageId => c.imageId

/-- The environment variable that stands in for a credential. -/
def fallback? : TextField → Option String
  | .subscriptionId => some "AZURE_SUBSCRIPTION_ID"
  | .tenantId => some "AZURE_TENANT_ID"
  | .clientId => some "AZURE_CLIENT_ID"
  | .clientSecret => some "AZURE_CLIENT_SECRET"
  | _ => none

/-- The environment variables that a field may be read from. -/
def names (s : Settings) (field : TextField) : List String :=
  match field.fallback? with
  | some default => default :: (field.written s).envVar.toList
  | none => []

/-- What is said for a field whose variable has this text. -/
def orEnvironment (sources : Sources) (s : Settings) (field : TextField) (text : String) :
    String :=
  match field.fallback? with
  | some default => sources.orEnvironment (field.written s).envVar default text
  | none => text

/-- What the variable of a field says. -/
def said (sources : Sources) (s : Settings) (field : TextField) : Except CloudError String :=
  match field.fallback? with
  | some default => sources.stringOrEnv (field.written s) default
  | none => sources.string (field.written s)

theorem said_eq (sources : Sources) (s : Settings) (field : TextField) :
    field.said sources s =
      (sources.string (field.written s)).map (field.orEnvironment sources s) := by
  unfold said orEnvironment
  cases field.fallback? with
  | some default => exact sources.stringOrEnv_eq _ default
  | none => cases sources.string (field.written s) <;> rfl

theorem orEnvironment_congr {first second : Sources} {s : Settings} {field : TextField}
    (same : ∀ name ∈ field.names s, first.inherited? name = second.inherited? name)
    (text : String) : field.orEnvironment first s text = field.orEnvironment second s text := by
  unfold names at same
  unfold orEnvironment
  cases standard : field.fallback? with
  | some default =>
      rw [standard] at same
      exact Sources.orEnvironment_congr same text
  | none => rfl

end TextField

/-- The configuration of a section whose variables say these texts and this truth value. -/
def Settings.config (s : Settings) (texts : TextField → String) (publicIp : Option Bool) :
    Config where
  subscriptionId := texts .subscriptionId
  tenantId := texts .tenantId
  clientId := texts .clientId
  clientSecret := texts .clientSecret
  location := texts .location
  resourceGroup := texts .resourceGroup
  vnetResourceGroup :=
    if texts .vnetResourceGroup = "" then texts .resourceGroup else texts .vnetResourceGroup
  vmSize := texts .vmSize
  vnetName := texts .vnetName
  subnetName := texts .subnetName
  loadBalancerSku := texts .loadBalancerSku
  routeTableName := texts .routeTableName
  availabilitySet := texts .availabilitySet
  assignAvailabilitySet := s.assignAvailabilitySet
  securityGroupName := texts .securityGroupName
  imageId := texts .imageId
  imagePlan := s.imagePlan
  imageReference := s.imageReference
  zones := s.zones
  tags := s.tags
  osDiskSize := s.osDiskSize
  osDiskSku := s.osDiskSku
  dataDiskSize := s.dataDiskSize
  dataDiskSku := s.dataDiskSku
  assignPublicIp := publicIp.getD false

theorem TextField.held_config {field : TextField} (own : field ≠ .vnetResourceGroup) (s : Settings)
    (texts : TextField → String) (publicIp : Option Bool) :
    field.held (s.config texts publicIp) = texts field := by
  cases field with
  | vnetResourceGroup => exact absurd rfl own
  | _ => rfl

/-- A section resolves if each of its variables does. -/
theorem ofSettings_eq_ok {sources : Sources} {s : Settings} {c : Config} :
    Config.ofSettings sources s = .ok c ↔
      ∃ texts publicIp, (∀ field : TextField, field.said sources s = .ok (texts field)) ∧
        sources.bool s.assignPublicIp = .ok publicIp ∧ s.config texts publicIp = c := by
  unfold Config.ofSettings
  simp only [bind_eq_ok, String.isEmpty_iff]
  constructor
  -- The variables in the order in which they are read.
  · rintro ⟨resourceGroup, _, vnetResourceGroup, _, subscriptionId, _, tenantId, _, clientId, _,
      clientSecret, _, location, _, vmSize, _, vnetName, _, subnetName, _, loadBalancerSku, _,
      routeTableName, _, availabilitySet, _, securityGroupName, _, imageId, _, publicIp, address,
      same⟩
    refine ⟨fun
      | .subscriptionId => subscriptionId
      | .tenantId => tenantId
      | .clientId => clientId
      | .clientSecret => clientSecret
      | .location => location
      | .resourceGroup => resourceGroup
      | .vnetResourceGroup => vnetResourceGroup
      | .vmSize => vmSize
      | .vnetName => vnetName
      | .subnetName => subnetName
      | .loadBalancerSku => loadBalancerSku
      | .routeTableName => routeTableName
      | .availabilitySet => availabilitySet
      | .securityGroupName => securityGroupName
      | .imageId => imageId, publicIp, fun field => ?_, address, Except.ok.inj same⟩
    cases field <;> assumption
  · rintro ⟨texts, publicIp, said, address, rfl⟩
    exact ⟨_, said .resourceGroup, _, said .vnetResourceGroup, _, said .subscriptionId,
      _, said .tenantId, _, said .clientId, _, said .clientSecret, _, said .location,
      _, said .vmSize, _, said .vnetName, _, said .subnetName, _, said .loadBalancerSku,
      _, said .routeTableName, _, said .availabilitySet, _, said .securityGroupName,
      _, said .imageId, publicIp, address, rfl⟩

/-- The sections of a specification, read one inside the other. -/
structure Parses (spec : ProviderSpec) (envelope : Envelope) (settings : Settings) : Prop where
  outer : ∃ value, spec.value = some value ∧ Envelope.codec.decode value = .ok envelope
  system : envelope.operatingSystemSpec.isNull = false
  inner : Settings.codec.decode envelope.cloudProviderSpec = .ok settings

theorem ofSpec_eq_ok {spec : ProviderSpec} {envelope : Envelope} :
    Envelope.ofSpec spec = .ok envelope ↔
      (∃ value, spec.value = some value ∧ Envelope.codec.decode value = .ok envelope) ∧
        envelope.operatingSystemSpec.isNull = false := by
  unfold Envelope.ofSpec
  cases spec.value with
  | none => simp
  | some value =>
      simp only [Option.some.injEq, exists_eq_left']
      cases Envelope.codec.decode value with
      | error fault => simp
      | ok read =>
          cases empty : read.operatingSystemSpec.isNull with
          | true =>
              simp only [empty, if_true, reduceCtorEq, Except.ok.injEq, false_iff, not_and]
              rintro rfl
              simp [empty]
          | false =>
              simp only [empty, Bool.false_eq_true, if_false, Except.ok.injEq, iff_self_and]
              rintro rfl
              exact empty

theorem ofJson_eq_ok {value : Json} {s : Settings} :
    Settings.ofJson value = .ok s ↔ Settings.codec.decode value = .ok s := by
  unfold Settings.ofJson
  cases Settings.codec.decode value <;> simp

/-- A specification resolves if it can be read and its variables resolve. -/
theorem resolve_eq_ok {sources : Sources} {spec : ProviderSpec} {c : Config} {e : Envelope} :
    Config.resolve sources spec = .ok (c, e) ↔
      ∃ s, Parses spec e s ∧ Config.ofSettings sources s = .ok c := by
  unfold Config.resolve
  simp only [bind_eq_ok, mapError_eq_ok, ofSpec_eq_ok, ofJson_eq_ok, Except.ok.injEq,
    Prod.mk.injEq]
  constructor
  · rintro ⟨_, ⟨outer, system⟩, s, inner, _, settled, rfl, rfl⟩
    exact ⟨s, ⟨outer, system, inner⟩, settled⟩
  · rintro ⟨s, ⟨outer, system, inner⟩, settled⟩
    exact ⟨e, ⟨outer, system⟩, s, inner, c, settled, rfl, rfl⟩

theorem Parses.unique {spec : ProviderSpec} {e f : Envelope} {s r : Settings}
    (first : Parses spec e s) (second : Parses spec f r) : e = f ∧ s = r := by
  obtain ⟨value, written, read⟩ := first.outer
  obtain ⟨_, again, read'⟩ := second.outer
  cases written.symm.trans again
  cases read.symm.trans read'
  cases first.inner.symm.trans second.inner
  exact ⟨rfl, rfl⟩

/-- Whatever the variables of a section refer to is in a table. -/
structure Settings.Found (s : Settings) (t : SecretTable) : Prop where
  texts : ∀ field : TextField, (field.written s).Found t
  publicIp : s.assignPublicIp.Found t

/-- What a field is to hold: what its variable says or the environment says for it. -/
def TextField.value (t : SecretTable) (e : Environment) (s : Settings) (field : TextField) :
    String :=
  field.orEnvironment (t.sources e) s ((field.written s).text t)

/-- The configuration that a section stands for if all its references are found. -/
def Settings.resolved (s : Settings) (t : SecretTable) (e : Environment) : Config :=
  s.config (fun field => field.value t e s) (s.assignPublicIp.truth t)

section

variable {t : SecretTable} (reliable : t.failures = []) (e : Environment)

include reliable

theorem TextField.said_eq_ok {field : TextField} {s : Settings} {text : String} :
    field.said (t.sources e) s = .ok text ↔
      (field.written s).Found t ∧ field.value t e s = text := by
  rw [said_eq, map_eq_ok]
  simp only [Sources.string_eq_ok reliable]
  constructor
  · rintro ⟨_, ⟨found, rfl⟩, same⟩
    exact ⟨found, same⟩
  · rintro ⟨found, same⟩
    exact ⟨_, ⟨found, rfl⟩, same⟩

theorem ofSettings_sources_eq_ok {s : Settings} {c : Config} :
    Config.ofSettings (t.sources e) s = .ok c ↔ s.Found t ∧ s.resolved t e = c := by
  rw [ofSettings_eq_ok]
  simp only [TextField.said_eq_ok reliable, Sources.bool_eq_ok reliable]
  constructor
  · rintro ⟨texts, publicIp, said, ⟨address, rfl⟩, rfl⟩
    have same : (fun field : TextField => field.value t e s) = texts :=
      funext fun field => (said field).2
    exact ⟨⟨fun field => (said field).1, address⟩, by rw [Settings.resolved, same]⟩
  · rintro ⟨found, same⟩
    exact ⟨_, _, fun field => ⟨found.texts field, rfl⟩, ⟨found.publicIp, rfl⟩, same⟩

end

/-- The members that a section may have. -/
def Settings.memberNames : List String :=
  ["subscriptionID", "tenantID", "clientID", "clientSecret", "location", "resourceGroup",
    "vnetResourceGroup", "vmSize", "vnetName", "subnetName", "loadBalancerSku", "routeTableName",
    "availabilitySet", "assignAvailabilitySet", "securityGroupName", "imageID", "imagePlan",
    "imageReference", "zones", "tags", "osDiskSize", "osDiskSKU", "dataDiskSize", "dataDiskSKU",
    "assignPublicIP"]

theorem mem_memberNames {members : List (String × Json)} {s : Settings}
    (read : Settings.codec.decode (.object members) = .ok s) :
    ∀ member ∈ members, member.1 ∈ Settings.memberNames := by
  obtain ⟨values, known, _⟩ := map_eq_ok.1 read
  exact Record.mem_names_of_decode known

/-- Two resolutions see the same of a field: its variable, what the variable refers to, and the
environment as far as the field may be read from it. -/
structure TextField.Alike (field : TextField) (t u : SecretTable) (e f : Environment)
    (s r : Settings) : Prop where
  written : field.written s = field.written r
  referenced : ∀ reference ∈ (field.written s).reference?, t.text? reference = u.text? reference
  environment : ∀ name ∈ field.names s, e.get? name = f.get? name

section

variable {t u : SecretTable} {e f : Environment} {s r : Settings}

theorem TextField.Alike.text {field : TextField} (alike : field.Alike t u e f s r) :
    (field.written s).text t = (field.written r).text u := by
  rw [← alike.written]
  unfold StringVar.text
  rw [Option.bind_congr alike.referenced]

theorem TextField.Alike.value {field : TextField} (alike : field.Alike t u e f s r) :
    field.value t e s = field.value u f r := by
  have own : field.orEnvironment (u.sources f) s = field.orEnvironment (u.sources f) r := by
    funext text
    rw [orEnvironment, orEnvironment, alike.written]
  unfold TextField.value
  rw [alike.text, ← own]
  exact orEnvironment_congr alike.environment _

end

/-- Two configurations concur on each field of which the resolutions see the same. An empty group of
the network is the group of the machine. -/
structure Concur (t u : SecretTable) (e f : Environment) (s r : Settings) (c d : Config) :
    Prop where
  text : ∀ field : TextField, field.Alike t u e f s r →
    (field = .vnetResourceGroup → s.vnetResourceGroup.text t = "" →
      TextField.resourceGroup.Alike t u e f s r) → field.held c = field.held d
  publicIp : s.assignPublicIp = r.assignPublicIp →
    (∀ reference ∈ s.assignPublicIp.reference?, t.text? reference = u.text? reference) →
    c.assignPublicIp = d.assignPublicIp

theorem concur_resolved (t u : SecretTable) (e f : Environment) (s r : Settings) :
    Concur t u e f s r (s.resolved t e) (r.resolved u f) where
  text field alike group := by
    -- The group of the network is the one field that may be taken from another variable.
    by_cases own : field = .vnetResourceGroup
    · subst own
      have same := alike.value
      change (if TextField.vnetResourceGroup.value t e s = "" then
          TextField.resourceGroup.value t e s else TextField.vnetResourceGroup.value t e s) =
        (if TextField.vnetResourceGroup.value u f r = "" then
          TextField.resourceGroup.value u f r else TextField.vnetResourceGroup.value u f r)
      rw [← same]
      by_cases empty : TextField.vnetResourceGroup.value t e s = ""
      · rw [if_pos empty, if_pos empty]
        exact (group rfl empty).value
      · rw [if_neg empty, if_neg empty]
    · unfold Settings.resolved
      rw [TextField.held_config own, TextField.held_config own]
      exact alike.value
  publicIp same referenced := by
    have truth : s.assignPublicIp.truth t = r.assignPublicIp.truth u := by
      rw [← same]
      unfold BoolVar.truth
      rw [Option.bind_congr referenced]
    exact congrArg (Option.getD · false) truth

/-- Whatever the environment, a specification resolves just if it can be read, with no members that
are not known, and what its variables refer to is there. The configuration is then read off
variable by variable, so that two resolutions concur on each field of which they see the same. -/
theorem resolve_iff_found {t : SecretTable} (reliable : t.failures = []) (e : Environment)
    (spec : ProviderSpec) :
    ((∃ resolution, Config.resolve (t.sources e) spec = .ok resolution) ↔
      ∃ envelope s, Parses spec envelope s ∧ s.Found t) ∧
    (∀ envelope s, Parses spec envelope s →
      ∀ members, envelope.cloudProviderSpec = .object members →
        ∀ member ∈ members, member.1 ∈ Settings.memberNames) ∧
    ∀ c envelope, Config.resolve (t.sources e) spec = .ok (c, envelope) →
      ∃ s, Parses spec envelope s ∧ c = s.resolved t e ∧
        ∀ (u : SecretTable) (f : Environment) (other : ProviderSpec) (d : Config)
          (envelope' : Envelope) (r : Settings), u.failures = [] →
          Parses other envelope' r → Config.resolve (u.sources f) other = .ok (d, envelope') →
          Concur t u e f s r c d := by
  refine ⟨⟨?_, ?_⟩, ?_, ?_⟩
  · rintro ⟨⟨c, envelope⟩, ended⟩
    obtain ⟨s, parses, settled⟩ := resolve_eq_ok.1 ended
    exact ⟨envelope, s, parses, ((ofSettings_sources_eq_ok reliable e).1 settled).1⟩
  · rintro ⟨envelope, s, parses, found⟩
    have settled := (ofSettings_sources_eq_ok reliable e).2 ⟨found, rfl⟩
    exact ⟨_, resolve_eq_ok.2 ⟨s, parses, settled⟩⟩
  · intro envelope s parses members written
    have read := parses.inner
    rw [written] at read
    exact mem_memberNames read
  · intro c envelope ended
    obtain ⟨s, parses, settled⟩ := resolve_eq_ok.1 ended
    obtain ⟨_, rfl⟩ := (ofSettings_sources_eq_ok reliable e).1 settled
    refine ⟨s, parses, rfl, fun u f other d envelope' r reliable' parses' ended' => ?_⟩
    obtain ⟨_, again, settled'⟩ := resolve_eq_ok.1 ended'
    obtain ⟨_, rfl⟩ := parses'.unique again
    obtain ⟨_, rfl⟩ := (ofSettings_sources_eq_ok reliable' f).1 settled'
    exact concur_resolved t u e f s r

namespace Sample

def clientKey : KeyRef := ⟨"kube-system", "azure", "clientSecret"⟩

def addressKey : KeyRef := ⟨"kube-system", "machines", "public"⟩

def keyJson (ref : KeyRef) : Json :=
  .object [("namespace", .string ref.group), ("name", .string ref.name), ("key", .string ref.key)]

/-- A specification with variables of all kinds. -/
def referring : ProviderSpec where
  value := some (.object [
    ("cloudProvider", .string "azure"),
    ("operatingSystem", .string "ubuntu"),
    ("operatingSystemSpec", .object []),
    ("cloudProviderSpec", .object [
      ("subscriptionID", .string "subscription"),
      ("tenantID", .object [("envVar", .string "MY_TENANT")]),
      ("clientSecret", .object [("secretKeyRef", keyJson clientKey),
        ("envVar", .string "MY_SECRET")]),
      ("resourceGroup", .object [("value", .string "rg"), ("configMapKeyRef", keyJson clientKey)]),
      ("assignPublicIP", .object [("configMapKeyRef", keyJson addressKey)])])])

def referred : SecretTable := ⟨[(clientKey, "hidden")], [], [(addressKey, " True\n")]⟩

/-- Variables under names that the specification gives and under the standard ones. -/
def inherited : Environment := .ofTexts (.ofList [("AZURE_CLIENT_ID", "client"),
  ("AZURE_TENANT_ID", "standard"), ("MY_SECRET", "open"), ("MY_TENANT", "tenant")])

/-- The credentials of the specification as they are written. -/
theorem credentials_of_parses {envelope : Envelope} {s : Settings}
    (parses : Parses referring envelope s) :
    s.subscriptionId = .literal "subscription" ∧ s.tenantId = .env "MY_TENANT" ∧
      s.clientId = .unset ∧
      s.clientSecret = ⟨"", some clientKey, none, some "MY_SECRET"⟩ := by
  have written : ((Envelope.codec.decode (referring.value.getD .null)).toOption.bind
      fun read => (Settings.codec.decode read.cloudProviderSpec).toOption).map (fun s =>
        (s.subscriptionId, s.tenantId, s.clientId, s.clientSecret)) =
      some (.literal "subscription", .env "MY_TENANT", .unset,
        ⟨"", some clientKey, none, some "MY_SECRET"⟩) := by decide +kernel
  obtain ⟨value, given, read⟩ := parses.outer
  rw [given, Option.getD_some, read] at written
  simpa only [Except.toOption, Option.bind_some, parses.inner, Option.map_some, Option.some.injEq,
    Prod.mk.injEq] using written

end Sample

/-- What the variables refer to is there, and nothing in the environment makes up for it if it is
not. -/
theorem resolve_iff_found_referring :
    Sample.referred.failures = [] ∧ SecretTable.empty.failures = [] ∧
    (∃ c envelope, Config.resolve (Sample.referred.sources Sample.inherited) Sample.referring =
        .ok (c, envelope) ∧
      c.clientSecret = "hidden" ∧ c.tenantId = "tenant" ∧ c.clientId = "client" ∧
      c.vnetResourceGroup = "rg" ∧ c.assignPublicIp = true ∧
      ∃ s, Parses Sample.referring envelope s ∧
        c = s.resolved Sample.referred Sample.inherited) ∧
    ∀ e : Environment, ¬∃ resolution,
      Config.resolve (SecretTable.empty.sources e) Sample.referring = .ok resolution := by
  have calm : Sample.referred.failures = [] := rfl
  have empty : SecretTable.empty.failures = [] := rfl
  refine ⟨calm, empty, ?_, fun e resolved => ?_⟩
  · have held : (Config.resolve (Sample.referred.sources Sample.inherited)
        Sample.referring).toOption.map (fun resolution => (resolution.1.clientSecret,
          resolution.1.tenantId, resolution.1.clientId, resolution.1.vnetResourceGroup,
          resolution.1.assignPublicIp)) = some ("hidden", "tenant", "client", "rg", true) := by
      decide +kernel
    cases ended : Config.resolve (Sample.referred.sources Sample.inherited) Sample.referring with
    | error fault =>
        rw [ended] at held
        cases held
    | ok resolution =>
        rw [ended] at held
        simp only [Except.toOption, Option.map_some, Option.some.injEq, Prod.mk.injEq] at held
        obtain ⟨secret, tenant, client, group, address⟩ := held
        obtain ⟨s, parses, same, _⟩ :=
          (resolve_iff_found calm Sample.inherited Sample.referring).2.2 _ _ ended
        exact ⟨_, _, rfl, secret, tenant, client, group, address, s, parses, same⟩
  · obtain ⟨envelope, s, parses, found⟩ :=
      (resolve_iff_found empty e Sample.referring).1.1 resolved
    obtain ⟨_, _, _, secret⟩ := Sample.credentials_of_parses parses
    have dangling := found.texts .clientSecret
    rw [TextField.written, secret] at dangling
    cases dangling rfl (.secret Sample.clientKey) rfl

end Azure

end Provisioning
