import Provisioning.Environment
import Provisioning.Error
import Provisioning.Text.Blank
import Provisioning.Text.Integer

/-!
Configuration variables: a value written in place, or a reference to a key of a secret or of a
config map, or the name of an environment variable. A value in place wins if it is not empty, then
the secret, then the config map; only variables with a fallback look at the environment, first
under the name they give themselves and then under the default one.
-/

namespace Provisioning

open Provisioning.Text

/-- A key of a secret or config map. -/
structure KeyRef where
  group : String
  name : String
  key : String
  deriving DecidableEq, Repr

namespace KeyRef

def text (r : KeyRef) : String := s!"{r.group}/{r.name}[{r.key}]"

def codec : Codec KeyRef :=
  Record.codec "KeyRef"
    (.cons (.required "namespace" .string) <|
      .cons (.required "name" .string) <|
      .cons (.required "key" .string) .nil)
    (fun r => (r.group, r.name, r.key, ())) (fun (group, name, key, ()) => ⟨group, name, key⟩)

end KeyRef

/-- A variable that holds text. -/
structure StringVar where
  value : String
  secretKeyRef : Option KeyRef
  configMapKeyRef : Option KeyRef
  envVar : Option String
  deriving DecidableEq, Repr

namespace StringVar

def literal (value : String) : StringVar := ⟨value, none, none, none⟩

def secret (ref : KeyRef) : StringVar := ⟨"", some ref, none, none⟩

def env (name : String) : StringVar := ⟨"", none, none, some name⟩

/-- The variable that is not set. -/
def unset : StringVar := literal ""

def record : Record (String × Option KeyRef × Option KeyRef × Option String × Unit) :=
  .cons (.sparse "value" .string "" String.isEmpty) <|
    .cons (.optional "secretKeyRef" KeyRef.codec) <|
    .cons (.optional "configMapKeyRef" KeyRef.codec) <|
    .cons (.optional "envVar" .string) .nil

def ofFields : String × Option KeyRef × Option KeyRef × Option String × Unit → StringVar
  | (value, secret, configMap, env, ()) => ⟨value, secret, configMap, env⟩

/-- A variable is read from a bare string or from an object, and written as an object. -/
def codec : Codec StringVar where
  encode v :=
    .object (record.toMembers (v.value, v.secretKeyRef, v.configMapKeyRef, v.envVar, ()))
  decode
    | .string value => .ok (literal value)
    | .object members =>
        match record.decode "StringRepr" false (.object members) with
        | .ok fields => .ok (ofFields fields)
        | .error _ => .error (.noVariant "StringRepr")
    | _ => .error (.noVariant "StringRepr")

end StringVar

/-- A variable that holds a truth value. -/
structure BoolVar where
  value : Option Bool
  secretKeyRef : Option KeyRef
  configMapKeyRef : Option KeyRef
  deriving DecidableEq, Repr

namespace BoolVar

def literal (value : Bool) : BoolVar := ⟨some value, none, none⟩

/-- The variable that is not set. -/
def unset : BoolVar := ⟨none, none, none⟩

def record : Record (Option Bool × Option KeyRef × Option KeyRef × Unit) :=
  .cons (.optional "value" .bool) <|
    .cons (.optional "secretKeyRef" KeyRef.codec) <|
    .cons (.optional "configMapKeyRef" KeyRef.codec) .nil

def ofFields : Option Bool × Option KeyRef × Option KeyRef × Unit → BoolVar
  | (value, secret, configMap, ()) => ⟨value, secret, configMap⟩

/-- A variable is read from a bare truth value or from an object, and written as an object. -/
def codec : Codec BoolVar where
  encode v := .object (record.toMembers (v.value, v.secretKeyRef, v.configMapKeyRef, ()))
  decode
    | .bool value => .ok (literal value)
    | .object members =>
        match record.decode "BoolRepr" false (.object members) with
        | .ok fields => .ok (ofFields fields)
        | .error _ => .error (.noVariant "BoolRepr")
    | _ => .error (.noVariant "BoolRepr")

end BoolVar

/-- Where variables are looked up. A look-up of a secret or config map may fail, or find no such
key; a variable of the environment may be absent, or there with a value that is no text. -/
structure Sources where
  secret : KeyRef → Except CloudError (Option String)
  configMap : KeyRef → Except CloudError (Option String)
  environment : String → Except Environment.Lack String

namespace Sources

/-- Sources that know no secrets and no config maps. -/
def ofEnvironment (environment : Environment) : Sources :=
  ⟨fun _ => .ok none, fun _ => .ok none, environment.read⟩

/-- Looks up a secret that has to exist. -/
def secretValue (s : Sources) (ref : KeyRef) : Except CloudError String := do
  match ← s.secret ref with
  | some value => .ok value
  | none => .error (.configVar s!"secret {ref.text} not found")

/-- Looks up a key of a config map that has to exist. -/
def configMapValue (s : Sources) (ref : KeyRef) : Except CloudError String := do
  match ← s.configMap ref with
  | some value => .ok value
  | none => .error (.configVar s!"config map {ref.text} not found")

/-- The text behind the references of a variable, the secret before the config map. -/
def referenced (s : Sources) (secret configMap : Option KeyRef) :
    Except CloudError (Option String) :=
  match secret, configMap with
  | some ref, _ => (s.secretValue ref).map some
  | none, some ref => (s.configMapValue ref).map some
  | none, none => .ok none

/-- The text of a variable; empty if it is not set. -/
def string (s : Sources) (v : StringVar) : Except CloudError String :=
  if v.value.isEmpty then
    (s.referenced v.secretKeyRef v.configMapKeyRef).map fun found => found.getD ""
  else .ok v.value

/-- The text of an environment variable. -/
def inherited? (s : Sources) (name : String) : Option String := (s.environment name).toOption

/-- What the environment says for a variable: its own name wins if that has a text. -/
def fromEnvironment (s : Sources) (own : Option String) (default : String) : String :=
  let named := (own.filter fun name => !name.isEmpty).bind s.inherited?
  named.getD ((s.inherited? default).getD "")

/-- The text of a variable, or what the environment says if that is empty. -/
def stringOrEnv (s : Sources) (v : StringVar) (default : String) : Except CloudError String := do
  let value ← s.string v
  if value.isEmpty then .ok (s.fromEnvironment v.envVar default) else .ok value

def trueWords : List String := ["1", "t", "T", "true", "TRUE", "True"]

def falseWords : List String := ["0", "f", "F", "false", "FALSE", "False"]

/-- Reads one of twelve words, with white space around it. -/
def parseBool (raw : String) : Except CloudError Bool :=
  let word := trim raw
  if trueWords.contains word then .ok true
  else if falseWords.contains word then .ok false
  else .error (.configVar ("invalid boolean " ++ quote word))

/-- The truth value of a variable; nothing if it is not set at all. -/
def bool (s : Sources) (v : BoolVar) : Except CloudError (Option Bool) :=
  match v.value with
  | some value => .ok (some value)
  | none => do
      match ← s.referenced v.secretKeyRef v.configMapKeyRef with
      | none => .ok none
      | some raw => (parseBool raw).map some

/-- Reads an integer with white space around it. -/
def parseInt (raw : String) : Except CloudError Int :=
  match Integer.parseSigned (trimList raw.toList) with
  | .ok value => .ok value
  | .error fault =>
      .error (.configVar ("invalid integer " ++ quote raw ++ ": " ++ fault.message))

/-- The integer that a text variable holds; nothing if its text is empty. -/
def int (s : Sources) (v : StringVar) : Except CloudError (Option Int) := do
  let raw ← s.string v
  if raw.isEmpty then .ok none else (parseInt raw).map some

end Sources

/-- Fixed secrets and config maps. Of several entries for one key the last one counts, and a
failure counts more than any value. -/
structure SecretTable where
  secrets : List (KeyRef × String)
  failures : List (KeyRef × CloudError)
  configMaps : List (KeyRef × String)

namespace SecretTable

def empty : SecretTable := ⟨[], [], []⟩

/-- The last entry for a key. -/
def last? {α : Type} (ref : KeyRef) (entries : List (KeyRef × α)) : Option α :=
  (entries.reverse.find? fun e => e.1 == ref).map (·.2)

/-- Look-ups in the table, with an environment. -/
def sources (t : SecretTable) (environment : Environment) : Sources where
  secret ref :=
    match last? ref t.failures with
    | some fault => .error fault
    | none => .ok (last? ref t.secrets)
  configMap ref := .ok (last? ref t.configMaps)
  environment := environment.read

end SecretTable

end Provisioning
