import Provisioning.Azure.Config
import Provisioning.Azure.Error
import Provisioning.Azure.Resource.Answer
import Provisioning.Azure.Rest.Message
import Provisioning.Program
import Provisioning.Text.Duration
import Provisioning.Text.Integer

/-!
A client of the management endpoint for one set of credentials. It fetches a token when it has none
that is still good, follows the pages of lists, and waits for long-running operations: a started
operation is polled once an interval, until it reports its end or the time is up. Pages and polls
may go on for ever, so that each call is given fuel, and to run out of it is no result of the call.
-/

namespace Provisioning.Azure.Rest

open Provisioning.Text

/-- What a client asks of the outside: to exchange messages, to sleep, what time it is, and the
moment after a while from now. Times are in nanoseconds. -/
inductive Wire where
  | exchange (message : Message)
  | sleep (length : Nat)
  | now
  | after (length : Nat)

namespace Wire

/-- An exchange that fails has no response, and a moment that the clock cannot show is none. -/
@[reducible] def Answer : Wire → Type
  | exchange _ => Option Response
  | sleep _ => Unit
  | now => Nat
  | after _ => Option Nat

end Wire

def wires : Interface := ⟨Wire, Wire.Answer⟩

/-- A token and the first moment at which it is no longer used. -/
structure Token where
  value : String
  expiresAt : Nat
  deriving DecidableEq, Repr

/-- Why a client comes to no value: an error, which is its result; a token that lives beyond what
the clock can show, which it does not survive; or no more fuel. -/
inductive Halt where
  | fault (error : AzureError)
  | overflow
  | fuel
  deriving DecidableEq, Repr

def Halt.isNotFound : Halt → Bool
  | fault error => error.isNotFound
  | overflow | fuel => false

/-- Programs of a client. The token that was fetched last is kept even when they fail. -/
abbrev Talk := ExceptT Halt (StateT (Option Token) (Program wires))

/-- Where the endpoints are, and how a client waits. -/
structure Endpoints where
  management : String
  login : String
  pollInterval : Nat
  pollTimeout : Nat
  deriving DecidableEq, Repr

namespace Endpoints

def second : Nat := 1000000000

/-- The public cloud: a poll every five seconds for at most half an hour. -/
def publicCloud : Endpoints :=
  ⟨"https://management.azure.com", "https://login.microsoftonline.com", 5 * second, 1800 * second⟩

end Endpoints

/-- Whose client it is, where it talks to, and how it reads what it is answered. -/
structure Client where
  endpoints : Endpoints
  credentials : Credentials
  reader : Reader

/-- Asks the outside. -/
def wire (w : Wire) : Talk w.Answer :=
  fun token => Program.ask (I := wires) w fun answer => .done (.ok answer, token)

/-- Ends with an error. -/
def fail {α : Type} (error : AzureError) : Talk α := throw (.fault error)

/-- Sends a message; an exchange without a response is an error. -/
def exchange (message : Message) : Talk Response := do
  match ← wire (.exchange message) with
  | some response => pure response
  | none => fail .http

/-- The value in the body of a response. -/
def decoded {α : Type} (reader : Reader) (codec : Codec α) (response : Response) : Talk α :=
  match response.decode? reader codec with
  | some value => pure value
  | none => fail .http

/-- What a token endpoint answers. -/
structure Grant where
  token : String
  expiresIn : Option Json

namespace Grant

def codec : Codec Grant :=
  Record.codec "TokenResponse"
    (.cons (.required "access_token" .string) <| .cons (.nullable "expires_in" .json) .nil)
    (fun g => (g.token, g.expiresIn, ())) (fun (token, lifetime, ()) => ⟨token, lifetime⟩)

def defaultLifetime : Nat := 3600

/-- The seconds that a token lives: a number, or a text with one. -/
def lifetime (g : Grant) : Nat :=
  match g.expiresIn with
  | some (.number (.int value)) =>
      if 0 ≤ value ∧ value ≤ Integer.greatestUnsigned then value.toNat else defaultLifetime
  | some (.string text) => (Integer.parseUnsigned text.toList).toOption.getD defaultLifetime
  | _ => defaultLifetime

/-- A token is renewed a minute before it expires. -/
def margin : Nat := 60

/-- How long a token is used. -/
def use (g : Grant) : Nat := (g.lifetime - margin) * Endpoints.second

end Grant

/-- Why no token was granted. -/
def refusalCodec : Codec ErrorBody :=
  Record.codec "TokenError"
    (.cons (.defaulted "error" .string "") <|
      .cons (.defaulted "error_description" .string "") .nil)
    (fun b => (b.code, b.message, ())) (fun (code, message, ()) => ⟨code, message⟩)

namespace Client

/-- The request for a token. -/
def tokenMessage (c : Client) : Message where
  method := .post
  url := c.endpoints.login ++ "/" ++ c.credentials.tenantId ++ "/oauth2/v2.0/token"
  query := []
  bearer := none
  content := .form
    [("grant_type", "client_credentials"), ("client_id", c.credentials.clientId),
      ("client_secret", c.credentials.clientSecret),
      ("scope", c.endpoints.management ++ "/.default")]

/-- The error of a token endpoint that refuses. -/
def refusal (reader : Reader) (response : Response) : AzureError :=
  let body := (response.decode? reader refusalCodec).getD ⟨statusText response.status, ""⟩
  .auth (body.code ++ " " ++ body.message)

/-- Keeps a token that was granted just now. -/
def keepGranted (grant : Grant) : Talk String := do
  match ← wire (.after grant.use) with
  | some expiresAt =>
      set (some (Token.mk grant.token expiresAt))
      pure grant.token
  | none => throw .overflow

/-- Fetches a token and keeps it. -/
def fetchToken (c : Client) : Talk String := do
  let response ← exchange c.tokenMessage
  if response.isSuccess then
    let grant ← decoded c.reader Grant.codec response
    keepGranted grant
  else fail (refusal c.reader response)

/-- The kept token if it is still good, or a new one. -/
def token (c : Client) : Talk String := do
  match ← getThe (Option Token) with
  | none => c.fetchToken
  | some kept =>
      let now ← wire .now
      if now < kept.expiresAt then pure kept.value else c.fetchToken

/-- The error that a response reports. -/
def errorOf (reader : Reader) (url : String) (response : Response) : AzureError :=
  let body := (response.decode? reader ErrorBody.wrapped).getD .empty
  if response.status = 404 then .notFound (if body.message.isEmpty then url else body.message)
  else if response.status = 401 then .auth body.message
  else .api response.status body.code body.message

/-- Sends a request with a token; a response that is no success is an error. -/
def send (c : Client) (method : Method) (url : String) (query : List (String × String))
    (content : Content) : Talk Response := do
  let token ← c.token
  let response ← exchange ⟨method, url, query, some token, content⟩
  if response.isSuccess then pure response else fail (errorOf c.reader url response)

/-- The query that names a version of the interface. -/
def versionQuery (version : String) : List (String × String) := [("api-version", version)]

def getValue {α : Type} (c : Client) (codec : Codec α) (url version : String) : Talk α := do
  let response ← c.send .get url (versionQuery version) .none
  decoded c.reader codec response

/-- Reads a page and all pages after it, one for each unit of fuel; each page after the first is
asked for by the address that the page before it gives. -/
def pages {α : Type} (c : Client) (codec : Codec α) :
    (fuel : Nat) → (url : String) → (query : List (String × String)) → Talk (List α)
  | 0, _, _ => throw .fuel
  | fuel + 1, url, query => do
      let response ← c.send .get url query .none
      let page ← decoded c.reader (Page.codec codec) response
      match page.nextLink with
      | none => pure page.items
      | some next =>
          if next.isEmpty then pure page.items
          else
            let others ← c.pages codec fuel next []
            pure (page.items ++ others)

/-- What to poll for the end of an operation. -/
inductive Poll where
  | operation (url : String)
  | location (url : String)
  deriving DecidableEq, Repr

/-- What a response says about the operation it started, if it is still going on. -/
def pollOf (response : Response) : Option Poll :=
  match response.header? "Azure-AsyncOperation" with
  | some url => some (.operation url)
  | none => (response.header? "Location").map .location

/-- The state of an operation. -/
structure OperationState where
  status : String
  error : Option ErrorBody
  deriving DecidableEq, Repr

def stateCodec : Codec OperationState :=
  Record.codec "AsyncOperation"
    (.cons (.defaulted "status" .string "") <| .cons (.optional "error" ErrorBody.codec) .nil)
    (fun s => (s.status, s.error, ())) (fun (status, error, ()) => ⟨status, error⟩)

/-- Polls once: whether the operation has ended well, or else an error if it has failed. -/
def pollOnce (c : Client) : Poll → Talk Bool
  | .operation url => do
      let response ← c.send .get url [] .none
      let state ← decoded c.reader stateCodec response
      if state.status = "Succeeded" then pure true
      else if state.status = "Failed" || state.status = "Canceled" then
        let error := state.error.getD .empty
        fail (.api 200 error.code error.message)
      else pure false
  | .location url => do
      let response ← c.send .get url [] .none
      pure (response.status != 202)

/-- The error of an operation that took too long. -/
def overdue (e : Endpoints) : AzureError :=
  .timeout ("operation did not finish within " ++ Duration.render e.pollTimeout)

/-- Waits until the time is up. -/
def giveUp (c : Client) (remaining : Nat) : Talk Unit := do
  wire (.sleep remaining)
  fail (overdue c.endpoints)

/-- Polls once an interval, with a unit of fuel for each poll, until the operation has ended or the
time is up; a pause that would last longer than that is cut short. -/
def pollUntil (c : Client) (target : Poll) : (fuel remaining : Nat) → Talk Unit
  | 0, remaining =>
      if remaining < c.endpoints.pollInterval then c.giveUp remaining else throw .fuel
  | fuel + 1, remaining =>
      if remaining < c.endpoints.pollInterval then c.giveUp remaining
      else do
        wire (.sleep c.endpoints.pollInterval)
        if ← c.pollOnce target then pure ()
        else c.pollUntil target fuel (remaining - c.endpoints.pollInterval)

/-- Waits for the operation that a response started, if any. -/
def wait (c : Client) (fuel : Nat) (response : Response) : Talk Unit :=
  match pollOf response with
  | none => pure ()
  | some target => c.pollUntil target fuel c.endpoints.pollTimeout

/-- Puts a resource, waits, and reads back what it has become. -/
def put {α : Type} (c : Client) (fuel : Nat) (codec : Codec α) (url version : String) (body : α) :
    Talk α := do
  let response ← c.send .put url (versionQuery version) (.json (codec.encode body))
  c.wait fuel response
  c.getValue codec url version

/-- Replaces the tags of a resource and waits. -/
def patchTags (c : Client) (fuel : Nat) (url version : String) (tags : Tags) : Talk Unit := do
  let body := Json.object [("tags", tagsCodec.encode tags)]
  let response ← c.send .patch url (versionQuery version) (.json body)
  c.wait fuel response

/-- A deletion's answer, where nothing is left to wait for if the resource is not there. -/
def deletionAnswer (c : Client) (url version : String) : Talk (Option Response) :=
  tryCatch (some <$> c.send .delete url (versionQuery version) .none) fun halt =>
    if halt.isNotFound then pure none else throw halt

/-- Deletes a resource and waits; a resource that is not there is deleted. -/
def delete (c : Client) (fuel : Nat) (url version : String) : Talk Unit := do
  match ← c.deletionAnswer url version with
  | some response => c.wait fuel response
  | none => pure ()

end Client

end Provisioning.Azure.Rest
