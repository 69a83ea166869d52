import Provisioning.Azure.Rest.Client
import Provisioning.Azure.Rest.Target
import Provisioning.Json.Printer

/-!
A peer that answers from a script, on a clock that moves only when a client sleeps. Nothing comes
back from a peer that does not listen.
-/

namespace Provisioning.Azure.Rest

open Provisioning.Text

/-- What is left of the script, what was asked so far, and the clock. -/
structure Peer where
  login : String
  listening : Bool
  grants : List Response
  granted : Nat
  responses : List Response
  log : List Message
  now : Nat

namespace Peer

/-- The first moment that the clock cannot show: its seconds are integers of sixty-four bits. -/
def horizon : Nat := (Integer.greatestSigned + 1) * Endpoints.second

/-- A value as a body. -/
def body (value : Json) : List UInt8 := Utf8.encode value.render

/-- The answer to a token request when the script has none left. -/
def plainGrant (number : Nat) : Response :=
  let token := Json.string s!"token-{number}"
  ⟨200, [], body (.object [("access_token", token), ("expires_in", .nat 3600)])⟩

/-- The answer to any other request when the script has none left. -/
def exhausted : Response :=
  let error := Json.object
    [("code", .string "Exhausted"), ("message", .string "no scripted response")]
  ⟨500, [], body (.object [("error", error)])⟩

/-- Whether a message goes to the login endpoint. -/
def isLogin (p : Peer) (m : Message) : Bool :=
  (p.login ++ "/").toList.isPrefixOf m.url.toList

/-- Answers a message. -/
def answer (p : Peer) (m : Message) : Option Response × Peer :=
  if !p.listening then (none, p)
  else
    let logged := { p with log := p.log ++ [m] }
    if p.isLogin m then
      (some (p.grants.head?.getD (plainGrant (p.granted + 1))),
        { logged with grants := p.grants.tail, granted := p.granted + 1 })
    else (some (p.responses.head?.getD exhausted), { logged with responses := p.responses.tail })

def serve : (w : Wire) → Peer → w.Answer × Peer
  | .exchange message, p => p.answer message
  | .sleep length, p => ((), { p with now := p.now + length })
  | .now, p => (p.now, p)
  | .after length, p => (if p.now + length < horizon then some (p.now + length) else none, p)

end Peer

end Provisioning.Azure.Rest
