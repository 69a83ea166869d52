import Provisioning.Azure.Rest.Calls

/-!
The clients of the management endpoint: one for each set of credentials, so that its token is shared
by all who use the same credentials.
-/

namespace Provisioning.Azure.Rest

/-- The clients that were made, in order, each with the token it keeps. -/
structure Pool where
  clients : List (Credentials × Option Token)
  deriving DecidableEq, Repr

namespace Pool

def empty : Pool := ⟨[]⟩

/-- The number of the client for some credentials. -/
def number? (p : Pool) (credentials : Credentials) : Option Nat :=
  p.clients.findIdx? fun client => client.1 = credentials

/-- Makes a client unless there is one, and gives its number. -/
def connect (credentials : Credentials) (p : Pool) : Nat × Pool :=
  match p.number? credentials with
  | some number => (number, p)
  | none => (p.clients.length, ⟨p.clients ++ [(credentials, none)]⟩)

/-- The token that the client for some credentials keeps. -/
def token (p : Pool) (credentials : Credentials) : Option Token :=
  ((p.clients.find? fun client => client.1 = credentials).map (·.2)).join

/-- Replaces the token that a client keeps. -/
def keep (p : Pool) (credentials : Credentials) (token : Option Token) : Pool :=
  ⟨p.clients.map fun client =>
    if client.1 = credentials then (credentials, token) else client⟩

end Pool

/-- Clients and the peer that they talk to. -/
structure Remote (π : Type) where
  pool : Pool
  peer : π

namespace Remote

variable {π : Type}

/-- Makes a client for some credentials unless there is one. -/
def connect (credentials : Credentials) (r : Remote π) : Remote π :=
  { r with pool := (r.pool.connect credentials).2 }

/-- Answers a call by the client for some credentials. -/
def call (endpoints : Endpoints) (reader : Reader) (fuel : Nat)
    (serve : (w : Wire) → π → w.Answer × π) (credentials : Credentials) (c : Call)
    (r : Remote π) : Except Halt c.Value × Remote π :=
  let client : Client := ⟨endpoints, credentials, reader⟩
  let ((answer, token), peer) := Program.run (I := wires) serve
    ((client.perform fuel c).run (r.pool.token credentials)) r.peer
  (answer, ⟨r.pool.keep credentials token, peer⟩)

end Remote

end Provisioning.Azure.Rest
