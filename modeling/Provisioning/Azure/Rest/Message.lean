import Provisioning.Json.Decode
import Provisioning.Json.Parser
import Provisioning.Text.Utf8

/-!
Requests and responses of the management and login endpoints, and how the bodies of responses are
read.
-/

namespace Provisioning.Azure.Rest

open Provisioning.Text

inductive Method where
  | get
  | put
  | patch
  | post
  | delete
  deriving DecidableEq, Repr

namespace Method

def name : Method → String
  | .get => "GET"
  | .put => "PUT"
  | .patch => "PATCH"
  | .post => "POST"
  | .delete => "DELETE"

end Method

/-- What a request carries. -/
inductive Content where
  | none
  | json (value : Json)
  | form (fields : List (String × String))

/-- A request to an address, with a query that is added to the one the address has. -/
structure Message where
  method : Method
  url : String
  query : List (String × String)
  bearer : Option String
  content : Content

/-- A response; its headers stand in order, under names whose case does not matter. The body may be
any bytes. -/
structure Response where
  status : Nat
  headers : List (String × String)
  body : List UInt8
  deriving DecidableEq, Repr

/-- How bodies are read: the value of a type that a body holds, if it holds one. Readers of JSON
differ in how closely they look at what a type has no place for, so clients have any reader. -/
structure Reader where
  read? : {α : Type} → Codec α → List UInt8 → Option α

/-- The reader that takes text only, and reads all of it as JSON before it looks at the type. -/
def Reader.strict : Reader where
  read? codec body := do
    let text ← Utf8.text? body
    let value ← Json.parse? text
    (codec.decode value).toOption

namespace Response

def isSuccess (r : Response) : Bool := 200 ≤ r.status && r.status < 300

/-- A name without regard to the case of ASCII letters. -/
def folded (name : String) : List Char := name.toList.map Char.toLower

/-- Whether a header can be read as text. -/
def isReadable (value : String) : Bool :=
  value.toList.all fun c => (32 ≤ c.toNat && c.toNat < 127) || c = '\t'

/-- The first header of a name, if it can be read and is not empty. -/
def header? (r : Response) (name : String) : Option String :=
  ((r.headers.find? fun h => folded h.1 = folded name).map (·.2)).filter fun value =>
    isReadable value && !value.isEmpty

/-- The body as a value of a type. -/
def decode? {α : Type} (r : Response) (reader : Reader) (codec : Codec α) : Option α :=
  reader.read? codec r.body

end Response

/-- The registered phrases of status codes. -/
def reasonPhrases : List (Nat × String) :=
  [(100, "Continue"), (101, "Switching Protocols"), (102, "Processing"), (200, "OK"),
    (201, "Created"), (202, "Accepted"), (203, "Non Authoritative Information"),
    (204, "No Content"), (205, "Reset Content"), (206, "Partial Content"), (207, "Multi-Status"),
    (208, "Already Reported"), (226, "IM Used"), (300, "Multiple Choices"),
    (301, "Moved Permanently"), (302, "Found"), (303, "See Other"), (304, "Not Modified"),
    (305, "Use Proxy"), (307, "Temporary Redirect"), (308, "Permanent Redirect"),
    (400, "Bad Request"), (401, "Unauthorized"), (402, "Payment Required"), (403, "Forbidden"),
    (404, "Not Found"), (405, "Method Not Allowed"), (406, "Not Acceptable"),
    (407, "Proxy Authentication Required"), (408, "Request Timeout"), (409, "Conflict"),
    (410, "Gone"), (411, "Length Required"), (412, "Precondition Failed"),
    (413, "Payload Too Large"), (414, "URI Too Long"), (415, "Unsupported Media Type"),
    (416, "Range Not Satisfiable"), (417, "Expectation Failed"), (418, "I'm a teapot"),
    (421, "Misdirected Request"), (422, "Unprocessable Entity"), (423, "Locked"),
    (424, "Failed Dependency"), (425, "Too Early"), (426, "Upgrade Required"),
    (428, "Precondition Required"), (429, "Too Many Requests"),
    (431, "Request Header Fields Too Large"), (451, "Unavailable For Legal Reasons"),
    (500, "Internal Server Error"), (501, "Not Implemented"), (502, "Bad Gateway"),
    (503, "Service Unavailable"), (504, "Gateway Timeout"), (505, "HTTP Version Not Supported"),
    (506, "Variant Also Negotiates"), (507, "Insufficient Storage"), (508, "Loop Detected"),
    (510, "Not Extended"), (511, "Network Authentication Required")]

/-- A status with its phrase. -/
def statusText (status : Nat) : String :=
  let phrase := (reasonPhrases.find? fun entry => entry.1 = status).map (·.2)
  s!"{status} " ++ phrase.getD "<unknown status code>"

end Provisioning.Azure.Rest
