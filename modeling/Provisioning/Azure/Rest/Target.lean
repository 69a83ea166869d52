import Provisioning.Azure.Rest.Message
import Provisioning.Text.Utf8

/-!
The target of a request as it is sent: the path of its address, where blanks and other characters
that cannot stand there are escaped, and the query with the added parameters in form encoding.
-/

namespace Provisioning.Azure.Rest

open Provisioning.Text

namespace Target

/-- A byte as a percent sign and two upper-case hexadecimal digits. -/
def percent (byte : UInt8) : List Char :=
  let digit (n : Nat) : Char := (Nat.digitChar n).toUpper
  ['%', digit (byte.toNat / 16), digit (byte.toNat % 16)]

/-- Escapes every character that is not ASCII or fails a test. -/
def escape (plain : Char → Bool) (text : List Char) : List Char :=
  text.flatMap fun c =>
    if 32 < c.toNat && c.toNat < 127 && plain c then [c]
    else (Utf8.encode (String.singleton c)).flatMap percent

/-- Form encoding, where a plus sign stands for a blank. -/
def formText (text : String) : List Char :=
  text.toList.flatMap fun c =>
    if c = ' ' then ['+']
    else escape (fun c => c.isAlphanum || ['*', '-', '.', '_'].contains c) [c]

/-- Parameters in form encoding. -/
def formFields (fields : List (String × String)) : List Char :=
  List.intercalate ['&'] (fields.map fun f => formText f.1 ++ '=' :: formText f.2)

/-- What follows the authority of an address. -/
def afterAuthority (url : List Char) : List Char :=
  match url with
  | ':' :: '/' :: '/' :: rest => rest.dropWhile (· ≠ '/')
  | _ :: rest => afterAuthority rest
  | [] => []

def inPath (c : Char) : Bool := !(['"', '<', '>', '\x60', '\x7b', '\x7d'].contains c)

def inQuery (c : Char) : Bool := !(['"', '<', '>', '\''].contains c)

end Target

/-- The path and query of a message. -/
def Message.target (m : Message) : String :=
  let whole := (Target.afterAuthority m.url.toList).takeWhile (· ≠ '#')
  let path := Target.escape Target.inPath (whole.takeWhile (· ≠ '?'))
  let own := Target.escape Target.inQuery ((whole.dropWhile (· ≠ '?')).drop 1)
  let queries := [own, Target.formFields m.query].filter fun part => !part.isEmpty
  String.ofList (path ++ if queries.isEmpty then [] else '?' :: List.intercalate ['&'] queries)

end Provisioning.Azure.Rest
