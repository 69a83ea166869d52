/-!
Base64 in the standard alphabet. Writing pads the last group; reading accepts exactly what writing
produces: full groups, padding in the last group only, and zero bits under the padding.
-/

namespace Provisioning.Text.Base64

/-- The character of a six-bit value. -/
def digit (n : Nat) : Char :=
  if n < 26 then Char.ofNat (65 + n)
  else if n < 52 then Char.ofNat (97 + (n - 26))
  else if n < 62 then Char.ofNat (48 + (n - 52))
  else if n = 62 then '+'
  else '/'

/-- The six-bit value of a character of the alphabet. -/
def digitValue? (c : Char) : Option Nat :=
  let n := c.toNat
  if 65 ≤ n ∧ n ≤ 90 then some (n - 65)
  else if 97 ≤ n ∧ n ≤ 122 then some (n - 97 + 26)
  else if 48 ≤ n ∧ n ≤ 57 then some (n - 48 + 52)
  else if c = '+' then some 62
  else if c = '/' then some 63
  else none

/-- Writes bytes in groups of four characters. -/
def encodeList : List UInt8 → List Char
  | [] => []
  | [a] =>
      let n := a.toNat
      [digit (n / 4), digit (n % 4 * 16), '=', '=']
  | [a, b] =>
      let n := a.toNat * 256 + b.toNat
      [digit (n / 1024), digit (n / 16 % 64), digit (n % 16 * 4), '=']
  | a :: b :: c :: rest =>
      let n := a.toNat * 65536 + b.toNat * 256 + c.toNat
      digit (n / 262144) :: digit (n / 4096 % 64) :: digit (n / 64 % 64) :: digit (n % 64) ::
        encodeList rest

/-- Reads groups of four characters. -/
def decodeList : List Char → Option (List UInt8)
  | [] => some []
  | [a, b, '=', '='] => do
      let x ← digitValue? a
      let y ← digitValue? b
      if y % 16 = 0 then some [UInt8.ofNat (x * 4 + y / 16)] else none
  | [a, b, c, '='] => do
      let x ← digitValue? a
      let y ← digitValue? b
      let z ← digitValue? c
      if z % 4 = 0 then
        some [UInt8.ofNat (x * 4 + y / 16), UInt8.ofNat (y % 16 * 16 + z / 4)]
      else none
  | a :: b :: c :: d :: rest => do
      let x ← digitValue? a
      let y ← digitValue? b
      let z ← digitValue? c
      let w ← digitValue? d
      let tail ← decodeList rest
      some (UInt8.ofNat (x * 4 + y / 16) :: UInt8.ofNat (y % 16 * 16 + z / 4) ::
        UInt8.ofNat (z % 4 * 64 + w) :: tail)
  | _ => none

/-- The written form of some bytes. -/
def encode (bytes : List UInt8) : String := String.ofList (encodeList bytes)

/-- The bytes of a written form; nothing for any other text. -/
def decode? (s : String) : Option (List UInt8) := decodeList s.toList

end Provisioning.Text.Base64
