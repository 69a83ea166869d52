import Provisioning.Number.Binary64

/-!
Decimal numbers, and the shortest decimal that reads back as a given binary number.
-/

namespace Provisioning.Number

/-- The number `digits * 10 ^ exponent` with a sign. -/
structure Decimal where
  negative : Bool
  digits : Nat
  exponent : Int
  deriving DecidableEq, Repr

namespace Decimal

/-- Moves zeros at the end of the digits into the exponent. -/
def stripZeros : (fuel digits : Nat) → (exponent : Int) → Nat × Int
  | 0, digits, exponent => (digits, exponent)
  | fuel + 1, digits, exponent =>
      if digits ≠ 0 ∧ digits % 10 = 0 then stripZeros fuel (digits / 10) (exponent + 1)
      else (digits, exponent)

/-- The exponent of the greatest power of ten that is not above `num / den`. -/
def floorLog10 (num den : Nat) : Int :=
  if den ≤ num then ((Nat.toDigits 10 (num / den)).length : Int) - 1
  else match (List.range 400).find? fun n => den ≤ num * Nat.pow 10 n with
    | some n => -(n : Int)
    | none => -400

/-- Whether `a / b` is at most `c / d`. -/
def ratioLe (a b c d : Nat) : Bool := a * d ≤ c * b

/-- The decimal with the fewest digits among those that round to a positive number of the binary
format, and the nearest to it of these. -/
def shortest (x : Binary64) : Nat × Int :=
  let quarter : Binary64 := ⟨4 * x.mantissa, x.exponent - 2⟩
  let (num, den) := quarter.fraction
  let unit := Nat.pow 2 quarter.exponent.toNat
  let below :=
    if x.mantissa = Binary64.leastFull ∧ Binary64.leastExponent < x.exponent then 1 else 2
  let low := num - below * unit
  let high := num + 2 * unit
  let inclusive := x.mantissa % 2 = 0
  let magnitude := floorLog10 num den
  let within (c : Nat) (p : Int) : Bool :=
    let top := c * Nat.pow 10 p.toNat
    let bottom := Nat.pow 10 (-p).toNat
    if inclusive then ratioLe low den top bottom && ratioLe top bottom high den
    else !ratioLe top bottom low den && !ratioLe high den top bottom
  let candidate (places : Nat) : Option (Nat × Int) :=
    let p : Int := magnitude - (places : Int)
    let scaledNum := num * Nat.pow 10 (-p).toNat
    let scaledDen := den * Nat.pow 10 p.toNat
    let c := scaledNum / scaledDen
    let rest := 2 * (scaledNum % scaledDen)
    let nearer := if rest < scaledDen then c else if scaledDen < rest then c + 1 else c + c % 2
    let other := if nearer = c then c + 1 else c
    if within nearer p then some (nearer, p)
    else if within other p then some (other, p)
    else none
  match (List.range 17).findSome? candidate with
  | some (c, p) => stripZeros 20 c p
  | none => (0, 0)

/-- A binary number with a sign as its shortest decimal. -/
def ofBinary64 (negative : Bool) (x : Binary64) : Decimal :=
  if x.mantissa = 0 then ⟨negative, 0, 0⟩
  else
    let (digits, exponent) := shortest x
    ⟨negative, digits, exponent⟩

/-- Positional text, always with a point and a digit after it. -/
def positional (d : Decimal) : String :=
  let ds := Nat.toDigits 10 d.digits
  let body :=
    if 0 ≤ d.exponent then ds ++ List.replicate d.exponent.toNat '0' ++ ['.', '0']
    else
      let places := (-d.exponent).toNat
      if places < ds.length then
        ds.take (ds.length - places) ++ ['.'] ++ ds.drop (ds.length - places)
      else ['0', '.'] ++ List.replicate (places - ds.length) '0' ++ ds
  String.ofList (if d.negative then '-' :: body else body)

/-- The text of an exponent, always with a sign. -/
def exponentText (n : Int) : String := if 0 ≤ n then s!"+{n}" else toString n

/-- Positional text for magnitudes from 10⁻⁵ up to 10¹⁶, otherwise one digit before the point and
an exponent. -/
def scientific (d : Decimal) : String :=
  let ds := Nat.toDigits 10 d.digits
  let lead : Int := (ds.length : Int) + d.exponent
  if d.digits = 0 ∨ (-5 < lead ∧ lead ≤ 16) then d.positional
  else
    let point := if ds.length ≤ 1 then [] else '.' :: ds.drop 1
    let body := ds.take 1 ++ point ++ ['e'] ++ (exponentText (lead - 1)).toList
    String.ofList (if d.negative then '-' :: body else body)

end Decimal

end Provisioning.Number
