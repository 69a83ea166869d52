import Provisioning.Number.Decimal
import Provisioning.Text.Integer

/-!
Numbers of JSON text. A literal without fraction and exponent is an integer if it fits into
sixty-four bits; every other literal is read as a binary number and kept as the shortest decimal
of that number.
-/

namespace Provisioning

open Number

/-- A number as JSON text holds it. -/
inductive JsonNumber where
  | int (value : Int)
  | float (value : Decimal)
  deriving DecidableEq, Repr

namespace JsonNumber

/-- The text of a number in JSON. -/
def render : JsonNumber → String
  | .int value => toString value
  | .float value => value.scientific

/-- The greatest significand that is collected. -/
def significandBound : Nat := Text.Integer.greatestUnsigned

/-- Digits collected into a significand, and the power of ten it stands at. Once a digit before the
point does not fit, the digits up to the point only move the power; a digit after the point that
does not fit ends the collecting. -/
structure Collected where
  significand : Nat
  power : Int

/-- Collects the digits before the point. -/
def collectWhole (value : Nat) : List Nat → Collected
  | [] => ⟨value, 0⟩
  | d :: rest =>
      if value * 10 + d ≤ significandBound then collectWhole (value * 10 + d) rest
      else ⟨value, (rest.length : Int) + 1⟩

/-- Collects the digits after the point. -/
def collectFraction (c : Collected) : List Nat → Collected
  | [] => c
  | d :: rest =>
      if c.significand * 10 + d ≤ significandBound then
        collectFraction ⟨c.significand * 10 + d, c.power - 1⟩ rest
      else c

/-- Scales a significand by a power of ten: divisions beyond the table of powers go in steps. -/
def scale? (x : Binary64) : (fuel : Nat) → (power : Int) → Option Binary64
  | 0, _ => none
  | fuel + 1, power =>
      if 0 ≤ power then
        if power ≤ 308 then (Binary64.tenPow? power.toNat).bind x.mul?
        else if x.mantissa = 0 then some x else none
      else if -308 ≤ power then (Binary64.tenPow? (-power).toNat).bind x.div?
      else if x.mantissa = 0 then some x
      else ((Binary64.tenPow? 308).bind x.div?).bind fun y => scale? y fuel (power + 308)

/-- The binary number of a literal with a fraction or an exponent; nothing if it is out of range. -/
def floating? (negative : Bool) (c : Collected) (exponent : Int) : Option JsonNumber := do
  let start ← Binary64.nearest? c.significand 1
  let power := c.power + exponent
  let steps := (-power).toNat / 308 + 2
  let steps := if steps ≤ 8 then steps else 8
  let value ← scale? start steps power
  some (.float (.ofBinary64 negative value))

/-- The number of a literal given by its parts. -/
def ofParts? (negative : Bool) (whole : List Nat) (fraction : Option (List Nat))
    (exponent : Option Int) : Option JsonNumber :=
  let c := collectWhole 0 whole
  match fraction, exponent with
  | none, none =>
      if c.power = 0 then
        if negative then
          if 0 < c.significand ∧ c.significand ≤ Text.Integer.greatestSigned + 1 then
            some (.int (-(c.significand : Int)))
          else floating? true c 0
        else some (.int c.significand)
      else floating? negative c 0
  | fraction, exponent =>
      floating? negative (collectFraction c (fraction.getD [])) (exponent.getD 0)

end JsonNumber

end Provisioning
