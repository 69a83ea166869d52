/-!
The non-negative numbers of the binary interchange format with sixty-four bits, as exact integers:
rounding of a quotient to the nearest such number, a half going to the even neighbour.
-/

namespace Provisioning.Number

/-- The number `mantissa * 2 ^ exponent`. -/
structure Binary64 where
  mantissa : Nat
  exponent : Int
  deriving DecidableEq, Repr

namespace Binary64

/-- The least mantissa of fifty-three binary digits, `2 ^ 52`. -/
def leastFull : Nat := 4503599627370496

/-- The least exponent of the format. -/
def leastExponent : Int := -1074

/-- A numerator and a denominator of the number. -/
def fraction (x : Binary64) : Nat × Nat :=
  (x.mantissa * Nat.pow 2 x.exponent.toNat, Nat.pow 2 (-x.exponent).toNat)

/-- The exponent of the greatest power of two that is not above `num / den`. -/
def floorLog2 (num den : Nat) : Int :=
  let guess : Int := (num.log2 : Int) - (den.log2 : Int)
  if den * Nat.pow 2 guess.toNat ≤ num * Nat.pow 2 (-guess).toNat then guess else guess - 1

/-- The number of the format nearest to `num / den`; nothing when that is above all of them. -/
def nearest? (num den : Nat) : Option Binary64 :=
  if num = 0 then some ⟨0, leastExponent⟩ else
    let exponent := max leastExponent (floorLog2 num den - 52)
    let top := num * Nat.pow 2 (-exponent).toNat
    let bottom := den * Nat.pow 2 exponent.toNat
    let quotient := top / bottom
    let rest := 2 * (top % bottom)
    let rounded :=
      if rest < bottom then quotient
      else if bottom < rest then quotient + 1
      else quotient + quotient % 2
    let result : Binary64 :=
      if rounded = 2 * leastFull then ⟨leastFull, exponent + 1⟩ else ⟨rounded, exponent⟩
    if 971 < result.exponent then none else some result

/-- The product of two numbers, rounded. -/
def mul? (x y : Binary64) : Option Binary64 :=
  nearest? (x.fraction.1 * y.fraction.1) (x.fraction.2 * y.fraction.2)

/-- The quotient of two numbers, rounded. -/
def div? (x y : Binary64) : Option Binary64 :=
  nearest? (x.fraction.1 * y.fraction.2) (x.fraction.2 * y.fraction.1)

/-- A power of ten, rounded. -/
def tenPow? (n : Nat) : Option Binary64 := nearest? (Nat.pow 10 n) 1

end Binary64

end Provisioning.Number
