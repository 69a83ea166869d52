/-!
Lengths of time for messages: the largest of the units s, ms, µs and ns that is not above the
length, with as many decimals as are needed to be exact.
-/

namespace Provisioning.Text.Duration

/-- The decimals of `part / scale`, where the scale is a power of ten; none for zero. -/
def decimals : (scale part : Nat) → (fuel : Nat) → List Char
  | _, _, 0 => []
  | scale, part, fuel + 1 =>
      if part = 0 then [] else
        let next := scale / 10
        Nat.toDigits 10 (part / next) ++ decimals next (part % next) fuel

/-- A whole number of units and a fraction of one. -/
def inUnits (nanoseconds unit : Nat) (name : String) : String :=
  let fraction := decimals unit (nanoseconds % unit) 9
  let point := if fraction.isEmpty then [] else ['.']
  String.ofList (Nat.toDigits 10 (nanoseconds / unit) ++ point ++ fraction) ++ name

/-- A length of time given in nanoseconds. -/
def render (nanoseconds : Nat) : String :=
  if 1000000000 ≤ nanoseconds then inUnits nanoseconds 1000000000 "s"
  else if 1000000 ≤ nanoseconds then inUnits nanoseconds 1000000 "ms"
  else if 1000 ≤ nanoseconds then inUnits nanoseconds 1000 "µs"
  else inUnits nanoseconds 1 "ns"

end Provisioning.Text.Duration
