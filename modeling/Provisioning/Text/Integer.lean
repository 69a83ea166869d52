/-!
Decimal integers of sixty-four bits: an optional sign and one or more ASCII digits. Digits are
judged from left to right and the first fault decides.
-/

namespace Provisioning.Text.Integer

/-- Why a text is no integer of the range. -/
inductive Fault where
  | empty
  | badDigit
  | tooLarge
  | tooSmall
  deriving DecidableEq, Repr

def Fault.message : Fault → String
  | .empty => "cannot parse integer from empty string"
  | .badDigit => "invalid digit found in string"
  | .tooLarge => "number too large to fit in target type"
  | .tooSmall => "number too small to fit in target type"

/-- The greatest signed integer of sixty-four bits, `2 ^ 63 - 1`. -/
def greatestSigned : Nat := 9223372036854775807

/-- The greatest unsigned integer of sixty-four bits, `2 ^ 64 - 1`. -/
def greatestUnsigned : Nat := 18446744073709551615

/-- The value of an ASCII digit. -/
def digitValue? (c : Char) : Option Nat :=
  if 48 ≤ c.toNat ∧ c.toNat ≤ 57 then some (c.toNat - 48) else none

/-- Accumulates digits as long as the magnitude stays within a bound. -/
def magnitude (bound : Nat) (overflow : Fault) (value : Nat) : List Char → Except Fault Nat
  | [] => .ok value
  | c :: rest =>
      match digitValue? c with
      | none => .error .badDigit
      | some d =>
          let next := value * 10 + d
          if next ≤ bound then magnitude bound overflow next rest else .error overflow

/-- Reads a signed integer of sixty-four bits. -/
def parseSigned : List Char → Except Fault Int
  | [] => .error .empty
  | ['+'] => .error .badDigit
  | ['-'] => .error .badDigit
  | '-' :: digits => (magnitude (greatestSigned + 1) .tooSmall 0 digits).map fun n => -(n : Int)
  | '+' :: digits => (magnitude greatestSigned .tooLarge 0 digits).map fun n => (n : Int)
  | digits => (magnitude greatestSigned .tooLarge 0 digits).map fun n => (n : Int)

/-- Reads an unsigned integer of sixty-four bits; a plus sign is allowed. -/
def parseUnsigned : List Char → Except Fault Nat
  | [] => .error .empty
  | ['+'] => .error .badDigit
  | '+' :: digits => magnitude greatestUnsigned .tooLarge 0 digits
  | digits => magnitude greatestUnsigned .tooLarge 0 digits

end Provisioning.Text.Integer
