import Mathlib.Algebra.Group.Nat.Defs
import Mathlib.Data.List.Basic
import Mathlib.Tactic.SplitIfs
import Provisioning.Text.Base64
import Provisioning.Text.Blank

/-!
What a text in Base64 means. `Spells` says it by bits: characters stand for six bits each, and bytes
for eight. Main statements: `spells_iff`, that writing gives the only text that spells some bytes,
and `decode?_eq_some`, that reading gives the bytes that a text spells, and nothing if it spells
none.
-/

namespace Provisioning.Text.Base64

/-! ### Bits -/

/-- The lowest bits of a number, the lowest of all last. -/
def bits : (width n : Nat) → List Bool
  | 0, _ => []
  | width + 1, n => bits width (n / 2) ++ [decide (n % 2 = 1)]

theorem length_bits (width n : Nat) : (bits width n).length = width := by
  induction width generalizing n with
  | zero => rfl
  | succ width ih => rw [bits, List.length_append, ih, List.length_singleton]

theorem bits_add (first last n : Nat) :
    bits (first + last) n = bits first (n / 2 ^ last) ++ bits last n := by
  induction last generalizing n with
  | zero => simp [bits]
  | succ last ih =>
      rw [← Nat.add_assoc, bits, bits, ih, List.append_assoc, Nat.div_div_eq_div_mul, Nat.pow_succ']

theorem bits_mod (width n : Nat) : bits width (n % 2 ^ width) = bits width n := by
  induction width generalizing n with
  | zero => rfl
  | succ width ih =>
      rw [bits, bits, Nat.pow_succ', Nat.mod_mul_right_div_self, Nat.mod_mul_right_mod, ih]

theorem bits_congr {width n m : Nat} (same : n % 2 ^ width = m % 2 ^ width) :
    bits width n = bits width m := by
  rw [← bits_mod, same, bits_mod]

theorem bits_inj {width n m : Nat} (small : n < 2 ^ width) (other : m < 2 ^ width)
    (same : bits width n = bits width m) : n = m := by
  induction width generalizing n m with
  | zero => omega
  | succ width ih =>
      have ⟨high, low⟩ := List.append_inj same (by rw [length_bits, length_bits])
      have halves : n / 2 = m / 2 := ih (by omega) (by omega) high
      have lowest := decide_eq_decide.1 (List.singleton_inj.1 low)
      omega

/-- The bits of bytes, one byte after the other. -/
def bitsOf (bytes : List UInt8) : List Bool := bytes.flatMap fun byte => bits 8 byte.toNat

theorem length_bitsOf (bytes : List UInt8) : (bitsOf bytes).length = bytes.length * 8 := by
  simp [bitsOf, List.length_flatMap, length_bits]

/-- The bits of digits, one digit after the other. -/
def bitsOfDigits (digits : List (Fin 64)) : List Bool := digits.flatMap fun d => bits 6 d.val

theorem length_bitsOfDigits (digits : List (Fin 64)) :
    (bitsOfDigits digits).length = digits.length * 6 := by
  simp [bitsOfDigits, List.length_flatMap, length_bits]

theorem bitsOfDigits_inj {digits others : List (Fin 64)}
    (same : bitsOfDigits digits = bitsOfDigits others) : digits = others := by
  have lengths := congrArg List.length same
  rw [length_bitsOfDigits, length_bitsOfDigits] at lengths
  induction digits generalizing others with
  | nil =>
      rw [List.length_nil] at lengths
      exact (List.eq_nil_of_length_eq_zero (by omega)).symm
  | cons d digits ih =>
      cases others with
      | nil => simp at lengths
      | cons o others =>
          rw [List.length_cons, List.length_cons] at lengths
          have ⟨first, rest⟩ := List.append_inj same (by rw [length_bits, length_bits])
          rw [Fin.ext (bits_inj d.isLt o.isLt first), ih rest (by omega)]

/-! ### The alphabet -/

/-- The standard alphabet in the order of the values. -/
def alphabet : Vector Char 64 :=
  ⟨"ABCDEFGHIJKLMNOPQRSTUVWXYZabcdefghijklmnopqrstuvwxyz0123456789+/".toList.toArray, by decide⟩

theorem alphabet_eq_digit : ∀ (d : Nat) (_ : d < 64), alphabet[d] = digit d := by decide +kernel

theorem digitValue?_digit : ∀ (d : Nat) (_ : d < 64), digitValue? (digit d) = some d := by decide

theorem isBlank_digit : ∀ (d : Nat) (_ : d < 64), isBlank (digit d) = false := by decide

/-- A character that has a value is the digit of that value. -/
theorem digit_of_digitValue? {n : Nat} {c : Char} (found : digitValue? c = some n) :
    n < 64 ∧ digit n = c := by
  unfold digitValue? at found
  dsimp only at found
  split_ifs at found with upper lower numeral plus slash <;> cases found
  · refine ⟨by omega, ?_⟩
    rw [digit, if_pos (by omega), Nat.add_sub_cancel' upper.1, Char.ofNat_toNat]
  · refine ⟨by omega, ?_⟩
    rw [digit, if_neg (by omega), if_pos (by omega), Nat.add_sub_cancel,
      Nat.add_sub_cancel' lower.1, Char.ofNat_toNat]
  · refine ⟨by omega, ?_⟩
    rw [digit, if_neg (by omega), if_neg (by omega), if_pos (by omega), Nat.add_sub_cancel,
      Nat.add_sub_cancel' numeral.1, Char.ofNat_toNat]
  · exact ⟨by decide, plus ▸ rfl⟩
  · exact ⟨by decide, slash ▸ rfl⟩

/-! ### Texts -/

/-- A text stands for bytes: it is written in digits, and padded to a multiple of four characters.
The bits of the digits are those of the bytes, and two zeros for each character of padding. -/
def Spells (text : List Char) (bytes : List UInt8) : Prop :=
  ∃ (digits : List (Fin 64)) (padding : Nat),
    text = digits.map (alphabet[·]) ++ List.replicate padding '=' ∧
    text.length % 4 = 0 ∧ padding < 3 ∧
    bitsOfDigits digits = bitsOf bytes ++ List.replicate (2 * padding) false

section

variable {text other : List Char} {bytes : List UInt8}

/-- How many characters pad a text, and all others, is known from the bytes. -/
theorem Spells.unique (first : Spells text bytes) (second : Spells other bytes) : text = other := by
  obtain ⟨digits, padding, rfl, whole, few, same⟩ := first
  obtain ⟨others, more, rfl, also, fewer, equal⟩ := second
  have length := congrArg List.length same
  have lengths := congrArg List.length equal
  simp only [List.length_append, List.length_map, List.length_replicate, length_bitsOfDigits,
    length_bitsOf] at whole also length lengths
  have paddings : padding = more := by omega
  subst paddings
  rw [bitsOfDigits_inj (same.trans equal.symm)]

/-- No character of a text that stands for bytes is blank. -/
theorem Spells.not_blank (spells : Spells text bytes) : ∀ c ∈ text, isBlank c = false := by
  obtain ⟨digits, padding, rfl, _⟩ := spells
  intro c member
  rcases List.mem_append.1 member with spelled | padded
  · obtain ⟨d, _, rfl⟩ := List.mem_map.1 spelled
    rw [Fin.getElem_fin, alphabet_eq_digit]
    exact isBlank_digit d d.isLt
  · rw [List.eq_of_mem_replicate padded]
    rfl

end

/-! ### Writing -/

section

variable (a b c : UInt8)

/-- One byte and four zeros in two digits. -/
theorem bits_one : bits 6 (a.toNat / 4) ++ bits 6 (a.toNat % 4 * 16) =
    bits 8 a.toNat ++ List.replicate 4 false := by
  let n := a.toNat * 16
  calc
    _ = bits 6 (n / 2 ^ 6) ++ bits 6 n :=
      congrArg₂ _ (bits_congr (by omega)) (bits_congr (by omega))
    _ = bits (8 + 4) n := (bits_add 6 6 n).symm
    _ = bits 8 (n / 2 ^ 4) ++ bits 4 n := bits_add 8 4 n
    _ = _ := congrArg₂ _ (bits_congr (by omega)) (bits_congr (m := 0) (by omega))

/-- Two bytes and two zeros in three digits. -/
theorem bits_two : let n := a.toNat * 256 + b.toNat
    bits 6 (n / 1024) ++ (bits 6 (n / 16 % 64) ++ bits 6 (n % 16 * 4)) =
      bits 8 a.toNat ++ (bits 8 b.toNat ++ List.replicate 2 false) := by
  have small := b.toNat_lt
  intro k
  let n := k * 4
  calc
    _ = bits 6 (n / 2 ^ 12) ++ (bits 6 (n / 2 ^ 6) ++ bits 6 n) := by
      refine congrArg₂ _ (bits_congr ?_) (congrArg₂ _ (bits_congr ?_) (bits_congr ?_)) <;> omega
    _ = bits (8 + (8 + 2)) n := by rw [← bits_add 6 6, ← bits_add 6 12]
    _ = bits 8 (n / 2 ^ 10) ++ (bits 8 (n / 2 ^ 2) ++ bits 2 n) := by rw [bits_add, bits_add]
    _ = _ := by
      refine congrArg₂ _ (bits_congr ?_) (congrArg₂ _ (bits_congr ?_) (bits_congr (m := 0) ?_)) <;>
        omega

/-- Three bytes in four digits. -/
theorem bits_three : let n := a.toNat * 65536 + b.toNat * 256 + c.toNat
    bits 6 (n / 262144) ++ (bits 6 (n / 4096 % 64) ++ (bits 6 (n / 64 % 64) ++ bits 6 (n % 64))) =
      bits 8 a.toNat ++ (bits 8 b.toNat ++ bits 8 c.toNat) := by
  have small := b.toNat_lt
  have other := c.toNat_lt
  intro n
  calc
    _ = bits 6 (n / 2 ^ 18) ++ (bits 6 (n / 2 ^ 12) ++ (bits 6 (n / 2 ^ 6) ++ bits 6 n)) := by
      refine congrArg₂ _ rfl (congrArg₂ _ (bits_mod ..) (congrArg₂ _ (bits_mod ..) (bits_mod ..)))
    _ = bits (8 + (8 + 8)) n := by rw [← bits_add 6 6, ← bits_add 6 12, ← bits_add 6 18]
    _ = bits 8 (n / 2 ^ 16) ++ (bits 8 (n / 2 ^ 8) ++ bits 8 n) := by rw [bits_add, bits_add]
    _ = _ := by
      refine congrArg₂ _ (bits_congr ?_) (congrArg₂ _ (bits_congr ?_) (bits_congr ?_)) <;> omega

end

theorem spells_encodeList (bytes : List UInt8) : Spells (encodeList bytes) bytes := by
  fun_induction encodeList bytes with
  | case1 => exact ⟨[], 0, rfl, rfl, by decide, rfl⟩
  | case2 a n =>
      have small := a.toNat_lt
      refine ⟨[⟨n / 4, by omega⟩, ⟨n % 4 * 16, by omega⟩], 2, ?_, by simp, by decide, ?_⟩
      · simp [alphabet_eq_digit, List.replicate]
      · simpa [bitsOfDigits, bitsOf] using bits_one a
  | case3 a b n =>
      have small := a.toNat_lt
      have other := b.toNat_lt
      refine ⟨[⟨n / 1024, by omega⟩, ⟨n / 16 % 64, by omega⟩, ⟨n % 16 * 4, by omega⟩], 1, ?_,
        by simp, by decide, ?_⟩
      · simp [alphabet_eq_digit, List.replicate]
      · simpa [bitsOfDigits, bitsOf] using bits_two a b
  | case4 a b c rest n ih =>
      have small := a.toNat_lt
      have other := b.toNat_lt
      have third := c.toNat_lt
      obtain ⟨digits, padding, spelled, whole, few, same⟩ := ih
      refine ⟨⟨n / 262144, by omega⟩ :: ⟨n / 4096 % 64, by omega⟩ :: ⟨n / 64 % 64, by omega⟩ ::
        ⟨n % 64, by omega⟩ :: digits, padding, ?_, ?_, few, ?_⟩
      · simp [alphabet_eq_digit, spelled]
      · simp only [List.length_cons]
        omega
      · have group := bits_three a b c
        simp only [bitsOfDigits, bitsOf, List.flatMap_cons] at same ⊢
        rw [same]
        simp only [← List.append_assoc] at group ⊢
        rw [group]

/-! ### Reading -/

theorem digit_ne_pad {d : Nat} (small : d < 64) : digit d ≠ '=' := by
  intro same
  have found := digitValue?_digit d small
  rw [same] at found
  cases found

/-- A group without padding. -/
theorem decodeList_group {x y z w : Nat} (first : x < 64) (second : y < 64) (third : z < 64)
    (fourth : w < 64) (rest : List Char) :
    decodeList (digit x :: digit y :: digit z :: digit w :: rest) =
      (decodeList rest).map fun bytes => UInt8.ofNat (x * 4 + y / 16) ::
        UInt8.ofNat (y % 16 * 16 + z / 4) :: UInt8.ofNat (z % 4 * 64 + w) :: bytes := by
  rw [decodeList]
  · simp only [digitValue?_digit, first, second, third, fourth, Option.bind_eq_bind,
      Option.bind_some, Option.map_eq_bind]
    rfl
  · exact fun _ padded => absurd padded (digit_ne_pad fourth)
  · exact fun padded => absurd padded (digit_ne_pad fourth)

theorem decodeList_encodeList (bytes : List UInt8) :
    decodeList (encodeList bytes) = some bytes := by
  fun_induction encodeList bytes with
  | case1 => rfl
  | case2 a n =>
      have small := a.toNat_lt
      have byte : n / 4 * 4 + n % 4 * 16 / 16 = a.toNat := by omega
      have zeros : n % 4 * 16 % 16 = 0 := by omega
      rw [decodeList, digitValue?_digit _ (by omega), digitValue?_digit _ (by omega)]
      simp only [Option.bind_eq_bind, Option.bind_some, if_pos zeros, byte, UInt8.ofNat_toNat]
  | case3 a b n =>
      have small := a.toNat_lt
      have other := b.toNat_lt
      have first : n / 1024 * 4 + n / 16 % 64 / 16 = a.toNat := by omega
      have second : n / 16 % 64 % 16 * 16 + n % 16 * 4 / 4 = b.toNat := by omega
      have zeros : n % 16 * 4 % 4 = 0 := by omega
      rw [decodeList, digitValue?_digit _ (by omega), digitValue?_digit _ (by omega),
        digitValue?_digit _ (by omega)]
      · simp only [Option.bind_eq_bind, Option.bind_some, if_pos zeros, first, second,
          UInt8.ofNat_toNat]
      · exact digit_ne_pad (by omega)
  | case4 a b c rest n ih =>
      have small := a.toNat_lt
      have other := b.toNat_lt
      have third := c.toNat_lt
      have first : n / 262144 * 4 + n / 4096 % 64 / 16 = a.toNat := by omega
      have second : n / 4096 % 64 % 16 * 16 + n / 64 % 64 / 4 = b.toNat := by omega
      have last : n / 64 % 64 % 4 * 64 + n % 64 = c.toNat := by omega
      rw [decodeList_group (by omega) (by omega) (by omega) (by omega), ih, first, second, last]
      simp

section

variable {x y z w : Nat}

/-- The byte of two digits is written in these if the second ends with four zeros. -/
theorem encodeList_one (first : x < 64) (second : y < 64) (zeros : y % 16 = 0) :
    encodeList [UInt8.ofNat (x * 4 + y / 16)] = [digit x, digit y, '=', '='] := by
  let n := (x * 4 + y / 16) % 2 ^ 8
  have high : n / 4 = x := by omega
  have low : n % 4 * 16 = y := by omega
  rw [encodeList, UInt8.toNat_ofNat', high, low]

/-- The bytes of three digits are written in these if the third ends with two zeros. -/
theorem encodeList_two (first : x < 64) (second : y < 64) (third : z < 64) (zeros : z % 4 = 0) :
    encodeList [UInt8.ofNat (x * 4 + y / 16), UInt8.ofNat (y % 16 * 16 + z / 4)] =
      [digit x, digit y, digit z, '='] := by
  let n := (x * 4 + y / 16) % 2 ^ 8 * 256 + (y % 16 * 16 + z / 4) % 2 ^ 8
  have high : n / 1024 = x := by omega
  have middle : n / 16 % 64 = y := by omega
  have low : n % 16 * 4 = z := by omega
  rw [encodeList, UInt8.toNat_ofNat', UInt8.toNat_ofNat', high, middle, low]

/-- The bytes of four digits are written in these. -/
theorem encodeList_three (first : x < 64) (second : y < 64) (third : z < 64) (fourth : w < 64)
    (rest : List UInt8) :
    encodeList (UInt8.ofNat (x * 4 + y / 16) :: UInt8.ofNat (y % 16 * 16 + z / 4) ::
        UInt8.ofNat (z % 4 * 64 + w) :: rest) =
      digit x :: digit y :: digit z :: digit w :: encodeList rest := by
  let n := (x * 4 + y / 16) % 2 ^ 8 * 65536 + (y % 16 * 16 + z / 4) % 2 ^ 8 * 256 +
    (z % 4 * 64 + w) % 2 ^ 8
  have highest : n / 262144 = x := by omega
  have high : n / 4096 % 64 = y := by omega
  have low : n / 64 % 64 = z := by omega
  have lowest : n % 64 = w := by omega
  rw [encodeList, UInt8.toNat_ofNat', UInt8.toNat_ofNat', UInt8.toNat_ofNat', highest, high, low,
    lowest]

end

/-- Nothing is read but what is written. -/
theorem eq_encodeList {text : List Char} {bytes : List UInt8}
    (read : decodeList text = some bytes) : text = encodeList bytes := by
  fun_induction decodeList text generalizing bytes with
  | case1 =>
      cases read
      rfl
  | case2 a b =>
      obtain ⟨x, first, ended⟩ := Option.bind_eq_some_iff.1 read
      obtain ⟨y, second, ended⟩ := Option.bind_eq_some_iff.1 ended
      obtain ⟨zeros, same⟩ := Option.ite_none_right_eq_some.1 ended
      cases same
      obtain ⟨small, rfl⟩ := digit_of_digitValue? first
      obtain ⟨other, rfl⟩ := digit_of_digitValue? second
      exact (encodeList_one small other zeros).symm
  | case3 a b c full =>
      obtain ⟨x, first, ended⟩ := Option.bind_eq_some_iff.1 read
      obtain ⟨y, second, ended⟩ := Option.bind_eq_some_iff.1 ended
      obtain ⟨z, third, ended⟩ := Option.bind_eq_some_iff.1 ended
      obtain ⟨zeros, same⟩ := Option.ite_none_right_eq_some.1 ended
      cases same
      obtain ⟨small, rfl⟩ := digit_of_digitValue? first
      obtain ⟨other, rfl⟩ := digit_of_digitValue? second
      obtain ⟨last, rfl⟩ := digit_of_digitValue? third
      exact (encodeList_two small other last zeros).symm
  | case4 a b c d rest _ _ ih =>
      obtain ⟨x, first, ended⟩ := Option.bind_eq_some_iff.1 read
      obtain ⟨y, second, ended⟩ := Option.bind_eq_some_iff.1 ended
      obtain ⟨z, third, ended⟩ := Option.bind_eq_some_iff.1 ended
      obtain ⟨w, fourth, ended⟩ := Option.bind_eq_some_iff.1 ended
      obtain ⟨others, further, same⟩ := Option.bind_eq_some_iff.1 ended
      cases same
      obtain ⟨small, rfl⟩ := digit_of_digitValue? first
      obtain ⟨other, rfl⟩ := digit_of_digitValue? second
      obtain ⟨more, rfl⟩ := digit_of_digitValue? third
      obtain ⟨last, rfl⟩ := digit_of_digitValue? fourth
      rw [encodeList_three small other more last, ih further]
  | case5 => cases read

/-- Writing gives the one text that stands for some bytes. -/
theorem spells_iff {text : List Char} {bytes : List UInt8} :
    Spells text bytes ↔ text = encodeList bytes := by
  constructor
  · exact fun spells => spells.unique (spells_encodeList bytes)
  · rintro rfl
    exact spells_encodeList bytes

/-- Reading gives the bytes that a text stands for. -/
theorem decode?_eq_some {text : String} {bytes : List UInt8} :
    decode? text = some bytes ↔ Spells text.toList bytes := by
  rw [spells_iff]
  constructor
  · exact eq_encodeList
  · intro same
    rw [decode?, same, decodeList_encodeList]

theorem decode?_encode (bytes : List UInt8) : decode? (encode bytes) = some bytes := by
  rw [decode?, encode, String.toList_ofList, decodeList_encodeList]

end Provisioning.Text.Base64
