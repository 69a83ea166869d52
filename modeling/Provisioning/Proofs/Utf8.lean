import Mathlib.Tactic.SplitIfs
import Provisioning.Text.Utf8

/-!
Text that was written in UTF-8 is read back. Main statements: `decode_encode`, and `text?_eq_some`,
that the strict reading reads that and nothing else.
-/

namespace Provisioning.Text.Utf8

variable {a b c d : UInt8} {n : Nat} {rest : List UInt8}

theorem toNat_ofNat (small : n < 256) : (UInt8.ofNat n).toNat = n :=
  UInt8.toNat_ofNat_of_lt' small

/-! ### Continuations -/

/-- A range of bytes is a range of numbers. -/
theorem between_iff {low high : UInt8} :
    (decide (low ≤ b) && decide (b ≤ high)) = true ↔
      low.toNat ≤ b.toNat ∧ b.toNat ≤ high.toNat := by
  simp [UInt8.le_iff_toNat_le]

theorem isContinuation_iff : isContinuation b = true ↔ 0x80 ≤ b.toNat ∧ b.toNat ≤ 0xBF :=
  between_iff

/-- The continuation byte of six bits. -/
theorem toNat_continuation (n : Nat) : (UInt8.ofNat (0x80 + n % 64)).toNat = 0x80 + n % 64 :=
  toNat_ofNat (by omega)

theorem isContinuation_continuation (n : Nat) :
    isContinuation (UInt8.ofNat (0x80 + n % 64)) = true := by
  rw [isContinuation_iff, toNat_continuation]
  omega

theorem payload_continuation (n : Nat) : payload (UInt8.ofNat (0x80 + n % 64)) = n % 64 := by
  rw [payload, toNat_continuation]
  omega

/-- A second byte continues, and the three bytes are neither too many nor a surrogate. -/
theorem secondOfThree_of (continues : 0x80 ≤ b.toNat ∧ b.toNat ≤ 0xBF)
    (short : a.toNat = 0xE0 → 0xA0 ≤ b.toNat) (scalar : a.toNat = 0xED → b.toNat ≤ 0x9F) :
    secondOfThree a b = true := by
  unfold secondOfThree
  split_ifs with least surrogate
  · exact between_iff.2 ⟨short (congrArg _ least), continues.2⟩
  · exact between_iff.2 ⟨continues.1, scalar (congrArg _ surrogate)⟩
  · exact isContinuation_iff.2 continues

/-- A second byte continues, and the four bytes are neither too many nor beyond the last plane. -/
theorem secondOfFour_of (continues : 0x80 ≤ b.toNat ∧ b.toNat ≤ 0xBF)
    (short : a.toNat = 0xF0 → 0x90 ≤ b.toNat) (planar : a.toNat = 0xF4 → b.toNat ≤ 0x8F) :
    secondOfFour a b = true := by
  unfold secondOfFour
  split_ifs with least last
  · exact between_iff.2 ⟨short (congrArg _ least), continues.2⟩
  · exact between_iff.2 ⟨continues.1, planar (congrArg _ last)⟩
  · exact isContinuation_iff.2 continues

/-! ### One character -/

theorem readChar_one (first : a.toNat < 0x80) : readChar a rest = (Char.ofNat a.toNat, 0) :=
  if_pos (UInt8.lt_iff_toNat_lt.2 first)

/-- A byte that is not the only one of a character. -/
theorem not_single (low : 0x80 ≤ a.toNat) : ¬a < 0x80 :=
  fun single => absurd (UInt8.lt_iff_toNat_lt.1 single) (Nat.not_lt.2 low)

/-- A byte above a range is outside it. -/
theorem not_between {low high : UInt8} (above : high.toNat < a.toNat) :
    ¬(decide (low ≤ a) && decide (a ≤ high)) = true :=
  fun between => absurd (between_iff.1 between).2 (Nat.not_le.2 above)

theorem readChar_two (low : 0xC2 ≤ a.toNat) (high : a.toNat ≤ 0xDF)
    (second : isContinuation b = true) :
    readChar a (b :: rest) = (Char.ofNat (a.toNat % 32 * 64 + payload b), 1) := by
  have two : (decide (0xC2 ≤ a) && decide (a ≤ 0xDF)) = true := between_iff.2 ⟨low, high⟩
  simp only [readChar, if_neg (not_single (a := a) (by omega)), if_pos two, if_pos second]

theorem readChar_three (low : 0xE0 ≤ a.toNat) (high : a.toNat ≤ 0xEF)
    (second : secondOfThree a b = true) (third : isContinuation c = true) :
    readChar a (b :: c :: rest) =
      (Char.ofNat (a.toNat % 16 * 4096 + payload b * 64 + payload c), 2) := by
  have two : ¬(decide (0xC2 ≤ a) && decide (a ≤ 0xDF)) = true := not_between low
  have three : (decide (0xE0 ≤ a) && decide (a ≤ 0xEF)) = true := between_iff.2 ⟨low, high⟩
  simp only [readChar, if_neg (not_single (a := a) (by omega)), if_neg two, if_pos three,
    if_pos second, if_pos third]

theorem readChar_four (low : 0xF0 ≤ a.toNat) (high : a.toNat ≤ 0xF4)
    (second : secondOfFour a b = true) (third : isContinuation c = true)
    (fourth : isContinuation d = true) :
    readChar a (b :: c :: d :: rest) = (Char.ofNat
      (a.toNat % 8 * 262144 + payload b * 4096 + payload c * 64 + payload d), 3) := by
  have two : ¬(decide (0xC2 ≤ a) && decide (a ≤ 0xDF)) = true :=
    not_between (Nat.lt_of_lt_of_le (by decide) low)
  have three : ¬(decide (0xE0 ≤ a) && decide (a ≤ 0xEF)) = true := not_between low
  have four : (decide (0xF0 ≤ a) && decide (a ≤ 0xF4)) = true := between_iff.2 ⟨low, high⟩
  simp only [readChar, if_neg (not_single (a := a) (by omega)), if_neg two, if_neg three,
    if_pos four, if_pos second, if_pos third, if_pos fourth]

/-- The bytes of a character are read as that character, whatever comes after them. -/
theorem readChar_encodeChar (x : Char) (rest : List UInt8) :
    ∃ first tail, encodeChar x = first :: tail ∧
      readChar first (tail ++ rest) = (x, tail.length) := by
  have valid : x.toNat < 0xD800 ∨ 0xDFFF < x.toNat ∧ x.toNat < 0x110000 := x.valid
  have continues (n : Nat) := isContinuation_continuation n
  have back := Char.ofNat_toNat x
  unfold encodeChar
  generalize x.toNat = n at valid back ⊢
  dsimp only
  split_ifs with one two three
  · have first := toNat_ofNat (n := n) (by omega)
    exact ⟨_, [], rfl, by rw [readChar_one (by omega), first, back]; rfl⟩
  · have first := toNat_ofNat (n := 0xC0 + n / 64) (by omega)
    have number : (0xC0 + n / 64) % 32 * 64 + n % 64 = n := by omega
    refine ⟨_, [_], rfl, ?_⟩
    rw [List.singleton_append, readChar_two (by omega) (by omega) (continues _), first,
      payload_continuation, number, back]
    rfl
  · have first := toNat_ofNat (n := 0xE0 + n / 4096) (by omega)
    have number : (0xE0 + n / 4096) % 16 * 4096 + n / 64 % 64 * 64 + n % 64 = n := by omega
    have second := toNat_continuation (n / 64)
    refine ⟨_, [_, _], rfl, ?_⟩
    rw [List.cons_append, List.singleton_append, readChar_three (by omega) (by omega)
      (secondOfThree_of (by omega) (by omega) (by omega)) (continues _), first,
      payload_continuation, payload_continuation, number, back]
    rfl
  · have first := toNat_ofNat (n := 0xF0 + n / 262144) (by omega)
    have number : (0xF0 + n / 262144) % 8 * 262144 + n / 4096 % 64 * 4096 + n / 64 % 64 * 64 +
      n % 64 = n := by omega
    have second := toNat_continuation (n / 4096)
    refine ⟨_, [_, _, _], rfl, ?_⟩
    rw [List.cons_append, List.cons_append, List.singleton_append, readChar_four (by omega)
      (by omega) (secondOfFour_of (by omega) (by omega) (by omega)) (continues _) (continues _),
      first, payload_continuation, payload_continuation, payload_continuation, number, back]
    rfl

/-! ### Text -/

theorem decodeFrom_append (tail rest : List UInt8) :
    decodeFrom tail.length (tail ++ rest) = decodeFrom 0 rest := by
  induction tail with
  | nil => rfl
  | cons b tail ih => exact ih

theorem decodeFrom_encodeChar (x : Char) (rest : List UInt8) :
    decodeFrom 0 (encodeChar x ++ rest) = x :: decodeFrom 0 rest := by
  obtain ⟨first, tail, bytes, read⟩ := readChar_encodeChar x rest
  rw [bytes, List.cons_append, decodeFrom, read, decodeFrom_append]

theorem decode_encode (s : String) : decode (encode s) = s := by
  have chars : ∀ cs : List Char, decodeFrom 0 (cs.flatMap encodeChar) = cs := by
    intro cs
    induction cs with
    | nil => rfl
    | cons x cs ih => rw [List.flatMap_cons, decodeFrom_encodeChar, ih]
  rw [decode, encode, chars, String.ofList_toList]

/-- The bytes of a text are read as that text, and no others. -/
theorem text?_eq_some {bytes : List UInt8} {text : String} :
    text? bytes = some text ↔ bytes = encode text := by
  unfold text?
  constructor
  · intro read
    split at read
    · rename_i whole
      cases read
      exact whole.symm
    · cases read
  · rintro rfl
    rw [decode_encode, if_pos rfl]

end Provisioning.Text.Utf8
