import Mathlib.Algebra.Group.Int.Defs
import Provisioning.ConfigVar
import Provisioning.Proofs.Blanks
import Provisioning.Proofs.Digits
import Provisioning.Proofs.Outcomes

/-!
Integers in text variables. `SignedNumeral` is the grammar of integers: digits, with a sign in front
of them or without. `parseSigned_eq_ok` says which of them are read, and `parseSigned_eq_error` what
is wrong with any other text. Main statement: `int_reads_exactly`, for any variable and wherever it
is looked up.
-/

namespace Provisioning

namespace Text.Integer

/-! ### Signs -/

/-- What stands in front of digits. -/
inductive Sign where
  | bare
  | plus
  | minus

namespace Sign

def text : Sign → List Char
  | bare => []
  | plus => ['+']
  | minus => ['-']

/-- The integer of a sign and the number behind it. -/
def value : Sign → Nat → Int
  | minus, k => -k
  | bare, k | plus, k => k

/-- The greatest number that may stand behind a sign. -/
def bound : Sign → Nat
  | minus => greatestSigned + 1
  | bare | plus => greatestSigned

/-- The fault of a number that is too great for its sign. -/
def overflow : Sign → Fault
  | minus => .tooSmall
  | bare | plus => .tooLarge

/-- A sign is told apart from what stands behind it: where there is none, the rest begins with
none. -/
def Apart : Sign → List Char → Prop
  | bare, rest => ∀ c ∈ rest.head?, c ≠ '+' ∧ c ≠ '-'
  | plus, _ | minus, _ => True

/-- Every text has one sign, and what stands behind it. -/
theorem exists_apart (text : List Char) :
    ∃ (sign : Sign) (rest : List Char), text = sign.text ++ rest ∧ sign.Apart rest := by
  cases text with
  | nil => exact ⟨bare, [], rfl, nofun⟩
  | cons c rest =>
      by_cases positive : c = '+'
      · exact ⟨plus, rest, by rw [positive]; rfl, trivial⟩
      by_cases negative : c = '-'
      · exact ⟨minus, rest, by rw [negative]; rfl, trivial⟩
      refine ⟨bare, c :: rest, rfl, ?_⟩
      rintro _ ⟨⟩
      exact ⟨positive, negative⟩

theorem eq_of_apart {sign other : Sign} {rest tail : List Char} (apart : sign.Apart rest)
    (also : other.Apart tail) (same : sign.text ++ rest = other.text ++ tail) :
    sign = other ∧ rest = tail := by
  cases sign <;> cases other <;> grind [text, Apart]

/-- No digit is a sign. -/
theorem apart_of_numeral {k : Nat} {numeral : List Char} (sign : Sign) (digits : Numeral k numeral)
    (rest : List Char) : sign.Apart (numeral ++ rest) := by
  obtain ⟨d, others, small, rfl⟩ := digits.exists_digit
  cases sign with
  | plus | minus => trivial
  | bare =>
      have unsigned : ∀ d < 10, Nat.digitChar d ≠ '+' ∧ Nat.digitChar d ≠ '-' := by decide
      rintro _ ⟨⟩
      exact unsigned d small

end Sign

/-! ### Signed numerals -/

variable {n : Int} {k : Nat} {digits numeral rest text : List Char} {fault : Fault}

/-- Digits, with a sign in front of them or without, and the integer that they stand for. -/
inductive SignedNumeral : Int → List Char → Prop where
  | intro (sign : Sign) {k : Nat} {digits : List Char} :
      Numeral k digits → SignedNumeral (sign.value k) (sign.text ++ digits)

/-- An integer at the front of a text has the sign of the text. -/
theorem SignedNumeral.of_append {sign : Sign} (apart : sign.Apart digits)
    (signed : SignedNumeral n numeral) (same : sign.text ++ digits = numeral ++ rest) :
    ∃ k own, n = sign.value k ∧ Numeral k own ∧ digits = own ++ rest := by
  obtain ⟨other, numbered⟩ := signed
  rw [List.append_assoc] at same
  obtain ⟨rfl, rfl⟩ := Sign.eq_of_apart apart (other.apart_of_numeral numbered rest) same
  exact ⟨_, _, rfl, numbered, rfl⟩

theorem signedNumeral_iff {sign : Sign} (apart : sign.Apart digits) :
    SignedNumeral n (sign.text ++ digits) ↔ ∃ k, sign.value k = n ∧ Numeral k digits := by
  constructor
  · intro signed
    obtain ⟨k, own, rfl, numbered, same⟩ := signed.of_append apart (List.append_nil _).symm
    rw [List.append_nil] at same
    exact ⟨k, rfl, same ▸ numbered⟩
  · rintro ⟨k, rfl, numbered⟩
    exact .intro sign numbered

/-- The number behind a sign is bounded as the integer has to be. -/
theorem Sign.le_bound_iff (sign : Sign) (k : Nat) :
    k ≤ sign.bound ↔ -2 ^ 63 ≤ sign.value k ∧ sign.value k < 2 ^ 63 := by
  cases sign <;> simp only [bound, value, greatestSigned] <;> omega

/-- What is read behind a sign. -/
theorem parseSigned_append {sign : Sign} (given : digits ≠ []) (apart : sign.Apart digits) :
    parseSigned (sign.text ++ digits) =
      (magnitude sign.bound sign.overflow 0 digits).map sign.value := by
  -- The number is made an integer before its sign is applied.
  have lifted (outcome : Except Fault Nat) (change : Int → Int) :
      (do return ((← outcome : Nat) : Int)).map change = outcome.map fun k : Nat => change k := by
    cases outcome <;> rfl
  cases sign with
  | plus =>
      change parseSigned ('+' :: digits) = _
      rw [parseSigned]
      · exact lifted _ _
      · exact given
  | minus =>
      change parseSigned ('-' :: digits) = _
      rw [parseSigned]
      · exact lifted _ _
      · exact given
  | bare =>
      have unsigned {c : Char} {rest : List Char} (front : digits = c :: rest) :
          c ≠ '+' ∧ c ≠ '-' := apart c (by rw [front]; rfl)
      change parseSigned digits = _
      rw [parseSigned]
      · exact lifted _ _
      · exact given
      · exact fun front => (unsigned front).1 rfl
      · exact fun front => (unsigned front).2 rfl
      · exact fun _ front => (unsigned front).2 rfl
      · exact fun _ front => (unsigned front).1 rfl

/-- A signed integer of sixty-four bits is read from its digits, whatever zeros and sign stand in
front of them. -/
theorem parseSigned_eq_ok :
    parseSigned text = .ok n ↔ SignedNumeral n text ∧ -2 ^ 63 ≤ n ∧ n < 2 ^ 63 := by
  obtain ⟨sign, digits, rfl, apart⟩ := Sign.exists_apart text
  rw [signedNumeral_iff apart]
  by_cases given : digits = []
  · subst given
    refine iff_of_false ?_ ?_
    · cases sign <;> exact nofun
    · rintro ⟨⟨k, _, numbered⟩, _⟩
      exact numbered.ne_nil rfl
  · rw [parseSigned_append given apart, map_eq_ok]
    simp only [magnitude_zero_eq_ok given, Sign.le_bound_iff]
    constructor
    · rintro ⟨k, ⟨numbered, fits⟩, rfl⟩
      exact ⟨⟨k, rfl, numbered⟩, fits⟩
    · rintro ⟨⟨k, rfl, numbered⟩, fits⟩
      exact ⟨k, ⟨numbered, fits⟩, rfl⟩

theorem numeral_repr (k : Nat) : Numeral k k.repr.toList := by
  obtain ⟨ds, decimals, text⟩ := Json.exists_decimals k
  rw [Nat.toList_repr]
  refine ⟨ds, ?_, decimals.small, text, decimals.value⟩
  rcases decimals.leading with ⟨_, rfl⟩ | ⟨_, d, rest, rfl, _⟩
  · exact List.cons_ne_nil 0 []
  · exact List.cons_ne_nil d rest

/-- The decimal text of an integer stands for it. -/
theorem signedNumeral_toString (n : Int) : SignedNumeral n (toString n).toList := by
  rw [Int.toString_eq_repr, Int.repr_eq_if]
  split
  next nonnegative =>
    have signed := SignedNumeral.intro .bare (numeral_repr n.toNat)
    rwa [Sign.value, Int.toNat_of_nonneg nonnegative] at signed
  next negative =>
    have signed := SignedNumeral.intro .minus (numeral_repr (-n).toNat)
    rw [Sign.value, Int.toNat_of_nonneg (by omega), Int.neg_neg] at signed
    rw [String.toList_append]
    exact signed

theorem SignedNumeral.solid (signed : SignedNumeral n text) :
    ∀ c ∈ text, isBlank c = false := by
  have digit : ∀ d < 10, isBlank (Nat.digitChar d) = false := by decide
  obtain ⟨sign, ds, _, small, rfl, _⟩ := signed
  refine List.forall_mem_append.2 ⟨?_, ?_⟩
  · cases sign with
    | bare => exact nofun
    | plus | minus => exact List.forall_mem_singleton.2 rfl
  · exact List.forall_mem_map.2 fun d member => digit d (small d member)

/-! ### Faults -/

section Faults

variable {bound value : Nat} {overflow : Fault}

/-- Digits are refused as soon as their number is too great, by induction on them. -/
theorem magnitude_of_exceeds {ds : List Nat} (within : value ≤ bound) (small : ∀ d ∈ ds, d < 10)
    (exceeds : bound < ds.foldl (fun n d => n * 10 + d) value) (rest : List Char) :
    magnitude bound overflow value (ds.map Nat.digitChar ++ rest) = .error overflow := by
  induction ds generalizing value with
  | nil => exact absurd within (Nat.not_le.2 exceeds)
  | cons d ds ih =>
      obtain ⟨first, others⟩ := List.forall_mem_cons.1 small
      simp only [List.map_cons, List.cons_append, magnitude, Json.digitValue?_digitChar first]
      split
      next fits => exact ih fits others exceeds
      next => rfl

/-- What is refused has a character that is no digit, or its number is too great already. -/
theorem magnitude_fault (failed : magnitude bound overflow value text = .error fault) :
    fault = .badDigit ∨ fault = overflow ∧ ∃ (ds : List Nat) (rest : List Char),
      (∀ d ∈ ds, d < 10) ∧ text = ds.map Nat.digitChar ++ rest ∧
        bound < ds.foldl (fun n d => n * 10 + d) value := by
  induction text generalizing value with
  | nil => cases failed
  | cons c text ih =>
      simp only [magnitude] at failed
      split at failed
      · cases failed
        exact .inl rfl
      · rename_i d digit
        obtain ⟨small, rfl⟩ := eq_digitChar digit
        split at failed
        · rcases ih failed with stray | ⟨known, ds, rest, others, rfl, exceeds⟩
          · exact .inl stray
          · have all : ∀ e ∈ d :: ds, e < 10 := List.forall_mem_cons.2 ⟨small, others⟩
            exact .inr ⟨known, d :: ds, rest, all, rfl, exceeds⟩
        · rename_i exceeds
          cases failed
          exact .inr ⟨rfl, [d], text, List.forall_mem_singleton.2 small, rfl, Nat.not_le.1 exceeds⟩

end Faults

/-- An integer is beyond the end of the range that a fault is about. -/
def Exceeds : Fault → Int → Prop
  | .tooLarge, n => 2 ^ 63 ≤ n
  | .tooSmall, n => n < -2 ^ 63
  | .empty, _ | .badDigit, _ => False

theorem Sign.exceeds_iff (sign : Sign) (k : Nat) :
    Exceeds fault (sign.value k) ↔ fault = sign.overflow ∧ sign.bound < k := by
  cases sign <;> cases fault <;> simp [Exceeds, overflow, bound, value, greatestSigned] <;> omega

/-- What is wrong with a text that is no integer of sixty-four bits. Characters are judged from left
to right, so that an integer out of range is a fault whatever follows it. -/
inductive Fault.Of : Fault → List Char → Prop where
  | empty : Fault.Of .empty []
  | beyond {fault : Fault} {n : Int} {numeral : List Char} (rest : List Char) :
      SignedNumeral n numeral → Exceeds fault n → Fault.Of fault (numeral ++ rest)
  | badDigit {text : List Char} : text ≠ [] → (∀ n, ¬SignedNumeral n text) →
      (∀ fault n numeral rest, text = numeral ++ rest → SignedNumeral n numeral →
        ¬Exceeds fault n) → Fault.Of .badDigit text

theorem parseSigned_of_exceeds (signed : SignedNumeral n numeral) (exceeds : Exceeds fault n)
    (rest : List Char) : parseSigned (numeral ++ rest) = .error fault := by
  obtain ⟨sign, numbered⟩ := signed
  obtain ⟨rfl, great⟩ := (sign.exceeds_iff _).1 exceeds
  have given := List.append_ne_nil_of_left_ne_nil numbered.ne_nil rest
  have apart := sign.apart_of_numeral numbered rest
  obtain ⟨ds, _, small, rfl, rfl⟩ := numbered
  rw [List.append_assoc, parseSigned_append given apart, map_eq_error]
  exact magnitude_of_exceeds (Nat.zero_le _) small great rest

theorem parseSigned_fault (failed : parseSigned text = .error fault) :
    fault = .empty ∧ text = [] ∨ fault = .badDigit ∨ ∃ n numeral rest,
      text = numeral ++ rest ∧ SignedNumeral n numeral ∧ Exceeds fault n := by
  obtain ⟨sign, digits, rfl, apart⟩ := Sign.exists_apart text
  by_cases given : digits = []
  · subst given
    cases sign <;> cases failed
    · exact .inl ⟨rfl, rfl⟩
    · exact .inr (.inl rfl)
    · exact .inr (.inl rfl)
  · rw [parseSigned_append given apart, map_eq_error] at failed
    refine .inr ((magnitude_fault failed).imp_right ?_)
    rintro ⟨known, ds, rest, small, rfl, great⟩
    have some : ds ≠ [] := by
      rintro rfl
      exact Nat.not_lt_zero _ great
    exact ⟨_, _, rest, (List.append_assoc _ _ _).symm, .intro sign ⟨ds, some, small, rfl, rfl⟩,
      (sign.exceeds_iff _).2 ⟨known, great⟩⟩

/-- A text that is not read has a fault, and each fault is reported. -/
theorem parseSigned_eq_error : parseSigned text = .error fault ↔ fault.Of text := by
  constructor
  · intro failed
    rcases parseSigned_fault failed with ⟨rfl, rfl⟩ | rfl | ⟨n, numeral, rest, rfl, signed, exceeds⟩
    · exact .empty
    · -- Any other text is read, or has another fault.
      have within (other : Fault) (n : Int) (numeral rest : List Char)
          (same : text = numeral ++ rest) (signed : SignedNumeral n numeral) :
          ¬Exceeds other n := by
        intro exceeds
        rw [same, parseSigned_of_exceeds signed exceeds] at failed
        cases failed
        exact exceeds
      refine .badDigit ?_ ?_ within
      · rintro rfl
        cases failed
      · intro n signed
        have whole : text = text ++ [] := (List.append_nil text).symm
        have least : ¬n < -2 ^ 63 := within .tooSmall n text [] whole signed
        have most : ¬2 ^ 63 ≤ n := within .tooLarge n text [] whole signed
        have read := parseSigned_eq_ok.2 ⟨signed, Int.not_lt.1 least, Int.not_le.1 most⟩
        cases failed.symm.trans read
    · exact .beyond rest signed exceeds
  · rintro (_ | ⟨rest, signed, exceeds⟩ | ⟨given, none, within⟩)
    · rfl
    · exact parseSigned_of_exceeds signed exceeds rest
    · cases read : parseSigned text with
      | ok n => exact absurd (parseSigned_eq_ok.1 read).1 (none n)
      | error other =>
          rcases parseSigned_fault read with ⟨_, rfl⟩ | rfl | ⟨n, _, rest, same, signed, exceeds⟩
          · exact absurd rfl given
          · rfl
          · exact absurd exceeds (within other n _ rest same signed)

/-! ### Texts -/

/-- A text states an integer of sixty-four bits, maybe with blanks around it. -/
def Says (text : String) (n : Int) : Prop :=
  ∃ numeral, Trims text.toList numeral ∧ SignedNumeral n numeral ∧ -2 ^ 63 ≤ n ∧ n < 2 ^ 63

theorem Says.ne_empty {text : String} (said : Says text n) : text ≠ "" := by
  rintro rfl
  obtain ⟨numeral, trims, stated⟩ := said
  have nothing : [] = numeral := trims.trimList_eq
  rw [← nothing] at stated
  cases parseSigned_eq_ok.2 stated

/-- Every integer of sixty-four bits is stated by its decimal text. -/
theorem says_toString (n : Int64) : Says (toString n) n.toInt := by
  have signed := signedNumeral_toString n.toInt
  have trims : Trims ([] ++ (toString n.toInt).toList ++ []) (toString n.toInt).toList :=
    .of_solid nofun signed.solid nofun
  rw [List.nil_append, List.append_nil] at trims
  exact ⟨_, trims, signed, n.le_toInt, n.toInt_lt⟩

end Text.Integer

open Text Text.Integer

namespace Sources

variable {s : Sources} {v : StringVar} {raw : String} {n : Int}

theorem parseInt_eq_ok : parseInt raw = .ok n ↔ Says raw n := by
  have read : parseInt raw = .ok n ↔ parseSigned (trimList raw.toList) = .ok n := by
    unfold parseInt
    cases parseSigned (trimList raw.toList) <;> simp
  rw [read, parseSigned_eq_ok, Says]
  simp only [← trimList_eq_iff, exists_eq_left']

/-- A text that states no integer is refused, with what is wrong with it. -/
theorem parseInt_of_silent (silent : ∀ n, ¬Says raw n) :
    ∃ core fault, Trims raw.toList core ∧ Fault.Of fault core ∧ parseInt raw =
      .error (.configVar ("invalid integer " ++ quote raw ++ ": " ++ fault.message)) := by
  cases read : parseSigned (trimList raw.toList) with
  | ok n => exact absurd ⟨_, trims_trimList raw.toList, parseSigned_eq_ok.1 read⟩ (silent n)
  | error fault =>
      refine ⟨_, fault, trims_trimList raw.toList, parseSigned_eq_error.1 read, ?_⟩
      simp only [parseInt, read]

theorem int_of_unset (read : s.string v = .ok "") : s.int v = .ok none := by
  rw [int, read]
  rfl

theorem int_of_string (read : s.string v = .ok raw) (given : raw ≠ "") :
    s.int v = (parseInt raw).map some := by
  have some : ¬raw.isEmpty = true := fun empty => given (String.isEmpty_iff.1 empty)
  rw [int, read, ok_bind, if_neg some]

theorem int_of_error {error : CloudError} (failed : s.string v = .error error) :
    s.int v = .error error := by
  rw [int, failed]
  rfl

theorem int_eq_none : s.int v = .ok none ↔ s.string v = .ok "" := by
  refine ⟨fun held => ?_, int_of_unset⟩
  cases read : s.string v with
  | error error => cases held.symm.trans (int_of_error read)
  | ok raw =>
      by_cases given : raw = ""
      · rw [given]
      · rw [int_of_string read given, map_eq_ok] at held
        obtain ⟨_, _, ⟨⟩⟩ := held

theorem int_eq_some : s.int v = .ok (some n) ↔ ∃ raw, s.string v = .ok raw ∧ Says raw n := by
  constructor
  · intro held
    cases read : s.string v with
    | error error => cases held.symm.trans (int_of_error read)
    | ok raw =>
        have given : raw ≠ "" := by
          rintro rfl
          cases held.symm.trans (int_of_unset read)
        rw [int_of_string read given, map_eq_ok] at held
        obtain ⟨_, stated, ⟨⟩⟩ := held
        exact ⟨raw, rfl, parseInt_eq_ok.1 stated⟩
  · rintro ⟨raw, read, said⟩
    rw [int_of_string read said.ne_empty, parseInt_eq_ok.2 said]
    rfl

/-- An integer variable holds nothing if its text is empty, and the integer that its text states if
it states one of sixty-four bits. Any other text is an error, which says what is wrong with it, and
a variable without a text fails as its look-up does. So every integer of sixty-four bits is read
from its decimal text. -/
theorem int_reads_exactly (s : Sources) (v : StringVar) :
    (s.int v = .ok none ↔ s.string v = .ok "") ∧
    (∀ n, s.int v = .ok (some n) ↔ ∃ raw, s.string v = .ok raw ∧ Says raw n) ∧
    (∀ raw, s.string v = .ok raw → raw ≠ "" → (∀ n, ¬Says raw n) →
      ∃ core fault, Trims raw.toList core ∧ Fault.Of fault core ∧ s.int v =
        .error (.configVar ("invalid integer " ++ quote raw ++ ": " ++ fault.message))) ∧
    (∀ error, s.string v = .error error → s.int v = .error error) ∧
    ∀ n : Int64, s.string v = .ok (toString n) → s.int v = .ok (some n.toInt) := by
  refine ⟨int_eq_none, fun _ => int_eq_some, ?_, fun _ => int_of_error, ?_⟩
  · intro raw read given silent
    obtain ⟨core, fault, trims, wrong, refused⟩ := parseInt_of_silent silent
    refine ⟨core, fault, trims, wrong, ?_⟩
    rw [int_of_string read given, refused]
    rfl
  · exact fun n read => int_eq_some.2 ⟨toString n, read, says_toString n⟩

namespace Sample

def ref (name : String) : KeyRef := ⟨"kube-system", name, "value"⟩

/-- Secrets that hold numbers: the least one with zeros and blanks, and one that is too great. -/
def numbers : Sources :=
  SecretTable.sources
    ⟨[(ref "least", "\u2003-009223372036854775808\n"), (ref "beyond", "9223372036854775808x")],
      [], []⟩ ⟨∅⟩

def hidden (name : String) : StringVar := .secret (ref name)

end Sample

/-- The least number, one that is too great, a secret that is missing, and the greatest number as a
decimal text. -/
theorem int_reads_exactly_secrets :
    Sample.numbers.int (Sample.hidden "least") = .ok (some (-2 ^ 63)) ∧
    (∃ core fault, Trims "9223372036854775808x".toList core ∧ Fault.Of fault core ∧
      Sample.numbers.int (Sample.hidden "beyond") = .error (.configVar
        ("invalid integer " ++ quote "9223372036854775808x" ++ ": " ++ fault.message))) ∧
    Sample.numbers.int (Sample.hidden "missing") =
      .error (.configVar "secret kube-system/missing[value] not found") ∧
    Sample.numbers.int (.literal (toString Int64.maxValue)) = .ok (some Int64.maxValue.toInt) := by
  obtain ⟨_, least, _⟩ := int_reads_exactly Sample.numbers (Sample.hidden "least")
  obtain ⟨_, _, beyond, _⟩ := int_reads_exactly Sample.numbers (Sample.hidden "beyond")
  obtain ⟨_, _, _, missing, _⟩ := int_reads_exactly Sample.numbers (Sample.hidden "missing")
  obtain ⟨_, _, _, _, greatest⟩ :=
    int_reads_exactly Sample.numbers (.literal (toString Int64.maxValue))
  have said : Says "\u2003-009223372036854775808\n" (-2 ^ 63) := parseInt_eq_ok.1 rfl
  have refused : parseInt "9223372036854775808x" = .error (.configVar
      ("invalid integer " ++ quote "9223372036854775808x" ++ ": " ++ Fault.tooLarge.message)) := rfl
  have silent (n : Int) : ¬Says "9223372036854775808x" n := by
    intro said
    cases refused.symm.trans (parseInt_eq_ok.2 said)
  refine ⟨(least _).2 ⟨_, rfl, said⟩, beyond _ rfl (by decide) silent, missing _ rfl, ?_⟩
  exact greatest Int64.maxValue rfl

end Sources

end Provisioning
