import Provisioning.Json.Parser

/-!
Decimal digits. `Decimals` says which digits stand for a number; the decimal text of a number
consists of such digits, and reading digits off the front of a text stops where they end. `Numeral`
allows zeros in front, and `parseUnsigned_eq_ok` says which texts are unsigned integers.
-/

namespace Provisioning

open Provisioning.Text

namespace Json

theorem digitsValue_snoc (ds : List Nat) (d : Nat) :
    digitsValue (ds ++ [d]) = digitsValue ds * 10 + d := by
  rw [digitsValue, List.foldl_append]
  rfl

/-- Digits stand for a number, without zeros in front of them. -/
structure Decimals (n : Nat) (ds : List Nat) : Prop where
  small : ∀ d ∈ ds, d < 10
  value : digitsValue ds = n
  leading : n = 0 ∧ ds = [0] ∨ 0 < n ∧ ∃ d rest, ds = d :: rest ∧ d ≠ 0

/-- The decimal text of a number consists of its digits. -/
theorem exists_decimals (n : Nat) :
    ∃ ds, Decimals n ds ∧ Nat.toDigits 10 n = ds.map Nat.digitChar := by
  induction n using Nat.strongRecOn with
  | ind n ih =>
    by_cases single : n < 10
    · refine ⟨[n], ⟨?_, ?_, ?_⟩, Nat.toDigits_of_lt_base single⟩
      · intro d member
        rw [List.mem_singleton.1 member]
        exact single
      · exact Nat.zero_add n
      · rcases Nat.eq_zero_or_pos n with rfl | positive
        · exact .inl ⟨rfl, rfl⟩
        · exact .inr ⟨positive, n, [], rfl, Nat.ne_of_gt positive⟩
    · obtain ⟨ds, decimals, text⟩ := ih (n / 10) (by omega)
      refine ⟨ds ++ [n % 10], ⟨?_, ?_, .inr ⟨by omega, ?_⟩⟩, ?_⟩
      · intro d member
        rcases List.mem_append.1 member with earlier | last
        · exact decimals.small d earlier
        · rw [List.mem_singleton.1 last]
          exact Nat.mod_lt n (by decide)
      · rw [digitsValue_snoc, decimals.value]
        omega
      · rcases decimals.leading with ⟨zero, _⟩ | ⟨_, d, rest, rfl, nonzero⟩
        · omega
        · exact ⟨d, rest ++ [n % 10], rfl, nonzero⟩
      · rw [Nat.toDigits_of_base_le (by decide) (by omega), text, List.map_append]
        rfl

theorem digitValue?_digitChar {d : Nat} (small : d < 10) :
    Integer.digitValue? (Nat.digitChar d) = some d := by
  unfold Integer.digitValue?
  rw [Nat.toNat_digitChar_of_lt_ten small, if_pos (by omega)]
  congr 1
  omega

/-- Reading digits stops at a character that is none. -/
theorem spanDigits_map {ds : List Nat} (small : ∀ d ∈ ds, d < 10) {rest : List Char}
    (stops : ∀ c ∈ rest.head?, Integer.digitValue? c = none) :
    spanDigits (ds.map Nat.digitChar ++ rest) = (ds, rest) := by
  induction ds with
  | nil =>
      cases rest with
      | nil => rfl
      | cons c rest =>
          change spanDigits (c :: rest) = ([], c :: rest)
          simp only [spanDigits, stops c rfl]
  | cons d ds ih =>
      have others := ih fun later member => small later (List.mem_cons_of_mem _ member)
      simp only [List.map_cons, List.cons_append, spanDigits,
        digitValue?_digitChar (small d List.mem_cons_self), others]

/-- Digits in front of others only enlarge a number. -/
theorem le_foldl_digits (value : Nat) (ds : List Nat) :
    value ≤ ds.foldl (fun n d => n * 10 + d) value := by
  induction ds generalizing value with
  | nil => exact Nat.le_refl value
  | cons d ds ih => exact Nat.le_trans (by omega) (ih (value * 10 + d))

/-- Digits are all collected if their number fits. -/
theorem collectWhole_of_le {value : Nat} {ds : List Nat}
    (fits : ds.foldl (fun n d => n * 10 + d) value ≤ JsonNumber.significandBound) :
    JsonNumber.collectWhole value ds = ⟨ds.foldl (fun n d => n * 10 + d) value, 0⟩ := by
  induction ds generalizing value with
  | nil => rfl
  | cons d ds ih =>
      have here : value * 10 + d ≤ JsonNumber.significandBound :=
        Nat.le_trans (le_foldl_digits _ ds) fits
      rw [JsonNumber.collectWhole, if_pos here, ih fits]
      rfl

end Json

namespace Text.Integer

/-- One or more digits that stand for a number; zeros may stand in front of them. -/
def Numeral (n : Nat) (text : List Char) : Prop :=
  ∃ ds : List Nat, ds ≠ [] ∧ (∀ d ∈ ds, d < 10) ∧ text = ds.map Nat.digitChar ∧
    Json.digitsValue ds = n

theorem Numeral.exists_digit {n : Nat} {text : List Char} (numeral : Numeral n text) :
    ∃ d rest, d < 10 ∧ text = Nat.digitChar d :: rest := by
  obtain ⟨_ | ⟨d, ds⟩, some, small, rfl, _⟩ := numeral
  · exact (some rfl).elim
  · exact ⟨d, ds.map Nat.digitChar, small d List.mem_cons_self, rfl⟩

theorem Numeral.ne_nil {n : Nat} {text : List Char} (numeral : Numeral n text) : text ≠ [] := by
  obtain ⟨d, rest, _, rfl⟩ := numeral.exists_digit
  exact List.cons_ne_nil _ rest

/-- A character that has a value is the digit of that value. -/
theorem eq_digitChar {c : Char} {d : Nat} (value : digitValue? c = some d) :
    d < 10 ∧ c = Nat.digitChar d := by
  unfold digitValue? at value
  split at value
  · rename_i digit
    cases value
    have small : c.toNat - 48 < 10 := by omega
    refine ⟨small, Char.toNat_inj.1 ?_⟩
    rw [Nat.toNat_digitChar_of_lt_ten small]
    omega
  · cases value

/-- Digits are accumulated to their number if that is within the bound, by induction on the text. -/
theorem magnitude_eq_ok {bound value n : Nat} {overflow : Fault} {text : List Char}
    (within : value ≤ bound) :
    magnitude bound overflow value text = .ok n ↔ ∃ ds : List Nat, (∀ d ∈ ds, d < 10) ∧
      text = ds.map Nat.digitChar ∧ ds.foldl (fun n d => n * 10 + d) value = n ∧ n ≤ bound := by
  induction text generalizing value with
  | nil =>
      constructor
      · rintro ⟨⟩
        exact ⟨[], nofun, rfl, rfl, within⟩
      · rintro ⟨ds, _, none, rfl, _⟩
        cases List.map_eq_nil_iff.1 none.symm
        rfl
  | cons c text ih =>
      simp only [magnitude]
      constructor
      · intro read
        split at read
        · cases read
        · rename_i d digit
          split at read
          · rename_i fits
            obtain ⟨small, rfl⟩ := eq_digitChar digit
            obtain ⟨ds, others, rfl, total, bounded⟩ := (ih fits).1 read
            exact ⟨d :: ds, List.forall_mem_cons.2 ⟨small, others⟩, rfl, total, bounded⟩
          · cases read
      · rintro ⟨ds, small, same, total, bounded⟩
        cases ds with
        | nil => cases same
        | cons d ds =>
            obtain ⟨rfl, rfl⟩ := List.cons_eq_cons.1 same
            obtain ⟨first, others⟩ := List.forall_mem_cons.1 small
            have grows := Json.le_foldl_digits (value * 10 + d) ds
            have fits : value * 10 + d ≤ bound := by
              rw [List.foldl_cons] at total
              omega
            simp only [Json.digitValue?_digitChar first, if_pos fits]
            exact (ih fits).2 ⟨ds, others, rfl, total, bounded⟩

theorem magnitude_zero_eq_ok {bound n : Nat} {overflow : Fault} {text : List Char}
    (given : text ≠ []) :
    magnitude bound overflow 0 text = .ok n ↔ Numeral n text ∧ n ≤ bound := by
  rw [magnitude_eq_ok (Nat.zero_le bound)]
  constructor
  · rintro ⟨ds, small, rfl, total, bounded⟩
    exact ⟨⟨ds, fun none => given (by rw [none]; rfl), small, rfl, total⟩, bounded⟩
  · rintro ⟨⟨ds, _, small, same, total⟩, bounded⟩
    exact ⟨ds, small, same, total, bounded⟩

/-- An unsigned integer of sixty-four bits is read from its digits, also after a plus sign. -/
theorem parseUnsigned_eq_ok {text : List Char} {n : Nat} :
    parseUnsigned text = .ok n ↔
      (Numeral n text ∨ ∃ digits, text = '+' :: digits ∧ Numeral n digits) ∧
        n ≤ greatestUnsigned := by
  -- A plus sign is no digit, so a text is of one kind only.
  have unsigned {digits : List Char} : ¬Numeral n ('+' :: digits) := by
    intro numeral
    obtain ⟨d, rest, small, same⟩ := numeral.exists_digit
    have value := Json.digitValue?_digitChar small
    rw [← (List.cons_eq_cons.1 same).1] at value
    cases value
  unfold parseUnsigned
  split
  · refine iff_of_false nofun ?_
    rintro ⟨numeral | ⟨_, ⟨⟩, _⟩, _⟩
    exact numeral.ne_nil rfl
  · refine iff_of_false nofun ?_
    rintro ⟨numeral | ⟨_, ⟨⟩, numeral⟩, _⟩
    · exact unsigned numeral
    · exact numeral.ne_nil rfl
  · rename_i digits lone
    rw [magnitude_zero_eq_ok fun none => lone (by rw [none])]
    simp [unsigned]
  · rename_i some plain signed
    rw [magnitude_zero_eq_ok some]
    refine and_congr_left fun _ => ⟨.inl, ?_⟩
    rintro (numeral | ⟨digits, rfl, _⟩)
    · exact numeral
    · exact (signed digits rfl).elim

end Text.Integer

end Provisioning
