import Mathlib.Data.List.DropRight
import Provisioning.Json.Printer
import Provisioning.Proofs.Arrangement
import Provisioning.Proofs.Digits

/-!
JSON texts and the values they spell. `Spelled` is the grammar of those texts whose numbers are
integers in decimal and whose strings escape no more than they must: blanks may stand before and
after every token, and lists and objects are nested to no more than a depth. What is spelled is
read, whatever follows it. Main statements: `parse?_render` and `parse?_pretty`, by which the text
of a plain value, on one line or on many, is read as that value.
-/

namespace Provisioning.Json

open Provisioning.Text

/-! ### String literals -/

section Literals

theorem hexValue?_digitChar {n : Nat} (small : n < 16) :
    hexValue? (Nat.digitChar n) = some n := by
  decide +revert

/-- The escape of a control character. -/
theorem escape?_control {c : Char} (control : c.toNat < 32) (rest : List Char) :
    escape? ('u' :: '0' :: '0' :: Nat.digitChar (c.toNat / 16) :: Nat.digitChar (c.toNat % 16) ::
      rest) = some (c, rest) := by
  have high : c.toNat / 16 < 16 := by omega
  have low : c.toNat % 16 < 16 := by omega
  have zero : hexValue? '0' = some 0 := by decide
  have value : 0 * 4096 + 0 * 256 + c.toNat / 16 * 16 + c.toNat % 16 = c.toNat := by omega
  have quad : hexQuad? ('0' :: '0' :: Nat.digitChar (c.toNat / 16) ::
      Nat.digitChar (c.toNat % 16) :: rest) = some (c.toNat, rest) := by
    simp only [hexQuad?, zero, hexValue?_digitChar high, hexValue?_digitChar low, bind,
      Option.bind, value]
  simp only [escape?, unicodeEscape?, quad, bind, Option.bind]
  rw [if_neg (by omega), if_neg (by omega), Char.ofNat_toNat]

/-- An escape that is understood stands for its character. -/
theorem stringBody?_escape {c : Char} {cs rest : List Char}
    (understood : escape? cs = some (c, rest)) (fuel : Nat) :
    stringBody? (fuel + 1) ('\\' :: cs) =
      (stringBody? fuel rest).map fun (body, rest) => (c :: body, rest) := by
  simp only [stringBody?, understood, Option.bind_eq_bind, Option.bind_some]
  cases stringBody? fuel rest <;> rfl

/-- A character is read from its escaped form. -/
theorem stringBody?_escapeChar (fuel : Nat) (c : Char) (rest : List Char) :
    stringBody? (fuel + 1) (escapeChar c ++ rest) =
      (stringBody? fuel rest).map fun (body, rest) => (c :: body, rest) := by
  unfold escapeChar
  split
  case h_8 quote backslash _ _ _ _ _ =>
    split
    next control => exact stringBody?_escape (escape?_control control rest) fuel
    next plain =>
      rw [List.singleton_append, stringBody?.eq_5 _ _ _ quote backslash, if_neg plain]
      cases stringBody? fuel rest <;> rfl
  all_goals exact stringBody?_escape rfl fuel

theorem stringBody?_flatMap {fuel : Nat} {body : List Char} (enough : body.length < fuel)
    (rest : List Char) :
    stringBody? fuel (body.flatMap escapeChar ++ '"' :: rest) = some (body, rest) := by
  induction body generalizing fuel with
  | nil =>
      obtain ⟨fuel, rfl⟩ := Nat.exists_eq_succ_of_ne_zero (Nat.ne_of_gt enough)
      rfl
  | cons c body ih =>
      obtain ⟨fuel, rfl⟩ := Nat.exists_eq_succ_of_ne_zero (Nat.ne_of_gt (Nat.zero_lt_of_lt enough))
      rw [List.flatMap_cons, List.append_assoc, stringBody?_escapeChar,
        ih (Nat.lt_of_succ_lt_succ enough)]
      rfl

theorem escapeChar_ne_nil (c : Char) : escapeChar c ≠ [] := by
  unfold escapeChar
  split
  case h_8 => split <;> exact nofun
  all_goals exact nofun

theorem length_le_flatMap_escapeChar (body : List Char) :
    body.length ≤ (body.flatMap escapeChar).length := by
  induction body with
  | nil => exact Nat.le_refl 0
  | cons c body ih =>
      have some := List.length_pos_iff.2 (escapeChar_ne_nil c)
      rw [List.flatMap_cons, List.length_append, List.length_cons]
      omega

/-- A literal is read as its string. -/
theorem string?_literal (s : String) (rest : List Char) :
    string? (s.toList.flatMap escapeChar ++ '"' :: rest) = some (s, rest) := by
  have escaped := length_le_flatMap_escapeChar s.toList
  unfold string?
  rw [stringBody?_flatMap]
  · simp only [bind, Option.bind, String.ofList_toList]
  · rw [List.length_append]
    omega

end Literals

/-! ### Integers -/

section Integers

/-- The characters that may stand after a value. -/
def enders : List Char := [' ', '\n', '\t', '\r', ',', ']', '\x7d']

/-- What may follow a value. -/
def Ends (rest : List Char) : Prop := ∀ c ∈ rest.head?, c ∈ enders

variable {rest : List Char} {n : Nat} {ds : List Nat}

theorem Ends.digit (ends : Ends rest) : ∀ c ∈ rest.head?, Integer.digitValue? c = none := by
  intro c first
  have none : (enders.all fun c => Integer.digitValue? c = none) = true := by decide
  simpa using List.all_eq_true.1 none c (ends c first)

theorem Ends.fraction? (ends : Ends rest) : Json.fraction? rest = some (none, rest) := by
  cases rest with
  | nil => rfl
  | cons c rest =>
      have pointless : '.' ∉ enders := by decide
      unfold Json.fraction?
      split
      next same =>
        have point : c = '.' := (List.cons.inj same).1
        exact absurd (point ▸ ends c rfl) pointless
      next => rfl

theorem Ends.exponent? (ends : Ends rest) : Json.exponent? rest = some (none, rest) := by
  cases rest with
  | nil => rfl
  | cons c rest =>
      have without : (enders.all fun c => !(c == 'e' || c == 'E')) = true := by decide
      have plain := List.all_eq_true.1 without c (ends c rfl)
      rw [Bool.not_eq_true'] at plain
      exact if_neg (Bool.eq_false_iff.1 plain)

theorem whole?_of_decimals (decimals : Decimals n ds) (ends : Ends rest) :
    whole? (ds.map Nat.digitChar ++ rest) = some (ds, rest) := by
  unfold whole?
  rw [spanDigits_map decimals.small ends.digit]
  rcases decimals.leading with ⟨_, rfl⟩ | ⟨_, d, others, rfl, nonzero⟩
  · rfl
  · split
    next same => cases same
    next same =>
      cases same
      exact absurd rfl nonzero
    next same =>
      cases same
      rfl

/-- Digits that stand for a number are collected into it. -/
theorem collectWhole_of_decimals (decimals : Decimals n ds) (fits : n ≤ Integer.greatestUnsigned) :
    JsonNumber.collectWhole 0 ds = ⟨n, 0⟩ := by
  have value : ds.foldl (fun n d => n * 10 + d) 0 = n := decimals.value
  rw [collectWhole_of_le, value]
  rw [value]
  exact fits

theorem number?_nat (fits : n ≤ Integer.greatestUnsigned) (ends : Ends rest) :
    number? (Nat.toDigits 10 n ++ rest) = some (.int n, rest) := by
  obtain ⟨ds, decimals, text⟩ := exists_decimals n
  have unsigned (tail : List Char) : ds.map Nat.digitChar ++ rest ≠ '-' :: tail := by
    intro signed
    have no : ∀ d < 10, Nat.digitChar d ≠ '-' := by decide
    rcases decimals.leading with ⟨_, rfl⟩ | ⟨_, d, others, rfl, _⟩
    · cases signed
    · exact no d (decimals.small d List.mem_cons_self) (List.cons.inj signed).1
  rw [text]
  unfold number?
  split
  next negative tail sign =>
    split at sign
    next other signed => exact absurd signed (unsigned other)
    next =>
      cases sign
      simp only [whole?_of_decimals decimals ends, ends.fraction?, ends.exponent?, bind,
        Option.bind, JsonNumber.ofParts?, collectWhole_of_decimals decimals fits]
      rfl

theorem number?_neg (positive : 0 < n) (fits : n ≤ Integer.greatestSigned + 1)
    (ends : Ends rest) :
    number? ('-' :: Nat.toDigits 10 n ++ rest) = some (.int (-(n : Int)), rest) := by
  obtain ⟨ds, decimals, text⟩ := exists_decimals n
  have small : n ≤ Integer.greatestUnsigned := Nat.le_trans fits (by decide)
  have within : 0 < n ∧ n ≤ Integer.greatestSigned + 1 := ⟨positive, fits⟩
  rw [text]
  simp only [number?, List.cons_append, whole?_of_decimals decimals ends, ends.fraction?,
    ends.exponent?, bind, Option.bind, JsonNumber.ofParts?,
    collectWhole_of_decimals decimals small, if_true, within, and_self]

/-- The decimal text of an integer of sixty-four bits is read as that integer. -/
theorem number?_int {value : Int} (word : IsWord value) (ends : Ends rest) :
    number? ((toString value).toList ++ rest) = some (.int value, rest) := by
  obtain ⟨least, most⟩ := word
  rw [Int.toString_eq_repr, Int.repr_eq_if]
  split
  next nonnegative =>
    rw [Nat.toList_repr, number?_nat (by omega) ends, Int.toNat_of_nonneg nonnegative]
  next negative =>
    rw [String.toList_append, Nat.toList_repr]
    have sign : "-".toList = ['-'] := rfl
    rw [sign, List.singleton_append, number?_neg (by omega) (by omega) ends]
    congr 3
    omega

end Integers

/-! ### Values -/

/-- Blanks, or nothing. -/
def Blank (gap : List Char) : Prop := ∀ c ∈ gap, isSpace c = true

theorem Blank.nil : Blank [] := nofun

/-- What a text may stand for. -/
inductive Phrase where
  | value (value : Json)
  | items (items : List Json)
  | members (members : List (String × Json))

/-- Texts of values that are nested to no more than a depth. Those of items and of members include
the bracket or the brace that closes them. -/
inductive Spelled : Nat → Phrase → List Char → Prop where
  | blank {depth : Nat} {p : Phrase} {c : Char} {cs : List Char} :
      isSpace c = true → Spelled depth p cs → Spelled depth p (c :: cs)
  | null {depth : Nat} : Spelled depth (.value .null) ['n', 'u', 'l', 'l']
  | yes {depth : Nat} : Spelled depth (.value (.bool true)) ['t', 'r', 'u', 'e']
  | no {depth : Nat} : Spelled depth (.value (.bool false)) ['f', 'a', 'l', 's', 'e']
  | int {depth : Nat} {value : Int} : IsWord value →
      Spelled depth (.value (.int value)) (toString value).toList
  | string {depth : Nat} {s : String} : Spelled depth (.value (.string s)) (literal s)
  | noItems {depth : Nat} {gap : List Char} : Blank gap →
      Spelled (depth + 1) (.value (.array [])) ('[' :: gap ++ [']'])
  | array {depth : Nat} {items : List Json} {cs : List Char} : Spelled depth (.items items) cs →
      Spelled (depth + 1) (.value (.array items)) ('[' :: cs)
  | lastItem {depth : Nat} {item : Json} {cs gap : List Char} : Spelled depth (.value item) cs →
      Blank gap → Spelled depth (.items [item]) (cs ++ gap ++ [']'])
  | item {depth : Nat} {item : Json} {rest : List Json} {cs gap more : List Char} :
      Spelled depth (.value item) cs → Blank gap → Spelled depth (.items rest) more →
      Spelled depth (.items (item :: rest)) (cs ++ gap ++ ',' :: more)
  | noMembers {depth : Nat} {gap : List Char} : Blank gap →
      Spelled (depth + 1) (.value (.object [])) ('\x7b' :: gap ++ ['\x7d'])
  | object {depth : Nat} {members : List (String × Json)} {cs : List Char} :
      Spelled depth (.members members) cs →
      Spelled (depth + 1) (.value (.object members)) ('\x7b' :: cs)
  | lastMember {depth : Nat} {name : String} {value : Json} {colon cs gap : List Char} :
      Blank colon → Spelled depth (.value value) cs → Blank gap →
      Spelled depth (.members [(name, value)])
        (literal name ++ colon ++ ':' :: cs ++ gap ++ ['\x7d'])
  | member {depth : Nat} {name : String} {value : Json} {rest : List (String × Json)}
      {colon cs gap more : List Char} :
      Blank colon → Spelled depth (.value value) cs → Blank gap →
      Spelled depth (.members rest) more →
      Spelled depth (.members ((name, value) :: rest))
        (literal name ++ colon ++ ':' :: cs ++ gap ++ ',' :: more)

/-- A phrase is read off the front of a text. -/
def Phrase.Reads (fuel depth : Nat) (cs rest : List Char) : Phrase → Prop
  | .value v => value? fuel depth cs = some (v, rest)
  | .items vs => items? fuel depth cs = some (vs, rest)
  | .members ms => members? fuel depth cs = some (ms, rest)

section Blanks

variable {gap cs rest : List Char}

theorem skipSpace_append (blank : Blank gap) (cs : List Char) :
    skipSpace (gap ++ cs) = skipSpace cs :=
  List.dropWhile_append_of_pos blank

theorem skipSpace_of_not {c : Char} (shown : isSpace c = false) (cs : List Char) :
    skipSpace (c :: cs) = c :: cs :=
  List.dropWhile_cons_of_neg (by rw [shown]; exact Bool.false_ne_true)

theorem skipSpace_skipSpace (cs : List Char) : skipSpace (skipSpace cs) = skipSpace cs := by
  exact List.dropWhile_idempotent _ _

theorem value?_skipSpace (fuel depth : Nat) (cs : List Char) :
    value? fuel depth (skipSpace cs) = value? fuel depth cs := by
  cases fuel with
  | zero => rfl
  | succ fuel => rw [value?, value?, skipSpace_skipSpace]

theorem Phrase.reads_skipSpace {p : Phrase} {fuel depth : Nat} :
    p.Reads fuel depth (skipSpace cs) rest ↔ p.Reads fuel depth cs rest := by
  cases p with
  | value value => rw [Reads, Reads, value?_skipSpace]
  | items items =>
      cases fuel with
      | zero => rfl
      | succ fuel => simp only [Reads, items?, value?_skipSpace]
  | members members =>
      cases fuel with
      | zero => rfl
      | succ fuel => simp only [Reads, members?, skipSpace_skipSpace]

theorem Ends.of_mem {c : Char} (closes : c ∈ enders) (rest : List Char) : Ends (c :: rest) := by
  intro first member
  cases member
  exact closes

/-- Blanks may stand before what may follow a value. -/
theorem Ends.of_blank (blank : Blank gap) (ends : Ends rest) : Ends (gap ++ rest) := by
  intro first member
  cases gap with
  | nil => exact ends first member
  | cons c gap =>
      cases member
      have space := blank _ List.mem_cons_self
      simp only [isSpace, Bool.or_eq_true, beq_iff_eq, or_assoc] at space
      rcases space with rfl | rfl | rfl | rfl <;> decide

end Blanks

section Reading

variable {depth fuel : Nat} {p : Phrase} {cs rest : List Char}

/-- The characters that a number may begin with. -/
def starters : List Char := ['-', '0', '1', '2', '3', '4', '5', '6', '7', '8', '9']

theorem exists_starter (value : Int) :
    ∃ c tail, (toString value).toList = c :: tail ∧ c ∈ starters := by
  rw [Int.toString_eq_repr, Int.repr_eq_if]
  split
  next =>
    have digits : ∀ d < 10, Nat.digitChar d ∈ starters := by decide
    obtain ⟨ds, decimals, text⟩ := exists_decimals value.toNat
    rw [Nat.toList_repr, text]
    rcases decimals.leading with ⟨_, rfl⟩ | ⟨_, d, others, rfl, _⟩
    · exact ⟨_, _, rfl, by decide⟩
    · exact ⟨_, _, rfl, digits d (decimals.small d List.mem_cons_self)⟩
  next => exact ⟨'-', _, String.toList_append, by decide⟩

/-- What begins like a number is read as one. -/
theorem value?_starter {c : Char} (starts : c ∈ starters) (cs : List Char) :
    value? (fuel + 1) depth (c :: cs) =
      (number? (c :: cs)).map fun (n, rest) => (.number n, rest) := by
  simp only [starters, List.mem_cons, List.not_mem_nil, or_false] at starts
  rcases starts with rfl | rfl | rfl | rfl | rfl | rfl | rfl | rfl | rfl | rfl | rfl <;> rfl

theorem value?_int {value : Int} (word : IsWord value) (ends : Ends rest) :
    value? (fuel + 1) depth ((toString value).toList ++ rest) = some (.int value, rest) := by
  have read := number?_int word ends
  obtain ⟨c, tail, text, starts⟩ := exists_starter value
  rw [text, List.cons_append] at read ⊢
  rw [value?_starter starts, read]
  rfl

/-- A phrase begins with something that closes nothing. -/
theorem Spelled.opens (spelled : Spelled depth p cs) (rest : List Char) :
    ∃ c tail, skipSpace (cs ++ rest) = c :: tail ∧ c ≠ ']' ∧ c ≠ '\x7d' := by
  induction spelled generalizing rest with
  | blank space _ ih =>
      obtain ⟨c, tail, shown, closes⟩ := ih rest
      exact ⟨c, tail, (List.dropWhile_cons_of_pos space).trans shown, closes⟩
  | @int _ value _ =>
      have all : (starters.all fun c => !isSpace c && c != ']' && c != '\x7d') = true := by decide
      obtain ⟨c, tail, text, starts⟩ := exists_starter value
      have here := List.all_eq_true.1 all c starts
      simp only [Bool.and_eq_true, Bool.not_eq_true', bne_iff_ne, and_assoc] at here
      obtain ⟨shown, closes⟩ := here
      refine ⟨c, tail ++ rest, ?_, closes⟩
      rw [text, List.cons_append, skipSpace_of_not shown]
  | lastItem _ _ ih | item _ _ _ ih =>
      rw [List.append_assoc, List.append_assoc]
      exact ih _
  | null | yes | no | string | noItems | noMembers | array | object | lastMember | member =>
      exact ⟨_, _, rfl, by decide, by decide⟩

/-- A literal opens with a quote, after which it is read as its string. -/
theorem exists_literal (s : String) (rest : List Char) :
    ∃ cs, literal s ++ rest = '"' :: cs ∧ string? cs = some (s, rest) := by
  refine ⟨s.toList.flatMap escapeChar ++ '"' :: rest, ?_, string?_literal s rest⟩
  simp only [literal, List.cons_append, List.append_assoc, List.nil_append]

/-- A list is read as its items are, which come after its bracket. -/
theorem value?_array {items : List Json} (spelled : Spelled depth (.items items) cs)
    (read : items? fuel depth (cs ++ rest) = some (items, rest)) :
    value? (fuel + 1) (depth + 1) ('[' :: cs ++ rest) = some (.array items, rest) := by
  obtain ⟨c, tail, shown, other, _⟩ := spelled.opens rest
  have opened : skipSpace ('[' :: cs ++ rest) = '[' :: (cs ++ rest) := rfl
  have skipped : items? fuel depth (c :: tail) = some (items, rest) := by
    rw [← shown]
    exact Phrase.reads_skipSpace (p := .items items) |>.2 read
  rw [value?, opened]
  simp only [Nat.add_one_ne_zero, if_false, Nat.add_sub_cancel, shown]
  split
  next closed => exact absurd (List.cons.inj closed).1 other
  next =>
    rw [skipped]
    rfl

theorem value?_noItems {gap : List Char} (blank : Blank gap) :
    value? (fuel + 1) (depth + 1) ('[' :: gap ++ ']' :: rest) = some (.array [], rest) := by
  have opened : skipSpace ('[' :: gap ++ ']' :: rest) = '[' :: (gap ++ ']' :: rest) := rfl
  have closed : skipSpace (gap ++ ']' :: rest) = ']' :: rest := skipSpace_append blank _
  rw [value?, opened]
  simp only [Nat.add_one_ne_zero, if_false, closed]

/-- An object is read as its members are, which come after its brace. -/
theorem value?_object {members : List (String × Json)}
    (spelled : Spelled depth (.members members) cs)
    (read : members? fuel depth (cs ++ rest) = some (members, rest)) :
    value? (fuel + 1) (depth + 1) ('\x7b' :: cs ++ rest) = some (.object members, rest) := by
  obtain ⟨c, tail, shown, _, other⟩ := spelled.opens rest
  have opened : skipSpace ('\x7b' :: cs ++ rest) = '\x7b' :: (cs ++ rest) := rfl
  have skipped : members? fuel depth (c :: tail) = some (members, rest) := by
    rw [← shown]
    exact Phrase.reads_skipSpace (p := .members members) |>.2 read
  rw [value?, opened]
  simp only [Nat.add_one_ne_zero, if_false, Nat.add_sub_cancel, shown]
  split
  next closed => exact absurd (List.cons.inj closed).1 other
  next =>
    rw [skipped]
    rfl

theorem value?_noMembers {gap : List Char} (blank : Blank gap) :
    value? (fuel + 1) (depth + 1) ('\x7b' :: gap ++ '\x7d' :: rest) =
      some (.object [], rest) := by
  have opened : skipSpace ('\x7b' :: gap ++ '\x7d' :: rest) = '\x7b' :: (gap ++ '\x7d' :: rest) :=
    rfl
  have closed : skipSpace (gap ++ '\x7d' :: rest) = '\x7d' :: rest := skipSpace_append blank _
  rw [value?, opened]
  simp only [Nat.add_one_ne_zero, if_false, closed]

/-- A member opens with its name and a colon. -/
theorem exists_named (name : String) {colon : List Char} (blank : Blank colon) (cs : List Char) :
    ∃ text tail, skipSpace (literal name ++ colon ++ ':' :: cs) = '"' :: text ∧
      string? text = some (name, tail) ∧ skipSpace tail = ':' :: cs := by
  obtain ⟨text, opened, named⟩ := exists_literal name (colon ++ ':' :: cs)
  refine ⟨text, _, ?_, named, skipSpace_append blank (':' :: cs)⟩
  rw [List.append_assoc, opened]
  rfl

theorem members?_last (name : String) {value : Json} {colon gap : List Char} (blank : Blank colon)
    (read : value? fuel depth cs = some (value, gap ++ '\x7d' :: rest)) (after : Blank gap) :
    members? (fuel + 1) depth (literal name ++ colon ++ ':' :: cs) =
      some ([(name, value)], rest) := by
  obtain ⟨text, tail, opened, named, next⟩ := exists_named name blank cs
  have closed : skipSpace (gap ++ '\x7d' :: rest) = '\x7d' :: rest := skipSpace_append after _
  rw [members?, opened]
  simp only [named, next, read, closed, Option.bind_eq_bind, Option.bind_some]

theorem members?_more (name : String) {value : Json} {members : List (String × Json)}
    {colon gap more : List Char} (blank : Blank colon)
    (read : value? fuel depth cs = some (value, gap ++ ',' :: more)) (after : Blank gap)
    (others : members? fuel depth more = some (members, rest)) :
    members? (fuel + 1) depth (literal name ++ colon ++ ':' :: cs) =
      some ((name, value) :: members, rest) := by
  obtain ⟨text, tail, opened, named, next⟩ := exists_named name blank cs
  have further : skipSpace (gap ++ ',' :: more) = ',' :: more := skipSpace_append after _
  rw [members?, opened]
  simp only [named, next, read, further, others, Option.bind_eq_bind, Option.bind_some]

theorem items?_last {item : Json} {gap : List Char}
    (read : value? fuel depth cs = some (item, gap ++ ']' :: rest)) (blank : Blank gap) :
    items? (fuel + 1) depth cs = some ([item], rest) := by
  have closed : skipSpace (gap ++ ']' :: rest) = ']' :: rest := skipSpace_append blank _
  rw [items?, read]
  simp only [closed, Option.bind_eq_bind, Option.bind_some]

theorem items?_more {item : Json} {items : List Json} {gap more : List Char}
    (read : value? fuel depth cs = some (item, gap ++ ',' :: more)) (blank : Blank gap)
    (others : items? fuel depth more = some (items, rest)) :
    items? (fuel + 1) depth cs = some (item :: items, rest) := by
  have further : skipSpace (gap ++ ',' :: more) = ',' :: more := skipSpace_append blank _
  rw [items?, read]
  simp only [further, others, Option.bind_eq_bind, Option.bind_some]

/-- What is spelled is read, whatever follows it. -/
theorem Spelled.reads (spelled : Spelled depth p cs) (enough : cs.length ≤ fuel)
    (ends : Ends rest) : p.Reads (fuel + 1) depth (cs ++ rest) rest := by
  -- Reading a phrase inside another one takes one step less, and it is shorter by a bracket, a
  -- brace or a comma at least, so that the length of the text bounds the steps.
  induction spelled generalizing fuel rest with
  | blank space _ ih =>
      rw [List.length_cons] at enough
      rw [List.cons_append, ← Phrase.reads_skipSpace, skipSpace,
        List.dropWhile_cons_of_pos space, ← skipSpace, Phrase.reads_skipSpace]
      exact ih (by omega) ends
  | null | yes | no => rfl
  | int word => exact value?_int word ends
  | @string _ s =>
      obtain ⟨cs, text, read⟩ := exists_literal s rest
      rw [text]
      change (string? cs).map _ = _
      rw [read]
      rfl
  | noItems blank =>
      simp only [List.append_assoc, List.cons_append, List.nil_append]
      exact value?_noItems blank
  | array spelled ih =>
      cases fuel with
      | zero => cases enough
      | succ fuel => exact value?_array spelled (ih (Nat.le_of_succ_le_succ enough) ends)
  | @lastItem _ _ _ gap _ blank ih =>
      simp only [List.length_append, List.length_cons, List.length_nil] at enough
      obtain ⟨fuel, rfl⟩ := Nat.exists_eq_add_of_le' (show 1 ≤ fuel by omega)
      have closed : Ends (gap ++ ']' :: rest) := .of_blank blank (.of_mem (by decide) rest)
      simp only [List.append_assoc, List.singleton_append]
      exact items?_last (ih (by omega) closed) blank
  | @item _ _ _ _ gap more _ blank _ ih ihMore =>
      simp only [List.length_append, List.length_cons] at enough
      obtain ⟨fuel, rfl⟩ := Nat.exists_eq_add_of_le' (show 1 ≤ fuel by omega)
      have further : Ends (gap ++ ',' :: (more ++ rest)) :=
        .of_blank blank (.of_mem (by decide) _)
      simp only [List.append_assoc, List.cons_append]
      exact items?_more (ih (by omega) further) blank (ihMore (by omega) ends)
  | noMembers blank =>
      simp only [List.append_assoc, List.cons_append, List.nil_append]
      exact value?_noMembers blank
  | object spelled ih =>
      cases fuel with
      | zero => cases enough
      | succ fuel => exact value?_object spelled (ih (Nat.le_of_succ_le_succ enough) ends)
  | @lastMember _ name _ _ _ gap colon _ blank ih =>
      simp only [List.length_append, List.length_cons, List.length_nil] at enough
      obtain ⟨fuel, rfl⟩ := Nat.exists_eq_add_of_le' (show 1 ≤ fuel by omega)
      have closed : Ends (gap ++ '\x7d' :: rest) := .of_blank blank (.of_mem (by decide) rest)
      simp only [List.append_assoc, List.cons_append, List.nil_append]
      rw [← List.append_assoc]
      exact members?_last name colon (ih (by omega) closed) blank
  | @member _ name _ _ _ _ gap more colon _ blank _ ih ihMore =>
      simp only [List.length_append, List.length_cons] at enough
      obtain ⟨fuel, rfl⟩ := Nat.exists_eq_add_of_le' (show 1 ≤ fuel by omega)
      have further : Ends (gap ++ ',' :: (more ++ rest)) :=
        .of_blank blank (.of_mem (by decide) _)
      simp only [List.append_assoc, List.cons_append]
      rw [← List.append_assoc]
      exact members?_more name colon (ih (by omega) further) blank (ihMore (by omega) ends)

/-- A text that spells a value is read as that value. -/
theorem parse?_of_spelled {value : Json} {gap : List Char}
    (spelled : Spelled depthLimit (.value value) cs) (blank : Blank gap) :
    parse? (String.ofList (cs ++ gap)) = some value := by
  have ends : Ends gap := by
    rw [← List.append_nil gap]
    exact .of_blank blank nofun
  have read : value? (2 * (cs ++ gap).length + 2) depthLimit (cs ++ gap) = some (value, gap) :=
    spelled.reads (by rw [List.length_append]; omega) ends
  have nothing : skipSpace gap = [] := by
    rw [← List.append_nil gap, skipSpace_append blank]
    rfl
  unfold parse?
  simp only [String.toList_ofList, read, nothing, List.isEmpty_nil, if_true]

end Reading

/-! ### Rendered values -/

section Rendered

variable {depth : Nat}

theorem spelled_renderItems {items : List Json} (some : items ≠ [])
    (each : ∀ item ∈ items, Spelled depth (.value item) (renderList item)) :
    Spelled depth (.items items) (renderItems items ++ [']']) := by
  induction items with
  | nil => exact absurd rfl some
  | cons item rest ih =>
      have first := each item List.mem_cons_self
      cases rest with
      | nil => simpa [renderItems] using Spelled.lastItem first .nil
      | cons next rest =>
          have others := ih nofun fun later member => each later (List.mem_cons_of_mem _ member)
          simpa [renderItems] using Spelled.item first .nil others

theorem spelled_renderMembers {members : List (String × Json)} (some : members ≠ [])
    (each : ∀ m ∈ members, Spelled depth (.value m.2) (renderList m.2)) :
    Spelled depth (.members members) (renderMembers members ++ ['\x7d']) := by
  induction members with
  | nil => exact absurd rfl some
  | cons member rest ih =>
      obtain ⟨name, value⟩ := member
      have first := each (name, value) List.mem_cons_self
      cases rest with
      | nil =>
          have whole : Spelled depth (.members [(name, value)]) _ := .lastMember .nil first .nil
          simpa [renderMembers] using whole
      | cons next rest =>
          have others := ih nofun fun later member => each later (List.mem_cons_of_mem _ member)
          have whole : Spelled depth (.members ((name, value) :: next :: rest)) _ :=
            .member .nil first .nil others
          simpa [renderMembers] using whole

/-- The text of a plain value spells it. -/
theorem spelled_renderList : ∀ {depth : Nat} {value : Json}, value.Plain depth →
    Spelled depth (.value value) (renderList value)
  | _, .null, _ => .null
  | _, .bool true, _ => .yes
  | _, .bool false, _ => .no
  | _, .string _, _ => .string
  | _, .number (.int _), plain => .int (plain_int.1 plain)
  | depth, .number (.float _), plain => by cases depth <;> cases plain
  | depth + 1, .array [], _ => .noItems .nil
  | depth + 1, .array (item :: rest), plain =>
      .array (spelled_renderItems nofun fun v member => spelled_renderList (plain v member))
  | depth + 1, .object [], _ => .noMembers .nil
  | depth + 1, .object (m :: rest), plain =>
      .object (spelled_renderMembers nofun fun v member => spelled_renderList (plain v member))

/-- The text of a plain value is read as that value. -/
theorem parse?_render {value : Json} (plain : value.Plain depthLimit) :
    parse? value.render = some value := by
  have read := parse?_of_spelled (spelled_renderList plain) .nil
  rwa [List.append_nil] at read

end Rendered

/-! ### Values on many lines -/

section Pretty

variable {depth indent : Nat} {gap : List Char}

theorem Spelled.blanks {p : Phrase} {cs : List Char} (blank : Blank gap)
    (spelled : Spelled depth p cs) : Spelled depth p (gap ++ cs) := by
  induction gap with
  | nil => exact spelled
  | cons c gap ih =>
      have others : Blank gap := fun d member => blank d (List.mem_cons_of_mem _ member)
      exact .blank (blank c List.mem_cons_self) (ih others)

theorem blank_space : Blank [' '] := by
  intro c member
  rw [List.mem_singleton.1 member]
  rfl

theorem blank_indentation (indent : Nat) : Blank (indentation indent) := by
  intro c member
  rcases List.mem_cons.1 member with rfl | later
  · rfl
  · rw [List.eq_of_mem_replicate later]
    rfl

theorem spelled_prettyItems {items : List Json} (some : items ≠ []) (blank : Blank gap)
    (each : ∀ item ∈ items, Spelled depth (.value item) (prettyList indent item)) :
    Spelled depth (.items items) (prettyItems indent items ++ gap ++ [']']) := by
  induction items with
  | nil => exact absurd rfl some
  | cons item rest ih =>
      have first := (each item List.mem_cons_self).blanks (blank_indentation indent)
      cases rest with
      | nil => exact .lastItem first blank
      | cons next rest =>
          have others := ih nofun fun later member => each later (List.mem_cons_of_mem _ member)
          simpa [prettyItems] using Spelled.item first .nil others

theorem spelled_prettyMembers {members : List (String × Json)} (some : members ≠ [])
    (blank : Blank gap)
    (each : ∀ m ∈ members, Spelled depth (.value m.2) (prettyList indent m.2)) :
    Spelled depth (.members members) (prettyMembers indent members ++ gap ++ ['\x7d']) := by
  induction members with
  | nil => exact absurd rfl some
  | cons member rest ih =>
      obtain ⟨name, value⟩ := member
      have first := (each (name, value) List.mem_cons_self).blanks blank_space
      cases rest with
      | nil =>
          have whole : Spelled depth (.members [(name, value)]) _ := .lastMember .nil first blank
          simpa [prettyMembers] using whole.blanks (blank_indentation indent)
      | cons next rest =>
          have others := ih nofun fun later member => each later (List.mem_cons_of_mem _ member)
          have whole : Spelled depth (.members ((name, value) :: next :: rest)) _ :=
            .member .nil first .nil others
          simpa [prettyMembers] using whole.blanks (blank_indentation indent)

/-- The text of a plain value on many lines spells it, wherever it begins. -/
theorem spelled_prettyList : ∀ {depth : Nat} {value : Json} (indent : Nat), value.Plain depth →
    Spelled depth (.value value) (prettyList indent value)
  | _, .null, _, _ => .null
  | _, .bool true, _, _ => .yes
  | _, .bool false, _, _ => .no
  | _, .string _, _, _ => .string
  | _, .number (.int _), _, plain => .int (plain_int.1 plain)
  | depth, .number (.float _), _, plain => by cases depth <;> cases plain
  | depth + 1, .array [], _, _ => .noItems .nil
  | depth + 1, .array (item :: rest), indent, plain =>
      .array (spelled_prettyItems nofun (blank_indentation indent) fun v member =>
        spelled_prettyList (indent + 1) (plain v member))
  | depth + 1, .object [], _, _ => .noMembers .nil
  | depth + 1, .object (m :: rest), indent, plain =>
      .object (spelled_prettyMembers nofun (blank_indentation indent) fun v member =>
        spelled_prettyList (indent + 1) (plain v member))

/-- The text of a plain value on many lines is read as that value. -/
theorem parse?_pretty {value : Json} (plain : value.Plain depthLimit) :
    parse? value.pretty = some value := by
  have read := parse?_of_spelled (spelled_prettyList 0 plain) .nil
  rwa [List.append_nil] at read

end Pretty

end Provisioning.Json
