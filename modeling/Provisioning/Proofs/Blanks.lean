import Provisioning.Text.Blank

/-!
White space around a text. `Trims` says what is left of a text without the blanks at its ends, and
`trimList_eq_iff` that it is what trimming gives.
-/

namespace Provisioning.Text

variable {before text core after : List Char}

theorem dropWhile_blank (blank : ∀ c ∈ before, isBlank c = true)
    (boundary : ∀ c ∈ text.head?, isBlank c = false) :
    (before ++ text).dropWhile isBlank = text := by
  rw [List.dropWhile_append_of_pos blank]
  cases text with
  | nil => rfl
  | cons c rest => rw [List.dropWhile_cons_of_neg (Bool.eq_false_iff.1 (boundary c rfl))]

/-- Blanks are all that is dropped from the front of a text. -/
theorem exists_dropWhile_blank (text : List Char) :
    ∃ before, (∀ c ∈ before, isBlank c = true) ∧ before ++ text.dropWhile isBlank = text :=
  ⟨text.takeWhile isBlank, List.all_eq_true.1 List.all_takeWhile, List.takeWhile_append_dropWhile⟩

theorem head?_dropWhile_blank (text : List Char) :
    ∀ c ∈ (text.dropWhile isBlank).head?, isBlank c = false := by
  intro c first
  have boundary := List.head?_dropWhile_not isBlank text
  rw [Option.mem_def.1 first] at boundary
  exact boundary

/-- A part of a text is what is left of it without the blanks at its ends. -/
structure Trims (text core : List Char) : Prop where
  around : ∃ before after, text = before ++ core ++ after ∧
    (∀ c ∈ before, isBlank c = true) ∧ ∀ c ∈ after, isBlank c = true
  front : ∀ c ∈ core.head?, isBlank c = false
  back : ∀ c ∈ core.getLast?, isBlank c = false

namespace Trims

/-- A text without blanks is what is left when blanks are put around it. -/
theorem of_solid (leading : ∀ c ∈ before, isBlank c = true) (solid : ∀ c ∈ core, isBlank c = false)
    (trailing : ∀ c ∈ after, isBlank c = true) : Trims (before ++ core ++ after) core where
  around := ⟨before, after, rfl, leading, trailing⟩
  front c first := solid c (List.mem_of_mem_head? first)
  back c last := solid c (List.mem_of_getLast? last)

theorem trimList_eq (trims : Trims text core) : trimList text = core := by
  obtain ⟨⟨before, after, rfl, leading, trailing⟩, front, back⟩ := trims
  have blank : ∀ c ∈ after.reverse, isBlank c = true :=
    fun c member => trailing c (List.mem_reverse.1 member)
  cases core with
  | nil =>
      -- Nothing but blanks: those behind are dropped from the front as well.
      have all : ∀ c ∈ before ++ after, isBlank c = true :=
        List.forall_mem_append.2 ⟨leading, trailing⟩
      have dropped : (before ++ after ++ []).dropWhile isBlank = [] := dropWhile_blank all nofun
      rw [List.append_nil] at dropped
      rw [List.append_nil, trimList, dropped]
      rfl
  | cons first rest =>
      have boundary : ∀ c ∈ (first :: rest ++ after).head?, isBlank c = false := front
      have last : ∀ c ∈ (first :: rest).reverse.head?, isBlank c = false := by
        rw [List.head?_reverse]
        exact back
      rw [trimList, List.append_assoc, dropWhile_blank leading boundary, List.reverse_append,
        dropWhile_blank blank last, List.reverse_reverse]

end Trims

theorem trims_trimList (text : List Char) : Trims text (trimList text) := by
  obtain ⟨before, leading, whole⟩ := exists_dropWhile_blank text
  obtain ⟨after, trailing, kept⟩ := exists_dropWhile_blank (text.dropWhile isBlank).reverse
  have left : trimList text ++ after.reverse = text.dropWhile isBlank := by
    rw [trimList, ← List.reverse_append, kept, List.reverse_reverse]
  refine ⟨⟨before, after.reverse, ?_, leading, ?_⟩, ?_, ?_⟩
  · rw [List.append_assoc, left, whole]
  · exact fun c member => trailing c (List.mem_reverse.1 member)
  · intro c first
    have boundary := head?_dropWhile_blank text
    rw [← left, List.head?_append, Option.mem_def.1 first] at boundary
    exact boundary c rfl
  · rw [trimList, List.getLast?_reverse]
    exact head?_dropWhile_blank _

/-- Trimming drops the blanks at both ends and nothing else. -/
theorem trimList_eq_iff : trimList text = core ↔ Trims text core := by
  constructor
  · rintro rfl
    exact trims_trimList text
  · exact Trims.trimList_eq

end Provisioning.Text
