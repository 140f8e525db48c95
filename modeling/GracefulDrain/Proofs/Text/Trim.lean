import GracefulDrain.Text.Trim
import Mathlib.Data.List.DropRight

/-! # Trimming takes the blanks around a text

`Trims s t` says what is left of `s` when the blanks around it are gone: no more than blanks has been taken, and
no blank stands at either end of `t`. There is just one such text (`Trims.eq`). -/

namespace GracefulDrain.Text
variable {p : Char → Bool} {s t : List Char}

/-- `t` is `s` without the blanks around it. -/
structure Trims (s t : List Char) : Prop where
  around : ∃ before after, s = before ++ (t ++ after) ∧ (∀ c ∈ before, isBlank c) ∧ ∀ c ∈ after, isBlank c
  first : ∀ c ∈ t.head?, isBlank c = false
  last : ∀ c ∈ t.getLast?, isBlank c = false

theorem dropRight_eq_rdropWhile : dropRight p s = s.rdropWhile p := rfl

theorem dropWhile_of_head (h : ∀ c ∈ s.head?, p c = false) : s.dropWhile p = s := by
  cases s with
  | nil => rfl
  | cons c s => simp [h c rfl]

theorem rdropWhile_of_getLast (h : ∀ c ∈ s.getLast?, p c = false) : s.rdropWhile p = s := by
  rw [List.rdropWhile, dropWhile_of_head (by simpa using h), List.reverse_reverse]

theorem rdropWhile_append_of_pos (h : ∀ c ∈ t, p c) : (s ++ t).rdropWhile p = s.rdropWhile p := by
  rw [List.rdropWhile, List.reverse_append, List.dropWhile_append_of_pos (by simpa using h), List.rdropWhile]

theorem head?_dropWhile : ∀ c ∈ (s.dropWhile p).head?, p c = false := by
  intro c hc
  have visible := List.head?_dropWhile_not p s
  rwa [Option.mem_def.1 hc] at visible

theorem getLast?_rdropWhile : ∀ c ∈ (s.rdropWhile p).getLast?, p c = false := by
  intro c hc
  rw [List.rdropWhile, List.getLast?_reverse] at hc
  exact head?_dropWhile c hc

theorem trims_trimBlanks (s : List Char) : Trims s (trimBlanks s) where
  around := by
    refine ⟨s.takeWhile isBlank, (s.dropWhile isBlank).rtakeWhile isBlank, ?_, ?_, ?_⟩
    · rw [trimBlanks, dropRight_eq_rdropWhile, List.rdropWhile_append_rtakeWhile, List.takeWhile_append_dropWhile]
    · exact fun c hc => List.mem_takeWhile_imp hc
    · exact fun c hc => List.mem_rtakeWhile_imp hc
  first := by
    intro c hc
    -- what is cut off at the end leaves the front as it is
    obtain ⟨after, split⟩ := List.rdropWhile_prefix isBlank (s.dropWhile isBlank)
    apply head?_dropWhile (s := s)
    rw [← split, List.head?_append, Option.mem_def]
    rw [trimBlanks, dropRight_eq_rdropWhile, Option.mem_def] at hc
    rw [hc, Option.some_or]
  last := getLast?_rdropWhile

theorem Trims.eq (h : Trims s t) : trimBlanks s = t := by
  obtain ⟨⟨before, after, rfl, left, right⟩, first, last⟩ := h
  rw [trimBlanks, dropRight_eq_rdropWhile, List.dropWhile_append_of_pos left]
  cases t with
  | nil => rw [List.nil_append, List.dropWhile_eq_nil_iff.2 right, List.rdropWhile_nil]
  | cons c t =>
    rw [dropWhile_of_head (s := c :: t ++ after) (fun b hb => first b hb), rdropWhile_append_of_pos right,
      rdropWhile_of_getLast last]

theorem toList_trim (s : String) : (trim s).toList = trimBlanks s.toList := String.toList_ofList

end GracefulDrain.Text
