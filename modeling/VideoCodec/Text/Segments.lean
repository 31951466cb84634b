import Mathlib.Data.List.DropRight
import Mathlib.Data.List.Infix

/-! Texts made of segments between separators: two joined texts, trimming the separators
at both ends, and the last segment. -/
namespace Segments

variable {α : Type*} {sep : α}

/-- Two texts that are joined by a separator, here and there: they are the same, or the
segments in between have moved from one text to the other. -/
theorem join_eq_join_iff {a b c d : List α} : a ++ sep :: b = c ++ sep :: d ↔
    a = c ∧ b = d ∨ (∃ m, c = a ++ sep :: m ∧ b = m ++ sep :: d) ∨
      ∃ m, a = c ++ sep :: m ∧ d = m ++ sep :: b := by
  constructor
  · intro same
    obtain ⟨m, rfl, rest⟩ | ⟨m, rfl, rest⟩ := List.append_eq_append_iff.mp same
    · cases m with
      | nil => exact .inl ⟨(List.append_nil a).symm, (List.cons.inj rest).2⟩
      | cons head m =>
        obtain ⟨rfl, moved⟩ := List.cons.inj rest
        exact .inr (.inl ⟨m, rfl, moved⟩)
    · cases m with
      | nil => exact .inl ⟨List.append_nil c, (List.cons.inj rest).2.symm⟩
      | cons head m =>
        obtain ⟨rfl, moved⟩ := List.cons.inj rest
        exact .inr (.inr ⟨m, rfl, moved⟩)
  · rintro (⟨rfl, rfl⟩ | ⟨m, rfl, rfl⟩ | ⟨m, rfl, rfl⟩)
    · rfl
    · rw [List.append_assoc, List.cons_append]
    · rw [List.append_assoc, List.cons_append]

variable [DecidableEq α] {text segment : List α}

/-- A text without the separators at its ends. -/
def trim (sep : α) (text : List α) : List α := (text.dropWhile (· = sep)).rdropWhile (· = sep)

theorem rdropWhile_append_replicate (text : List α) (n : Nat) :
    (text ++ List.replicate n sep).rdropWhile (· = sep) = text.rdropWhile (· = sep) := by
  induction n with
  | zero => simp
  | succ n ih =>
    rw [List.replicate_succ', ← List.append_assoc, List.rdropWhile_concat_pos _ _ _ (by simp), ih]

/-- Separators around a text make no difference to what is left of it. -/
theorem trim_pad (sep : α) (text : List α) (before after : Nat) :
    trim sep (List.replicate before sep ++ text ++ List.replicate after sep) = trim sep text := by
  have front : (List.replicate before sep ++ text ++ List.replicate after sep).dropWhile (· = sep) =
      (text ++ List.replicate after sep).dropWhile (· = sep) := by
    rw [List.append_assoc]
    induction before with
    | zero => rfl
    | succ before ih =>
      rw [List.replicate_succ, List.cons_append, List.dropWhile_cons_of_pos (by simp), ih]
  rw [trim, front, List.dropWhile_append]
  split
  · rename_i none
    have tail : (List.replicate after sep).dropWhile (· = sep) = [] := by
      rw [List.dropWhile_eq_nil_iff]
      intro a member
      simpa using List.eq_of_mem_replicate member
    rw [trim, tail, List.isEmpty_iff.mp none]
  · rw [rdropWhile_append_replicate]
    rfl

/-- The last segment of a text is the text or stands behind a separator. -/
theorem getLast?_splitOn_iff (plain : sep ∉ segment) :
    (text.splitOn sep).getLast? = some segment ↔ text = segment ∨ sep :: segment <:+ text := by
  constructor
  · intro last
    by_cases separated : sep ∈ text
    · -- the last separator of the text is the first one of its reverse
      obtain ⟨after, before, reversed, free⟩ :=
        List.eq_append_cons_of_mem (List.mem_reverse.mpr separated)
      have split : text = before.reverse ++ sep :: after.reverse := by
        rw [← List.reverse_reverse text, reversed]
        simp
      have alone : after.reverse.splitOn sep = [after.reverse] :=
        List.splitOn_eq_singleton (by simpa using free)
      rw [split, List.splitOn_append_cons_self, alone, List.getLast?_concat] at last
      right
      rw [split, Option.some.inj last]
      exact List.suffix_append _ _
    · rw [List.splitOn_eq_singleton separated] at last
      exact .inl (Option.some.inj last)
  · rintro (rfl | ⟨before, rfl⟩)
    · rw [List.splitOn_eq_singleton plain]
      rfl
    · rw [List.splitOn_append_cons_self, List.splitOn_eq_singleton plain, List.getLast?_concat]

end Segments
