import Mathlib.Data.List.DropRight

/-! Bounded buffers that may give up their oldest elements: what leaves through
the front and what stays is a selection of what came, in order, in which the
newest `limit` elements are never missing. -/
namespace Fifo

variable {α : Type*} {limit : Nat} {out items all : List α} {a : α}

/-- The elements `all` came; `out` were taken from the front, `items` remain. -/
structure Selects (limit : Nat) (out items all : List α) : Prop where
  ordered : (out ++ items).Sublist all
  recent : items <:+ all
  newest : all.rtake limit <:+ out ++ items

namespace Selects

theorem nil (limit : Nat) : Selects limit ([] : List α) [] [] := ⟨by simp, by simp, by simp⟩

theorem join (held : Selects limit out items all) (a : α) :
    Selects limit out (items ++ [a]) (all ++ [a]) where
  ordered := by
    rw [← List.append_assoc]
    exact held.ordered.append (.refl [a])
  recent := List.suffix_append_self_iff.mpr held.recent
  newest := by
    cases limit with
    | zero => simp
    | succ before =>
      rw [List.rtake_concat_succ, ← List.append_assoc]
      apply List.suffix_append_self_iff.mpr
      refine List.IsSuffix.trans ?_ held.newest
      rw [List.rtake, List.rtake]
      have fewer : all.length - (before + 1) ≤ all.length - before := by omega
      obtain ⟨gap, steps⟩ := Nat.exists_eq_add_of_le fewer
      rw [steps, ← List.drop_drop]
      exact List.drop_suffix _ _

/-- A full buffer makes room: what it then holds is exactly the newest elements. -/
theorem displace (held : Selects limit out (a :: items) all) (full : items.length + 1 = limit)
    (b : α) : Selects limit out (items ++ [b]) (all ++ [b]) := by
  have kept : items <:+ all := (List.suffix_cons a items).trans held.recent
  have recent : items ++ [b] <:+ all ++ [b] := List.suffix_append_self_iff.mpr kept
  have exact_newest : (all ++ [b]).rtake limit = items ++ [b] := by
    obtain ⟨older, split⟩ := recent
    rw [← split, List.rtake, List.length_append, List.length_append, List.length_singleton, full,
      Nat.add_sub_cancel, List.drop_left]
  refine ⟨?_, recent, ?_⟩
  · rw [← List.append_assoc]
    refine List.Sublist.append (List.Sublist.trans ?_ held.ordered) (.refl [b])
    exact (List.Sublist.refl out).append (List.sublist_cons_self a items)
  · rw [exact_newest]
    exact List.suffix_append _ _

theorem take (held : Selects limit out (a :: items) all) :
    Selects limit (out ++ [a]) items all where
  ordered := by simpa using held.ordered
  recent := (List.suffix_cons a items).trans held.recent
  newest := by simpa using held.newest

/-- The element at the front came before fewer than `limit` others. -/
theorem behind (held : Selects limit out (a :: items) all) (within : items.length < limit) :
    ∃ older newer, all = older ++ a :: newer ∧ newer.length < limit := by
  obtain ⟨older, split⟩ := held.recent
  exact ⟨older, items, split.symm, within⟩

theorem drained (held : Selects limit out [] all) : out.Sublist all ∧ all.rtake limit <:+ out := by
  have ordered := held.ordered
  have newest := held.newest
  rw [List.append_nil] at ordered newest
  exact ⟨ordered, newest⟩

end Selects
end Fifo
