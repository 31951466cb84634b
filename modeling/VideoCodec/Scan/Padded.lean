import Mathlib.Data.List.Basic

/-! Sequences with filler put between their items. -/
namespace Scan

variable {α : Type*}

/-- The second list is the first with nothing but filler inserted, anywhere. -/
inductive Padded (filler : α) : List α → List α → Prop where
  | nil : Padded filler [] []
  | keep (a) : Padded filler xs ys → Padded filler (a :: xs) (a :: ys)
  | fill : Padded filler xs ys → Padded filler xs (filler :: ys)

namespace Padded
variable {filler : α} {xs ys zs ws : List α}

theorem refl (xs : List α) : Padded filler xs xs := by
  induction xs with
  | nil => exact .nil
  | cons a xs ih => exact .keep a ih

theorem fills (n : Nat) : Padded filler [] (List.replicate n filler) := by
  induction n with
  | zero => exact .nil
  | succ n ih => exact .fill ih

theorem append (first : Padded filler xs ys) (later : Padded filler zs ws) :
    Padded filler (xs ++ zs) (ys ++ ws) := by
  induction first with
  | nil => exact later
  | keep a _ ih => exact .keep a ih
  | fill _ ih => exact .fill ih

theorem flatMap {β : Type*} {f g : β → List α} {bs : List β}
    (each : ∀ b ∈ bs, Padded filler (f b) (g b)) :
    Padded filler (bs.flatMap f) (bs.flatMap g) := by
  induction bs with
  | nil => exact .nil
  | cons b bs ih =>
    rw [List.flatMap_cons, List.flatMap_cons]
    apply append
    · exact each b (List.mem_cons_self ..)
    · exact ih fun c later => each c (List.mem_cons_of_mem b later)

/-- What is no filler is kept as it is. -/
theorem countP_eq {p : α → Bool} (padded : Padded filler xs ys) (not : p filler = false) :
    ys.countP p = xs.countP p := by
  induction padded with
  | nil => rfl
  | keep a _ ih => rw [List.countP_cons, List.countP_cons, ih]
  | fill _ ih =>
    rw [List.countP_cons_of_neg, ih]
    rw [not]
    exact Bool.false_ne_true

theorem length_le (padded : Padded filler xs ys) : xs.length ≤ ys.length := by
  induction padded with
  | nil => exact Nat.le_refl 0
  | keep a _ ih => exact Nat.succ_le_succ ih
  | fill _ ih => exact Nat.le_succ_of_le ih

section Counting
variable {β : Type*} {f g : β → List α} {bs : List β} {p : α → Bool}

theorem countP_flatMap_le (fewer : ∀ b ∈ bs, (g b).countP p ≤ (f b).countP p) :
    (bs.flatMap g).countP p ≤ (bs.flatMap f).countP p := by
  induction bs with
  | nil => exact Nat.le_refl _
  | cons b bs ih =>
    have first := fewer b (List.mem_cons_self ..)
    have rest := ih fun c later => fewer c (List.mem_cons_of_mem b later)
    rw [List.flatMap_cons, List.flatMap_cons, List.countP_append, List.countP_append]
    exact Nat.add_le_add first rest

/-- Parts that lose items are not made up for by others that gain none. -/
theorem countP_parts_eq (padded : Padded filler (bs.flatMap f) (bs.flatMap g))
    (not : p filler = false) (fewer : ∀ b ∈ bs, (g b).countP p ≤ (f b).countP p) :
    ∀ b ∈ bs, (g b).countP p = (f b).countP p := by
  have total := padded.countP_eq not
  clear padded
  induction bs with
  | nil => exact nofun
  | cons b bs ih =>
    have first := fewer b (List.mem_cons_self ..)
    have later : ∀ c ∈ bs, (g c).countP p ≤ (f c).countP p :=
      fun c among => fewer c (List.mem_cons_of_mem b among)
    have rest := countP_flatMap_le later
    rw [List.flatMap_cons, List.flatMap_cons, List.countP_append, List.countP_append] at total
    intro c among
    rcases List.mem_cons.mp among with rfl | among
    · omega
    · exact ih later (by omega) c among

end Counting
end Padded

end Scan
