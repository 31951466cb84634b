import Mathlib.Init

/-! A call made on one party after the other until one of them fails. -/
namespace Control

variable {σ : Type*}

/-- `act i` is what the call does to the party at index `i`, and whether it succeeds. -/
def fanOut (act : Nat → σ → Bool × σ) : List σ → Bool × List σ
  | [] => (true, [])
  | s :: rest =>
    match act 0 s with
    | (true, t) =>
      let others := fanOut (fun i => act (i + 1)) rest
      (others.1, t :: others.2)
    | (false, t) => (false, t :: rest)

/-- No party in front of index `i` fails. -/
def Reached (act : Nat → σ → Bool × σ) (ss : List σ) (i : Nat) : Prop :=
  ∀ j < i, ∀ s, ss[j]? = some s → (act j s).1 = true

section Spec
variable {act : Nat → σ → Bool × σ} {ss : List σ} {s : σ} {i : Nat}

theorem reached_zero (act : Nat → σ → Bool × σ) (ss : List σ) : Reached act ss 0 :=
  fun _ before => absurd before (Nat.not_lt_zero _)

theorem reached_succ : Reached act (s :: ss) (i + 1) ↔
    (act 0 s).1 = true ∧ Reached (fun i => act (i + 1)) ss i := by
  constructor
  · intro reached
    exact ⟨reached 0 (Nat.succ_pos i) s rfl,
      fun j before t found => reached (j + 1) (Nat.succ_lt_succ before) t found⟩
  · rintro ⟨first, rest⟩ j before t found
    cases j with
    | zero =>
      cases found
      exact first
    | succ j => exact rest j (Nat.lt_of_succ_lt_succ before) t found

theorem fanOut_cons_true (succeeds : (act 0 s).1 = true) : fanOut act (s :: ss) =
    ((fanOut (fun i => act (i + 1)) ss).1,
      (act 0 s).2 :: (fanOut (fun i => act (i + 1)) ss).2) := by
  rw [fanOut]
  split
  · rename_i called
    rw [called]
  · rename_i called
    rw [called] at succeeds
    cases succeeds

theorem fanOut_cons_false (fails : (act 0 s).1 = false) :
    fanOut act (s :: ss) = (false, (act 0 s).2 :: ss) := by
  rw [fanOut]
  split
  · rename_i called
    rw [called] at fails
    cases fails
  · rename_i called
    rw [called]

/-- The call succeeds when it does with every party. -/
theorem fanOut_succeeds : (fanOut act ss).1 = true ↔
    ∀ (i) (s), ss[i]? = some s → (act i s).1 = true := by
  induction ss generalizing act with
  | nil => exact iff_of_true rfl fun i s found => by cases found
  | cons s ss ih =>
    cases first : (act 0 s).1 with
    | false =>
      rw [fanOut_cons_false first]
      refine iff_of_false Bool.false_ne_true fun all => ?_
      exact Bool.false_ne_true (first.symm.trans (all 0 s rfl))
    | true =>
      rw [fanOut_cons_true first, ih]
      constructor
      · rintro rest (_ | i) t found
        · cases found
          exact first
        · exact rest i t found
      · exact fun all i t found => all (i + 1) t found

/-- The call fails at the first party with which it does. -/
theorem fanOut_fails : (fanOut act ss).1 = false ↔
    ∃ i s, ss[i]? = some s ∧ Reached act ss i ∧ (act i s).1 = false := by
  induction ss generalizing act with
  | nil => exact iff_of_false (fun fails => by cases fails) fun ⟨i, s, found, _⟩ => by cases found
  | cons s ss ih =>
    cases first : (act 0 s).1 with
    | false =>
      rw [fanOut_cons_false first]
      exact iff_of_true rfl ⟨0, s, rfl, reached_zero act _, first⟩
    | true =>
      rw [fanOut_cons_true first, ih]
      constructor
      · rintro ⟨i, t, found, reached, fails⟩
        exact ⟨i + 1, t, found, reached_succ.mpr ⟨first, reached⟩, fails⟩
      · rintro ⟨_ | i, t, found, reached, fails⟩
        · cases found
          exact absurd (first.symm.trans fails) Bool.noConfusion
        · exact ⟨i, t, found, (reached_succ.mp reached).2, fails⟩

/-- What becomes of a party that is reached. -/
theorem fanOut_reached (reached : Reached act ss i) :
    (fanOut act ss).2[i]? = ss[i]?.map fun s => (act i s).2 := by
  induction ss generalizing act i with
  | nil => rfl
  | cons s ss ih =>
    cases i with
    | zero =>
      cases first : (act 0 s).1 with
      | false =>
        rw [fanOut_cons_false first]
        rfl
      | true =>
        rw [fanOut_cons_true first]
        rfl
    | succ i =>
      obtain ⟨first, rest⟩ := reached_succ.mp reached
      rw [fanOut_cons_true first, List.getElem?_cons_succ, List.getElem?_cons_succ]
      exact ih rest

/-- Behind the first one that fails nobody is called. -/
theorem fanOut_unreached (unreached : ¬ Reached act ss i) : (fanOut act ss).2[i]? = ss[i]? := by
  induction ss generalizing act i with
  | nil => rfl
  | cons s ss ih =>
    cases i with
    | zero => exact absurd (reached_zero act _) unreached
    | succ i =>
      cases first : (act 0 s).1 with
      | false =>
        rw [fanOut_cons_false first]
        rfl
      | true =>
        rw [fanOut_cons_true first, List.getElem?_cons_succ, List.getElem?_cons_succ]
        exact ih fun rest => unreached (reached_succ.mpr ⟨first, rest⟩)

/-- A call that succeeds reaches everyone. -/
theorem fanOut_all (succeeds : (fanOut act ss).1 = true) (i : Nat) :
    (fanOut act ss).2[i]? = ss[i]?.map fun s => (act i s).2 :=
  fanOut_reached fun j _ s found => fanOut_succeeds.mp succeeds j s found

end Spec
end Control
