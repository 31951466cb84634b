import VideoCodec.Transition.Run

/-! Loops that call a function until it gives nothing more. What it gives on the way
labels the steps, so that the rules for runs apply to the loop. -/
namespace Transition

variable {S α : Type*} {next : S → Option (α × S)}

/-- The function gives `a` and leaves `t`. -/
def Yields (next : S → Option (α × S)) : S → α → S → Prop := fun s a t => next s = some (a, t)

/-- All that the function gives and the state in which it gives nothing, `none` when
`fuel` calls do not get there. -/
def exhaust (next : S → Option (α × S)) : Nat → S → Option (List α × S)
  | 0, _ => none
  | fuel + 1, s =>
    match next s with
    | none => some ([], s)
    | some (a, t) => (exhaust next fuel t).map fun rest => (a :: rest.1, rest.2)

/-- Enough fuel makes the loop do what the calls do. -/
theorem exhaust_of_run {s t : S} {as : List α} {fuel : Nat} (run : Run (Yields next) s as t)
    (last : next t = none) (enough : as.length < fuel) : exhaust next fuel s = some (as, t) := by
  induction run generalizing fuel with
  | refl s =>
    cases fuel with
    | zero => exact absurd enough (Nat.not_lt_zero _)
    | succ fuel => rw [exhaust, last]
  | next head tail ih =>
    cases fuel with
    | zero => exact absurd enough (Nat.not_lt_zero _)
    | succ fuel =>
      have rest := ih last (Nat.lt_of_succ_lt_succ enough)
      rw [Yields] at head
      rw [exhaust, head]
      dsimp only
      rw [rest, Option.map_some]

/-- The loop does nothing but what the calls do. -/
theorem run_of_exhaust {s t : S} {as : List α} {fuel : Nat}
    (exhausted : exhaust next fuel s = some (as, t)) :
    Run (Yields next) s as t ∧ next t = none := by
  induction fuel generalizing s as with
  | zero => contradiction
  | succ fuel ih =>
    rw [exhaust] at exhausted
    split at exhausted
    · rename_i last
      obtain ⟨rfl, rfl⟩ := Prod.mk.inj (Option.some.inj exhausted)
      exact ⟨.refl _, last⟩
    · rename_i head
      obtain ⟨⟨rest, u⟩, later, pair⟩ := Option.map_eq_some_iff.mp exhausted
      obtain ⟨rfl, rfl⟩ := Prod.mk.inj pair
      obtain ⟨tail, last⟩ := ih later
      exact ⟨.next head tail, last⟩

/-- A loop whose calls lower a measure ends. -/
theorem exists_exhausted {P : S → Prop} (measure : S → Nat)
    (lowers : ∀ {s a t}, P s → Yields next s a t → P t ∧ measure t < measure s) {s : S}
    (holds : P s) : ∃ as t, Run (Yields next) s as t ∧ next t = none := by
  induction bound : measure s using Nat.strongRecOn generalizing s with
  | ind n ih =>
    cases called : next s with
    | none => exact ⟨[], s, .refl s, called⟩
    | some result =>
      obtain ⟨a, t⟩ := result
      obtain ⟨kept, lower⟩ := lowers holds called
      obtain ⟨as, u, run, last⟩ := ih (measure t) (bound ▸ lower) kept rfl
      exact ⟨a :: as, u, .next called run, last⟩

end Transition
