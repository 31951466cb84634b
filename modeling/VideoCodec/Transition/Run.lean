import Mathlib.Data.List.Basic

/-! Finite runs of a labelled step relation, with the rules that turn a fact
about one step into a fact about whole runs. Labels name the thread that moves
and carry its nondeterministic outcome, so a run fixes one interleaving. -/
namespace Transition

variable {S L A M : Type*}

inductive Run (step : S → L → S → Prop) : S → List L → S → Prop where
  | refl (s) : Run step s [] s
  | next : step s l t → Run step t rest u → Run step s (l :: rest) u

/-- Runs restricted to steps whose source state and label meet a condition. -/
def Guarded (step : S → L → S → Prop) (C : S → L → Prop) : S → L → S → Prop :=
  fun s l t => step s l t ∧ C s l

/-- Runs restricted to steps that reach states satisfying `P`. -/
def Keeping (step : S → L → S → Prop) (P : S → Prop) : S → L → S → Prop :=
  fun s l t => step s l t ∧ P t

/-- Runs restricted to steps with a property of the label and both states. -/
def Marked (step : S → L → S → Prop) (P : S → L → S → Prop) : S → L → S → Prop :=
  fun s l t => step s l t ∧ P s l t

namespace Run
variable {step : S → L → S → Prop} {s t u : S} {l : L} {ls ms : List L}

theorem trans (first : Run step s ls t) (second : Run step t ms u) : Run step s (ls ++ ms) u := by
  induction first with
  | refl => exact second
  | next head tail ih => exact .next head (ih second)

theorem single (head : step s l t) : Run step s [l] t := .next head (.refl t)

theorem snoc (first : Run step s ls t) (last : step t l u) : Run step s (ls ++ [l]) u :=
  first.trans (single last)

theorem split (run : Run step s (ls ++ ms) u) : ∃ t, Run step s ls t ∧ Run step t ms u := by
  induction ls generalizing s with
  | nil => exact ⟨s, .refl s, run⟩
  | cons l ls ih =>
    cases run with
    | next head tail =>
      obtain ⟨t, first, rest⟩ := ih tail
      exact ⟨t, .next head first, rest⟩

theorem mono {step' : S → L → S → Prop} (weaken : ∀ {s l t}, step s l t → step' s l t)
    (run : Run step s ls t) : Run step' s ls t := by
  induction run with
  | refl => exact .refl _
  | next head tail ih => exact .next (weaken head) ih

theorem invariant {P : S → Prop} (preserves : ∀ {s l t}, P s → step s l t → P t)
    (run : Run step s ls t) (initial : P s) : P t := by
  induction run with
  | refl => exact initial
  | next head tail ih => exact ih (preserves initial head)

/-- Invariants that speak of the labels taken so far, extended by the last step. -/
theorem history {P : List L → S → Prop}
    (extend : ∀ {ls t l u}, P ls t → step t l u → P (ls ++ [l]) u)
    (run : Run step s ls t) (initial : P [] s) : P ls t := by
  suffices walk : ∀ {ls ms : List L} {t u : S}, P ls t → Run step t ms u → P (ls ++ ms) u by
    simpa only [List.nil_append] using walk initial run
  intro ls ms t u held later
  induction later generalizing ls with
  | refl => simpa only [List.append_nil] using held
  | next head tail ih =>
    simpa only [List.append_assoc, List.singleton_append] using ih (extend held head)

theorem of_guarded {C : S → L → Prop} (run : Run (Guarded step C) s ls t) : Run step s ls t :=
  run.mono And.left

theorem guarded {C : S → L → Prop} (run : Run step s ls t) (meets : ∀ s, ∀ l ∈ ls, C s l) :
    Run (Guarded step C) s ls t := by
  induction run with
  | refl => exact .refl _
  | next head tail ih =>
    exact .next ⟨head, meets _ _ (List.mem_cons_self ..)⟩
      (ih fun s l later => meets s l (List.mem_cons_of_mem _ later))

/-- Where, under the invariant `Q`, one step has the property `P` exactly when it
meets `C`, and then keeps `Q`, all steps of a run have `P` exactly when all meet `C`. -/
theorem marked_iff_guarded {C : S → L → Prop} {P : S → L → S → Prop} {Q : S → Prop}
    (keeps : ∀ {s l t}, Q s → C s l → step s l t → Q t)
    (exact_step : ∀ {s l t}, Q s → step s l t → (P s l t ↔ C s l)) (always : Q s) :
    Run (Marked step P) s ls t ↔ Run (Guarded step C) s ls t := by
  constructor
  · intro run
    induction run with
    | refl => exact .refl _
    | next head tail ih =>
      have meets := (exact_step always head.1).mp head.2
      exact .next ⟨head.1, meets⟩ (ih (keeps always meets head.1))
  · intro run
    induction run with
    | refl => exact .refl _
    | next head tail ih =>
      have marked := (exact_step always head.1).mpr head.2
      exact .next ⟨head.1, marked⟩ (ih (keeps always head.2 head.1))

/-- Where, under the invariant `Q`, one step keeps `P` exactly when it meets
`C`, a whole run keeps `P` exactly when all its steps meet `C`. -/
theorem keeping_iff_guarded {C : S → L → Prop} {P Q : S → Prop}
    (keeps : ∀ {s l t}, Q s → step s l t → Q t)
    (exact_step : ∀ {s l t}, Q s → P s → step s l t → (P t ↔ C s l))
    (always : Q s) (initial : P s) :
    Run (Keeping step P) s ls t ↔ Run (Guarded step C) s ls t := by
  apply marked_iff_guarded (P := fun _ _ t => P t) (Q := fun s => Q s ∧ P s)
  · intro s l t held meets head
    exact ⟨keeps held.1 head, (exact_step held.1 held.2 head).mpr meets⟩
  · intro s l t held head
    exact exact_step held.1 held.2 head
  · exact ⟨always, initial⟩

/-- Where every step that meets `C` keeps the invariant `Q`, a run of such steps
keeps all that `Q` implies. -/
theorem keeping_of_guarded {C : S → L → Prop} {P Q : S → Prop}
    (keeps : ∀ {s l t}, Q s → C s l → step s l t → Q t) (implies : ∀ {s}, Q s → P s)
    (run : Run (Guarded step C) s ls t) (always : Q s) : Run (Keeping step P) s ls t := by
  induction run with
  | refl => exact .refl _
  | next head tail ih =>
    have kept := keeps always head.2 head.1
    exact .next ⟨head.1, implies kept⟩ (ih kept)

end Run

/-- Executable systems: a label has at most one successor, `none` when the
step is not enabled. -/
def Takes (next : S → L → Option S) : S → L → S → Prop := fun s l t => next s l = some t

def exec (next : S → L → Option S) : S → List L → Option S
  | s, [] => some s
  | s, l :: ls => (next s l).bind fun t => exec next t ls

theorem exec_run {next : S → L → Option S} {s t : S} {ls : List L}
    (executed : exec next s ls = some t) : Run (Takes next) s ls t := by
  induction ls generalizing s with
  | nil => cases executed; exact .refl _
  | cons l ls ih =>
    obtain ⟨m, head, rest⟩ := Option.bind_eq_some_iff.mp executed
    exact .next head (ih rest)

end Transition
