import Mathlib.Data.List.Perm.Basic
import Mathlib.Logic.Relation
import Mathlib.Data.List.Sort

/-! Values taken one after another in one critical section and delivered in a
later one. Nothing keeps the order in between, so the deliveries come in the
order of taking exactly when no two values are ever under way together. -/
namespace Transition

structure Handoff (V : Type*) where
  taken : Nat := 0
  pending : List (Nat × V) := []
  delivered : List (Nat × V) := []

namespace Handoff
variable {V : Type*}

/-- Takes a value, numbered by the order of taking. -/
@[simp] def take (h : Handoff V) (value : V) : Handoff V :=
  { h with taken := h.taken + 1, pending := h.pending ++ [(h.taken, value)] }

/-- Delivers the pending value at a position. -/
def deliver (h : Handoff V) (index : Nat) : Option (Handoff V) :=
  h.pending[index]?.map fun item =>
    { h with pending := h.pending.eraseIdx index, delivered := h.delivered ++ [item] }

/-- Every value taken is pending or was delivered, once. -/
structure Sound (h : Handoff V) : Prop where
  complete : ((h.delivered ++ h.pending).map Prod.fst).Perm (List.range h.taken)
  rising : (h.pending.map Prod.fst).Pairwise (· < ·)

/-- Some pending values are delivered, in some order. -/
def Drains : Handoff V → Handoff V → Prop :=
  Relation.ReflTransGen fun h g => ∃ index, h.deliver index = some g

def Ordered (h : Handoff V) : Prop := (h.delivered.map Prod.fst).Pairwise (· < ·)

instance (h : Handoff V) : Decidable h.Ordered :=
  inferInstanceAs (Decidable (List.Pairwise _ _))

/-- However the pending values are delivered, they come in the order of taking. -/
def Orderly (h : Handoff V) : Prop := ∀ g, Drains h g → Ordered g

variable {h g : Handoff V} {index : Nat} {value : V}

theorem deliver_cases (delivers : h.deliver index = some g) :
    ∃ item, h.pending[index]? = some item ∧
      g = { h with pending := h.pending.eraseIdx index, delivered := h.delivered ++ [item] } := by
  obtain ⟨item, found, rfl⟩ := Option.map_eq_some_iff.mp delivers
  exact ⟨item, found, rfl⟩

theorem sound_new : ({} : Handoff V).Sound := ⟨by simp, by simp⟩

theorem Sound.take (sound : h.Sound) (value : V) : (h.take value).Sound where
  complete := by
    have more := sound.complete.append_right [h.taken]
    rw [← List.range_succ] at more
    simpa using more
  rising := by
    simp only [Handoff.take, List.map_append, List.map_cons, List.map_nil, List.pairwise_append,
      List.mem_singleton, List.pairwise_singleton, true_and]
    refine ⟨sound.rising, fun number waiting last same => ?_⟩
    subst same
    have known := sound.complete.mem_iff.mp (by simpa using .inr (by simpa using waiting))
    exact List.mem_range.mp known

theorem Sound.deliver (sound : h.Sound) (delivers : h.deliver index = some g) : g.Sound := by
  obtain ⟨item, found, rfl⟩ := deliver_cases delivers
  obtain ⟨bound, rfl⟩ := List.getElem?_eq_some_iff.mp found
  constructor
  · have moved := (List.getElem_cons_eraseIdx_perm bound).append_left h.delivered
    rw [List.append_cons] at moved
    exact (moved.map Prod.fst).trans sound.complete
  · exact sound.rising.sublist ((List.eraseIdx_sublist ..).map Prod.fst)

/-- At most one value is under way, and all values come in the order of taking. -/
structure Alone (h : Handoff V) : Prop where
  single : h.pending.length ≤ 1
  order : (h.delivered ++ h.pending).map Prod.fst = List.range h.taken

theorem Alone.take (alone : h.Alone) (free : h.pending = []) : (h.take value).Alone where
  single := by simp [free]
  order := by
    have order := alone.order
    simp only [free, List.append_nil] at order
    simp [free, order, List.range_succ]

theorem Alone.deliver (alone : h.Alone) (delivers : h.deliver index = some g) : g.Alone := by
  obtain ⟨item, found, rfl⟩ := deliver_cases delivers
  obtain ⟨single, order⟩ := alone
  match pending : h.pending, index, found, single with
  | [only], 0, found, _ =>
    obtain rfl : only = item := by simpa using found
    exact ⟨by simp, by simpa [pending] using order⟩

theorem Alone.ordered (alone : h.Alone) : h.Ordered := by
  have sorted := List.pairwise_lt_range (n := h.taken)
  rw [← alone.order] at sorted
  exact sorted.sublist ((List.sublist_append_left ..).map Prod.fst)

theorem Sound.order_of_ordered (sound : h.Sound) (ordered : h.Ordered) (empty : h.pending = []) :
    h.delivered.map Prod.fst = List.range h.taken := by
  have complete := sound.complete
  rw [empty, List.append_nil] at complete
  exact complete.eq_of_pairwise (fun a b _ _ => by omega) ordered List.pairwise_lt_range

/-- Of two values under way the later one can be delivered first. -/
theorem orderly_iff (sound : h.Sound) : h.Orderly ↔ h.Alone := by
  constructor
  · intro orderly
    match pending : h.pending with
    | [] =>
      refine ⟨by simp [pending], ?_⟩
      rw [pending, List.append_nil]
      exact sound.order_of_ordered (orderly h .refl) pending
    | [item] =>
      have delivers : h.deliver 0 = some
          { h with pending := [], delivered := h.delivered ++ [item] } := by
        simp [Handoff.deliver, pending]
      have order := (sound.deliver delivers).order_of_ordered
        (orderly _ (.single ⟨0, delivers⟩)) rfl
      exact ⟨by simp [pending], by simpa [pending] using order⟩
    | first :: second :: rest =>
      have later : h.deliver 1 = some
          { h with pending := first :: rest, delivered := h.delivered ++ [second] } := by
        simp [Handoff.deliver, pending]
      have earlier : Handoff.deliver
          { h with pending := first :: rest, delivered := h.delivered ++ [second] } 0 = some
          { h with pending := rest, delivered := h.delivered ++ [second] ++ [first] } := by
        simp [Handoff.deliver]
      have ordered := orderly _ (.tail (.single ⟨1, later⟩) ⟨0, earlier⟩)
      have rising := sound.rising
      simp only [pending, List.map_cons, List.pairwise_cons, List.mem_cons, forall_eq_or_imp]
        at rising
      simp only [Ordered, List.map_append, List.map_cons, List.map_nil, List.append_assoc,
        List.pairwise_append, List.cons_append, List.nil_append, List.pairwise_cons,
        List.mem_singleton, forall_eq] at ordered
      exact absurd ordered.2.1.1 (Nat.lt_asymm rising.1.1)
  · intro alone g drains
    suffices kept : g.Alone from kept.ordered
    induction drains with
    | refl => exact alone
    | tail _ step ih => exact ih.deliver step.choose_spec

/-- Taking a value stays orderly exactly when no other value is under way. -/
theorem orderly_take_iff (sound : h.Sound) (orderly : h.Orderly) :
    (h.take value).Orderly ↔ h.pending = [] := by
  constructor
  · intro kept
    have single := ((orderly_iff (sound.take value)).mp kept).single
    exact List.length_eq_zero_iff.mp (by simpa using single)
  · intro free
    exact (orderly_iff (sound.take value)).mpr (((orderly_iff sound).mp orderly).take free)

theorem Orderly.deliver (orderly : h.Orderly) (delivers : h.deliver index = some g) :
    g.Orderly := by
  intro last drains
  exact orderly last (.head ⟨index, delivers⟩ drains)

end Handoff
end Transition
