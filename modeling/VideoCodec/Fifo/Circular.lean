import Mathlib.Data.Nat.ModEq
import Mathlib.Data.List.Basic

/-! Windows on a circular array: `length` cells in ring order from `start`,
wrapping at the end of the array. Nothing is assumed of the cells outside the
window; writes there are framed away. -/
namespace Circular

/-- Offsets less than one revolution apart address distinct cells. -/
theorem index_ne {size start near far : Nat} (before : near < far) (within : far < near + size) :
    (start + near) % size ≠ (start + far) % size := by
  intro same
  have congruent : near ≡ far [MOD size] := Nat.ModEq.add_left_cancel' start same
  have divides := (Nat.modEq_iff_dvd' before.le).mp congruent
  have := Nat.le_of_dvd (by omega) divides
  omega

variable {α : Type*} [Inhabited α] {cells : List α} {start length : Nat}

def cell (cells : List α) (index : Nat) : α := cells.getD (index % cells.length) default

def window (cells : List α) (start length : Nat) : List α :=
  (List.range length).map fun offset => cell cells (start + offset)

@[simp] theorem window_zero : window cells start 0 = [] := rfl

@[simp] theorem window_length : (window cells start length).length = length := by simp [window]

theorem cell_mod {offset : Nat} :
    cell cells (start % cells.length + offset) = cell cells (start + offset) := by
  simp only [cell, Nat.mod_add_mod]

theorem window_mod : window cells (start % cells.length) length = window cells start length := by
  simp only [window, cell_mod]

theorem window_cons :
    window cells start (length + 1) = cell cells start :: window cells (start + 1) length := by
  simp only [window, List.range_succ_eq_map, List.map_cons, List.map_map, Nat.add_zero,
    Function.comp_def, Nat.succ_eq_add_one, Nat.add_assoc, Nat.add_comm 1]

theorem window_concat :
    window cells start (length + 1) =
      window cells start length ++ [cell cells (start + length)] := by
  simp only [window, List.range_succ, List.map_append, List.map_cons, List.map_nil]

theorem cell_set_ne {index written : Nat} {a : α} (other : index % cells.length ≠ written) :
    cell (cells.set written a) index = cell cells index := by
  simp [cell, List.getD_eq_getElem?_getD, List.getElem?_set_ne other.symm]

theorem cell_set_eq {index : Nat} {a : α} (nonempty : 0 < cells.length) :
    cell (cells.set (index % cells.length) a) index = a := by
  simp [cell, List.getD_eq_getElem?_getD, Nat.mod_lt index nonempty]

theorem window_set_outside {written : Nat} {a : α}
    (outside : ∀ offset < length, (start + offset) % cells.length ≠ written) :
    window (cells.set written a) start length = window cells start length := by
  apply List.map_congr_left
  intro offset member
  exact cell_set_ne (outside offset (List.mem_range.mp member))

/-- Writing the first cell behind the window extends the window by that value. -/
theorem window_append {a : α} (room : length < cells.length) :
    window (cells.set ((start + length) % cells.length) a) start (length + 1) =
      window cells start length ++ [a] := by
  rw [window_concat, cell_set_eq (by omega), window_set_outside]
  intro offset before
  exact index_ne before (by omega)

/-- Clearing the first cell leaves the rest of the window as it was. -/
theorem window_clear_first {a : α} (fits : length < cells.length) :
    window (cells.set (start % cells.length) a) (start + 1) length =
      window cells (start + 1) length := by
  apply window_set_outside
  intro offset before same
  have ahead : (start + 0) % cells.length ≠ (start + (offset + 1)) % cells.length :=
    index_ne (Nat.succ_pos offset) (by omega)
  apply ahead
  rw [Nat.add_zero, ← same, Nat.add_assoc, Nat.add_comm 1 offset]

end Circular
