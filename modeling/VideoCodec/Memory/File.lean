import Mathlib.Init

/-! Files with a position. What is written stands over the bytes behind the position and
makes the file longer where they end; a gap in front of it is filled. -/
namespace Memory

structure File (β : Type) where
  bytes : List β := []
  pos : Nat := 0
  deriving DecidableEq, Repr

namespace File
variable {β : Type}

def seek (f : File β) (pos : Nat) : File β := { f with pos }

def write (fill : β) (f : File β) (data : List β) : File β :=
  if data = [] then f
  else
    let reached := f.bytes ++ List.replicate (f.pos - f.bytes.length) fill
    { bytes := reached.take f.pos ++ data ++ reached.drop (f.pos + data.length)
      pos := f.pos + data.length }

variable {fill : β} {f : File β} {data : List β}

@[simp] theorem seek_bytes (f : File β) (pos : Nat) : (f.seek pos).bytes = f.bytes := rfl

@[simp] theorem seek_pos (f : File β) (pos : Nat) : (f.seek pos).pos = pos := rfl

theorem write_nil (fill : β) (f : File β) : f.write fill [] = f := if_pos rfl

theorem write_length (nonempty : data ≠ []) :
    (f.write fill data).bytes.length = max f.bytes.length (f.pos + data.length) := by
  rw [write, if_neg nonempty]
  simp only [List.length_append, List.length_take, List.length_drop, List.length_replicate]
  omega

/-- A write makes the file longer by all that it writes at the end of the file only. -/
theorem write_length_eq_add_iff : (f.write fill data).bytes.length = f.bytes.length + data.length ↔
    data = [] ∨ f.pos = f.bytes.length := by
  by_cases empty : data = []
  · subst empty
    rw [write_nil]
    exact iff_of_true rfl (.inl rfl)
  · have positive := List.length_pos_iff.mpr empty
    rw [write_length empty, or_iff_right empty]
    omega

/-- A write leaves the length alone where it stays inside the file. -/
theorem write_length_eq_iff : (f.write fill data).bytes.length = f.bytes.length ↔
    data = [] ∨ f.pos + data.length ≤ f.bytes.length := by
  by_cases empty : data = []
  · subst empty
    rw [write_nil]
    exact iff_of_true rfl (.inl rfl)
  · rw [write_length empty, or_iff_right empty]
    omega

end File
end Memory
