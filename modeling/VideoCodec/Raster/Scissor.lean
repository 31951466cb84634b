import Mathlib.Algebra.Group.Int.Defs
import Mathlib.Order.Basic

/-! Drawing with a scissor box and clears alone, as OpenGL ES has it: rows count from the
bottom, a box of negative size is an error that leaves the box as it was, and a clear
stays inside the box. -/
namespace Raster

structure Box where
  x : Int
  y : Int
  width : Int
  height : Int
  deriving DecidableEq, Repr

namespace Box

def Holds (b : Box) (x y : Int) : Prop :=
  (b.x ≤ x ∧ x < b.x + b.width) ∧ b.y ≤ y ∧ y < b.y + b.height

instance (b : Box) (x y : Int) : Decidable (b.Holds x y) := inferInstanceAs (Decidable (_ ∧ _))

def Valid (b : Box) : Prop := 0 ≤ b.width ∧ 0 ≤ b.height

instance (b : Box) : Decidable b.Valid := inferInstanceAs (Decidable (_ ∧ _))

end Box

/-- A color buffer and the state that clears depend on. -/
structure Context (κ : Type) where
  box : Box
  /-- Whether the box confines a clear. -/
  test : Bool
  pixels : Int → Int → κ

namespace Context
variable {κ : Type}

def scissor (c : Context κ) (b : Box) : Context κ := if b.Valid then { c with box := b } else c

def clear (c : Context κ) (color : κ) : Context κ :=
  { c with pixels := fun x y =>
      if c.test = false ∨ c.box.Holds x y then color else c.pixels x y }

/-- A clear of one box. -/
def fill (c : Context κ) (b : Box) (color : κ) : Context κ := (c.scissor b).clear color

section Fill
variable {c : Context κ} {b : Box} {color : κ} {x y : Int}

@[simp] theorem scissor_test (c : Context κ) (b : Box) : (c.scissor b).test = c.test := by
  rw [scissor]
  split <;> rfl

@[simp] theorem fill_test (c : Context κ) (b : Box) (color : κ) :
    (c.fill b color).test = c.test := scissor_test c b

theorem fill_box (valid : b.Valid) : (c.fill b color).box = b := by
  rw [fill, scissor, if_pos valid]
  rfl

theorem clear_pixels (confined : c.test = true) :
    (c.clear color).pixels x y = if c.box.Holds x y then color else c.pixels x y := by
  rw [clear, confined]
  simp only [Bool.true_eq_false, false_or]

/-- A box that is set confines the clear behind it. -/
theorem fill_valid (confined : c.test = true) (valid : b.Valid) :
    (c.fill b color).pixels x y = if b.Holds x y then color else c.pixels x y := by
  rw [fill, clear_pixels ((scissor_test c b).trans confined), scissor, if_pos valid]

/-- Behind an error the clear goes to the box that was set before. -/
theorem fill_invalid (confined : c.test = true) (invalid : ¬b.Valid) :
    (c.fill b color).pixels x y = if c.box.Holds x y then color else c.pixels x y := by
  rw [fill, scissor, if_neg invalid]
  exact clear_pixels confined

end Fill
end Context
end Raster
