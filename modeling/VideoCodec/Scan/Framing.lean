import Mathlib.Algebra.Group.Nat.Defs
import Mathlib.Data.List.Basic

/-! Bytes framed by big-endian length prefixes of a fixed width. -/
namespace Framing

/-- The low `width` bytes of a number, most significant first. -/
def bigEndian : Nat → Nat → List UInt8
  | 0, _ => []
  | width + 1, n => UInt8.ofNat (n >>> (8 * width)) :: bigEndian width n

/-- The number that bytes denote, most significant first. -/
def value (bytes : List UInt8) : Nat := bytes.foldl (fun n byte => n * 256 + byte.toNat) 0

def frame (width : Nat) (unit : List UInt8) : List UInt8 := bigEndian width unit.length ++ unit

/-- The unit framed at the head of bytes and what follows it, or nothing when the bytes
end inside it. -/
def unframe (width : Nat) (bytes : List UInt8) : Option (List UInt8 × List UInt8) :=
  let length := value (bytes.take width)
  let rest := bytes.drop width
  if bytes.length < width ∨ rest.length < length then none
  else some (rest.take length, rest.drop length)

/-- Consecutive framed units, or nothing when the bytes end inside one. -/
def parseWithin (width : Nat) : Nat → List UInt8 → Option (List (List UInt8))
  | _, [] => some []
  | 0, _ :: _ => none
  | fuel + 1, bytes =>
    let length := value (bytes.take width)
    let rest := bytes.drop width
    if bytes.length < width ∨ rest.length < length then none
    else (parseWithin width fuel (rest.drop length)).map (rest.take length :: ·)

def parse (width : Nat) (bytes : List UInt8) : Option (List (List UInt8)) :=
  parseWithin width bytes.length bytes

@[simp] theorem bigEndian_length (width n : Nat) : (bigEndian width n).length = width := by
  induction width with
  | zero => rfl
  | succ width ih => rw [bigEndian, List.length_cons, ih]

theorem foldl_value (n : Nat) (bytes : List UInt8) :
    bytes.foldl (fun n byte => n * 256 + byte.toNat) n = n * 256 ^ bytes.length + value bytes := by
  induction bytes generalizing n with
  | nil => simp [value]
  | cons byte bytes ih =>
    rw [value, List.foldl_cons, List.foldl_cons, ih, ih (0 * 256 + _), List.length_cons]
    have split : n * 256 ^ (bytes.length + 1) = n * 256 * 256 ^ bytes.length := by
      rw [Nat.pow_succ, Nat.mul_comm (256 ^ _) 256, Nat.mul_assoc]
    rw [split, Nat.add_mul, Nat.zero_mul, Nat.zero_add, Nat.add_assoc]

theorem value_bigEndian (width n : Nat) : value (bigEndian width n) = n % 256 ^ width := by
  induction width with
  | zero => simp [bigEndian, value, Nat.mod_one]
  | succ width ih =>
    have low : n >>> (8 * width) = n / 256 ^ width := by
      rw [Nat.shiftRight_eq_div_pow, Nat.pow_mul]
    have byte : (UInt8.ofNat (n / 256 ^ width)).toNat = n / 256 ^ width % 256 := by simp
    rw [bigEndian, value, List.foldl_cons, foldl_value, bigEndian_length, ih, low, byte,
      Nat.zero_mul, Nat.zero_add, Nat.pow_succ, Nat.mod_mul, Nat.add_comm, Nat.mul_comm]

/-- A number that fits is read back. -/
theorem value_bigEndian_fits {width n : Nat} (fits : n < 256 ^ width) :
    value (bigEndian width n) = n := by
  rw [value_bigEndian, Nat.mod_eq_of_lt fits]

variable {width : Nat} {unit bytes : List UInt8} {units : List (List UInt8)}

theorem frame_length (width : Nat) (unit : List UInt8) :
    (frame width unit).length = width + unit.length := by
  rw [frame, List.length_append, bigEndian_length]

theorem value_lt (bytes : List UInt8) : value bytes < 256 ^ bytes.length := by
  induction bytes with
  | nil => exact Nat.one_pos
  | cons byte bytes ih =>
    have small : byte.toNat < 256 := byte.toNat_lt
    have bound : byte.toNat * 256 ^ bytes.length ≤ 255 * 256 ^ bytes.length :=
      Nat.mul_le_mul_right _ (by omega)
    rw [value, List.foldl_cons, foldl_value, List.length_cons, Nat.pow_succ, Nat.zero_mul,
      Nat.zero_add]
    omega

/-- A framed unit that fits is read back, whatever follows it. -/
theorem unframe_frame (fits : unit.length < 256 ^ width) (rest : List UInt8) :
    unframe width (frame width unit ++ rest) = some (unit, rest) := by
  have size := bigEndian_length width unit.length
  simp only [unframe, frame, List.append_assoc]
  rw [List.take_left' size, List.drop_left' size, value_bigEndian_fits fits, if_neg,
    List.take_left, List.drop_left]
  simp only [List.length_append, size]
  omega

/-- No unit that is read is longer than its prefix can say. -/
theorem length_lt_of_unframe {rest : List UInt8} (read : unframe width bytes = some (unit, rest)) :
    unit.length < 256 ^ width := by
  simp only [unframe] at read
  split at read
  · cases read
  · rename_i enough
    cases read
    have wide : (bytes.take width).length = width := by
      rw [List.length_take]
      omega
    have bound := value_lt (bytes.take width)
    rw [wide] at bound
    rw [List.length_take]
    omega

theorem parseWithin_frame {fuel : Nat} (fits : unit.length < 256 ^ width) (wide : 0 < width) :
    parseWithin width (fuel + 1) (frame width unit ++ bytes) =
      (parseWithin width fuel bytes).map (unit :: ·) := by
  have size := bigEndian_length width unit.length
  have nonempty : frame width unit ++ bytes ≠ [] := by
    intro empty
    have none := congrArg List.length empty
    rw [List.length_append, frame_length, List.length_nil] at none
    omega
  rw [parseWithin]
  · simp only [frame, List.append_assoc]
    rw [List.take_left' size, List.drop_left' size, value_bigEndian_fits fits, if_neg,
      List.drop_left, List.take_left]
    simp only [List.length_append, size]
    omega
  · exact nonempty

/-- Framed units are read back, and nothing is left over. -/
theorem parse_frames (fits : ∀ unit ∈ units, unit.length < 256 ^ width) (wide : 0 < width) :
    parse width (units.flatMap (frame width)) = some units := by
  suffices enough : ∀ {fuel : Nat}, units.length ≤ fuel →
      parseWithin width fuel (units.flatMap (frame width)) = some units by
    apply enough
    clear enough
    induction units with
    | nil => exact Nat.zero_le _
    | cons unit units ih =>
      have rest := ih fun unit member => fits unit (List.mem_cons_of_mem _ member)
      rw [List.flatMap_cons, List.length_append, frame_length, List.length_cons]
      omega
  induction units with
  | nil =>
    intro fuel _
    cases fuel <;> rfl
  | cons unit units ih =>
    intro fuel enough
    cases fuel with
    | zero => exact absurd enough (Nat.not_succ_le_zero _)
    | succ fuel =>
      have rest := ih (fun unit member => fits unit (List.mem_cons_of_mem _ member))
        (Nat.le_of_succ_le_succ enough)
      rw [List.flatMap_cons, parseWithin_frame (fits unit List.mem_cons_self) wide, rest]
      rfl

end Framing
