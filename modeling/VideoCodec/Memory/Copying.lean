import Mathlib.Algebra.Group.Int.Defs
import Mathlib.Algebra.Group.Nat.Defs
import Mathlib.Data.Nat.Basic

/-! Copies of bytes between buffers, made one after the other. Planes of rows stand
at a pitch in a buffer of their own or packed behind one another in a shared one. -/
namespace Memory

/-- A `memcpy` between two families of buffers. Its offsets may lie outside them. -/
structure Copy (ι κ : Type) where
  source : ι
  target : κ
  src : Int
  dst : Int
  count : Nat
  deriving DecidableEq, Repr

variable {ι κ β : Type}

namespace Copy

def Reads (c : Copy ι κ) (k : ι) (i : Int) : Prop :=
  c.source = k ∧ c.src ≤ i ∧ i < c.src + c.count

def Writes (c : Copy ι κ) (k : κ) (i : Int) : Prop :=
  c.target = k ∧ c.dst ≤ i ∧ i < c.dst + c.count

instance [DecidableEq κ] (c : Copy ι κ) (k : κ) (i : Int) : Decidable (c.Writes k i) :=
  inferInstanceAs (Decidable (_ ∧ _))

/-- The targets behind the copy, where the sources hold `read`. -/
def run [DecidableEq κ] (c : Copy ι κ) (read : ι → Int → β) (into : κ → Int → β) (k : κ)
    (i : Int) : β :=
  if c.Writes k i then read c.source (c.src + (i - c.dst)) else into k i

end Copy

def runAll [DecidableEq κ] (copies : List (Copy ι κ)) (read : ι → Int → β)
    (into : κ → Int → β) : κ → Int → β :=
  copies.foldl (fun into c => c.run read into) into

section Run
variable [DecidableEq κ] {copies : List (Copy ι κ)} {read : ι → Int → β} {into : κ → Int → β}
  {k : κ} {i : Int} {want : β}

/-- A byte on which all copies that write it agree. -/
theorem runAll_of_agree (agree : ∀ c ∈ copies, c.Writes k i →
      read c.source (c.src + (i - c.dst)) = want)
    (holds : into k i = want ∨ ∃ c ∈ copies, c.Writes k i) :
    runAll copies read into k i = want := by
  induction copies generalizing into with
  | nil =>
    obtain before | ⟨c, member, _⟩ := holds
    · exact before
    · cases member
  | cons c copies ih =>
    apply ih fun d member => agree d (.tail c member)
    dsimp only [Copy.run]
    by_cases writes : c.Writes k i
    · rw [if_pos writes]
      exact .inl (agree c (.head copies) writes)
    · rw [if_neg writes]
      obtain before | ⟨d, member, later⟩ := holds
      · exact .inl before
      · obtain rfl | member := List.mem_cons.mp member
        · exact absurd later writes
        · exact .inr ⟨d, member, later⟩

theorem runAll_of_written (agree : ∀ c ∈ copies, c.Writes k i →
      read c.source (c.src + (i - c.dst)) = want)
    (written : ∃ c ∈ copies, c.Writes k i) : runAll copies read into k i = want :=
  runAll_of_agree agree (.inr written)

end Run

section Rows
variable {source : ι} {target : κ} {n count pitch y z x w : Nat} {src dst : Nat → Int}

/-- The copies of a plane, row by row. -/
def rowCopies (source : ι) (target : κ) (n count : Nat) (src dst : Nat → Int) :
    List (Copy ι κ) :=
  (List.range n).map fun y => { source, target, src := src y, dst := dst y, count }

theorem mem_rowCopies {c : Copy ι κ} : c ∈ rowCopies source target n count src dst ↔
    ∃ y < n, c = { source, target, src := src y, dst := dst y, count } := by
  simp only [rowCopies, List.mem_map, List.mem_range, eq_comm]

/-- Columns of two rows that do not reach beyond the pitch. -/
theorem row_inj (left : x < pitch) (right : w < pitch) (same : y * pitch + x = z * pitch + w) :
    y = z ∧ x = w := by
  have positive : 0 < pitch := Nat.zero_lt_of_lt left
  have rows : (y * pitch + x) / pitch = (z * pitch + w) / pitch := congrArg (· / pitch) same
  rw [Nat.mul_comm y, Nat.mul_comm z, Nat.mul_add_div positive, Nat.mul_add_div positive,
    Nat.div_eq_of_lt left, Nat.div_eq_of_lt right] at rows
  obtain rfl : y = z := rows
  exact ⟨rfl, Nat.add_left_cancel same⟩

theorem row_end_le (inside : y < n) : y * pitch + pitch ≤ n * pitch := by
  rw [← Nat.succ_mul]
  exact Nat.mul_le_mul_right pitch inside

end Rows

section Packing

/-- Where plane `k` starts when planes of `rows` rows of `bytes` bytes are packed. -/
def start (rows bytes : Nat → Nat) : Nat → Nat
  | 0 => 0
  | k + 1 => start rows bytes k + rows k * bytes k

/-- The offset of column `x` in row `y` of plane `k`. -/
def place (rows bytes : Nat → Nat) (k y x : Nat) : Nat := start rows bytes k + (y * bytes k + x)

variable {rows bytes : Nat → Nat} {i k l n x w y z : Nat}

theorem start_mono (before : k ≤ l) : start rows bytes k ≤ start rows bytes l := by
  induction before with
  | refl => exact Nat.le_refl _
  | step _ ih => exact Nat.le_trans ih (Nat.le_add_right _ _)

theorem place_lt (row : y < rows k) (column : x < bytes k) :
    place rows bytes k y x < start rows bytes (k + 1) := by
  have last : y * bytes k + bytes k ≤ rows k * bytes k := row_end_le row
  rw [place, start]
  omega

theorem exists_place (inside : i < start rows bytes n) :
    ∃ k < n, ∃ y < rows k, ∃ x < bytes k, place rows bytes k y x = i := by
  induction n with
  | zero => exact absurd inside (Nat.not_lt_zero i)
  | succ n ih =>
    by_cases earlier : i < start rows bytes n
    · obtain ⟨k, plane, found⟩ := ih earlier
      exact ⟨k, Nat.lt_succ_of_lt plane, found⟩
    · rw [start] at inside
      have offset : i - start rows bytes n < rows n * bytes n := by omega
      have positive : 0 < bytes n :=
        Nat.pos_of_ne_zero fun empty => by
          rw [empty, Nat.mul_zero] at offset
          exact Nat.not_lt_zero _ offset
      refine ⟨n, Nat.lt_succ_self n, (i - start rows bytes n) / bytes n,
        Nat.div_lt_of_lt_mul (by rwa [Nat.mul_comm]), (i - start rows bytes n) % bytes n,
        Nat.mod_lt _ positive, ?_⟩
      rw [place, Nat.mul_comm, Nat.div_add_mod]
      omega

/-- No byte of a packing has two places. -/
theorem place_inj (row : y < rows k) (column : x < bytes k) (row' : z < rows l)
    (column' : w < bytes l) (same : place rows bytes k y x = place rows bytes l z w) :
    k = l ∧ y = z ∧ x = w := by
  have left := place_lt row column
  have right := place_lt row' column'
  -- A plane ends before any later one starts.
  have apart : ¬ k < l ∧ ¬ l < k := by
    constructor
    · intro before
      have later : start rows bytes (k + 1) ≤ start rows bytes l := start_mono before
      have above : start rows bytes l ≤ place rows bytes l z w := Nat.le_add_right _ _
      omega
    · intro before
      have later : start rows bytes (l + 1) ≤ start rows bytes k := start_mono before
      have above : start rows bytes k ≤ place rows bytes k y x := Nat.le_add_right _ _
      omega
  obtain rfl : k = l := by omega
  exact ⟨rfl, row_inj column column' (Nat.add_left_cancel same)⟩

end Packing

section Products

/-- The product of two `int`s. -/
def intMul (a b : Int) : Int := (a * b).bmod (2 ^ 32)

theorem intMul_eq {a b : Int} (low : 0 ≤ a * b) (high : a * b < 2 ^ 31) : intMul a b = a * b :=
  Int.bmod_eq_of_le (by omega) (by omega)

/-- Rows computed with a stride start where they do at a pitch. -/
theorem intMul_rows_iff {n : Nat} {stride pitch : Int} (positive : 0 < stride)
    (int : stride < 2 ^ 31) :
    (∀ y < n, intMul (y : Nat) stride = y * pitch) ↔
      n ≤ 1 ∨ stride = pitch ∧ (n - 1) * pitch < 2 ^ 31 := by
  constructor
  · intro rows
    by_cases few : n ≤ 1
    · exact .inl few
    have first := rows 1 (by omega)
    rw [Int.natCast_one, intMul_eq (by omega) (by omega), Int.one_mul, Int.one_mul] at first
    have last := rows (n - 1) (by omega)
    have bound : intMul ((n - 1 : Nat) : Int) stride < 2 ^ 31 := by
      have upper := Int.bmod_lt (x := ((n - 1 : Nat) : Int) * stride) (m := 2 ^ 32) (by decide)
      rw [intMul]
      omega
    rw [last, Int.natCast_sub (by omega)] at bound
    exact .inr ⟨first, bound⟩
  · rintro (few | ⟨rfl, small⟩) y inside
    · obtain rfl : y = 0 := by omega
      rw [Int.natCast_zero, Int.zero_mul, intMul, Int.zero_mul, Int.zero_bmod]
    · have below : (y : Int) * stride ≤ (n - 1) * stride :=
        Int.mul_le_mul_of_nonneg_right (by omega) (by omega)
      exact intMul_eq (Int.mul_nonneg (by omega) (by omega)) (by omega)

end Products

end Memory
