import VideoCodec.Memory.Copying

/-! Layouts of samples: components of rows and columns whose samples stand in planes.
Copies that bring every sample from its place in one layout to that in another repack
the planes, in whatever order and pieces they do it. -/
namespace Memory

variable {κ ι ι' β : Type}

/-- Where the samples of components stand. -/
structure Layout (κ ι : Type) where
  plane : κ → ι
  offset : κ → Nat → Nat → Int

/-- Some copy takes the byte of one place to the other. -/
def Moves (copies : List (Copy ι ι')) (s : ι) (j : Int) (p : ι') (i : Int) : Prop :=
  ∃ c ∈ copies, c.Writes p i ∧ c.source = s ∧ c.src + (i - c.dst) = j

/-- The sizes of components. -/
structure Extent (κ : Type) where
  rows : κ → Nat
  columns : κ → Nat

/-- The copies take the samples from their places in `A` to those in `B`, and no more. -/
def Repacks (size : Extent κ) (A : Layout κ ι) (B : Layout κ ι') (copies : List (Copy ι ι')) :
    Prop :=
  ∀ s j p i, Moves copies s j p i ↔
    ∃ k, ∃ y < size.rows k, ∃ x < size.columns k,
      A.plane k = s ∧ A.offset k y x = j ∧ B.plane k = p ∧ B.offset k y x = i

namespace Layout

/-- No two samples stand in one place. -/
def Apart (A : Layout κ ι) (size : Extent κ) : Prop :=
  ∀ k l, ∀ y < size.rows k, ∀ x < size.columns k, ∀ z < size.rows l, ∀ w < size.columns l,
    A.plane k = A.plane l → A.offset k y x = A.offset l z w → k = l ∧ y = z ∧ x = w

/-- The samples stand inside planes of these lengths. -/
def Inside (A : Layout κ ι) (size : Extent κ) (length : ι → Nat) : Prop :=
  ∀ k, ∀ y < size.rows k, ∀ x < size.columns k,
    0 ≤ A.offset k y x ∧ A.offset k y x < length (A.plane k)

/-- The copies sample by sample. -/
def copies (components : List κ) (size : Extent κ) (A : Layout κ ι) (B : Layout κ ι') :
    List (Copy ι ι') :=
  components.flatMap fun k => (List.range (size.rows k)).flatMap fun (y : Nat) =>
    (List.range (size.columns k)).map fun (x : Nat) =>
      { source := A.plane k
        target := B.plane k
        src := A.offset k y x
        dst := B.offset k y x
        count := 1 }

end Layout

section Repacking
variable {size : Extent κ} {A : Layout κ ι} {B : Layout κ ι'}
  {copies : List (Copy ι ι')} {k : κ} {y x : Nat}

theorem repacks_copies {components : List κ} (all : ∀ k, k ∈ components) (size : Extent κ)
    (A : Layout κ ι) (B : Layout κ ι') : Repacks size A B (A.copies components size B) := by
  intro s j p i
  constructor
  · rintro ⟨c, among, ⟨target, low, high⟩, source, place⟩
    obtain ⟨k, -, among⟩ := List.mem_flatMap.mp among
    obtain ⟨y, row, among⟩ := List.mem_flatMap.mp among
    obtain ⟨x, column, rfl⟩ := List.mem_map.mp among
    dsimp only at target low high source place
    exact ⟨k, y, List.mem_range.mp row, x, List.mem_range.mp column, source, by omega, target,
      by omega⟩
  · rintro ⟨k, y, row, x, column, rfl, rfl, rfl, rfl⟩
    refine ⟨⟨A.plane k, B.plane k, A.offset k y x, B.offset k y x, 1⟩, ?_, ⟨rfl, ?_, ?_⟩, rfl, ?_⟩
    · exact List.mem_flatMap.mpr ⟨k, all k, List.mem_flatMap.mpr ⟨y, List.mem_range.mpr row,
        List.mem_map.mpr ⟨x, List.mem_range.mpr column, rfl⟩⟩⟩
    · exact Int.le_refl _
    · dsimp only
      omega
    · dsimp only
      omega

/-- What is written are the places of samples. -/
theorem Repacks.writes_iff (repacks : Repacks size A B copies) {p : ι'} {i : Int} :
    (∃ c ∈ copies, c.Writes p i) ↔
      ∃ k, ∃ y < size.rows k, ∃ x < size.columns k, B.plane k = p ∧ B.offset k y x = i := by
  constructor
  · rintro ⟨c, among, writes⟩
    obtain ⟨k, y, row, x, column, -, -, place⟩ :=
      (repacks c.source _ p i).mp ⟨c, among, writes, rfl, rfl⟩
    exact ⟨k, y, row, x, column, place⟩
  · rintro ⟨k, y, row, x, column, place⟩
    obtain ⟨c, among, writes, -⟩ :=
      (repacks _ _ p i).mpr ⟨k, y, row, x, column, rfl, rfl, place⟩
    exact ⟨c, among, writes⟩

/-- Copies stay inside the planes just when the samples do. -/
theorem Repacks.inside_iff (repacks : Repacks size A B copies) {length : ι' → Nat} :
    (∀ c ∈ copies, ∀ p i, c.Writes p i → 0 ≤ i ∧ i < length p) ↔ B.Inside size length := by
  constructor
  · intro inside k y row x column
    obtain ⟨c, among, writes⟩ := repacks.writes_iff.mpr ⟨k, y, row, x, column, rfl, rfl⟩
    exact inside c among _ _ writes
  · intro inside c among p i writes
    obtain ⟨k, y, row, x, column, rfl, rfl⟩ := repacks.writes_iff.mp ⟨c, among, writes⟩
    exact inside k y row x column

/-- Behind the copies a sample holds what it held before. -/
theorem Repacks.runAll_eq [DecidableEq ι'] (repacks : Repacks size A B copies)
    (apart : B.Apart size) (read : ι → Int → β) (into : ι' → Int → β) (row : y < size.rows k)
    (column : x < size.columns k) :
    runAll copies read into (B.plane k) (B.offset k y x) = read (A.plane k) (A.offset k y x) := by
  apply runAll_of_written
  · intro c among writes
    obtain ⟨l, z, row', w, column', source, place, plane, offset⟩ :=
      (repacks c.source _ _ _).mp ⟨c, among, writes, rfl, rfl⟩
    obtain ⟨rfl, rfl, rfl⟩ := apart l k z row' w column' y row x column plane offset
    rw [← source, ← place]
  · exact repacks.writes_iff.mpr ⟨k, y, row, x, column, rfl, rfl⟩

end Repacking

end Memory
