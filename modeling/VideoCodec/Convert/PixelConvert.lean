import VideoCodec.Encode.Planes
import VideoCodec.Memory.Layout

/-! `PixelConverter`, over the copies that libyuv makes. The planes are sized here, and
the samples are counted by libyuv. -/
namespace VideoCodec

open Memory

/-- The copies of the conversions of libyuv between planes given in the order of their
arguments. -/
structure LibYuv where
  i420ToNV12 (srcStrideY srcStrideU srcStrideV dstStrideY dstStrideUV width height : Int) :
    List (Copy (Fin 3) (Fin 3))
  nv12ToI420 (srcStrideY srcStrideUV dstStrideY dstStrideU dstStrideV width height : Int) :
    List (Copy (Fin 3) (Fin 3))

namespace LibYuv

/-- The samples of Y, U and V; libyuv rounds the halves of an odd size up. -/
def extent (width height : Int) : Extent (Fin 3) where
  rows k := if k = Plane.luma then height.toNat else (height.toNat + 1) / 2
  columns k := if k = Plane.luma then width.toNat else (width.toNat + 1) / 2

/-- Y, U and V in planes of their own. -/
def i420 (strideY strideU strideV : Int) : Layout (Fin 3) (Fin 3) where
  plane k := k
  offset k y x :=
    y * (if k = Plane.luma then strideY else if k = Plane.chroma then strideU else strideV) + x

/-- Y in a plane of its own, a U and a V in turn in another. -/
def nv12 (strideY strideUV : Int) : Layout (Fin 3) (Fin 3) where
  plane k := if k = Plane.luma then Plane.luma else Plane.chroma
  offset k y x :=
    if k = Plane.luma then y * strideY + x
    else y * strideUV + 2 * x + (if k = Plane.v then 1 else 0)

/-- Both conversions bring each sample to its place, and write nothing else. -/
structure Documented (yuv : LibYuv) : Prop where
  i420ToNV12 : ∀ srcStrideY srcStrideU srcStrideV dstStrideY dstStrideUV width height,
    0 < width → 0 < height →
      Repacks (extent width height) (i420 srcStrideY srcStrideU srcStrideV)
        (nv12 dstStrideY dstStrideUV)
        (yuv.i420ToNV12 srcStrideY srcStrideU srcStrideV dstStrideY dstStrideUV width height)
  nv12ToI420 : ∀ srcStrideY srcStrideUV dstStrideY dstStrideU dstStrideV width height,
    0 < width → 0 < height →
      Repacks (extent width height) (nv12 srcStrideY srcStrideUV)
        (i420 dstStrideY dstStrideU dstStrideV)
        (yuv.nv12ToI420 srcStrideY srcStrideUV dstStrideY dstStrideU dstStrideV width height)

/-- The conversions sample by sample. -/
def bytewise : LibYuv where
  i420ToNV12 srcStrideY srcStrideU srcStrideV dstStrideY dstStrideUV width height :=
    (i420 srcStrideY srcStrideU srcStrideV).copies (List.finRange 3) (extent width height)
      (nv12 dstStrideY dstStrideUV)
  nv12ToI420 srcStrideY srcStrideUV dstStrideY dstStrideU dstStrideV width height :=
    (nv12 srcStrideY srcStrideUV).copies (List.finRange 3) (extent width height)
      (i420 dstStrideY dstStrideU dstStrideV)

theorem bytewise_documented : bytewise.Documented where
  i420ToNV12 _ _ _ _ _ _ _ _ _ := repacks_copies List.mem_finRange _ _ _
  nv12ToI420 _ _ _ _ _ _ _ _ _ := repacks_copies List.mem_finRange _ _ _

end LibYuv

namespace PixelConverter

/-- `resize` of a plane. -/
def resize (bytes : List UInt8) (n : Nat) : List UInt8 :=
  bytes.take n ++ List.replicate (n - bytes.length) 0

/-- What a call returns, the frame that it leaves, and the copies that it has libyuv make. -/
structure Conversion where
  status : Status
  frame : VideoFrame
  copies : List (Copy (Fin 3) (Fin 3)) := []

/-- A frame whose planes hold what the copies bring. -/
def fill (src dst : VideoFrame) (copies : List (Copy (Fin 3) (Fin 3))) : VideoFrame :=
  { dst with
    planes := Vector.ofFn fun p => (List.range (dst.planes.get p).length).map fun (i : Nat) =>
      (runAll copies src.byte dst.byte p i).getD 0 }

/-- The frame that is filled with NV12. -/
def sizedNV12 (src dst : VideoFrame) : VideoFrame :=
  let w := src.width
  let h := src.height
  let ch := h / 2
  { format := .kNV12
    width := w
    height := h
    timestampUs := src.timestampUs
    planes := #v[resize (dst.planes.get Plane.luma) (h.toNat * w.toNat),
      resize (dst.planes.get Plane.chroma) (ch.toNat * w.toNat), []]
    stride := #v[.ofInt w, .ofInt w, 0] }

/-- The frame that is filled with I420. -/
def sizedI420 (src dst : VideoFrame) : VideoFrame :=
  let w := src.width
  let h := src.height
  let cw := w / 2
  let ch := h / 2
  { format := .kI420
    width := w
    height := h
    timestampUs := src.timestampUs
    planes := #v[resize (dst.planes.get Plane.luma) (h.toNat * w.toNat),
      resize (dst.planes.get Plane.chroma) (ch.toNat * cw.toNat),
      resize (dst.planes.get Plane.v) (ch.toNat * cw.toNat)]
    stride := #v[.ofInt w, .ofInt cw, .ofInt cw] }

/-- `Convert`, of a frame into another one. -/
def convert (yuv : LibYuv) (src : VideoFrame) (dstFormat : PixelFormat) (dst : VideoFrame) :
    Conversion :=
  let w := src.width
  let h := src.height
  if w ≤ 0 ∨ h ≤ 0 then { status := .kInvalidArgument, frame := dst }
  else if src.format = dstFormat then { status := .kOk, frame := src }
  else if src.format = .kI420 ∧ dstFormat = .kNV12 then
    let copies := yuv.i420ToNV12 (src.planeStride Plane.luma) (src.planeStride Plane.chroma)
      (src.planeStride Plane.v) w w w h
    { status := .kOk, frame := fill src (sizedNV12 src dst) copies, copies }
  else if src.format = .kNV12 ∧ dstFormat = .kI420 then
    let copies := yuv.nv12ToI420 (src.planeStride Plane.luma) (src.planeStride Plane.chroma)
      w (w / 2) (w / 2) w h
    { status := .kOk, frame := fill src (sizedI420 src dst) copies, copies }
  else { status := .kUnsupportedFormat, frame := dst }

/-- Nothing is written outside the planes. -/
def Conversion.Inside (c : Conversion) : Prop :=
  ∀ copy ∈ c.copies, ∀ p i, copy.Writes p i → 0 ≤ i ∧ i < (c.frame.planes.get p).length

/-- The second frame is the first with its rows packed. -/
structure Packed (src back : VideoFrame) : Prop where
  format : back.format = src.format
  width : back.width = src.width
  height : back.height = src.height
  timestampUs : back.timestampUs = src.timestampUs
  stride : ∀ p : Fin 3, (back.stride.get p).toInt = Stride.row src.width src.format p
  length : ∀ p : Fin 3, (back.planes.get p).length =
    planeRows src.height p * Stride.row src.width src.format p
  pixels : ∀ p : Fin 3, ∀ y < planeRows src.height p, ∀ x < Stride.row src.width src.format p,
    back.byte p (y * Stride.row src.width src.format p + x) =
      src.byte p (y * src.planeStride p + x)

/-- A frame is converted to NV12 and back, into whatever frames. -/
def RoundTrips (yuv : LibYuv) (src nv12 back : VideoFrame) : Prop :=
  let there := convert yuv src .kNV12 nv12
  let again := convert yuv there.frame .kI420 back
  there.status = .kOk ∧ again.status = .kOk ∧ there.Inside ∧ again.Inside ∧
    Packed src again.frame

section Filling
variable {src dst : VideoFrame} {copies : List (Copy (Fin 3) (Fin 3))} {p : Fin 3} {i : Int}

theorem resize_length (bytes : List UInt8) (n : Nat) : (resize bytes n).length = n := by
  rw [resize, List.length_append, List.length_take, List.length_replicate]
  omega

theorem fill_get (src dst : VideoFrame) (copies : List (Copy (Fin 3) (Fin 3))) (p : Fin 3) :
    (fill src dst copies).planes.get p =
      (List.range (dst.planes.get p).length).map fun (i : Nat) =>
        (runAll copies src.byte dst.byte p i).getD 0 := by
  exact Vector.getElem_ofFn p.isLt

theorem fill_length : ((fill src dst copies).planes.get p).length = (dst.planes.get p).length := by
  rw [fill_get, List.length_map, List.length_range]

theorem fill_byte (low : 0 ≤ i) (high : i < (dst.planes.get p).length) :
    (fill src dst copies).byte p i = some ((runAll copies src.byte dst.byte p i).getD 0) := by
  have inside : i.toNat < (dst.planes.get p).length := by omega
  rw [VideoFrame.byte, if_pos low, fill_get, List.getElem?_map, List.getElem?_range inside,
    Option.map_some, Int.toNat_of_nonneg low]

end Filling

section Places
variable {src dst : VideoFrame} {width height : Nat}

theorem plane_cases : ∀ p : Fin 3, p = Plane.luma ∨ p = Plane.chroma ∨ p = Plane.v := by decide

theorem sizedNV12_length (src dst : VideoFrame) (p : Fin 3) :
    ((sizedNV12 src dst).planes.get p).length =
      if p = Plane.luma then src.height.toNat * src.width.toNat
      else if p = Plane.chroma then (src.height / 2).toNat * src.width.toNat else 0 := by
  obtain rfl | rfl | rfl := plane_cases p
  · exact resize_length _ _
  · exact resize_length _ _
  · rfl

theorem sizedI420_length (src dst : VideoFrame) (p : Fin 3) :
    ((sizedI420 src dst).planes.get p).length =
      if p = Plane.luma then src.height.toNat * src.width.toNat
      else (src.height / 2).toNat * (src.width / 2).toNat := by
  obtain rfl | rfl | rfl := plane_cases p <;> exact resize_length _ _

/-- Where a sample of NV12 stands in its row. -/
def column (k : Fin 3) (x : Nat) : Nat :=
  if k = Plane.luma then x else 2 * x + (if k = Plane.v then 1 else 0)

theorem nv12_offset (k : Fin 3) (y x : Nat) :
    (LibYuv.nv12 width width).offset k y x = (y * width + column k x : Nat) := by
  rw [LibYuv.nv12, column]
  dsimp only
  split
  · rw [Int.natCast_add, Int.natCast_mul]
  · split <;> push_cast <;> omega

theorem column_lt (even : width % 2 = 0) {k : Fin 3} {x : Nat}
    (inside : x < (LibYuv.extent width height).columns k) : column k x < width := by
  rw [LibYuv.extent] at inside
  dsimp only at inside
  rw [column]
  split at inside
  · rename_i luma
    rw [if_pos luma]
    omega
  · rename_i chroma
    rw [if_neg chroma]
    split <;> omega

section Components
variable {k : Fin 3} (chroma : k ≠ Plane.luma)
include chroma

theorem rows_of_ne : (LibYuv.extent width height).rows k = (height + 1) / 2 := if_neg chroma

theorem columns_of_ne : (LibYuv.extent width height).columns k = (width + 1) / 2 := if_neg chroma

theorem nv12_plane {strideY strideUV : Int} :
    (LibYuv.nv12 strideY strideUV).plane k = Plane.chroma := if_neg chroma

end Components

/-- The samples have room in the planes that are sized just when the size is even. -/
theorem nv12_inside_iff (positive : 0 < width ∧ 0 < height) (wide : src.width = width)
    (high : src.height = height) :
    (LibYuv.nv12 width width).Inside (LibYuv.extent width height)
      (fun p => ((sizedNV12 src dst).planes.get p).length) ↔ width % 2 = 0 ∧ height % 2 = 0 := by
  have luma : ((sizedNV12 src dst).planes.get Plane.luma).length = height * width := by
    rw [sizedNV12_length, if_pos rfl, wide, high, Int.toNat_natCast, Int.toNat_natCast]
  have chroma : ((sizedNV12 src dst).planes.get Plane.chroma).length = height / 2 * width := by
    rw [sizedNV12_length, if_neg (by decide), if_pos rfl, wide, high]
    rfl
  constructor
  · intro inside
    have even : height % 2 = 0 := by
      -- an odd height has one more row of samples than the plane
      by_contra odd
      have below := (inside Plane.chroma (height / 2) (by rw [rows_of_ne (by decide)]; omega) 0
        (by rw [columns_of_ne (by decide)]; omega)).2
      rw [nv12_offset, nv12_plane (by decide)] at below
      dsimp only at below
      rw [chroma] at below
      omega
    refine ⟨?_, even⟩
    -- an odd width has one more byte in the last row
    by_contra odd
    have below := (inside Plane.v (height / 2 - 1) (by rw [rows_of_ne (by decide)]; omega)
      (width / 2) (by rw [columns_of_ne (by decide)]; omega)).2
    rw [nv12_offset, nv12_plane (by decide)] at below
    dsimp only at below
    have beyond : column Plane.v (width / 2) = 2 * (width / 2) + 1 := rfl
    have last : (height / 2 - 1) * width + width = height / 2 * width := by
      rw [← Nat.succ_mul]
      congr 1
      omega
    rw [chroma, beyond] at below
    omega
  · rintro ⟨even, rows⟩ k y row x one
    have left := column_lt even one
    rw [nv12_offset]
    refine ⟨Int.natCast_nonneg _, Int.ofNat_lt.mpr ?_⟩
    by_cases first : k = Plane.luma
    · obtain rfl := first
      have rest : y * width + width ≤ height * width := row_end_le row
      change _ < ((sizedNV12 src dst).planes.get Plane.luma).length
      omega
    · have below : y < height / 2 := by
        rw [rows_of_ne first] at row
        omega
      have rest : y * width + width ≤ height / 2 * width := row_end_le below
      rw [nv12_plane first]
      dsimp only
      rw [chroma]
      omega

/-- In a plane a column of bytes is one of samples. -/
theorem column_inj {strideY strideUV : Int} {k l : Fin 3} {x w : Nat}
    (plane : (LibYuv.nv12 strideY strideUV).plane k = (LibYuv.nv12 strideY strideUV).plane l)
    (same : column k x = column l w) : k = l ∧ x = w := by
  have u (x : Nat) : column Plane.chroma x = 2 * x := rfl
  have v (x : Nat) : column Plane.v x = 2 * x + 1 := rfl
  have apart : Plane.luma ≠ Plane.chroma := by decide
  by_cases luma : k = Plane.luma
  · obtain rfl := luma
    have other : l = Plane.luma := by
      by_contra chroma
      rw [nv12_plane chroma] at plane
      exact apart plane
    obtain rfl := other
    exact ⟨rfl, same⟩
  · have other : l ≠ Plane.luma := by
      rintro rfl
      rw [nv12_plane luma] at plane
      exact apart plane.symm
    have first := (plane_cases k).resolve_left luma
    have second := (plane_cases l).resolve_left other
    obtain rfl | rfl := first <;> obtain rfl | rfl := second <;> simp only [u, v] at same
    · exact ⟨rfl, by omega⟩
    · omega
    · omega
    · exact ⟨rfl, by omega⟩

theorem nv12_apart (even : width % 2 = 0) :
    (LibYuv.nv12 width width).Apart (LibYuv.extent width height) := by
  intro k l y row x one z row' w one' plane offset
  rw [nv12_offset, nv12_offset, Int.natCast_inj] at offset
  obtain ⟨rfl, same⟩ := row_inj (column_lt even one) (column_lt even one') offset
  obtain ⟨rfl, rfl⟩ := column_inj plane same
  exact ⟨rfl, rfl, rfl⟩

theorem i420_offset (even : width % 2 = 0) (k : Fin 3) (y x : Nat) :
    (LibYuv.i420 width ((width : Int) / 2) ((width : Int) / 2)).offset k y x =
      (y * (LibYuv.extent width height).columns k + x : Nat) := by
  have half : ((width + 1) / 2 : Nat) = (width : Int) / 2 := by omega
  rw [LibYuv.i420, LibYuv.extent]
  dsimp only
  rw [Int.natCast_add, Int.natCast_mul]
  by_cases luma : k = Plane.luma
  · rw [if_pos luma, if_pos luma]
    rfl
  · rw [if_neg luma, if_neg luma, ite_self, Int.toNat_natCast, half]

/-- The planes that are sized hold the samples of an even size, and no more. -/
theorem sizedI420_size (even : width % 2 = 0 ∧ height % 2 = 0) (wide : src.width = width)
    (high : src.height = height) (k : Fin 3) : ((sizedI420 src dst).planes.get k).length =
      (LibYuv.extent width height).rows k * (LibYuv.extent width height).columns k := by
  rw [sizedI420_length, wide, high]
  by_cases luma : k = Plane.luma
  · rw [if_pos luma, luma]
    rfl
  · rw [if_neg luma, rows_of_ne luma, columns_of_ne luma]
    have rows : ((height : Int) / 2).toNat = (height + 1) / 2 := by omega
    have columns : ((width : Int) / 2).toNat = (width + 1) / 2 := by omega
    rw [rows, columns]

theorem i420_inside (even : width % 2 = 0 ∧ height % 2 = 0) (wide : src.width = width)
    (high : src.height = height) :
    (LibYuv.i420 width ((width : Int) / 2) ((width : Int) / 2)).Inside
      (LibYuv.extent width height) (fun p => ((sizedI420 src dst).planes.get p).length) := by
  intro k y row x one
  rw [@i420_offset width height even.1]
  refine ⟨Int.natCast_nonneg _, Int.ofNat_lt.mpr ?_⟩
  have rest : y * (LibYuv.extent width height).columns k +
      (LibYuv.extent width height).columns k ≤
        (LibYuv.extent width height).rows k * (LibYuv.extent width height).columns k :=
    row_end_le row
  have size := @sizedI420_size src dst _ _ even wide high k
  change _ < ((sizedI420 src dst).planes.get k).length
  omega

theorem i420_apart (even : width % 2 = 0) :
    (LibYuv.i420 width ((width : Int) / 2) ((width : Int) / 2)).Apart
      (LibYuv.extent width height) := by
  intro k l y row x one z row' w one' plane offset
  obtain rfl : k = l := plane
  rw [@i420_offset width height even, @i420_offset width height even, Int.natCast_inj] at offset
  exact ⟨rfl, row_inj one one' offset⟩

end Places

section Conversions
variable {yuv : LibYuv} {src dst : VideoFrame}

/-- What a conversion writes stays inside when the samples have room in the sized planes. -/
theorem inside_fill_iff {size : Extent (Fin 3)} {A B : Layout (Fin 3) (Fin 3)}
    {copies : List (Copy (Fin 3) (Fin 3))} (repacks : Repacks size A B copies) :
    (Conversion.mk .kOk (fill src dst copies) copies).Inside ↔
      B.Inside size fun p => (dst.planes.get p).length := by
  rw [← repacks.inside_iff, Conversion.Inside]
  simp only [fill_length]

/-- A sample of a frame that has been filled is that of the source. -/
theorem byte_fill (src : VideoFrame) {size : Extent (Fin 3)} {A B : Layout (Fin 3) (Fin 3)}
    {copies : List (Copy (Fin 3) (Fin 3))} (repacks : Repacks size A B copies)
    (apart : B.Apart size) (inside : B.Inside size fun p => (dst.planes.get p).length)
    {k : Fin 3} {y x : Nat} (row : y < size.rows k) (column : x < size.columns k) :
    (fill src dst copies).byte (B.plane k) (B.offset k y x) =
      some ((src.byte (A.plane k) (A.offset k y x)).getD 0) := by
  obtain ⟨low, high⟩ := inside k y row x column
  rw [fill_byte low high, repacks.runAll_eq apart _ _ row column]

/-- What I420 is converted to. -/
def copiesNV12 (yuv : LibYuv) (src : VideoFrame) : List (Copy (Fin 3) (Fin 3)) :=
  yuv.i420ToNV12 (src.planeStride Plane.luma) (src.planeStride Plane.chroma)
    (src.planeStride Plane.v) src.width src.width src.width src.height

theorem convert_nv12 (format : src.format = .kI420) (positive : 0 < src.width ∧ 0 < src.height) :
    convert yuv src .kNV12 dst =
      ⟨.kOk, fill src (sizedNV12 src dst) (copiesNV12 yuv src), copiesNV12 yuv src⟩ := by
  have accepted : ¬ (src.width ≤ 0 ∨ src.height ≤ 0) := by omega
  rw [convert, if_neg accepted, format]
  rfl

end Conversions

section Trips
variable {yuv : LibYuv} {src : VideoFrame} {width height : Nat}

theorem rows_eq (even : height % 2 = 0) (k : Fin 3) :
    (LibYuv.extent width height).rows k = planeRows height k := by
  rw [planeRows]
  by_cases luma : k = Plane.luma
  · obtain rfl := luma
    rfl
  · have index : (k : Nat) ≠ 0 := fun zero => luma (Fin.ext zero)
    rw [rows_of_ne luma, if_neg index]
    omega

theorem columns_eq (even : width % 2 = 0) (positive : 0 < width) (k : Fin 3) :
    (LibYuv.extent width height).columns k = Stride.row width .kI420 k := by
  have index : ¬ ((width : Int) ≤ 0 ∨ 2 < (k : Nat)) := by omega
  rw [Stride.row, if_neg index]
  by_cases luma : k = Plane.luma
  · obtain rfl := luma
    rfl
  · have other : (k : Nat) ≠ 0 := fun zero => luma (Fin.ext zero)
    rw [columns_of_ne luma, if_neg other]
    omega

/-- The strides of a frame give its layout. -/
theorem i420_planeStride (src : VideoFrame) (k : Fin 3) (y x : Nat) :
    (LibYuv.i420 (src.planeStride Plane.luma) (src.planeStride Plane.chroma)
      (src.planeStride Plane.v)).offset k y x = y * src.planeStride k + x := by
  rw [LibYuv.i420]
  dsimp only
  obtain rfl | rfl | rfl := plane_cases k
  · rw [if_pos rfl]
  · rw [if_neg (by decide), if_pos rfl]
  · rw [if_neg (by decide), if_neg (by decide)]

theorem byte_of_adequate (adequate : src.Adequate) (format : src.format = .kI420) {k : Fin 3}
    {y x : Nat} (row : y < planeRows src.height k) (column : x < Stride.row src.width src.format k)
    (stride : 0 ≤ src.planeStride k) :
    ∃ b, src.byte k (y * src.planeStride k + x) = some b := by
  have laid : k ∈ src.format.planes := by
    rw [format]
    obtain rfl | rfl | rfl := plane_cases k <;> decide
  have room := adequate k laid y row
  have low : 0 ≤ (y : Int) * src.planeStride k := Int.mul_nonneg (Int.natCast_nonneg y) stride
  rw [VideoFrame.byte, if_pos (by omega)]
  exact ⟨_, List.getElem?_eq_getElem (by omega)⟩

theorem toInt_ofInt {n : Int} (int : 0 ≤ n ∧ n < 2 ^ 31) : (Int32.ofInt n).toInt = n := by
  rw [Int32.toInt_ofInt, Int32.size]
  exact Int.bmod_eq_of_le (by omega) (by omega)

/-- The frame of the first conversion, by its own strides. -/
theorem nv12_planeStride (src dst : VideoFrame) (copies : List (Copy (Fin 3) (Fin 3)))
    (int : 0 < src.width ∧ src.width < 2 ^ 31) {k : Fin 3} (laid : k ≠ Plane.v) :
    (fill src (sizedNV12 src dst) copies).planeStride k = src.width := by
  have width : (Int32.ofInt src.width).toInt = src.width := toInt_ofInt (by omega)
  have stride : ((fill src (sizedNV12 src dst) copies).stride.get k).toInt = src.width := by
    obtain rfl | rfl | rfl := plane_cases k
    · exact width
    · exact width
    · exact absurd rfl laid
  rw [VideoFrame.planeStride, stride, if_pos int.1]

theorem sizedI420_stride (dst : VideoFrame) (wide : src.width = width) (positive : 0 < width)
    (int : width < 2 ^ 31) (p : Fin 3) :
    ((sizedI420 src dst).stride.get p).toInt = Stride.row width .kI420 p := by
  have index : ¬ ((width : Int) ≤ 0 ∨ 2 < (p : Nat)) := by omega
  rw [Stride.row, if_neg index]
  obtain rfl | rfl | rfl := plane_cases p
  · exact (toInt_ofInt (by omega)).trans wide
  · exact (toInt_ofInt (by omega)).trans (by rw [wide]; rfl)
  · exact (toInt_ofInt (by omega)).trans (by rw [wide]; rfl)

/-- The conversion back. -/
theorem convert_again (src nv12 back : VideoFrame) (copies : List (Copy (Fin 3) (Fin 3)))
    (size : 0 < src.width ∧ 0 < src.height) (int : src.width < 2 ^ 31) :
    convert yuv (fill src (sizedNV12 src nv12) copies) .kI420 back =
      let again := yuv.nv12ToI420 src.width src.width src.width (src.width / 2) (src.width / 2)
        src.width src.height
      ⟨.kOk, fill (fill src (sizedNV12 src nv12) copies) (sizedI420 src back) again, again⟩ := by
  have accepted : ¬ (src.width ≤ 0 ∨ src.height ≤ 0) := by omega
  have luma := nv12_planeStride src nv12 copies ⟨size.1, int⟩
    (show Plane.luma ≠ Plane.v by decide)
  have chroma := nv12_planeStride src nv12 copies ⟨size.1, int⟩
    (show Plane.chroma ≠ Plane.v by decide)
  rw [convert, luma, chroma]
  exact (if_neg accepted).trans rfl

/-- Both conversions of a frame with an even size. -/
theorem roundTrips_of_even (documented : yuv.Documented) (format : src.format = .kI420)
    (wide : src.width = width) (high : src.height = height) (positive : 0 < width ∧ 0 < height)
    (int : width < 2 ^ 31) (adequate : src.Adequate) (even : width % 2 = 0 ∧ height % 2 = 0)
    (nv12 back : VideoFrame) : RoundTrips yuv src nv12 back := by
  have size : 0 < src.width ∧ 0 < src.height := by omega
  have there := documented.i420ToNV12 (src.planeStride Plane.luma) (src.planeStride Plane.chroma)
    (src.planeStride Plane.v) src.width src.width _ _ size.1 size.2
  have again := documented.nv12ToI420 src.width src.width src.width (src.width / 2)
    (src.width / 2) _ _ size.1 size.2
  rw [RoundTrips, convert_nv12 format size, copiesNV12]
  generalize yuv.i420ToNV12 _ _ _ _ _ _ _ = copies at there
  dsimp only
  rw [convert_again src nv12 back copies size (by omega)]
  generalize yuv.nv12ToI420 _ _ _ _ _ _ _ = copies' at again
  rw [inside_fill_iff there, inside_fill_iff again]
  rw [wide, high] at there again
  rw [wide, high]
  have first := (@nv12_inside_iff src nv12 _ _ positive wide high).mpr even
  have second := @i420_inside src back _ _ even wide high
  refine ⟨rfl, rfl, first, second, format.symm, rfl, rfl, rfl, ?_, ?_, ?_⟩
  · intro p
    rw [wide, format]
    exact sizedI420_stride back wide positive.1 int p
  · intro p
    rw [fill_length, format, wide, high, ← rows_eq even.2, ← columns_eq even.1 positive.1]
    exact sizedI420_size even wide high p
  · intro p y row x column
    have stride : 0 ≤ src.planeStride p := by
      have narrow := row_le (.inl rfl : PixelFormat.kI420.Planar) size.1 p
      rw [← format] at narrow
      exact VideoFrame.planeStride_nonneg (by omega)
    obtain ⟨b, read⟩ := byte_of_adequate adequate format row column stride
    rw [read, format, wide, ← @columns_eq width height even.1 positive.1]
    rw [high, ← rows_eq even.2] at row
    rw [format, wide, ← @columns_eq width height even.1 positive.1] at column
    have forth := byte_fill src there (nv12_apart even.1) first row column
    rw [i420_planeStride] at forth
    have back := byte_fill (fill src (sizedNV12 src nv12) copies) again (i420_apart even.1) second
      row column
    rw [forth, @i420_offset width height even.1, Int.natCast_add, Int.natCast_mul] at back
    exact back.trans (congrArg (fun o => some (Option.getD o 0)) read)

end Trips

/-- A round trip keeps the frame, and within the planes, just when its size is even. -/
theorem roundTrips_iff {yuv : LibYuv} (documented : yuv.Documented) {src : VideoFrame}
    (format : src.format = .kI420) (width : 0 < src.width ∧ src.width < 2 ^ 31)
    (height : 0 < src.height) (adequate : src.Adequate) (nv12 back : VideoFrame) :
    RoundTrips yuv src nv12 back ↔ src.width % 2 = 0 ∧ src.height % 2 = 0 := by
  obtain ⟨w, wide⟩ := Int.eq_ofNat_of_zero_le (Int.le_of_lt width.1)
  obtain ⟨h, high⟩ := Int.eq_ofNat_of_zero_le (Int.le_of_lt height)
  have positive : 0 < w ∧ 0 < h := by omega
  constructor
  · intro trip
    have inside := trip.2.2.1
    rw [convert_nv12 format ⟨width.1, height⟩, copiesNV12, inside_fill_iff
      (documented.i420ToNV12 _ _ _ _ _ _ _ width.1 height), wide, high,
      nv12_inside_iff positive wide high] at inside
    omega
  · intro even
    exact roundTrips_of_even documented format wide high positive (by omega) adequate (by omega)
      nv12 back

/-- A frame of four pixels. -/
theorem roundTrips_square : RoundTrips LibYuv.bytewise
    { format := .kI420, width := 2, height := 2, planes := #v[[1, 2, 3, 4], [5], [6]] } {} {} := by
  apply (roundTrips_iff LibYuv.bytewise_documented rfl (by decide) (by decide) ?_ {} {}).mpr
  · decide
  · rw [VideoFrame.Adequate]
    decide

/-- Of one pixel U and V are written to an empty plane. -/
theorem roundTrips_outside :
    ¬ ∀ (yuv : LibYuv) (src nv12 back : VideoFrame), yuv.Documented → src.format = .kI420 →
      0 < src.width ∧ src.width < 2 ^ 31 → 0 < src.height → src.Adequate →
        RoundTrips yuv src nv12 back := by
  intro always
  let pixel : VideoFrame :=
    { format := .kI420
      width := 1
      height := 1
      planes := #v[[1], [2], [3]]
      stride := #v[1, 1, 1] }
  have adequate : pixel.Adequate := by
    rw [VideoFrame.Adequate]
    decide
  have trip := always LibYuv.bytewise pixel {} {} LibYuv.bytewise_documented rfl (by decide)
    (by decide) adequate
  have below := trip.2.2.1 ⟨Plane.chroma, Plane.chroma, 0, 0, 1⟩ (by decide) Plane.chroma 0
    (by decide)
  exact absurd below.2 (by decide)

end PixelConverter

end VideoCodec
