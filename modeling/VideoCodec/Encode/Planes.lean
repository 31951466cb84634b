import VideoCodec.Encode.Types
import VideoCodec.Memory.Copying

/-! The planes of a video frame: which ones a format has, how many rows they have and
how wide these are, and where the rows start. -/
namespace VideoCodec

/-- `Stride::Row`, of a plane whose index is not negative. -/
def Stride.row (width : Int) (fmt : PixelFormat) (plane : Nat) : Nat :=
  if width ≤ 0 ∨ 2 < plane then 0
  else
    match fmt with
    | .kI420 => if plane = 0 then width.toNat else width.toNat / 2
    | .kNV12 => width.toNat
    | .kRGBA => width.toNat * 4

namespace Plane

abbrev luma : Fin 3 := 0

/-- U, or U and V interleaved. -/
abbrev chroma : Fin 3 := 1

abbrev v : Fin 3 := 2

end Plane

def PixelFormat.planes : PixelFormat → List (Fin 3)
  | .kI420 => [Plane.luma, Plane.chroma, Plane.v]
  | .kNV12 => [Plane.luma, Plane.chroma]
  | .kRGBA => [Plane.luma]

/-- The rows of a plane; chroma has half of them. -/
def planeRows (height : Int) (plane : Nat) : Nat :=
  if plane = 0 then height.toNat else height.toNat / 2

namespace VideoFrame

/-- `PlaneStride`; the fallback is cast to `int`. -/
def planeStride (f : VideoFrame) (plane : Fin 3) : Int :=
  if 0 < (f.stride.get plane).toInt then (f.stride.get plane).toInt
  else (Stride.row f.width f.format plane : Int).bmod (2 ^ 32)

/-- A byte of a plane, if the plane has it. -/
def byte (f : VideoFrame) (plane : Fin 3) (i : Int) : Option UInt8 :=
  if 0 ≤ i then (f.planes.get plane)[i.toNat]? else none

/-- The planes of the format hold their rows at the stride. -/
def Adequate (f : VideoFrame) : Prop :=
  ∀ p ∈ f.format.planes, ∀ y < planeRows f.height p,
    (y : Int) * f.planeStride p + Stride.row f.width f.format p ≤ (f.planes.get p).length

end VideoFrame

/-- A format in planes whose chroma has half the rows. -/
def PixelFormat.Planar (format : PixelFormat) : Prop := format = .kI420 ∨ format = .kNV12

section Dimensions
variable {width height : Int} {format : PixelFormat} {p : Fin 3} {plane : Nat}

theorem VideoConfig.positive_of_isValid {config : VideoConfig} (valid : config.isValid = true) :
    0 < config.width ∧ 0 < config.height := by
  rw [VideoConfig.isValid] at valid
  split at valid
  · cases valid
  · rename_i positive
    omega

theorem row_pos (planar : format.Planar) (even : width % 2 = 0) (positive : 0 < width)
    (p : Fin 3) : 0 < Stride.row width format p := by
  have index : ¬ (width ≤ 0 ∨ 2 < (p : Nat)) := by omega
  obtain rfl | rfl := planar
  · rw [Stride.row, if_neg index]
    split <;> omega
  · rw [Stride.row, if_neg index]
    omega

theorem row_le (planar : format.Planar) (positive : 0 < width) (plane : Nat) :
    (Stride.row width format plane : Int) ≤ width := by
  obtain rfl | rfl := planar
  · rw [Stride.row]
    split
    · omega
    · split <;> omega
  · rw [Stride.row]
    split <;> omega

/-- U and V are equally wide. -/
theorem Stride.row_chroma (width : Int) (format : PixelFormat) :
    Stride.row width format 1 = Stride.row width format 2 := by
  cases format <;> simp [Stride.row]

theorem planeRows_pos (even : height % 2 = 0) (positive : 0 < height) (plane : Nat) :
    0 < planeRows height plane := by
  rw [planeRows]
  split <;> omega

end Dimensions

namespace VideoFrame

variable {f : VideoFrame} {p : Fin 3}

/-- A missing stride means packed rows. -/
theorem planeStride_eq (fits : Stride.row f.width f.format p < 2 ^ 31) :
    f.planeStride p =
      if 0 < (f.stride.get p).toInt then (f.stride.get p).toInt
      else Stride.row f.width f.format p := by
  rw [planeStride, Int.bmod_eq_of_le (by omega) (by omega)]

theorem planeStride_nonneg (fits : Stride.row f.width f.format p < 2 ^ 31) :
    0 ≤ f.planeStride p := by
  rw [planeStride_eq fits]
  split <;> omega

/-- A byte shows where it is read. -/
theorem eq_of_read {i want : Int} {n : Nat} (inside : 0 ≤ want ∧ want < n)
    (same : ∀ bytes : List UInt8, bytes.length = n →
      (if 0 ≤ i then bytes[i.toNat]? else none) = bytes[want.toNat]?) : i = want := by
  let mark : Nat → UInt8 := fun j => if j = want.toNat then 1 else 0
  have marked := same ((List.range n).map mark) (by simp)
  have found : ((List.range n).map mark)[want.toNat]? = some 1 := by
    rw [List.getElem?_map, List.getElem?_range (by omega), Option.map_some]
    exact congrArg some (if_pos rfl)
  rw [found] at marked
  split at marked
  · by_contra other
    by_cases bound : i.toNat < n
    · rw [List.getElem?_map, List.getElem?_range bound, Option.map_some] at marked
      have zero : mark i.toNat = 0 := if_neg (by omega)
      rw [zero] at marked
      exact absurd (Option.some.inj marked) (by decide)
    · rw [List.getElem?_eq_none (by simpa using bound)] at marked
      cases marked
  · cases marked

end VideoFrame

end VideoCodec
