import VideoCodec.Encode.MediaCodec
import VideoCodec.Encode.Planes
import Mathlib.Tactic.Ring

/-! `MediaCodecVideoEncoder::QueueInput`, which packs the planes of a frame into one
input buffer of the codec. The buffer is checked against `BufferSizeFor`, the number
of bytes is computed once more by the loops. -/
namespace VideoCodec.MediaCodecVideoEncoder

open Memory MediaCodec

/-- The stride of the rows of a plane. -/
def inputStride (frame : VideoFrame) (plane : Fin 3) (width : Nat) : Int :=
  if 0 < (frame.stride.get plane).toInt then (frame.stride.get plane).toInt else width

/-- The copies of the chroma planes. Those of I420 have one stride. -/
def chromaCopies (config : VideoConfig) (frame : VideoFrame) (w h : Nat) :
    List (Copy (Fin 3) Unit) :=
  if config.inputFormat = .kI420 then
    let cStride := inputStride frame Plane.chroma (w / 2)
    let uOff := w * h
    let vOff := uOff + (w / 2) * (h / 2)
    (List.range (h / 2)).flatMap fun (y : Nat) =>
      [{ source := Plane.chroma
         target := ()
         src    := intMul y cStride
         dst    := (uOff + y * (w / 2) : Nat)
         count  := w / 2 },
        { source := Plane.v
          target := ()
          src    := intMul y cStride
          dst    := (vOff + y * (w / 2) : Nat)
          count  := w / 2 }]
  else
    rowCopies Plane.chroma () (h / 2) w (fun y => intMul y (inputStride frame Plane.chroma w))
      fun y => (w * h + y * w : Nat)

/-- The copies of `QueueInput`, in their order. The offsets in a plane are `int`s, those in
the buffer are of a type that counts its bytes. -/
def inputCopies (config : VideoConfig) (frame : VideoFrame) : List (Copy (Fin 3) Unit) :=
  let w := config.width.toNat
  let h := config.height.toNat
  rowCopies Plane.luma () h w (fun y => intMul y (inputStride frame Plane.luma w))
      (fun y => (y * w : Nat)) ++
    chromaCopies config frame w h

/-- The offset of a byte in a buffer that holds the planes of a format without gaps. -/
def tightOffset (width height : Int) (format : PixelFormat) (p y x : Nat) : Nat :=
  place (planeRows height) (Stride.row width format) p y x

/-- A buffer of `size` bytes is filled as `format` has it: no byte is written beyond it,
the size queued is positive, and each byte below that is the one of the plane, row and
column that stand there, where row `y` of plane `p` starts at `row p y`. -/
structure Fills (config : VideoConfig) (frame : VideoFrame) (size : Nat) (format : PixelFormat)
    (row : Fin 3 → Nat → Int) : Prop where
  inside : ∀ c ∈ inputCopies config frame, ∀ i, c.Writes () i → 0 ≤ i ∧ i < size
  positive : 0 < Android.bufferSizeFor config.width config.height config.inputFormat
  packed : ∀ i < Android.bufferSizeFor config.width config.height config.inputFormat,
    ∃ p ∈ format.planes, ∃ y < planeRows frame.height p,
      ∃ x < Stride.row frame.width format p,
        tightOffset frame.width frame.height format p y x = i ∧
          ∀ (planes : Fin 3 → Int → Option UInt8) (buffer : Unit → Int → Option UInt8),
            runAll (inputCopies config frame) planes buffer () i = planes p (row p y + x)

/-- Whatever buffer `QueueInput` goes on to fill. -/
def Queues (e : MediaCodecVideoEncoder) (frame : VideoFrame) (reply : InputReply)
    (format : PixelFormat) (row : Fin 3 → Nat → Int) : Prop :=
  ∀ size, e.inputBuffer frame reply = some size → Fills e.config frame size format row

section Layout
variable {config : VideoConfig} {frame : VideoFrame} {p : Fin 3}

/-- The stride with which the call goes through a plane. -/
def planeInputStride (config : VideoConfig) (frame : VideoFrame) (p : Fin 3) : Int :=
  inputStride frame (if p = Plane.v then Plane.chroma else p)
    (Stride.row config.width config.inputFormat p)

/-- The copy of a row to its place. -/
def rowCopy (config : VideoConfig) (frame : VideoFrame) (p : Fin 3) (y : Nat) :
    Copy (Fin 3) Unit where
  source := p
  target := ()
  src    := intMul y (planeInputStride config frame p)
  dst    := tightOffset config.width config.height config.inputFormat p y 0
  count  := Stride.row config.width config.inputFormat p

theorem rowCopy_luma (frame : VideoFrame) (planar : config.inputFormat.Planar)
    (positive : 0 < config.width) (y : Nat) : rowCopy config frame Plane.luma y =
      { source := Plane.luma
        target := ()
        src    := intMul y (inputStride frame Plane.luma config.width.toNat)
        dst    := (y * config.width.toNat : Nat)
        count  := config.width.toNat } := by
  have wide : ¬ config.width ≤ 0 := by omega
  have other : Plane.luma ≠ Plane.v := by decide
  obtain format | format := planar <;>
    simp [rowCopy, planeInputStride, tightOffset, place, start, Stride.row, format, wide, other]

theorem rowCopy_u (frame : VideoFrame) (format : config.inputFormat = .kI420)
    (positive : 0 < config.width) (y : Nat) : rowCopy config frame Plane.chroma y =
      { source := Plane.chroma
        target := ()
        src    := intMul y (inputStride frame Plane.chroma (config.width.toNat / 2))
        dst    := (config.width.toNat * config.height.toNat + y * (config.width.toNat / 2) : Nat)
        count  := config.width.toNat / 2 } := by
  have wide : ¬ config.width ≤ 0 := by omega
  simp [rowCopy, planeInputStride, tightOffset, place, start, Stride.row, planeRows, format, wide,
    Nat.mul_comm]

theorem rowCopy_v (frame : VideoFrame) (format : config.inputFormat = .kI420)
    (positive : 0 < config.width) (y : Nat) : rowCopy config frame Plane.v y =
      { source := Plane.v
        target := ()
        src    := intMul y (inputStride frame Plane.chroma (config.width.toNat / 2))
        dst    := (config.width.toNat * config.height.toNat +
          (config.width.toNat / 2) * (config.height.toNat / 2) +
            y * (config.width.toNat / 2) : Nat)
        count  := config.width.toNat / 2 } := by
  have wide : ¬ config.width ≤ 0 := by omega
  simp [rowCopy, planeInputStride, tightOffset, place, start, Stride.row, planeRows, format, wide,
    Nat.mul_comm]

theorem rowCopy_uv (frame : VideoFrame) (format : config.inputFormat = .kNV12)
    (positive : 0 < config.width) (y : Nat) : rowCopy config frame Plane.chroma y =
      { source := Plane.chroma
        target := ()
        src    := intMul y (inputStride frame Plane.chroma config.width.toNat)
        dst    := (config.width.toNat * config.height.toNat + y * config.width.toNat : Nat)
        count  := config.width.toNat } := by
  have wide : ¬ config.width ≤ 0 := by omega
  simp [rowCopy, planeInputStride, tightOffset, place, start, Stride.row, planeRows, format, wide,
    Nat.mul_comm]

theorem inputCopies_i420 (format : config.inputFormat = .kI420) (positive : 0 < config.width) :
    inputCopies config frame =
      (List.range config.height.toNat).map (rowCopy config frame Plane.luma) ++
      (List.range (config.height.toNat / 2)).flatMap fun y =>
        [rowCopy config frame Plane.chroma y, rowCopy config frame Plane.v y] := by
  have luma := rowCopy_luma frame (.inl format) positive
  simp only [inputCopies, chromaCopies, if_pos format, rowCopies, ← luma,
    rowCopy_u frame format positive, rowCopy_v frame format positive]

theorem inputCopies_nv12 (format : config.inputFormat = .kNV12) (positive : 0 < config.width) :
    inputCopies config frame =
      (List.range config.height.toNat).map (rowCopy config frame Plane.luma) ++
      (List.range (config.height.toNat / 2)).map (rowCopy config frame Plane.chroma) := by
  have other : config.inputFormat ≠ .kI420 := by rw [format]; decide
  have luma := funext (rowCopy_luma frame (.inr format) positive)
  have chroma := funext (rowCopy_uv frame format positive)
  rw [inputCopies, chromaCopies, if_neg other, luma, chroma]
  rfl

/-- Every row of every plane of the format is copied to its place. -/
theorem mem_inputCopies (planar : config.inputFormat.Planar) (positive : 0 < config.width)
    {c : Copy (Fin 3) Unit} : c ∈ inputCopies config frame ↔
      ∃ p ∈ config.inputFormat.planes, ∃ y < planeRows config.height p,
        c = rowCopy config frame p y := by
  obtain format | format := planar
  · simp only [inputCopies_i420 format positive, List.mem_append, List.mem_map, List.mem_range,
      List.mem_flatMap, List.mem_cons, List.not_mem_nil, or_false, format, PixelFormat.planes,
      exists_eq_or_imp, exists_eq_left, and_or_left, exists_or, @eq_comm _ c]
    exact Iff.rfl
  · simp only [inputCopies_nv12 format positive, List.mem_append, List.mem_map, List.mem_range,
      List.mem_cons, List.not_mem_nil, or_false, format, PixelFormat.planes, exists_eq_or_imp,
      exists_eq_left, @eq_comm _ c]
    exact Iff.rfl

theorem mem_planes_iff (format : PixelFormat) :
    ∀ p : Fin 3, p ∈ format.planes ↔ (p : Nat) < format.planes.length := by
  cases format <;> decide

theorem planes_length_le (format : PixelFormat) : format.planes.length ≤ 3 := by
  cases format <;> decide

/-- Two columns of a row are as far apart in the buffer. -/
theorem tightOffset_add (width height : Int) (format : PixelFormat) (p y x : Nat) :
    tightOffset width height format p y x = tightOffset width height format p y 0 + x := by
  rw [tightOffset, tightOffset, place, place]
  omega

/-- The planes of even dimensions take what the buffer is checked for. -/
theorem bufferSizeFor_eq {format : PixelFormat} (planar : format.Planar)
    (positive : 0 < config.width ∧ 0 < config.height)
    (even : config.width % 2 = 0 ∧ config.height % 2 = 0) :
    Android.bufferSizeFor config.width config.height format =
      start (planeRows config.height) (Stride.row config.width format) format.planes.length := by
  have wide : ¬ config.width ≤ 0 := by omega
  have dims : ¬ (config.width ≤ 0 ∨ config.height ≤ 0) := by omega
  have odd : ¬ (config.width % 2 ≠ 0 ∨ config.height % 2 ≠ 0) := by omega
  obtain ⟨a, width⟩ : ∃ a, config.width.toNat = 2 * a := ⟨config.width.toNat / 2, by omega⟩
  obtain ⟨b, height⟩ : ∃ b, config.height.toNat = 2 * b := ⟨config.height.toNat / 2, by omega⟩
  have size : 2 * a * (2 * b) * 3 / 2 = 2 * b * (2 * a) + b * (2 * a) := by
    rw [show 2 * a * (2 * b) * 3 = 2 * (2 * b * (2 * a) + b * (2 * a)) by ring]
    exact Nat.mul_div_cancel_left _ (by decide)
  obtain rfl | rfl := planar
  · have chroma : 2 * b * (2 * a) + b * a + b * a = 2 * b * (2 * a) + b * (2 * a) := by ring
    rw [Android.bufferSizeFor, if_neg dims, if_neg odd]
    simp [PixelFormat.planes, start, planeRows, Stride.row, wide, width, height, size, chroma]
  · rw [Android.bufferSizeFor, if_neg dims, if_neg odd]
    simp [PixelFormat.planes, start, planeRows, Stride.row, wide, width, height, size]

theorem bufferSizeFor_odd {format : PixelFormat} (planar : format.Planar)
    (odd : ¬ (config.width % 2 = 0 ∧ config.height % 2 = 0)) :
    Android.bufferSizeFor config.width config.height format = 0 := by
  have dims : config.width % 2 ≠ 0 ∨ config.height % 2 ≠ 0 := by omega
  obtain rfl | rfl := planar
  · rw [Android.bufferSizeFor, if_pos dims]
    exact ite_self 0
  · rw [Android.bufferSizeFor, if_pos dims]
    exact ite_self 0

theorem tightOffset_lt {format : PixelFormat} (planar : format.Planar)
    (positive : 0 < config.width ∧ 0 < config.height)
    (even : config.width % 2 = 0 ∧ config.height % 2 = 0) (plane : p ∈ format.planes) {y x : Nat}
    (row : y < planeRows config.height p) (column : x < Stride.row config.width format p) :
    tightOffset config.width config.height format p y x <
      Android.bufferSizeFor config.width config.height format := by
  rw [bufferSizeFor_eq planar positive even]
  exact Nat.lt_of_lt_of_le (place_lt row column) (start_mono ((mem_planes_iff format p).mp plane))

/-- A byte that the buffer is checked for is at a place. -/
theorem exists_tightOffset {format : PixelFormat} (planar : format.Planar)
    (positive : 0 < config.width ∧ 0 < config.height)
    (even : config.width % 2 = 0 ∧ config.height % 2 = 0) {i : Nat}
    (inside : i < Android.bufferSizeFor config.width config.height format) :
    ∃ p ∈ format.planes, ∃ y < planeRows config.height p, ∃ x < Stride.row config.width format p,
      tightOffset config.width config.height format p y x = i := by
  rw [bufferSizeFor_eq planar positive even] at inside
  obtain ⟨k, plane, found⟩ := exists_place inside
  let p : Fin 3 := ⟨k, Nat.lt_of_lt_of_le plane (planes_length_le format)⟩
  exact ⟨p, (mem_planes_iff format p).mpr plane, found⟩

/-- The byte at a place of the buffer. -/
theorem runAll_inputCopies (planar : config.inputFormat.Planar) (positive : 0 < config.width)
    (plane : p ∈ config.inputFormat.planes) {y x : Nat} (row : y < planeRows config.height p)
    (column : x < Stride.row config.width config.inputFormat p)
    (planes : Fin 3 → Int → Option UInt8) (buffer : Unit → Int → Option UInt8) :
    runAll (inputCopies config frame) planes buffer ()
        (tightOffset config.width config.height config.inputFormat p y x) =
      planes p (intMul y (planeInputStride config frame p) + x) := by
  apply runAll_of_written
  · intro c member writes
    obtain ⟨q, _, z, row', rfl⟩ := (mem_inputCopies planar positive).mp member
    obtain ⟨_, low, high⟩ := writes
    dsimp only [rowCopy] at low high ⊢
    have together : tightOffset config.width config.height config.inputFormat p y x =
        tightOffset config.width config.height config.inputFormat q z
          (tightOffset config.width config.height config.inputFormat p y x -
            tightOffset config.width config.height config.inputFormat q z 0) := by
      rw [tightOffset_add _ _ _ q z (_ - _)]
      omega
    obtain ⟨same, rfl, _⟩ := place_inj row column row' (by omega) together
    obtain rfl : p = q := Fin.ext same
    rw [tightOffset_add _ _ _ _ _ x]
    exact congrArg (planes p) (by omega)
  · refine ⟨_, (mem_inputCopies planar positive).mpr ⟨p, plane, y, row, rfl⟩, rfl, ?_, ?_⟩
    · rw [tightOffset_add]
      dsimp only [rowCopy]
      omega
    · rw [tightOffset_add]
      dsimp only [rowCopy]
      omega

/-- Where a buffer reads whatever the planes hold, it shows where. -/
theorem place_of_read {q : Fin 3} {i j : Int}
    (same : ∀ planes : Fin 3 → Int → Option UInt8, planes p i = planes q j) : p = q ∧ i = j := by
  have shown := same fun r k => if r = p ∧ k = i then some 0 else none
  rw [if_pos ⟨rfl, rfl⟩] at shown
  split at shown
  · rename_i here
    exact ⟨here.1.symm, here.2.symm⟩
  · cases shown

end Layout

section Filling
variable {config : VideoConfig} {frame : VideoFrame} {size : Nat} {format : PixelFormat}
  {row : Fin 3 → Nat → Int} {p : Fin 3}

/-- A frame of the size of a configuration in planes. -/
structure Sized (config : VideoConfig) (frame : VideoFrame) : Prop where
  planar : config.inputFormat.Planar
  positive : 0 < config.width ∧ 0 < config.height
  width : frame.width = config.width
  height : frame.height = config.height

theorem fills_of_even (sized : Sized config frame)
    (even : config.width % 2 = 0 ∧ config.height % 2 = 0)
    (room : Android.bufferSizeFor config.width config.height config.inputFormat ≤ size)
    (agree : ∀ p ∈ config.inputFormat.planes, ∀ y < planeRows config.height p,
      intMul (y : Nat) (planeInputStride config frame p) = row p y) :
    Fills config frame size config.inputFormat row := by
  obtain ⟨planar, positive, width, height⟩ := sized
  refine ⟨?_, ?_, ?_⟩
  · intro c member i writes
    obtain ⟨p, plane, y, line, rfl⟩ := (mem_inputCopies planar positive.1).mp member
    obtain ⟨_, low, high⟩ := writes
    dsimp only [rowCopy] at low high
    let x := i - tightOffset config.width config.height config.inputFormat p y 0
    have below := tightOffset_lt (x := x.toNat) planar positive even plane line (by omega)
    rw [tightOffset_add] at below
    omega
  · have first : Plane.luma ∈ config.inputFormat.planes := by
      obtain format | format := planar <;> rw [format] <;> decide
    exact Nat.zero_lt_of_lt (tightOffset_lt planar positive even first
      (planeRows_pos even.2 positive.2 _) (row_pos planar even.1 positive.1 _))
  · intro i inside
    obtain ⟨p, plane, y, line, x, column, found⟩ := exists_tightOffset planar positive even inside
    refine ⟨p, plane, y, by rwa [height], x, by rwa [width], by rwa [width, height], ?_⟩
    intro planes buffer
    rw [← agree p plane y line, ← found]
    exact runAll_inputCopies planar positive.1 plane line column planes buffer

/-- A buffer of which something is queued has a size that the codec formats have. -/
theorem Fills.even (fills : Fills config frame size format row)
    (planar : config.inputFormat.Planar) : config.width % 2 = 0 ∧ config.height % 2 = 0 := by
  by_contra odd
  have positive := fills.positive
  rw [bufferSizeFor_odd planar odd] at positive
  exact Nat.lt_irrefl 0 positive

/-- What stands at a place of the configuration is at a place of the format as well. -/
theorem Fills.placed (fills : Fills config frame size format row) (sized : Sized config frame)
    (plane : p ∈ config.inputFormat.planes) {y x : Nat} (line : y < planeRows config.height p)
    (column : x < Stride.row config.width config.inputFormat p) :
    p ∈ format.planes ∧ ∃ z < planeRows config.height p, ∃ w < Stride.row config.width format p,
      tightOffset config.width config.height format p z w =
          tightOffset config.width config.height config.inputFormat p y x ∧
        intMul y (planeInputStride config frame p) + x = row p z + w := by
  have even := fills.even sized.planar
  obtain ⟨planar, positive, width, height⟩ := sized
  obtain ⟨q, other, z, line', w, column', found, read⟩ :=
    fills.packed _ (tightOffset_lt planar positive even plane line column)
  have shown := fun planes => read planes fun _ _ => none
  simp only [runAll_inputCopies planar positive.1 plane line column] at shown
  obtain ⟨rfl, address⟩ := place_of_read shown
  rw [width, height] at found
  exact ⟨other, z, by rwa [← height], w, by rwa [← width], found, address⟩

/-- Rows of the format of the configuration start where they are read. -/
theorem Fills.row_eq (fills : Fills config frame size config.inputFormat row)
    (sized : Sized config frame) (plane : p ∈ config.inputFormat.planes) {y : Nat}
    (line : y < planeRows config.height p) :
    intMul y (planeInputStride config frame p) = row p y := by
  have even := fills.even sized.planar
  have column := row_pos sized.planar even.1 sized.positive.1 p
  obtain ⟨_, z, line', w, column', same, address⟩ := fills.placed sized plane line column
  obtain ⟨_, rfl, rfl⟩ := place_inj line' column' line column same
  simpa using address

/-- A frame of another format has its chroma elsewhere. -/
theorem Fills.format_eq (fills : Fills config frame size format row)
    (sized : Sized config frame) : format = config.inputFormat := by
  have even := fills.even sized.planar
  have planar := sized.planar
  have positive := sized.positive
  have line := fun plane : Nat => planeRows_pos even.2 positive.2 plane
  obtain i420 | nv12 := planar
  · have v : Plane.v ∈ config.inputFormat.planes := by rw [i420]; decide
    have plane := (fills.placed sized v (line _)
      (row_pos sized.planar even.1 positive.1 _)).1
    rw [i420]
    cases format with
    | kI420 => rfl
    | kNV12 | kRGBA => exact absurd plane (by decide)
  · have uv : Plane.chroma ∈ config.inputFormat.planes := by rw [nv12]; decide
    have plane := (fills.placed sized uv (line _)
      (row_pos sized.planar even.1 positive.1 _)).1
    rw [nv12]
    cases format with
    | kNV12 => rfl
    | kRGBA => exact absurd plane (by decide)
    | kI420 =>
      -- The V plane of the frame would have to be somewhere in the UV plane.
      have three : Plane.v ∈ PixelFormat.planes .kI420 := by decide
      have column := row_pos (.inl rfl) even.1 positive.1 Plane.v
      have inside := tightOffset_lt (.inl rfl) positive even three (line _) column
      have within : tightOffset config.width config.height .kI420 Plane.v 0 0 <
          Android.bufferSizeFor config.width config.height config.inputFormat := by
        rw [nv12]
        exact inside
      obtain ⟨p, plane, y, line', x, column', found⟩ :=
        exists_tightOffset sized.planar positive even within
      obtain ⟨_, z, line'', w, column'', same, _⟩ := fills.placed sized plane line' column'
      obtain ⟨index, _⟩ := place_inj line'' column'' (line _) column (same.trans found)
      rw [nv12, Fin.ext index] at plane
      exact absurd plane (by decide)

end Filling

/-- The codec has a slot, whose buffer passes the check. -/
def Provides (config : VideoConfig) (reply : InputReply) : Prop :=
  reply.slot = true ∧ ∃ size, reply.size = some size ∧
    Android.bufferSizeFor config.width config.height config.inputFormat ≤ size

/-- Both chroma planes of I420 have one stride if they have more than one row, and an `int`
counts the bytes before the last row of a plane. -/
def RowsInPlace (frame : VideoFrame) : Prop :=
  ∀ p ∈ frame.format.planes, planeRows frame.height p ≤ 1 ∨
    (p = Plane.v → frame.planeStride Plane.chroma = frame.planeStride Plane.v) ∧
      (planeRows frame.height p - 1) * frame.planeStride p < 2 ^ 31

section Calls
variable {e : MediaCodecVideoEncoder} {frame : VideoFrame} {reply : InputReply} {p : Fin 3}

theorem inputBuffer_eq_some {size : Nat} (width : frame.width = e.config.width)
    (height : frame.height = e.config.height) : e.inputBuffer frame reply = some size ↔
      reply.slot = true ∧ reply.size = some size ∧
        Android.bufferSizeFor e.config.width e.config.height e.config.inputFormat ≤ size := by
  have sized : ¬ (frame.width ≠ e.config.width ∨ frame.height ≠ e.config.height) := by
    simp [width, height]
  rw [inputBuffer, if_neg sized]
  cases reply.slot with
  | false => simp
  | true =>
    cases reply.size with
    | none => simp
    | some given =>
      by_cases small :
        given < Android.bufferSizeFor e.config.width e.config.height e.config.inputFormat
      · simp only [small, Bool.not_true, Bool.false_eq_true, if_false, if_true, reduceCtorEq,
          false_iff, true_and, Option.some.injEq]
        rintro ⟨rfl, room⟩
        omega
      · simp only [small, Bool.not_true, Bool.false_eq_true, if_false, true_and, Option.some.injEq]
        constructor
        · rintro rfl
          exact ⟨rfl, by omega⟩
        · exact And.left

theorem inputStride_bounds (frame : VideoFrame) (p : Fin 3) {width : Nat}
    (bounds : 0 < width ∧ width < 2 ^ 31) :
    0 < inputStride frame p width ∧ inputStride frame p width < 2 ^ 31 := by
  have stride := Int32.toInt_lt (frame.stride.get p)
  rw [inputStride]
  split <;> omega

theorem inputStride_eq (sized : Sized e.config frame) (int : e.config.width < 2 ^ 31)
    (same : frame.format = e.config.inputFormat) (p : Fin 3) :
    inputStride frame p (Stride.row e.config.width e.config.inputFormat p) =
      frame.planeStride p := by
  have fits := row_le sized.planar sized.positive.1 (p : Nat)
  rw [VideoFrame.planeStride_eq (by rw [sized.width, same]; omega), sized.width, same, inputStride]

/-- The strides of the call are those of the frame, but for V. -/
theorem planeInputStride_eq (sized : Sized e.config frame) (int : e.config.width < 2 ^ 31)
    (same : frame.format = e.config.inputFormat) (p : Fin 3) :
    planeInputStride e.config frame p =
      frame.planeStride (if p = Plane.v then Plane.chroma else p) := by
  rw [← inputStride_eq sized int same, planeInputStride]
  by_cases v : p = Plane.v
  · rw [v]
    exact congrArg (inputStride frame Plane.chroma) (Stride.row_chroma _ _).symm
  · rw [if_neg v]

/-- The rows of a plane are taken from where they stand. -/
theorem srcRows_iff (sized : Sized e.config frame) (int : e.config.width < 2 ^ 31)
    (even : e.config.width % 2 = 0) (same : frame.format = e.config.inputFormat) (p : Fin 3) :
    (∀ y < planeRows frame.height p,
        intMul (y : Nat) (planeInputStride e.config frame p) = y * frame.planeStride p) ↔
      planeRows frame.height p ≤ 1 ∨
        (p = Plane.v → frame.planeStride Plane.chroma = frame.planeStride Plane.v) ∧
          (planeRows frame.height p - 1) * frame.planeStride p < 2 ^ 31 := by
  have bytes := row_pos sized.planar even sized.positive.1 p
  have fits := row_le sized.planar sized.positive.1 (p : Nat)
  have bounds : 0 < planeInputStride e.config frame p ∧
      planeInputStride e.config frame p < 2 ^ 31 :=
    inputStride_bounds frame _ ⟨bytes, by omega⟩
  have pitch : planeInputStride e.config frame p = frame.planeStride p ↔
      (p = Plane.v → frame.planeStride Plane.chroma = frame.planeStride Plane.v) := by
    rw [planeInputStride_eq sized int same]
    by_cases v : p = Plane.v
    · rw [if_pos v, v]
      exact ⟨fun same _ => same, fun same => same rfl⟩
    · rw [if_neg v]
      exact ⟨fun _ chroma => absurd chroma v, fun _ => rfl⟩
  rw [intMul_rows_iff bounds.1 bounds.2, pitch]

/-- A buffer that passes the check is filled, plane behind plane, exactly where both
dimensions are even; it holds the frame exactly where the frame also has the format of
the configuration and its rows stand where the call takes them to. -/
theorem queues_iff (valid : e.config.isValid = true) (planar : e.config.inputFormat.Planar)
    (int : e.config.width < 2 ^ 31) (width : frame.width = e.config.width)
    (height : frame.height = e.config.height) :
    ((∃ row, e.Queues frame reply e.config.inputFormat row) ↔
        (Provides e.config reply → e.config.width % 2 = 0 ∧ e.config.height % 2 = 0)) ∧
      (e.Queues frame reply frame.format (fun p y => y * frame.planeStride p) ↔
        (Provides e.config reply → (e.config.width % 2 = 0 ∧ e.config.height % 2 = 0) ∧
          frame.format = e.config.inputFormat ∧ RowsInPlace frame)) := by
  have sized : Sized e.config frame :=
    ⟨planar, VideoConfig.positive_of_isValid valid, width, height⟩
  refine ⟨⟨?_, ?_⟩, ⟨?_, ?_⟩⟩
  · rintro ⟨row, queues⟩ ⟨slot, size, given, room⟩
    exact (queues size ((inputBuffer_eq_some width height).mpr ⟨slot, given, room⟩)).even planar
  · intro even
    refine ⟨fun p y => intMul y (planeInputStride e.config frame p), fun size buffer => ?_⟩
    obtain ⟨slot, given, room⟩ := (inputBuffer_eq_some width height).mp buffer
    exact fills_of_even sized (even ⟨slot, size, given, room⟩) room fun _ _ _ _ => rfl
  · rintro queues ⟨slot, size, given, room⟩
    have fills := queues size ((inputBuffer_eq_some width height).mpr ⟨slot, given, room⟩)
    have even := fills.even planar
    have same := fills.format_eq sized
    refine ⟨even, same, fun p plane => ?_⟩
    rw [same] at fills plane
    apply (srcRows_iff sized int even.1 same p).mp
    rw [height]
    exact fun y line => fills.row_eq sized plane line
  · intro meets size buffer
    obtain ⟨slot, given, room⟩ := (inputBuffer_eq_some width height).mp buffer
    obtain ⟨even, same, inPlace⟩ := meets ⟨slot, size, given, room⟩
    rw [same]
    apply fills_of_even sized even room
    intro p plane
    rw [← height]
    exact (srcRows_iff sized int even.1 same p).mpr (inPlace p (same ▸ plane))

/-- A frame of I420 in a buffer of its size. -/
theorem queues_i420 : ∃ (e : MediaCodecVideoEncoder) (frame : VideoFrame) (reply : InputReply),
    e.inputBuffer frame reply = some 6 ∧
      (∃ row, e.Queues frame reply e.config.inputFormat row) ∧
        e.Queues frame reply frame.format fun p y => y * frame.planeStride p := by
  let e : MediaCodecVideoEncoder := { config := { width := 2, height := 2, inputFormat := .kI420 } }
  let frame : VideoFrame := { format := .kI420, width := 2, height := 2 }
  have queues := @queues_iff e frame { size := some 6 } rfl (.inl rfl) (by decide) rfl rfl
  refine ⟨e, frame, { size := some 6 }, by decide, queues.1.mpr fun _ => ⟨rfl, rfl⟩, ?_⟩
  refine queues.2.mpr fun _ => ⟨⟨rfl, rfl⟩, rfl, ?_⟩
  rw [RowsInPlace]
  decide

/-- A frame of odd dimensions needs no byte of the buffer by the check. -/
theorem queues_beyond :
    ¬ ∀ (e : MediaCodecVideoEncoder) (frame : VideoFrame) (reply : InputReply),
      e.config.isValid = true → e.config.inputFormat.Planar → e.config.width < 2 ^ 31 →
        frame.width = e.config.width → frame.height = e.config.height →
          ∃ row, e.Queues frame reply e.config.inputFormat row := by
  intro always
  obtain ⟨row, queues⟩ := always { config := { width := 3, height := 3 } }
    { width := 3, height := 3 } { size := some 0 } rfl (.inr rfl) (by decide) rfl rfl
  -- Row 0 of the luma plane is written into no bytes.
  have member : ⟨0, (), 0, 0, 3⟩ ∈
      inputCopies { width := 3, height := 3 } { width := 3, height := 3 } := by decide
  exact absurd ((queues 0 rfl).inside _ member 0 ⟨rfl, by decide, by decide⟩).2 (by decide)

end Calls

end VideoCodec.MediaCodecVideoEncoder
