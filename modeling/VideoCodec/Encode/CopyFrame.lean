import VideoCodec.Encode.FFmpeg
import VideoCodec.Encode.Planes

/-! `FFmpegVideoEncoder::CopyFrame`, which copies the planes of a frame into those of
`frame_`, row by row. These are laid out for the configuration; how many planes are
copied and how wide their rows are is up to the frame. -/
namespace VideoCodec

open Memory

/-- The buffers that `av_frame_get_buffer` lays out for a configuration. No row is shorter
than the format needs, and an `int` counts the bytes of a plane. -/
structure FFmpeg.AVFrame (config : VideoConfig) where
  linesize : Vector Nat 3
  wide : ∀ p ∈ config.inputFormat.planes,
    Stride.row config.width config.inputFormat p ≤ linesize.get p
  addressable : ∀ p ∈ config.inputFormat.planes,
    linesize.get p * planeRows config.height p < 2 ^ 31

namespace FFmpegVideoEncoder

open FFmpeg

variable {config : VideoConfig}

def copyPlanes (format : PixelFormat) : List (Fin 3) :=
  (List.finRange 3).take (if format = .kNV12 then 2 else 3)

def srcStride (picture : AVFrame config) (frame : VideoFrame) (p : Fin 3) : Int :=
  if 0 < (frame.stride.get p).toInt then (frame.stride.get p).toInt else picture.linesize.get p

def copyBytes (config : VideoConfig) (format : PixelFormat) (p : Fin 3) : Nat :=
  if (p : Nat) = 0 ∨ format = .kNV12 then config.width.toNat else config.width.toNat / 2

/-- The copies of `CopyFrame`, in their order. -/
def copies (picture : AVFrame config) (frame : VideoFrame) : List (Copy (Fin 3) (Fin 3)) :=
  (copyPlanes frame.format).flatMap fun p =>
    rowCopies p p (planeRows frame.height p) (copyBytes config frame.format p)
      (fun y => intMul y (srcStride picture frame p)) fun y => intMul y (picture.linesize.get p)

/-- What `CopyFrame` leaves in the planes of `frame_`, which held `data`. -/
def copyPixels (e : FFmpegVideoEncoder) (picture : AVFrame e.config) (frame : VideoFrame)
    (writable : Bool) (data : Fin 3 → Int → Option UInt8) : Fin 3 → Int → Option UInt8 :=
  if (e.copyFrame frame writable).1 = .kOk then runAll (copies picture frame) frame.byte data
  else data

/-- The call reads bytes of the frame only, and behind it every plane holds the rows of
the frame. -/
structure Copied (e : FFmpegVideoEncoder) (picture : AVFrame e.config) (frame : VideoFrame)
    (writable : Bool) (data : Fin 3 → Int → Option UInt8) : Prop where
  reads : ∀ c ∈ copies picture frame, ∀ p i, c.Reads p i → 0 ≤ i ∧ i < (frame.planes.get p).length
  rows : ∀ p ∈ frame.format.planes, ∀ y < planeRows frame.height p,
    ∀ x < Stride.row frame.width frame.format p,
      e.copyPixels picture frame writable data p (y * picture.linesize.get p + x) =
        frame.byte p (y * frame.planeStride p + x)

/-- A plane of more than one row has its stride set, or its rows are packed in `frame_`
as well, and an `int` counts the bytes before its last row. -/
def RowsInPlace (picture : AVFrame config) (frame : VideoFrame) : Prop :=
  ∀ p ∈ frame.format.planes, planeRows frame.height p ≤ 1 ∨
    (0 < (frame.stride.get p).toInt ∨
        picture.linesize.get p = Stride.row frame.width frame.format p) ∧
      (planeRows frame.height p - 1) * frame.planeStride p < 2 ^ 31

/-- All writes of the call stay in the planes laid out for the configuration. -/
def Contained (picture : AVFrame config) (frame : VideoFrame) : Prop :=
  ∀ c ∈ copies picture frame, ∀ p i, c.Writes p i →
    p ∈ config.inputFormat.planes ∧
      0 ≤ i ∧ i < (picture.linesize.get p * planeRows config.height p : Nat)

/-- The call is refused or writes into the planes of the configuration only, and a frame
of another format is refused. -/
structure Guards (e : FFmpegVideoEncoder) (picture : AVFrame e.config) (frame : VideoFrame)
    (writable : Bool) : Prop where
  contained : (e.copyFrame frame writable).1 = .kOk → Contained picture frame
  format : frame.format ≠ e.config.inputFormat → (e.copyFrame frame writable).1 ≠ .kOk

/-- A configuration that the encoder accepts, with even dimensions. -/
structure Even (config : VideoConfig) : Prop where
  valid : config.isValid = true
  planar : config.inputFormat.Planar
  width : config.width % 2 = 0
  height : config.height % 2 = 0

section Copies
variable {picture : AVFrame config} {frame : VideoFrame} {p : Fin 3}

theorem mem_copies {c : Copy (Fin 3) (Fin 3)} : c ∈ copies picture frame ↔
    ∃ p ∈ copyPlanes frame.format, ∃ y < planeRows frame.height p, c =
      { source := p
        target := p
        src    := intMul (y : Nat) (srcStride picture frame p)
        dst    := intMul (y : Nat) (picture.linesize.get p)
        count  := copyBytes config frame.format p } := by
  simp only [copies, List.mem_flatMap, mem_rowCopies]

theorem copyPlanes_eq {format : PixelFormat} (planar : format.Planar) :
    copyPlanes format = format.planes := by
  obtain rfl | rfl := planar <;> rfl

theorem copyBytes_eq {format : PixelFormat} (planar : format.Planar) (positive : 0 < config.width)
    (p : Fin 3) : copyBytes config format p = Stride.row config.width format p := by
  have index : ¬ (config.width ≤ 0 ∨ 2 < (p : Nat)) := by omega
  obtain rfl | rfl := planar
  · rw [copyBytes, Stride.row, if_neg index]
    simp only [reduceCtorEq, or_false, Fin.val_eq_zero_iff]
  · rw [copyBytes, Stride.row, if_neg index, if_pos (.inr rfl)]

/-- The rows of a plane that exists start at its pitch. -/
theorem intMul_linesize (picture : AVFrame config) (laid : p ∈ config.inputFormat.planes)
    {y : Nat} (row : y < planeRows config.height p) :
    intMul y (picture.linesize.get p) = (y * picture.linesize.get p : Nat) := by
  have last : y * picture.linesize.get p + picture.linesize.get p ≤
      planeRows config.height p * picture.linesize.get p := row_end_le row
  have bound := picture.addressable p laid
  rw [Nat.mul_comm] at bound
  rw [intMul_eq, Int.natCast_mul]
  · rw [← Int.natCast_mul]
    exact Int.natCast_nonneg _
  · rw [← Int.natCast_mul]
    omega

/-- The pitch of a plane that exists is that of a row or more, and an `int`. -/
theorem linesize_bounds (even : Even config) (picture : AVFrame config)
    (laid : p ∈ config.inputFormat.planes) :
    0 < Stride.row config.width config.inputFormat p ∧
      Stride.row config.width config.inputFormat p ≤ picture.linesize.get p ∧
        picture.linesize.get p < 2 ^ 31 := by
  obtain ⟨wide, tall⟩ := VideoConfig.positive_of_isValid even.valid
  have rows := planeRows_pos even.height tall p
  have first : picture.linesize.get p ≤ picture.linesize.get p * planeRows config.height p :=
    Nat.le_mul_of_pos_right _ rows
  exact ⟨row_pos even.planar even.width wide p, picture.wide p laid,
    Nat.lt_of_le_of_lt first (picture.addressable p laid)⟩

/-- A call writes where it should if the planes it takes the frame to have exist and are
wide enough. -/
theorem contained_iff (even : Even config) (height : frame.height = config.height) :
    Contained picture frame ↔ ∀ p ∈ copyPlanes frame.format,
      p ∈ config.inputFormat.planes ∧ copyBytes config frame.format p ≤ picture.linesize.get p := by
  obtain ⟨wide, tall⟩ := VideoConfig.positive_of_isValid even.valid
  constructor
  · intro contained p plane
    have rows := planeRows_pos even.height tall p
    have bytes : 0 < copyBytes config frame.format p := by
      rw [copyBytes]
      have half := even.width
      split <;> omega
    -- The last byte of the last row.
    let y := planeRows config.height p - 1
    have row : y < planeRows frame.height p := by rw [height]; omega
    have written := contained _ (mem_copies.mpr ⟨p, plane, y, row, rfl⟩) p
    dsimp only [Copy.Writes] at written
    obtain ⟨laid, _, below⟩ :=
      written (intMul y (picture.linesize.get p) + (copyBytes config frame.format p - 1 : Nat))
        ⟨rfl, by omega, by omega⟩
    rw [intMul_linesize picture laid (by omega), Nat.mul_comm (picture.linesize.get p),
      show planeRows config.height p = y + 1 by omega, Nat.succ_mul] at below
    exact ⟨laid, by omega⟩
  · rintro room c member q i ⟨target, low, high⟩
    obtain ⟨p, plane, y, row, rfl⟩ := mem_copies.mp member
    obtain rfl : p = q := target
    dsimp only at low high
    obtain ⟨laid, fits⟩ := room p plane
    rw [height] at row
    rw [intMul_linesize picture laid row] at low high
    have last : y * picture.linesize.get p + picture.linesize.get p ≤
        planeRows config.height p * picture.linesize.get p := row_end_le row
    rw [Nat.mul_comm (picture.linesize.get p)]
    exact ⟨laid, by omega, by omega⟩

end Copies

section Calls
variable {e : FFmpegVideoEncoder} {picture : AVFrame e.config} {frame : VideoFrame}
  {writable : Bool} {data : Fin 3 → Int → Option UInt8} {p : Fin 3}

theorem copyFrame_ok_iff : (e.copyFrame frame writable).1 = .kOk ↔
    frame.width = e.config.width ∧ frame.height = e.config.height ∧ writable = true := by
  rw [copyFrame]
  split
  · rename_i size
    constructor
    · nofun
    · rintro ⟨width, height, _⟩
      exact absurd size (by rw [width, height]; simp)
  · rename_i size
    simp only [not_or, Decidable.not_not] at size
    cases writable with
    | false => exact ⟨nofun, nofun⟩
    | true => exact ⟨fun _ => ⟨size.1, size.2, rfl⟩, fun _ => rfl⟩

/-- A byte of a row behind the call is the one that stands at the same column of the
source row, wherever the call takes that to start. -/
theorem copyPixels_at (even : Even e.config) (frame : VideoFrame)
    (same : frame.format = e.config.inputFormat) (ok : (e.copyFrame frame writable).1 = .kOk)
    (plane : p ∈ frame.format.planes) {y x : Nat} (row : y < planeRows frame.height p)
    (column : x < Stride.row frame.width frame.format p) :
    e.copyPixels picture frame writable data p (y * picture.linesize.get p + x) =
      frame.byte p (intMul y (srcStride picture frame p) + x) := by
  obtain ⟨width, height, _⟩ := copyFrame_ok_iff.mp ok
  have positive := (VideoConfig.positive_of_isValid even.valid).1
  rw [copyPixels, if_pos ok]
  rw [width, same] at column
  rw [height] at row
  rw [same] at plane
  have bytes := copyBytes_eq even.planar positive p
  have start := intMul_linesize picture plane row
  have wide := picture.wide p plane
  apply runAll_of_written
  · intro c member writes
    obtain ⟨q, _, z, row', rfl⟩ := mem_copies.mp member
    obtain ⟨target, low, high⟩ := writes
    obtain rfl : q = p := target
    dsimp only at low high ⊢
    rw [height] at row'
    rw [same, bytes, intMul_linesize picture plane row'] at high
    rw [intMul_linesize picture plane row'] at low ⊢
    -- Two rows of a plane do not overlap.
    have together : y * picture.linesize.get q + x =
        z * picture.linesize.get q +
          (y * picture.linesize.get q + x - z * picture.linesize.get q) := by
      omega
    obtain ⟨rfl, _⟩ := row_inj (by omega) (by omega) together
    apply congrArg (frame.byte q)
    omega
  · refine ⟨_, mem_copies.mpr ⟨p, ?_, y, by rwa [height], rfl⟩, rfl, ?_, ?_⟩
    · rwa [same, copyPlanes_eq even.planar]
    · dsimp only
      rw [start]
      omega
    · dsimp only
      rw [start, same, bytes]
      omega

/-- The rows of a plane are taken from where they stand. -/
theorem srcRows_iff (even : Even e.config) (same : frame.format = e.config.inputFormat)
    (ok : (e.copyFrame frame writable).1 = .kOk) (plane : p ∈ frame.format.planes) :
    (∀ y < planeRows frame.height p, intMul (y : Nat) (srcStride picture frame p) =
        y * frame.planeStride p) ↔
      planeRows frame.height p ≤ 1 ∨
        (0 < (frame.stride.get p).toInt ∨
            picture.linesize.get p = Stride.row frame.width frame.format p) ∧
          (planeRows frame.height p - 1) * frame.planeStride p < 2 ^ 31 := by
  obtain ⟨width, _⟩ := copyFrame_ok_iff.mp ok
  obtain ⟨bytes, room, bound⟩ := linesize_bounds even picture (same ▸ plane)
  have stride := Int32.toInt_lt (frame.stride.get p)
  have pitch : srcStride picture frame p = frame.planeStride p ↔ 0 < (frame.stride.get p).toInt ∨
      picture.linesize.get p = Stride.row frame.width frame.format p := by
    rw [VideoFrame.planeStride_eq (by rw [width, same]; omega), srcStride]
    split
    · simp only [true_or, *]
    · rw [Int.natCast_inj]
      simp only [false_or, *]
  rw [intMul_rows_iff, pitch]
  · rw [srcStride]
    split <;> omega
  · rw [srcStride]
    split <;> omega

theorem reads_inside (even : Even e.config) (same : frame.format = e.config.inputFormat)
    (ok : (e.copyFrame frame writable).1 = .kOk) (adequate : frame.Adequate)
    (inPlace : RowsInPlace picture frame) {c : Copy (Fin 3) (Fin 3)}
    (member : c ∈ copies picture frame) {i : Int} (reads : c.Reads p i) :
    0 ≤ i ∧ i < (frame.planes.get p).length := by
  obtain ⟨width, _⟩ := copyFrame_ok_iff.mp ok
  have positive := (VideoConfig.positive_of_isValid even.valid).1
  obtain ⟨q, plane, y, row, rfl⟩ := mem_copies.mp member
  obtain ⟨source, low, high⟩ := reads
  obtain rfl : q = p := source
  have planar := even.planar
  rw [← same] at planar
  rw [copyPlanes_eq planar] at plane
  have start := (srcRows_iff even same ok plane).mpr (inPlace q plane) y row
  have inside := adequate q plane y row
  obtain ⟨_, room, bound⟩ := linesize_bounds even picture (same ▸ plane)
  rw [← width, ← same] at room
  have nonneg : 0 ≤ (y : Int) * frame.planeStride q :=
    Int.mul_nonneg (by omega) (VideoFrame.planeStride_nonneg (by omega))
  dsimp only at low high
  rw [start] at low high
  rw [copyBytes_eq planar positive, ← width] at high
  omega

/-- A row that is right whatever the plane holds is taken from where it stands. -/
theorem srcRow_eq (even : Even e.config) (same : frame.format = e.config.inputFormat)
    (ok : (e.copyFrame frame writable).1 = .kOk) (adequate : frame.Adequate)
    (copied : ∀ planes : Vector (List UInt8) 3,
      (∀ p : Fin 3, (planes.get p).length = (frame.planes.get p).length) →
        ∀ data, e.Copied picture { frame with planes } writable data)
    (plane : p ∈ frame.format.planes) {y : Nat} (row : y < planeRows frame.height p) :
    intMul y (srcStride picture frame p) = y * frame.planeStride p := by
  obtain ⟨width, _⟩ := copyFrame_ok_iff.mp ok
  obtain ⟨column, room, bound⟩ := linesize_bounds even picture (same ▸ plane)
  rw [← width, ← same] at column room
  have inside := adequate p plane y row
  have start : 0 ≤ (y : Int) * frame.planeStride p :=
    Int.mul_nonneg (by omega) (VideoFrame.planeStride_nonneg (by omega))
  apply VideoFrame.eq_of_read (n := (frame.planes.get p).length) ⟨start, by omega⟩
  intro bytes length
  let shown := { frame with planes := frame.planes.set p bytes }
  have held : shown.planes.get p = bytes := Vector.getElem_set_self _
  have lengths : ∀ q : Fin 3, (shown.planes.get q).length = (frame.planes.get q).length := by
    intro q
    by_cases here : q = p
    · rw [here, held, length]
    · exact congrArg List.length (Vector.getElem_set_ne p.isLt q.isLt (by omega))
  have read := (copied shown.planes lengths fun _ _ => none).rows p plane y row 0 column
  rw [copyPixels_at even shown same ok plane row column] at read
  have wanted : shown.byte p (y * frame.planeStride p + (0 : Nat)) =
      bytes[(y * frame.planeStride p).toNat]? := by
    rw [VideoFrame.byte, held, Int.natCast_zero, Int.add_zero, if_pos start]
  have taken : shown.byte p (intMul y (srcStride picture frame p) + (0 : Nat)) =
      if 0 ≤ intMul y (srcStride picture frame p) then
        bytes[(intMul y (srcStride picture frame p)).toNat]?
      else none := by
    rw [VideoFrame.byte, held, Int.natCast_zero, Int.add_zero]
  exact taken.symm.trans (read.trans wanted)

/-- The call copies every frame of a layout as it should exactly when the rows of the
frame stand where it takes them to. -/
theorem copied_iff (even : Even e.config) (same : frame.format = e.config.inputFormat)
    (ok : (e.copyFrame frame writable).1 = .kOk) (adequate : frame.Adequate) :
    (∀ planes : Vector (List UInt8) 3,
        (∀ p : Fin 3, (planes.get p).length = (frame.planes.get p).length) →
          ∀ data, e.Copied picture { frame with planes } writable data) ↔
      RowsInPlace picture frame := by
  constructor
  · intro copied p plane
    apply (srcRows_iff even same ok plane).mp
    intro y row
    exact srcRow_eq even same ok adequate copied plane row
  · intro inPlace planes lengths data
    refine ⟨?_, ?_⟩
    · intro c member p i reads
      have inside := reads_inside even same ok adequate inPlace member reads
      rwa [← lengths] at inside
    · intro p plane y row x column
      let shown := { frame with planes }
      rw [copyPixels_at even shown same ok plane row column]
      have start := (srcRows_iff even same ok plane).mpr (inPlace p plane) y row
      exact congrArg (fun i => shown.byte p (i + x)) start

/-- The planes of `frame_` for NV12, with padded rows. -/
def padded : AVFrame { width := 2, height := 2 } where
  linesize    := #v[32, 32, 0]
  wide        := by decide
  addressable := by decide

/-- The rows of the frame have a stride of their own. -/
theorem copied_strided : ∃ (e : FFmpegVideoEncoder) (picture : AVFrame e.config)
    (frame : VideoFrame), picture.linesize = #v[32, 32, 0] ∧ frame.stride = #v[4, 2, 0] ∧
      ∀ planes : Vector (List UInt8) 3,
        (∀ p : Fin 3, (planes.get p).length = (frame.planes.get p).length) →
          ∀ data, e.Copied picture { frame with planes } true data := by
  let frame : VideoFrame :=
    { width  := 2
      height := 2
      planes := #v[[1, 2, 0, 0, 3, 4], [5, 6], []]
      stride := #v[4, 2, 0] }
  refine ⟨{ config := _ }, padded, frame, rfl, rfl, ?_⟩
  apply (copied_iff ⟨rfl, .inr rfl, rfl, rfl⟩ rfl rfl ?_).mpr
  · rw [RowsInPlace]
    decide
  · rw [VideoFrame.Adequate]
    decide

/-- The rows of the frame are packed, those of `frame_` are not. -/
theorem copied_astray :
    ¬ ∀ (e : FFmpegVideoEncoder) (picture : AVFrame e.config) (frame : VideoFrame)
        (writable : Bool) (data : Fin 3 → Int → Option UInt8),
      Even e.config → frame.format = e.config.inputFormat →
        (e.copyFrame frame writable).1 = .kOk → frame.Adequate →
          e.Copied picture frame writable data := by
  intro always
  let frame : VideoFrame :=
    { width  := 2
      height := 2
      planes := #v[[1, 2, 3, 4], [5, 6], []] }
  have adequate : frame.Adequate := by
    rw [VideoFrame.Adequate]
    decide
  have copied := always { config := _ } padded frame true (fun _ _ => none)
    ⟨rfl, .inr rfl, rfl, rfl⟩ rfl rfl adequate
  -- Row 1 of the luma plane is taken from byte 32 of four.
  have member : ⟨0, 0, 32, 32, 2⟩ ∈ copies padded frame := by decide
  exact absurd (copied.reads _ member 0 32 ⟨rfl, by decide, by decide⟩).2 (by decide)

/-- The call looks after its planes exactly where the frame has the format of the
configuration or `frame_` cannot be written. -/
theorem guards_iff (even : Even e.config) (width : frame.width = e.config.width)
    (height : frame.height = e.config.height) :
    e.Guards picture frame writable ↔
      frame.format = e.config.inputFormat ∨ writable = false := by
  constructor
  · intro guards
    by_cases same : frame.format = e.config.inputFormat
    · exact .inl same
    · have refused := guards.format same
      rw [Ne, copyFrame_ok_iff] at refused
      exact .inr (by simpa [width, height] using refused)
  · rintro (same | refused)
    · refine ⟨fun _ => (contained_iff even height).mpr fun p plane => ?_, absurd same⟩
      have planar := even.planar
      rw [← same] at planar
      rw [copyPlanes_eq planar, same] at plane
      obtain ⟨_, room, _⟩ := linesize_bounds even picture plane
      rw [copyBytes_eq planar (VideoConfig.positive_of_isValid even.valid).1, same]
      exact ⟨plane, room⟩
    · have failed : (e.copyFrame frame writable).1 ≠ .kOk := by
        rw [Ne, copyFrame_ok_iff, refused]
        nofun
      exact ⟨fun ok => absurd ok failed, fun _ => failed⟩

/-- The three planes of an I420 frame. -/
theorem guards_i420 : ∃ (e : FFmpegVideoEncoder) (picture : AVFrame e.config)
    (frame : VideoFrame), (copies picture frame).length = 4 ∧
      e.Guards picture frame true := by
  let e : FFmpegVideoEncoder := { config := { width := 2, height := 2, inputFormat := .kI420 } }
  let picture : AVFrame e.config :=
    { linesize    := #v[32, 32, 32]
      wide        := by decide
      addressable := by decide }
  refine ⟨e, picture, { format := .kI420, width := 2, height := 2 }, by decide, ?_⟩
  exact (guards_iff ⟨rfl, .inl rfl, rfl, rfl⟩ rfl rfl).mpr (.inl rfl)

/-- An I420 frame has a plane more than an NV12 encoder. -/
theorem guards_beyond :
    ¬ ∀ (e : FFmpegVideoEncoder) (picture : AVFrame e.config) (frame : VideoFrame)
        (writable : Bool),
      Even e.config → frame.width = e.config.width → frame.height = e.config.height →
        frame.Adequate → e.Guards picture frame writable := by
  intro always
  let frame : VideoFrame :=
    { format := .kI420
      width  := 2
      height := 2
      planes := #v[[1, 2, 3, 4], [5], [6]] }
  have adequate : frame.Adequate := by
    rw [VideoFrame.Adequate]
    decide
  have guards := always { config := _ } padded frame true ⟨rfl, .inr rfl, rfl, rfl⟩ rfl rfl adequate
  have member : ⟨2, 2, 0, 0, 1⟩ ∈ copies padded frame := by decide
  exact absurd (guards.contained rfl _ member 2 0 ⟨rfl, by decide, by decide⟩).1 (by decide)

end Calls

end FFmpegVideoEncoder

end VideoCodec
