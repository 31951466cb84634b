import VideoCodec.Encode.CopyFrame
import VideoCodec.Encode.QueueInput
import VideoCodec.Utils.AudioPace

/-! The color bars of `SmpteBars::MakeVideoFrame`, and what the encoders make of a frame
whose strides are not set. -/
namespace VideoCodec

open Memory

namespace SmpteBars

structure Color where
  r : UInt8
  g : UInt8
  b : UInt8
  deriving DecidableEq, Repr, Inhabited

/-- Y, U and V of a color; the source has them in float arithmetic. -/
abbrev RgbToYuv := Color → UInt8 × UInt8 × UInt8

def kPalette : List Color :=
  [⟨191, 191, 191⟩, ⟨191, 191, 0⟩, ⟨0, 191, 191⟩, ⟨0, 191, 0⟩, ⟨191, 0, 191⟩, ⟨191, 0, 0⟩,
    ⟨0, 0, 191⟩]

def kCount : Nat := kPalette.length

structure Options where
  movingLine : Bool := true
  deriving DecidableEq, Repr

def barAt (x width : Nat) : Nat :=
  let bar := x * kCount / width
  if kCount ≤ bar then kCount - 1 else bar

/-- What `RgbToYuv` is called with at column `x`. -/
def colorAt (x width : Nat) : Color := kPalette.getD (barAt x width) default

/-- Where the moving line stands, how wide it is and in which row it begins. -/
def lineX (width fps frameIndex : Int) : Int := ((frameIndex * width).tdiv fps).tmod width

def lineW (width : Int) : Int := width.tdiv 40

def lineTop (height : Int) : Int := height - height.tdiv 10

def luma (rgbToYuv : RgbToYuv) (width height fps frameIndex : Int) (opts : Options) (y x : Nat) :
    UInt8 :=
  if (opts.movingLine ∧ lineTop height ≤ y) ∧ lineX width fps frameIndex ≤ x ∧
      x < lineX width fps frameIndex + lineW width then 235
  else (rgbToYuv (colorAt x width.toNat)).1

/-- U and V of a block, those of its top left pixel. -/
def chroma (rgbToYuv : RgbToYuv) (width : Int) (x : Nat) : UInt8 × UInt8 :=
  (rgbToYuv (colorAt (x * 2) width.toNat)).2

/-- A plane filled row by row. -/
def fill (rows columns : Nat) (pixel : Nat → Nat → UInt8) : List UInt8 :=
  (List.range rows).flatMap fun y => (List.range columns).map (pixel y)

def makeVideoFrame (rgbToYuv : RgbToYuv) (width height fps frameIndex : Int)
    (opts : Options := {}) : VideoFrame :=
  if width ≤ 0 ∨ height ≤ 0 ∨ width % 2 ≠ 0 ∨ height % 2 ≠ 0 ∨ fps ≤ 0 then {}
  else
    let w := width.toNat
    let h := height.toNat
    { format := .kI420
      width
      height
      timestampUs := (frameIndex * 1000000).tdiv fps
      planes := #v[fill h w (luma rgbToYuv width height fps frameIndex opts),
        fill (h / 2) (w / 2) fun _ x => (chroma rgbToYuv width x).1,
        fill (h / 2) (w / 2) fun _ x => (chroma rgbToYuv width x).2] }

/-- The pixel of plane `p` in the picture. -/
def pixel (rgbToYuv : RgbToYuv) (width height fps frameIndex : Int) (opts : Options) (p : Fin 3)
    (y x : Nat) : UInt8 :=
  match p with
  | 0 => luma rgbToYuv width height fps frameIndex opts y x
  | 1 => (chroma rgbToYuv width x).1
  | 2 => (chroma rgbToYuv width x).2

section Planes
variable {rows columns : Nat} {f : Nat → Nat → UInt8}

theorem fill_length (rows columns : Nat) (f : Nat → Nat → UInt8) :
    (fill rows columns f).length = rows * columns := by
  induction rows with
  | zero => rw [fill, List.range_zero, List.flatMap_nil, List.length_nil, Nat.zero_mul]
  | succ n ih =>
    rw [fill, List.range_succ, List.flatMap_append, List.length_append, ← fill, ih, Nat.succ_mul,
      List.flatMap_singleton, List.length_map, List.length_range]

theorem fill_get (row : y < rows) (column : x < columns) :
    (fill rows columns f)[y * columns + x]? = some (f y x) := by
  induction rows with
  | zero => exact absurd row (Nat.not_lt_zero y)
  | succ n ih =>
    have all : fill (n + 1) columns f = fill n columns f ++ (List.range columns).map (f n) := by
      rw [fill, List.range_succ, List.flatMap_append, List.flatMap_singleton, fill]
    rw [all]
    rcases Nat.lt_succ_iff_lt_or_eq.mp row with before | rfl
    · have inside : y * columns + x < (fill n columns f).length := by
        have last : y * columns + columns ≤ n * columns := row_end_le before
        rw [fill_length]
        omega
      rw [List.getElem?_append_left inside]
      exact ih before
    · rw [List.getElem?_append_right (by rw [fill_length]; omega), fill_length,
        Nat.add_sub_cancel_left, List.getElem?_map, List.getElem?_range column, Option.map_some]

end Planes

section Frames
variable {rgbToYuv : RgbToYuv} {width height fps frameIndex : Int} {opts : Options} {p : Fin 3}

/-- The sizes that `MakeVideoFrame` does not refuse. -/
structure Drawable (width height fps : Int) : Prop where
  width : 0 < width ∧ width % 2 = 0
  height : 0 < height ∧ height % 2 = 0
  fps : 0 < fps

theorem makeVideoFrame_eq (size : Drawable width height fps) :
    makeVideoFrame rgbToYuv width height fps frameIndex opts =
      { format := .kI420
        width
        height
        timestampUs := (frameIndex * 1000000).tdiv fps
        planes := #v[fill height.toNat width.toNat
              (luma rgbToYuv width height fps frameIndex opts),
          fill (height.toNat / 2) (width.toNat / 2) fun _ x => (chroma rgbToYuv width x).1,
          fill (height.toNat / 2) (width.toNat / 2) fun _ x => (chroma rgbToYuv width x).2] } := by
  obtain ⟨⟨wide, evenWidth⟩, ⟨tall, evenHeight⟩, positive⟩ := size
  rw [makeVideoFrame, if_neg (by omega)]

theorem planes_eq (size : Drawable width height fps) (p : Fin 3) :
    (makeVideoFrame rgbToYuv width height fps frameIndex opts).planes.get p =
      fill (planeRows height p) (Stride.row width .kI420 p)
        (pixel rgbToYuv width height fps frameIndex opts p) := by
  have wide := size.width.1
  have bytes (q : Nat) (index : q ≤ 2) :
      Stride.row width .kI420 q = if q = 0 then width.toNat else width.toNat / 2 := by
    rw [Stride.row, if_neg (by omega)]
  rw [makeVideoFrame_eq size, bytes _ (Nat.le_of_lt_succ p.isLt)]
  obtain ⟨_ | _ | _ | p, bound⟩ := p
  · rfl
  · rfl
  · rfl
  · omega

/-- The frame shows the picture, its rows packed. -/
theorem byte_eq (size : Drawable width height fps) (p : Fin 3) {y x : Nat}
    (row : y < planeRows height p) (column : x < Stride.row width .kI420 p) :
    (makeVideoFrame rgbToYuv width height fps frameIndex opts).byte p
        ((y * Stride.row width .kI420 p : Nat) + x) =
      some (pixel rgbToYuv width height fps frameIndex opts p y x) := by
  rw [VideoFrame.byte, if_pos (by omega), planes_eq size]
  exact fill_get row column

theorem format_eq (size : Drawable width height fps) :
    (makeVideoFrame rgbToYuv width height fps frameIndex opts).format = .kI420 := by
  rw [makeVideoFrame_eq size]

theorem width_eq (size : Drawable width height fps) :
    (makeVideoFrame rgbToYuv width height fps frameIndex opts).width = width := by
  rw [makeVideoFrame_eq size]

theorem height_eq (size : Drawable width height fps) :
    (makeVideoFrame rgbToYuv width height fps frameIndex opts).height = height := by
  rw [makeVideoFrame_eq size]

theorem planeStride_eq (size : Drawable width height fps) (int : width < 2 ^ 31) (p : Fin 3) :
    (makeVideoFrame rgbToYuv width height fps frameIndex opts).planeStride p =
      Stride.row width .kI420 p := by
  have fits := row_le (.inl rfl : PixelFormat.kI420.Planar) size.width.1 (p : Nat)
  have unset : ((makeVideoFrame rgbToYuv width height fps frameIndex opts).stride.get p).toInt =
      0 := by
    rw [makeVideoFrame_eq size]
    match p with
    | 0 | 1 | 2 => rfl
  rw [VideoFrame.planeStride_eq, unset, if_neg (Int.lt_irrefl 0), width_eq size, format_eq size]
  rw [width_eq size, format_eq size]
  omega

/-- Every row lies in its plane. -/
theorem adequate (size : Drawable width height fps) (int : width < 2 ^ 31) :
    (makeVideoFrame rgbToYuv width height fps frameIndex opts).Adequate := by
  intro p _ y row
  rw [height_eq size] at row
  rw [planeStride_eq size int, planes_eq size, fill_length, width_eq size, format_eq size]
  exact_mod_cast row_end_le row

end Frames
section Copying

open FFmpeg FFmpegVideoEncoder

variable {rgbToYuv : RgbToYuv} {fps frameIndex : Int} {opts : Options} {e : FFmpegVideoEncoder}
  {picture : AVFrame e.config} {p : Fin 3}

/-- The frame that an encoder of this configuration is given. -/
def patternFor (rgbToYuv : RgbToYuv) (config : VideoConfig) (fps frameIndex : Int)
    (opts : Options) : VideoFrame :=
  makeVideoFrame rgbToYuv config.width config.height fps frameIndex opts

/-- `CopyFrame` reads the planes of the frame only and leaves the picture in `frame_`. -/
structure Shown (e : FFmpegVideoEncoder) (picture : AVFrame e.config) (frame : VideoFrame)
    (shows : Fin 3 → Nat → Nat → UInt8) : Prop where
  reads : ∀ c ∈ copies picture frame, ∀ p i, c.Reads p i → 0 ≤ i ∧ i < (frame.planes.get p).length
  rows : ∀ data, ∀ p ∈ e.config.inputFormat.planes, ∀ y < planeRows e.config.height p,
    ∀ x < Stride.row e.config.width e.config.inputFormat p,
      e.copyPixels picture frame true data p (y * picture.linesize.get p + x) = some (shows p y x)

/-- `av_frame_get_buffer` has not padded the rows of a plane of more than one row. -/
def Unpadded {config : VideoConfig} (picture : AVFrame config) : Prop :=
  ∀ p ∈ config.inputFormat.planes, planeRows config.height p ≤ 1 ∨
    picture.linesize.get p = Stride.row config.width config.inputFormat p

theorem drawable_of_even {config : VideoConfig} (even : Even config) (positive : 0 < fps) :
    Drawable config.width config.height fps := by
  obtain ⟨wide, tall⟩ := VideoConfig.positive_of_isValid even.valid
  exact ⟨⟨wide, even.width⟩, ⟨tall, even.height⟩, positive⟩

theorem width_int (even : Even e.config) (picture : AVFrame e.config) :
    e.config.width < 2 ^ 31 := by
  have luma : Plane.luma ∈ e.config.inputFormat.planes := by
    obtain format | format := even.planar <;> rw [format] <;> decide
  obtain ⟨_, room, bound⟩ := linesize_bounds even picture luma
  have wide := (VideoConfig.positive_of_isValid even.valid).1
  have index : ¬ (e.config.width ≤ 0 ∨ 2 < ((Plane.luma : Fin 3) : Nat)) := by
    rintro (narrow | outside)
    · omega
    · exact absurd outside (by decide)
  have bytes : Stride.row e.config.width e.config.inputFormat Plane.luma =
      e.config.width.toNat := by
    obtain format | format := even.planar
    · rw [format, Stride.row, if_neg index]
      rfl
    · rw [format, Stride.row, if_neg index]
  omega

theorem srcStride_pattern (size : Drawable e.config.width e.config.height fps) (p : Fin 3) :
    srcStride picture (patternFor rgbToYuv e.config fps frameIndex opts) p =
      picture.linesize.get p := by
  have unset :
      ((patternFor rgbToYuv e.config fps frameIndex opts).stride.get p).toInt = 0 := by
    rw [patternFor, makeVideoFrame_eq size]
    match p with
    | 0 | 1 | 2 => rfl
  rw [srcStride, unset, if_neg (Int.lt_irrefl 0)]

/-- The last row of a padded plane is read from behind the frame. -/
theorem unpadded_of_reads (even : Even e.config) (i420 : e.config.inputFormat = .kI420)
    (positive : 0 < fps)
    (reads : ∀ c ∈ copies picture (patternFor rgbToYuv e.config fps frameIndex opts), ∀ p i,
      c.Reads p i →
        0 ≤ i ∧ i < ((patternFor rgbToYuv e.config fps frameIndex opts).planes.get p).length) :
    Unpadded picture := by
  have size := drawable_of_even even positive
  intro p plane
  by_contra padded
  rw [not_or] at padded
  obtain ⟨several, wider⟩ := padded
  obtain ⟨bytes, room, -⟩ := linesize_bounds even picture plane
  let y := planeRows e.config.height p - 1
  have last : y < planeRows e.config.height p := by omega
  have taken : p ∈ copyPlanes (patternFor rgbToYuv e.config fps frameIndex opts).format := by
    rwa [patternFor, format_eq size, copyPlanes_eq (.inl rfl), ← i420]
  have row : y < planeRows (patternFor rgbToYuv e.config fps frameIndex opts).height p := by
    rwa [patternFor, height_eq size]
  have read := reads _ (mem_copies.mpr ⟨p, taken, y, row, rfl⟩) p
  rw [srcStride_pattern size, intMul_linesize picture plane last, patternFor, planes_eq size,
    fill_length, format_eq size, copyBytes_eq (.inl rfl) size.width.1, ← i420] at read
  have inside := (read ((y * picture.linesize.get p : Nat) +
    (Stride.row e.config.width e.config.inputFormat p - 1 : Nat))
      ⟨rfl, by dsimp only; omega, by dsimp only; omega⟩).2
  have pitch : y * (Stride.row e.config.width e.config.inputFormat p + 1) ≤
      y * picture.linesize.get p := Nat.mul_le_mul_left y (by omega)
  have rows : planeRows e.config.height p = y + 1 := by omega
  rw [rows, Nat.succ_mul] at inside
  rw [Nat.mul_succ] at pitch
  omega

theorem rowsInPlace_of_unpadded (even : Even e.config) (i420 : e.config.inputFormat = .kI420)
    (positive : 0 < fps) (unpadded : Unpadded picture) :
    RowsInPlace picture (patternFor rgbToYuv e.config fps frameIndex opts) := by
  have size := drawable_of_even even positive
  intro p plane
  rw [patternFor, format_eq size, ← i420] at plane
  rw [patternFor, height_eq size, width_eq size, format_eq size,
    planeStride_eq size (width_int even picture), ← i420]
  refine (unpadded p plane).imp_right fun packed => ⟨.inr packed, ?_⟩
  have bound := picture.addressable p plane
  rw [packed] at bound
  have rows := planeRows_pos even.height size.height.1 p
  have fewer : (planeRows e.config.height p - 1) *
      Stride.row e.config.width e.config.inputFormat p ≤
        Stride.row e.config.width e.config.inputFormat p * planeRows e.config.height p := by
    rw [Nat.mul_comm]
    exact Nat.mul_le_mul_left _ (Nat.sub_le _ _)
  have cast : ((planeRows e.config.height p : Int) - 1) =
      ((planeRows e.config.height p - 1 : Nat) : Int) := by omega
  rw [cast, ← Int.natCast_mul]
  omega

theorem copyFrame_pattern (even : Even e.config) (positive : 0 < fps) :
    (e.copyFrame (patternFor rgbToYuv e.config fps frameIndex opts) true).1 = .kOk := by
  have size := drawable_of_even even positive
  exact copyFrame_ok_iff.mpr ⟨width_eq size, height_eq size, rfl⟩

/-- Without padding the picture arrives. -/
theorem shown_of_unpadded (even : Even e.config) (i420 : e.config.inputFormat = .kI420)
    (positive : 0 < fps) (unpadded : Unpadded picture) :
    Shown e picture (patternFor rgbToYuv e.config fps frameIndex opts)
      (pixel rgbToYuv e.config.width e.config.height fps frameIndex opts) := by
  have size := drawable_of_even even positive
  have format : (patternFor rgbToYuv e.config fps frameIndex opts).format = .kI420 :=
    format_eq size
  have same := format.trans i420.symm
  have ok : (e.copyFrame (patternFor rgbToYuv e.config fps frameIndex opts) true).1 = .kOk :=
    copyFrame_pattern even positive
  have int := width_int even picture
  have inPlace : RowsInPlace picture (patternFor rgbToYuv e.config fps frameIndex opts) :=
    rowsInPlace_of_unpadded even i420 positive unpadded
  refine ⟨fun c member p i reads => ?_, fun data p plane y row x column => ?_⟩
  · exact reads_inside even same ok (adequate size int) inPlace member reads
  have plane' : p ∈ (patternFor rgbToYuv e.config fps frameIndex opts).format.planes := by
    rwa [same]
  have row' : y < planeRows (patternFor rgbToYuv e.config fps frameIndex opts).height p := by
    rwa [patternFor, height_eq size]
  have column' : x < Stride.row (patternFor rgbToYuv e.config fps frameIndex opts).width
      (patternFor rgbToYuv e.config fps frameIndex opts).format p := by
    rwa [same, patternFor, width_eq size]
  rw [copyPixels_at even _ same ok plane' row' column',
    (srcRows_iff even same ok plane').mpr (inPlace p plane') y row', patternFor,
    planeStride_eq size int]
  rw [i420] at column
  exact_mod_cast byte_eq size p row column

end Copying

section Queueing

open MediaCodecVideoEncoder

variable {rgbToYuv : RgbToYuv} {fps frameIndex : Int} {opts : Options} {d : MediaCodecVideoEncoder}
  {p : Fin 3} {size : Nat}

/-- `QueueInput` reads the planes of the frame only, stays in its buffer and leaves the
picture there, plane behind plane. -/
structure Queued (config : VideoConfig) (frame : VideoFrame) (size : Nat)
    (shows : Fin 3 → Nat → Nat → UInt8) : Prop where
  reads : ∀ c ∈ inputCopies config frame, ∀ p i,
    c.Reads p i → 0 ≤ i ∧ i < (frame.planes.get p).length
  writes : ∀ c ∈ inputCopies config frame, ∀ i, c.Writes () i → 0 ≤ i ∧ i < size
  rows : ∀ buffer, ∀ p ∈ config.inputFormat.planes, ∀ y < planeRows config.height p,
    ∀ x < Stride.row config.width config.inputFormat p,
      runAll (inputCopies config frame) frame.byte buffer ()
          (tightOffset config.width config.height config.inputFormat p y x) = some (shows p y x)

theorem planeInputStride_pattern {config : VideoConfig}
    (drawable : Drawable config.width config.height fps) (p : Fin 3) :
    planeInputStride config (patternFor rgbToYuv config fps frameIndex opts) p =
      Stride.row config.width config.inputFormat p := by
  have unset (q : Fin 3) :
      ((patternFor rgbToYuv config fps frameIndex opts).stride.get q).toInt = 0 := by
    rw [patternFor, makeVideoFrame_eq drawable]
    match q with
    | 0 | 1 | 2 => rfl
  rw [planeInputStride, inputStride, unset, if_neg (Int.lt_irrefl 0)]

/-- An `int` counts the bytes before a row if it counts the pixels of the frame. -/
theorem rowStart_eq {width height : Int} (positive : 0 < width ∧ 0 < height)
    (int : width * height < 2 ^ 31) (row : y < planeRows height p) :
    intMul (y : Nat) (Stride.row width .kI420 p) = (y * Stride.row width .kI420 p : Nat) := by
  have bytes : Stride.row width .kI420 p ≤ width.toNat := by
    have below := row_le (.inl rfl : PixelFormat.kI420.Planar) positive.1 (p : Nat)
    omega
  have rows : y ≤ height.toNat := by
    rw [planeRows] at row
    split at row <;> omega
  have product : y * Stride.row width .kI420 p ≤ height.toNat * width.toNat :=
    Nat.mul_le_mul rows bytes
  have pixels : ((height.toNat * width.toNat : Nat) : Int) = width * height := by
    rw [Int.natCast_mul, Int.toNat_of_nonneg (by omega), Int.toNat_of_nonneg (by omega),
      Int.mul_comm]
  rw [intMul_eq, Int.natCast_mul]
  · rw [← Int.natCast_mul]
    exact Int.natCast_nonneg _
  · rw [← Int.natCast_mul]
    omega

theorem queued_pattern {config : VideoConfig} (drawable : Drawable config.width config.height fps)
    (i420 : config.inputFormat = .kI420) (int : config.width * config.height < 2 ^ 31)
    (room : Android.bufferSizeFor config.width config.height config.inputFormat ≤ size) :
    Queued config (patternFor rgbToYuv config fps frameIndex opts) size
      (pixel rgbToYuv config.width config.height fps frameIndex opts) := by
  have positive := And.intro drawable.width.1 drawable.height.1
  have sized : Sized config (patternFor rgbToYuv config fps frameIndex opts) :=
    ⟨.inl i420, positive, width_eq drawable, height_eq drawable⟩
  have start (p : Fin 3) (y : Nat) (row : y < planeRows config.height p) :
      intMul y (planeInputStride config (patternFor rgbToYuv config fps frameIndex opts) p) =
        (y * Stride.row config.width .kI420 p : Nat) := by
    rw [planeInputStride_pattern drawable, i420]
    exact rowStart_eq positive int row
  have fills : Fills config (patternFor rgbToYuv config fps frameIndex opts) size
      config.inputFormat fun p y => (y * Stride.row config.width .kI420 p : Nat) :=
    fills_of_even sized ⟨drawable.width.2, drawable.height.2⟩ room fun p _ y row => start p y row
  refine ⟨fun c member p i reads => ?_, fills.inside, fun buffer p plane y row x column => ?_⟩
  · obtain ⟨q, -, y, row, rfl⟩ := (mem_inputCopies sized.planar positive.1).mp member
    obtain ⟨rfl, low, high⟩ := reads
    dsimp only [rowCopy] at low high ⊢
    rw [start q y row] at low high
    rw [i420] at high
    rw [patternFor, planes_eq drawable, fill_length]
    have last : y * Stride.row config.width .kI420 q + Stride.row config.width .kI420 q ≤
        planeRows config.height q * Stride.row config.width .kI420 q := row_end_le row
    omega
  · rw [runAll_inputCopies sized.planar positive.1 plane row column, start p y row]
    rw [i420] at column
    exact byte_eq drawable p row column

/-- The color bars reach the codec through `QueueInput` always, and through `CopyFrame`
exactly when libavutil has padded no row, as the rows of a frame without strides are taken
to stand at the pitch of `frame_`. -/
theorem pattern_reaches_codec (rgbToYuv : RgbToYuv) (frameIndex : Int) (opts : Options)
    {e : FFmpegVideoEncoder} (picture : FFmpeg.AVFrame e.config)
    (even : FFmpegVideoEncoder.Even e.config) (i420 : e.config.inputFormat = .kI420)
    (positive : 0 < fps) (int : e.config.width * e.config.height < 2 ^ 31) :
    (Shown e picture (patternFor rgbToYuv e.config fps frameIndex opts)
        (pixel rgbToYuv e.config.width e.config.height fps frameIndex opts) ↔
      Unpadded picture) ∧
    ∀ (d : MediaCodecVideoEncoder) (reply : MediaCodec.InputReply) (size : Nat),
      d.config = e.config →
      d.inputBuffer (patternFor rgbToYuv e.config fps frameIndex opts) reply = some size →
        Queued d.config (patternFor rgbToYuv e.config fps frameIndex opts) size
          (pixel rgbToYuv e.config.width e.config.height fps frameIndex opts) := by
  have drawable := drawable_of_even even positive
  constructor
  · constructor
    · exact fun shown => unpadded_of_reads even i420 positive shown.reads
    · exact shown_of_unpadded even i420 positive
  · intro d reply size same buffer
    rw [← same] at drawable i420 int buffer ⊢
    obtain ⟨-, -, room⟩ :=
      (inputBuffer_eq_some (width_eq drawable) (height_eq drawable)).mp buffer
    exact queued_pattern drawable i420 int room

/-- The float arithmetic in thousandths, to which it comes at every color of the palette. -/
def thousandths : RgbToYuv := fun c =>
  let r := c.r.toNat
  let g := c.g.toNat
  let b := c.b.toNat
  (.ofNat ((16000 + 257 * r + 504 * g + 98 * b) / 1000),
    .ofNat ((128000 + 439 * b - 148 * r - 291 * g) / 1000),
    .ofNat ((128000 + 439 * r - 368 * g - 71 * b) / 1000))

/-- Four columns of bars in a frame that needs no padding. -/
theorem pattern_reaches_codec_packed :
    ∃ (e : FFmpegVideoEncoder) (picture : FFmpeg.AVFrame e.config), e.config.width = 4 ∧
      Shown e picture (patternFor thousandths e.config 30 7 {})
        (pixel thousandths e.config.width e.config.height 30 7 {}) := by
  let e : FFmpegVideoEncoder := { config := { width := 4, height := 4, inputFormat := .kI420 } }
  let picture : FFmpeg.AVFrame e.config :=
    { linesize    := #v[4, 2, 2]
      wide        := by decide
      addressable := by decide }
  refine ⟨e, picture, rfl, ?_⟩
  refine (pattern_reaches_codec thousandths 7 {} picture ⟨rfl, .inl rfl, rfl, rfl⟩ rfl
    (by decide) (by decide)).1.mpr ?_
  rw [Unpadded]
  decide

end Queueing

end SmpteBars
end VideoCodec
