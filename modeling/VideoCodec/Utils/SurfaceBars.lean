import Mathlib.Data.List.GetD
import Mathlib.Data.List.Nodup
import Mathlib.Tactic.IntervalCases
import VideoCodec.Raster.Scissor
import VideoCodec.Utils.SmpteBars

/-! The color bars of `SmpteBars::Surface::RenderFrame`, which draws them with clears in a
scissor box, beside those of `MakeVideoFrame`. -/
namespace VideoCodec.SmpteBars

open Raster

/-- The surface with the buffer it draws to, and what was presented of it: each picture with
its time in nanoseconds, where that could be set. -/
structure Surface where
  width : Int
  height : Int
  back : Context Color
  presented : List (Option Int × (Int → Int → Color)) := []

/-- What EGL answers while a frame is rendered. -/
structure RenderReply where
  current : Bool := true
  timed : Bool := true
  swapped : Bool := true
  deriving DecidableEq, Repr

namespace Surface

def black : Color := ⟨0, 0, 0⟩

def white : Color := ⟨255, 255, 255⟩

def barW (w : Int) : Int := (w + kCount - 1).tdiv kCount

/-- The box of bar `b`; the last has what is left. -/
def barBox (w h : Int) (b : Nat) : Box where
  x := b * barW w
  y := 0
  width := if b = kCount - 1 then w - b * barW w else barW w
  height := h

def drawBars (w h : Int) (n : Nat) (c : Context Color) : Context Color :=
  (List.range n).foldl (fun c b => c.fill (barBox w h b) (kPalette.getD b default)) c

def lineBox (w h fps frameIndex : Int) : Box where
  x := lineX w fps frameIndex
  y := 0
  width := lineW w
  height := h.tdiv 10

/-- The picture of a frame. -/
def draw (w h fps frameIndex : Int) (c : Context Color) : Context Color :=
  let cleared := { c with test := false }.clear black
  let bars := drawBars w h kCount { cleared with test := true }
  { bars.fill (lineBox w h fps frameIndex) white with test := false }

def renderFrame (s : Surface) (frameIndex fps timestampUs : Int) (reply : RenderReply) :
    Bool × Surface :=
  if fps ≤ 0 then (false, s)
  else if !reply.current then (false, s)
  else if s.width ≤ 0 ∨ s.height ≤ 0 then (false, s)
  else
    let back := draw s.width s.height fps frameIndex s.back
    let time := if reply.timed then some (timestampUs * 1000) else none
    (reply.swapped,
      { s with
        back
        presented := if reply.swapped then s.presented ++ [(time, back.pixels)]
          else s.presented })

/-- The bar that `RenderFrame` leaves at column `x`. Where the seventh has no room its color
goes to the sixth. -/
def barAt (x w : Nat) : Nat :=
  let bar := (w + kCount - 1) / kCount
  if (kCount - 1) * bar ≤ w then min (x / bar) (kCount - 1)
  else if x / bar = kCount - 2 then kCount - 1
  else x / bar

theorem barAt_eq (x w : Nat) :
    barAt x w =
      if 6 * ((w + 6) / 7) ≤ w then min (x / ((w + 6) / 7)) 6
      else if x / ((w + 6) / 7) = 5 then 6
      else x / ((w + 6) / 7) := rfl

section Bars
variable {w h : Int} {c : Context Color} {x y : Int}

/-- A box over the whole height. -/
theorem stripe_holds (inside : 0 ≤ y ∧ y < h) (a b : Int) :
    (⟨a, 0, b, h⟩ : Box).Holds x y ↔ a ≤ x ∧ x < a + b := by
  refine and_iff_left ⟨inside.1, ?_⟩
  dsimp only
  omega

theorem barW_eq (wide : 0 < w) : barW w = ((w.toNat + 6) / 7 : Nat) := by
  obtain ⟨n, rfl⟩ := Int.eq_ofNat_of_zero_le wide.le
  rw [barW, Int.toNat_natCast]
  change ((n : Int) + 7 - 1).tdiv 7 = _
  rw [Int.tdiv_eq_ediv_of_nonneg (by omega)]
  omega

theorem drawBars_succ (w h : Int) (n : Nat) (c : Context Color) :
    drawBars w h (n + 1) c = (drawBars w h n c).fill (barBox w h n) (kPalette.getD n default) := by
  rw [drawBars, List.range_succ, List.foldl_append]
  rfl

theorem drawBars_test (w h : Int) (n : Nat) (c : Context Color) :
    (drawBars w h n c).test = c.test := by
  induction n with
  | zero => rfl
  | succ n ih => rw [drawBars_succ, Context.fill_test, ih]

/-- The bars before the last stand side by side. -/
theorem drawBars_side (wide : 0 < w) (tall : 0 ≤ h) (confined : c.test = true) {n : Nat}
    (before : n ≤ 6) (left : 0 ≤ x) (inside : 0 ≤ y ∧ y < h) :
    (drawBars w h n c).pixels x y =
      if x < n * barW w then kPalette.getD (x / barW w).toNat default else c.pixels x y := by
  have positive : 0 < barW w := by rw [barW_eq wide]; omega
  induction n with
  | zero => rw [if_neg (by omega)]; rfl
  | succ n ih =>
    have box : barBox w h n = ⟨n * barW w, 0, barW w, h⟩ := by
      rw [barBox, if_neg (show ¬n = kCount - 1 from by change ¬n = 6; omega)]
    have valid : (barBox w h n).Valid := by rw [box]; exact ⟨positive.le, tall⟩
    have next : ((n + 1 : Nat) : Int) * barW w = n * barW w + barW w := by
      rw [Nat.cast_succ, add_mul, one_mul]
    rw [drawBars_succ, Context.fill_valid ((drawBars_test ..).trans confined) valid, box,
      if_congr (stripe_holds inside ..) rfl rfl, ih (by omega), next]
    by_cases mine : n * barW w ≤ x ∧ x < n * barW w + barW w
    · have quotient : x / barW w = n := by
        rw [Int.ediv_eq_iff_of_pos positive]
        exact mine
      rw [if_pos mine, if_pos mine.2, quotient, Int.toNat_natCast]
    · rw [if_neg mine]
      by_cases earlier : x < n * barW w
      · rw [if_pos earlier, if_pos (by omega)]
      · rw [if_neg earlier, if_neg (by omega)]

/-- The last bar goes to the box that is left of the width, or where there is none to that
of the sixth. -/
theorem drawBars_last (wide : 0 < w) (tall : 0 ≤ h) (confined : c.test = true)
    (inside : 0 ≤ y ∧ y < h) :
    (drawBars w h kCount c).pixels x y =
      if 6 * barW w ≤ w ∧ 6 * barW w ≤ x ∧ x < w ∨
        w < 6 * barW w ∧ 5 * barW w ≤ x ∧ x < 6 * barW w then kPalette.getD 6 default
      else (drawBars w h 6 c).pixels x y := by
  have last : barBox w h 6 = ⟨6 * barW w, 0, w - 6 * barW w, h⟩ := rfl
  have confinedBars : (drawBars w h 6 c).test = true := (drawBars_test ..).trans confined
  change (drawBars w h (6 + 1) c).pixels x y = _
  rw [drawBars_succ]
  by_cases room : 6 * barW w ≤ w
  · have valid : (barBox w h 6).Valid := ⟨show 0 ≤ w - 6 * barW w by omega, tall⟩
    rw [Context.fill_valid confinedBars valid, last]
    refine if_congr ((stripe_holds inside ..).trans ?_) rfl rfl
    omega
  · have invalid : ¬(barBox w h 6).Valid := by
      rintro ⟨positive, -⟩
      rw [last] at positive
      dsimp only at positive
      omega
    have sixth : (barBox w h 5).Valid := by
      refine ⟨?_, tall⟩
      change 0 ≤ barW w
      rw [barW_eq wide]
      omega
    have previous : (drawBars w h 6 c).box = ⟨5 * barW w, 0, barW w, h⟩ := by
      rw [drawBars_succ]
      exact Context.fill_box sixth
    rw [Context.fill_invalid confinedBars invalid, previous]
    refine if_congr ((stripe_holds inside ..).trans ?_) rfl rfl
    omega

/-- The pixels of a column have the color of its bar. -/
theorem drawBars_all (wide : 0 < w) (tall : 0 ≤ h) (confined : c.test = true) {x : Nat}
    (column : (x : Int) < w) (inside : 0 ≤ y ∧ y < h) :
    (drawBars w h kCount c).pixels x y = kPalette.getD (barAt x w.toNat) default := by
  obtain ⟨n, rfl⟩ := Int.eq_ofNat_of_zero_le wide.le
  have bar : barW n = ((n + 6) / 7 : Nat) := barW_eq wide
  have index : (x : Int) / barW n = (x / ((n + 6) / 7) : Nat) := by rw [bar]; rfl
  rw [drawBars_last wide tall confined inside, Int.toNat_natCast, barAt_eq,
    drawBars_side wide tall confined le_rfl (Int.natCast_nonneg x) inside, index,
    Int.toNat_natCast]
  have positive : 0 < (n + 6) / 7 := by omega
  by_cases room : 6 * ((n + 6) / 7) ≤ n
  · rw [if_pos room]
    by_cases behind : 6 * ((n + 6) / 7) ≤ x
    · have many : 6 ≤ x / ((n + 6) / 7) := (Nat.le_div_iff_mul_le positive).mpr behind
      rw [if_pos (by omega), min_eq_right many]
    · have few : x / ((n + 6) / 7) < 6 := (Nat.div_lt_iff_lt_mul positive).mpr (by omega)
      rw [if_neg (by omega), if_pos (by omega), min_eq_left few.le]
  · rw [if_neg room]
    by_cases sixth : 5 * ((n + 6) / 7) ≤ x
    · have five : x / ((n + 6) / 7) = 5 := by
        rw [Nat.div_eq_iff positive]
        omega
      rw [if_pos (by omega), if_pos five]
    · have few : x / ((n + 6) / 7) < 5 := (Nat.div_lt_iff_lt_mul positive).mpr (by omega)
      rw [if_neg (by omega), if_pos (by omega), if_neg few.ne]

/-- The picture by rows from its top, as `MakeVideoFrame` counts them. -/
theorem draw_pixels {fps frameIndex : Int} (wide : 0 < w) (tall : 0 < h) (c : Context Color)
    {y x : Nat} (row : (y : Int) < h) (column : (x : Int) < w) :
    (draw w h fps frameIndex c).pixels x (h - 1 - y) =
      if lineTop h ≤ y ∧ lineX w fps frameIndex ≤ x ∧ x < lineX w fps frameIndex + lineW w
      then white else kPalette.getD (barAt x w.toNat) default := by
  have inside : 0 ≤ h - 1 - y ∧ h - 1 - y < h := by omega
  have narrow : lineW w = w / 40 := Int.tdiv_eq_ediv_of_nonneg wide.le
  have low : h.tdiv 10 = h / 10 := Int.tdiv_eq_ediv_of_nonneg tall.le
  have valid : (lineBox w h fps frameIndex).Valid := by
    refine ⟨?_, ?_⟩
    · change 0 ≤ lineW w
      omega
    · change 0 ≤ h.tdiv 10
      omega
  have bars := drawBars_all (c := { (Context.clear { c with test := false } black) with
    test := true }) wide tall.le rfl column inside
  rw [draw]
  dsimp only
  rw [Context.fill_valid (drawBars_test ..) valid, bars]
  refine if_congr ?_ rfl rfl
  rw [Box.Holds, lineBox, lineTop]
  dsimp only
  omega

end Bars

section Columns
variable {x w : Nat}

theorem barAt_lt (column : x < w) : barAt x w < kCount := by
  have positive : 0 < (w + 6) / 7 := by omega
  have few : x / ((w + 6) / 7) < 7 := (Nat.div_lt_iff_lt_mul positive).mpr (by omega)
  rw [barAt_eq]
  change _ < 7
  split
  · omega
  · split <;> omega

theorem frameBarAt_lt (x w : Nat) : SmpteBars.barAt x w < kCount := by
  rw [SmpteBars.barAt]
  split
  · decide
  · omega

theorem frameBarAt_eq (column : x < w) : SmpteBars.barAt x w = x * 7 / w := by
  have few : x * 7 / w < 7 := (Nat.div_lt_iff_lt_mul (by omega)).mpr (by omega)
  rw [SmpteBars.barAt]
  exact if_neg (Nat.not_le.mpr few)

/-- With room for all bars a column is in the bar that its quotient says. -/
theorem barAt_roomy (room : 6 * ((w + 6) / 7) ≤ w) (column : x < w) :
    barAt x w = x / ((w + 6) / 7) := by
  have few : x / ((w + 6) / 7) < 7 := (Nat.div_lt_iff_lt_mul (by omega)).mpr (by omega)
  exact (if_pos room).trans (min_eq_left (Nat.le_of_lt_succ few))

/-- Bars of one width, the last one column short of it. -/
theorem frameBarAt_short {bar : Nat} (column : x < 7 * bar - 1) :
    x * 7 / (7 * bar - 1) = x / bar := by
  have positive : 0 < bar := by omega
  have quotient : x / bar < 7 := (Nat.div_lt_iff_lt_mul positive).mpr (by omega)
  have split : bar * (x / bar) + x % bar = x := Nat.div_add_mod x bar
  have rest : x % bar < bar := Nat.mod_lt x positive
  generalize x / bar = q at *
  rw [Nat.div_eq_iff (by omega)]
  interval_cases q <;> omega

/-- The widths without room for the last bar. -/
theorem barAt_small : ∀ w < 36, 0 < w ∧ w % 2 = 0 ∧ w < 6 * ((w + 6) / 7) →
    (∀ x < w, barAt x w = SmpteBars.barAt x w) → w % 7 = 6 := by
  decide

/-- The surface has the bars of the frame where these fill the width, or all but a column
of it. -/
theorem barAt_eq_iff (wide : 0 < w) (even : w % 2 = 0) :
    (∀ x < w, barAt x w = SmpteBars.barAt x w) ↔ w % 7 = 0 ∨ w % 7 = 6 := by
  constructor
  · intro same
    by_contra between
    by_cases room : 6 * ((w + 6) / 7) ≤ w
    · -- the first column of the frame's last bar is still in the sixth of the surface
      have full : 7 ≤ w := by
        by_contra narrow
        have one : (w + 6) / 7 = 1 := by omega
        omega
      have next : (w + 6) / 7 = w / 7 + 1 := by omega
      have column : 6 * (w / 7) + w % 7 < w := by omega
      have here := same _ column
      have last : (6 * (w / 7) + w % 7) * 7 / w = 6 := by
        rw [Nat.div_eq_iff wide]
        omega
      have sixth : (6 * (w / 7) + w % 7) / ((w + 6) / 7) < 6 :=
        (Nat.div_lt_iff_lt_mul (by omega)).mpr (by omega)
      rw [barAt_roomy room column, frameBarAt_eq column, last] at here
      omega
    · exact between (.inr (barAt_small w (by omega) ⟨wide, even, by omega⟩ same))
  · rintro (whole | short) x column
    · obtain ⟨bar, rfl⟩ := Nat.dvd_of_mod_eq_zero whole
      have width : (7 * bar + 6) / 7 = bar := by omega
      rw [barAt_roomy (by omega) column, frameBarAt_eq column, width, Nat.mul_comm 7 bar]
      exact (Nat.mul_div_mul_right x bar (by decide)).symm
    · obtain ⟨bar, rfl⟩ : ∃ bar, w = 7 * bar - 1 := ⟨w / 7 + 1, by omega⟩
      have width : (7 * bar - 1 + 6) / 7 = bar := by omega
      rw [barAt_roomy (by omega) column, frameBarAt_eq column, width]
      exact (frameBarAt_short column).symm

end Columns

section Frames
variable {s t : Surface} {frameIndex fps timestampUs : Int} {reply : RenderReply}

/-- A frame that is rendered is presented, and was drawn on a surface with a size. -/
theorem renderFrame_ok (rendered : s.renderFrame frameIndex fps timestampUs reply = (true, t)) :
    0 < fps ∧ 0 < s.width ∧ 0 < s.height ∧
      t.presented = s.presented ++ [(if reply.timed then some (timestampUs * 1000) else none,
        (draw s.width s.height fps frameIndex s.back).pixels)] := by
  rw [renderFrame] at rendered
  split at rendered
  · exact absurd (congrArg Prod.fst rendered) Bool.false_ne_true
  split at rendered
  · exact absurd (congrArg Prod.fst rendered) Bool.false_ne_true
  split at rendered
  · exact absurd (congrArg Prod.fst rendered) Bool.false_ne_true
  · rename_i rate _ size
    obtain ⟨swapped, rfl⟩ := Prod.mk.inj rendered
    refine ⟨by omega, by omega, by omega, ?_⟩
    exact if_pos swapped

/-- Colors of the palette with different luma are told apart by it. -/
theorem palette_luma {rgbToYuv : RgbToYuv}
    (apart : (kPalette.map fun color => (rgbToYuv color).1).Nodup) {a b : Nat} (left : a < kCount)
    (right : b < kCount)
    (same : (rgbToYuv (kPalette.getD a default)).1 = (rgbToYuv (kPalette.getD b default)).1) :
    a = b := by
  have member {i : Nat} (inside : i < kCount) : kPalette.getD i default ∈ kPalette := by
    rw [List.getD_eq_getElem _ _ inside]
    exact List.getElem_mem inside
  have distinct : ∀ a < kCount, ∀ b < kCount,
      kPalette.getD a default = kPalette.getD b default → a = b := by decide
  exact distinct a left b right
    (List.inj_on_of_nodup_map apart (member left) (member right) same)

end Frames

/-- The picture of the surface is that of the frame, in luma, exactly where the bars fill
the width or leave out one column. -/
theorem surface_shows_frame_iff {rgbToYuv : RgbToYuv} (line : (rgbToYuv white).1 = 235)
    (apart : (kPalette.map fun color => (rgbToYuv color).1).Nodup) {s t : Surface}
    {frameIndex fps timestampUs : Int} {reply : RenderReply}
    (rendered : s.renderFrame frameIndex fps timestampUs reply = (true, t))
    (even : s.width % 2 = 0 ∧ s.height % 2 = 0) :
    ∃ picture, t.presented = s.presented ++
        [(if reply.timed then some (timestampUs * 1000) else none, picture)] ∧
      ((∀ y x : Nat, (y : Int) < s.height → (x : Int) < s.width →
          (makeVideoFrame rgbToYuv s.width s.height fps frameIndex).byte 0 (y * s.width + x) =
            some (rgbToYuv (picture x (s.height - 1 - y))).1) ↔
        s.width % 7 = 0 ∨ s.width % 7 = 6) := by
  obtain ⟨rate, wide, tall, presented⟩ := renderFrame_ok rendered
  refine ⟨_, presented, ?_⟩
  have size : Drawable s.width s.height fps := ⟨⟨wide, even.1⟩, ⟨tall, even.2⟩, rate⟩
  have byte (y x : Nat) (row : (y : Int) < s.height) (column : (x : Int) < s.width) :
      (makeVideoFrame rgbToYuv s.width s.height fps frameIndex).byte 0 (y * s.width + x) =
        some (luma rgbToYuv s.width s.height fps frameIndex {} y x) := by
    have rows : planeRows s.height 0 = s.height.toNat := if_pos rfl
    have columns : Stride.row s.width .kI420 0 = s.width.toNat := by
      rw [Stride.row, if_neg (by omega)]
      rfl
    have shown : (makeVideoFrame rgbToYuv s.width s.height fps frameIndex).byte 0
        ((y * Stride.row s.width .kI420 0 : Nat) + x) =
          some (luma rgbToYuv s.width s.height fps frameIndex {} y x) :=
      byte_eq size 0 (show y < planeRows s.height 0 by omega)
        (show x < Stride.row s.width .kI420 0 by omega)
    rw [← shown, columns, Nat.cast_mul, Int.toNat_of_nonneg wide.le]
  have pixels (y x : Nat) (row : (y : Int) < s.height) (column : (x : Int) < s.width) :=
    @draw_pixels _ _ fps frameIndex wide tall s.back y x row column
  have columns : s.width.toNat % 7 = s.width % 7 := by omega
  rw [show (s.width % 7 = 0 ∨ s.width % 7 = 6) ↔ (s.width.toNat % 7 = 0 ∨ s.width.toNat % 7 = 6) by
    omega, ← barAt_eq_iff (by omega) (by omega)]
  constructor
  · -- the top row is above the line, so there the luma is that of a bar
    intro same x column
    have bounded : (x : Int) < s.width := by omega
    have above : ¬lineTop s.height ≤ ((0 : Nat) : Int) := by
      rw [lineTop, Int.tdiv_eq_ediv_of_nonneg tall.le]
      omega
    have here := same 0 x tall bounded
    rw [byte 0 x tall bounded, pixels 0 x tall bounded, luma, if_neg fun shown => above shown.1.2,
      if_neg fun shown => above shown.1] at here
    exact palette_luma apart (barAt_lt column) (frameBarAt_lt ..) (Option.some.inj here).symm
  · intro same y x row column
    rw [byte y x row column, pixels y x row column, luma]
    by_cases shown : lineTop s.height ≤ y ∧ lineX s.width fps frameIndex ≤ x ∧
        x < lineX s.width fps frameIndex + lineW s.width
    · rw [if_pos ⟨⟨rfl, shown.1⟩, shown.2⟩, if_pos shown, line]
    · rw [if_neg fun lit => shown ⟨lit.1.2, lit.2⟩, if_neg shown, same x (by omega)]
      rfl

/-- At the size of `encode_file` the two pictures differ. -/
theorem surface_shows_frame_640 :
    ∃ (t : Surface) (picture : Int → Int → Color),
      t.presented = [(some 33333000, picture)] ∧
      ¬∀ y x : Nat, (y : Int) < 480 → (x : Int) < 640 →
        (makeVideoFrame thousandths 640 480 30 0).byte 0 (y * 640 + x) =
          some (thousandths (picture x (480 - 1 - y))).1 := by
  let s : Surface := ⟨640, 480, ⟨⟨0, 0, 640, 480⟩, false, fun _ _ => black⟩, []⟩
  have rendered : s.renderFrame 0 30 33333 {} = (true, (s.renderFrame 0 30 33333 {}).2) := rfl
  have line : (thousandths white).1 = 235 := by decide
  obtain ⟨picture, presented, same⟩ :=
    surface_shows_frame_iff line (by decide) rendered (by decide)
  refine ⟨_, picture, presented, fun all => ?_⟩
  exact absurd (same.mp all) (by decide)

end Surface
end VideoCodec.SmpteBars
