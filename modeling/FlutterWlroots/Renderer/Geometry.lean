/-
  FlutterWlroots.Renderer.Geometry — rectangles, clips and scaling in renderer.c.

  A platform view is drawn through the transformations and clips that Flutter has put around it.  A
  rectangle is transformed by its corners, a rounded rectangle becomes a region of one rectangle for
  each row of pixels, and boxes are scaled to the pixels of the output.

  Coordinates are exact: `double` is a rational number, and a real number where a square root is
  taken.  A region is the rectangles that were united to it.

    • `flutterTransformRect`          — the box around a transformed rectangle,
    • `pixmanRegion32InitRoundedRect` — the region of a rounded rectangle,
    • `scaleBox`                      — a box at the scale of an output.
-/
import Mathlib.Analysis.Real.Sqrt
import Mathlib.Data.Rat.Floor
import FlutterWlroots.Lib.Rounding
import FlutterWlroots.Compositor.Instance

namespace FlutterWlroots.Renderer

open Lib.Rounding
open FlutterWlroots.Compositor (WlrBox)

/-! ## §1. Transformations. -/

/-- `FlutterTransformation`, a matrix of three rows. -/
structure FlutterTransformation where
  scaleX : ℚ
  skewX : ℚ
  transX : ℚ
  skewY : ℚ
  scaleY : ℚ
  transY : ℚ
  pers0 : ℚ
  pers1 : ℚ
  pers2 : ℚ
  deriving DecidableEq, Repr

/-- `flutter_transform_multiply`. -/
def flutterTransformMultiply (a b : FlutterTransformation) : FlutterTransformation where
  scaleX := a.scaleX * b.scaleX + a.skewX * b.skewY + a.transX * b.pers0
  skewX := a.scaleX * b.skewX + a.skewX * b.scaleY + a.transX * b.pers1
  transX := a.scaleX * b.transX + a.skewX * b.transY + a.transX * b.pers2
  skewY := a.skewY * b.scaleX + a.scaleY * b.skewY + a.transY * b.pers0
  scaleY := a.skewY * b.skewX + a.scaleY * b.scaleY + a.transY * b.pers1
  transY := a.skewY * b.transX + a.scaleY * b.transY + a.transY * b.pers2
  pers0 := a.pers0 * b.scaleX + a.pers1 * b.skewY + a.pers2 * b.pers0
  pers1 := a.pers0 * b.skewX + a.pers1 * b.scaleY + a.pers2 * b.pers1
  pers2 := a.pers0 * b.transX + a.pers1 * b.transY + a.pers2 * b.pers2

/-- `flutter_transform_is_affine`. -/
def flutterTransformIsAffine (transform : FlutterTransformation) : Bool :=
  transform.pers0 = 0 && transform.pers1 = 0 && transform.pers2 = 1

/-- `flutter_transform_point`. -/
def flutterTransformPoint (transform : FlutterTransformation) (x y : ℚ) : ℚ × ℚ :=
  (x * transform.scaleX + y * transform.skewX + transform.transX,
    x * transform.skewY + y * transform.scaleY + transform.transY)

/-- Values of an `int`. -/
def FitsInt (x : Int) : Prop := -2 ^ 31 ≤ x ∧ x < 2 ^ 31

instance (x : Int) : Decidable (FitsInt x) := inferInstanceAs (Decidable (_ ∧ _))

/-- `(int)`; nothing is said about values that an `int` cannot hold. -/
def toInt (x : Int) : Option Int := if FitsInt x then some x else none

/-- `flutter_transform_rect`. -/
def flutterTransformRect (transform : FlutterTransformation) (left top right bottom : ℚ) :
    Option WlrBox := do
  let (tx0, ty0) := flutterTransformPoint transform left top
  let (tx1, ty1) := flutterTransformPoint transform right top
  let (tx2, ty2) := flutterTransformPoint transform left bottom
  let (tx3, ty3) := flutterTransformPoint transform right bottom
  let minX := min (min tx0 tx1) (min tx2 tx3)
  let maxX := max (max tx0 tx1) (max tx2 tx3)
  let minY := min (min ty0 ty1) (min ty2 ty3)
  let maxY := max (max ty0 ty1) (max ty2 ty3)
  let ix0 := ⌊minX⌋
  let iy0 := ⌊minY⌋
  let ix1 := ⌈maxX⌉
  let iy1 := ⌈maxY⌉
  let x ← toInt ix0
  let y ← toInt iy0
  let width ← toInt (ix1 - ix0)
  let height ← toInt (iy1 - iy0)
  return { x, y, width, height }

/-! ## §2. Rounded rectangles. -/

/-- `clamp_int`. -/
def clampInt (v lo hi : Int) : Int := if v < lo then lo else if v > hi then hi else v

/-- `ellipse_inset`. -/
noncomputable def ellipseInset (dy : ℝ) (rx ry : Int) : Int :=
  if rx ≤ 0 ∨ ry ≤ 0 then 0
  else
    let ady := |dy|
    if ady ≥ ry then rx
    else
      let t := 1 - (ady * ady) / (ry * ry)
      if t ≤ 0 then rx
      else
        let xBoundary := rx - rx * Real.sqrt t
        let inset := ⌈xBoundary⌉
        let inset := if inset < 0 then 0 else inset
        if inset > rx then rx else inset

/-- The eight radii, one each way for every corner. -/
structure CornerRadii where
  rTlX : Int
  rTlY : Int
  rTrX : Int
  rTrY : Int
  rBrX : Int
  rBrY : Int
  rBlX : Int
  rBlY : Int
  deriving DecidableEq, Repr

/-- The radii clamped to half of the size. -/
def CornerRadii.clamp (r : CornerRadii) (halfW halfH : Int) : CornerRadii where
  rTlX := clampInt r.rTlX 0 halfW
  rTrX := clampInt r.rTrX 0 halfW
  rBrX := clampInt r.rBrX 0 halfW
  rBlX := clampInt r.rBlX 0 halfW
  rTlY := clampInt r.rTlY 0 halfH
  rTrY := clampInt r.rTrY 0 halfH
  rBrY := clampInt r.rBrY 0 halfH
  rBlY := clampInt r.rBlY 0 halfH

/-- `pixman_region32_t`. -/
structure PixmanRegion32 where
  rects : List WlrBox

/-- `pixman_region32_init`. -/
def PixmanRegion32.init : PixmanRegion32 := ⟨[]⟩

/-- `pixman_region32_union_rect`. -/
def PixmanRegion32.unionRect (source : PixmanRegion32) (x y width height : Int) : PixmanRegion32 :=
  ⟨{ x, y, width, height } :: source.rects⟩

/-- The pixels of a region. -/
def PixmanRegion32.Contains (region : PixmanRegion32) (px py : Int) : Prop :=
  ∃ box ∈ region.rects,
    (box.x ≤ px ∧ px < box.x + box.width) ∧ box.y ≤ py ∧ py < box.y + box.height

/-- The rows from `start` on, in front of `stop`. -/
def rows (start stop : Int) : List Int :=
  (List.range (stop - start).toNat).map fun i : Nat => start + i

/-- One side of a row of the top band: `y_center - r_y` is the distance from the middle of the
    corner. -/
noncomputable def topInset (rX rY row : Int) : Int :=
  if rY > 0 ∧ row < rY then ellipseInset ((row : ℝ) + 0.5 - rY) rX rY else 0

/-- One side of a row of the bottom band. -/
noncomputable def bottomInset (height rX rY row : Int) : Int :=
  if rY > 0 ∧ row ≥ height - rY then ellipseInset ((row : ℝ) + 0.5 - (height - rY : Int)) rX rY
  else 0

/-- What a row adds to the region. -/
def unionRow (dst : PixmanRegion32) (x y width row insetLeft insetRight : Int) : PixmanRegion32 :=
  let w := width - insetLeft - insetRight
  if w > 0 then dst.unionRect (x + insetLeft) (y + row) w 1 else dst

/-- `pixman_region32_init_rounded_rect`. -/
noncomputable def pixmanRegion32InitRoundedRect (x y width height : Int) (radii : CornerRadii) :
    PixmanRegion32 :=
  if width ≤ 0 ∨ height ≤ 0 then .init
  else
    let r := radii.clamp (width / 2) (height / 2)
    let topBand := if r.rTlY > r.rTrY then r.rTlY else r.rTrY
    let bottomBand := if r.rBlY > r.rBrY then r.rBlY else r.rBrY
    -- the middle band has the full width
    let middleH := height - topBand - bottomBand
    let init := PixmanRegion32.init
    let dst := if middleH > 0 then init.unionRect x (y + topBand) width middleH else init
    let dst := (rows 0 topBand).foldl (fun dst row =>
      unionRow dst x y width row (topInset r.rTlX r.rTlY row) (topInset r.rTrX r.rTrY row)) dst
    (rows (height - bottomBand) height).foldl (fun dst row =>
      if row < 0 then dst
      else unionRow dst x y width row (bottomInset height r.rBlX r.rBlY row)
        (bottomInset height r.rBrX r.rBrY row)) dst

/-! ## §3. Scaling. -/

/-- `scale_box`. -/
def scaleBox (box : WlrBox) (scale : ℚ) : Option WlrBox :=
  if scale = 1 then some box
  else do
    let x ← toInt (lround (box.x * scale))
    let y ← toInt (lround (box.y * scale))
    let width ← toInt (lround (box.width * scale))
    let height ← toInt (lround (box.height * scale))
    return { x, y, width, height }

end FlutterWlroots.Renderer
