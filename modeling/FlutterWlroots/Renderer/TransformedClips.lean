/-
  FlutterWlroots.Renderer.TransformedClips — the box around a transformed rectangle.

  `flutter_transform_rect` looks at the four corners only.  The coordinates of the image are affine
  functions of the point, so that the corners have the extreme ones, and floor and ceiling make of
  them the edges of the smallest box around the image.

    • `flutterTransformPoint_multiply` — a product does one transformation after the other,
    • `covers_iff`                     — the boxes that cover the image,
    • `flutterTransformRect_tight`     — the box is the smallest of them.
-/
import FlutterWlroots.Lib.Corners
import FlutterWlroots.Renderer.Geometry

namespace FlutterWlroots.Renderer

open Lib.Corners
open FlutterWlroots.Compositor (WlrBox)

/-! ## §1. Transformations. -/

/-- The map of the plane that a matrix stands for: of the point `(x, y, 1)`, divided by the third
    coordinate. -/
def FlutterTransformation.image (t : FlutterTransformation) (x y : ℚ) : ℚ × ℚ :=
  let w := x * t.pers0 + y * t.pers1 + t.pers2
  ((x * t.scaleX + y * t.skewX + t.transX) / w, (x * t.skewY + y * t.scaleY + t.transY) / w)

variable {t a b : FlutterTransformation} {left top right bottom x y : ℚ}

theorem isAffine_iff :
    flutterTransformIsAffine t = true ↔ t.pers0 = 0 ∧ t.pers1 = 0 ∧ t.pers2 = 1 := by
  simp only [flutterTransformIsAffine, Bool.and_eq_true, decide_eq_true_eq, and_assoc]

/-- Where the transformation is affine the third coordinate is 1. -/
theorem image_eq_point (h : flutterTransformIsAffine t = true) (x y : ℚ) :
    t.image x y = flutterTransformPoint t x y := by
  obtain ⟨h0, h1, h2⟩ := isAffine_iff.mp h
  simp only [FlutterTransformation.image, flutterTransformPoint, h0, h1, h2, mul_zero, zero_add,
    div_one]

/-- The product of affine transformations is affine. -/
theorem isAffine_multiply (ha : flutterTransformIsAffine a = true)
    (hb : flutterTransformIsAffine b = true) :
    flutterTransformIsAffine (flutterTransformMultiply a b) = true := by
  obtain ⟨ha0, ha1, ha2⟩ := isAffine_iff.mp ha
  obtain ⟨hb0, hb1, hb2⟩ := isAffine_iff.mp hb
  rw [isAffine_iff]
  simp only [flutterTransformMultiply, ha0, ha1, ha2, hb0, hb1, hb2]
  norm_num

/-- **The product** does the second transformation first. -/
theorem flutterTransformPoint_multiply (hb : flutterTransformIsAffine b = true) (x y : ℚ) :
    flutterTransformPoint (flutterTransformMultiply a b) x y
      = flutterTransformPoint a (flutterTransformPoint b x y).1
        (flutterTransformPoint b x y).2 := by
  obtain ⟨hb0, hb1, hb2⟩ := isAffine_iff.mp hb
  simp only [flutterTransformPoint, flutterTransformMultiply, hb0, hb1, hb2, Prod.mk.injEq]
  constructor
  · ring
  · ring

/-! ## §2. Boxes around an image. -/

/-- The point is in the box, its edges included. -/
def EnclosesPoint (box : WlrBox) (p : ℚ × ℚ) : Prop :=
  ((box.x : ℚ) ≤ p.1 ∧ p.1 ≤ (box.x + box.width : Int))
    ∧ (box.y : ℚ) ≤ p.2 ∧ p.2 ≤ (box.y + box.height : Int)

/-- The box contains the image of every point of the rectangle. -/
def Covers (box : WlrBox) (t : FlutterTransformation) (left top right bottom : ℚ) : Prop :=
  ∀ x y, (left ≤ x ∧ x ≤ right) → (top ≤ y ∧ y ≤ bottom) → EnclosesPoint box (t.image x y)

/-- A box with all of its edges in `int`, and its size. -/
def FitsBox (box : WlrBox) : Prop :=
  (FitsInt box.x ∧ FitsInt (box.x + box.width) ∧ FitsInt box.width)
    ∧ FitsInt box.y ∧ FitsInt (box.y + box.height) ∧ FitsInt box.height

instance (box : WlrBox) : Decidable (FitsBox box) :=
  inferInstanceAs (Decidable ((_ ∧ _ ∧ _) ∧ _ ∧ _ ∧ _))

/-- The image fits in `int`. -/
def ImageFits (t : FlutterTransformation) (left top right bottom : ℚ) : Prop :=
  ∃ box, FitsBox box ∧ Covers box t left top right bottom

/-- The corners, one coordinate of each. -/
def leastCorner (a b c left top right bottom : ℚ) : ℚ :=
  min (min (left * a + top * b + c) (right * a + top * b + c))
    (min (left * a + bottom * b + c) (right * a + bottom * b + c))

def greatestCorner (a b c left top right bottom : ℚ) : ℚ :=
  max (max (left * a + top * b + c) (right * a + top * b + c))
    (max (left * a + bottom * b + c) (right * a + bottom * b + c))

/-- The box of the corners, before `(int)`. -/
def cornerBox (t : FlutterTransformation) (left top right bottom : ℚ) : WlrBox :=
  let ix0 := ⌊leastCorner t.scaleX t.skewX t.transX left top right bottom⌋
  let iy0 := ⌊leastCorner t.skewY t.scaleY t.transY left top right bottom⌋
  let ix1 := ⌈greatestCorner t.scaleX t.skewX t.transX left top right bottom⌉
  let iy1 := ⌈greatestCorner t.skewY t.scaleY t.transY left top right bottom⌉
  ⟨ix0, iy0, ix1 - ix0, iy1 - iy0⟩

/-- **The boxes that cover the image** are those around the box of the corners. -/
theorem covers_iff (h : flutterTransformIsAffine t = true) (hx : left ≤ right) (hy : top ≤ bottom)
    (box : WlrBox) : Covers box t left top right bottom ↔
      (box.x ≤ (cornerBox t left top right bottom).x
          ∧ (cornerBox t left top right bottom).x + (cornerBox t left top right bottom).width
            ≤ box.x + box.width)
        ∧ box.y ≤ (cornerBox t left top right bottom).y
          ∧ (cornerBox t left top right bottom).y + (cornerBox t left top right bottom).height
            ≤ box.y + box.height := by
  have hhor := encloses_iff (isLeast_affineImage t.scaleX t.skewX t.transX hx hy)
    (isGreatest_affineImage t.scaleX t.skewX t.transX hx hy) box.x (box.x + box.width)
  have hver := encloses_iff (isLeast_affineImage t.skewY t.scaleY t.transY hx hy)
    (isGreatest_affineImage t.skewY t.scaleY t.transY hx hy) box.y (box.y + box.height)
  simp only [cornerBox, leastCorner, greatestCorner, add_sub_cancel]
  rw [← hhor, ← hver]
  constructor
  · intro hcov
    constructor
    · rintro v ⟨x, y, hinx, hiny, rfl⟩
      have hpoint := hcov x y hinx hiny
      rw [image_eq_point h] at hpoint
      exact hpoint.1
    · rintro v ⟨x, y, hinx, hiny, rfl⟩
      have hpoint := hcov x y hinx hiny
      rw [image_eq_point h] at hpoint
      exact hpoint.2
  · rintro ⟨hall, hall'⟩ x y hinx hiny
    rw [image_eq_point h]
    exact ⟨hall _ ⟨x, y, hinx, hiny, rfl⟩, hall' _ ⟨x, y, hinx, hiny, rfl⟩⟩

/-! ## §3. The code. -/

theorem toInt_of_fits {n : Int} (h : FitsInt n) : toInt n = some n := if_pos h

/-- **The code** computes the box of the corners, if `int` can hold it. -/
theorem flutterTransformRect_eq (hx : FitsInt (cornerBox t left top right bottom).x)
    (hy : FitsInt (cornerBox t left top right bottom).y)
    (hwidth : FitsInt (cornerBox t left top right bottom).width)
    (hheight : FitsInt (cornerBox t left top right bottom).height) :
    flutterTransformRect t left top right bottom = some (cornerBox t left top right bottom) := by
  let box := cornerBox t left top right bottom
  show (do
    let x ← toInt box.x
    let y ← toInt box.y
    let width ← toInt box.width
    let height ← toInt box.height
    return (⟨x, y, width, height⟩ : WlrBox)) = some box
  rw [toInt_of_fits hx, toInt_of_fits hy, toInt_of_fits hwidth, toInt_of_fits hheight]
  rfl

/-- **The box is the smallest one.**  It covers the image, and every other box that covers it
    reaches as far on each side. -/
theorem flutterTransformRect_tight (t : FlutterTransformation)
    (h : flutterTransformIsAffine t = true) (left top right bottom : ℚ) (hx : left ≤ right)
    (hy : top ≤ bottom) (hfits : ImageFits t left top right bottom) :
    ∃ box, flutterTransformRect t left top right bottom = some box
      ∧ Covers box t left top right bottom
      ∧ ∀ box', Covers box' t left top right bottom →
        (box'.x ≤ box.x ∧ box.x + box.width ≤ box'.x + box'.width)
          ∧ box'.y ≤ box.y ∧ box.y + box.height ≤ box'.y + box'.height := by
  have hcover : Covers (cornerBox t left top right bottom) t left top right bottom :=
    (covers_iff h hx hy _).mpr ⟨⟨le_rfl, le_rfl⟩, le_rfl, le_rfl⟩
  have htight := fun box' => (covers_iff h hx hy box').mp
  have hne := hcover left top ⟨le_rfl, hx⟩ ⟨le_rfl, hy⟩
  -- the smallest box is inside one that fits, so its numbers fit as well
  obtain ⟨box', ⟨⟨hx0, hx1, hw⟩, hy0, hy1, hh⟩, hcover'⟩ := hfits
  obtain ⟨⟨hleft, hright⟩, htop, hbottom⟩ := htight box' hcover'
  have hwidth : 0 ≤ (cornerBox t left top right bottom).width := by
    have hle := hne.1.1.trans hne.1.2
    rw [Int.cast_le] at hle
    omega
  have hheight : 0 ≤ (cornerBox t left top right bottom).height := by
    have hle := hne.2.1.trans hne.2.2
    rw [Int.cast_le] at hle
    omega
  unfold FitsInt at hx0 hx1 hw hy0 hy1 hh
  refine ⟨_, flutterTransformRect_eq ?_ ?_ ?_ ?_, hcover, htight⟩
  all_goals
    unfold FitsInt
    omega

/-- A quarter turn with a skew, of a rectangle with a fractional edge. -/
theorem flutterTransformRect_tight_turned : ∃ box,
    flutterTransformRect ⟨1 / 2, -1, 3, 1, 0, -2, 0, 0, 1⟩ 0 0 1 (3 / 2) = some box
      ∧ Covers box ⟨1 / 2, -1, 3, 1, 0, -2, 0, 0, 1⟩ 0 0 1 (3 / 2) ∧ box = ⟨1, -2, 3, 1⟩ := by
  have hbox : flutterTransformRect ⟨1 / 2, -1, 3, 1, 0, -2, 0, 0, 1⟩ 0 0 1 (3 / 2)
      = some ⟨1, -2, 3, 1⟩ := by decide +kernel
  have hfits : ImageFits ⟨1 / 2, -1, 3, 1, 0, -2, 0, 0, 1⟩ 0 0 1 (3 / 2) := by
    refine ⟨⟨1, -2, 3, 1⟩, by decide, (covers_iff rfl (by norm_num) (by norm_num) _).mpr ?_⟩
    decide +kernel
  obtain ⟨box, hrun, hcover, -⟩ := flutterTransformRect_tight _ rfl 0 0 1 (3 / 2) (by norm_num)
    (by norm_num) hfits
  exact ⟨box, hrun, hcover, Option.some.inj (hrun.symm.trans hbox)⟩

end FlutterWlroots.Renderer
