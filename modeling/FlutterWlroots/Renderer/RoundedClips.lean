/-
  FlutterWlroots.Renderer.RoundedClips — the region of a rounded rectangle.

  The radii are clamped to half of the size, so that the bands of the upper and of the lower corners
  do not meet, and each row of pixels gets one interval: the width less an inset on each side.  The
  lower bands are the upper ones upside down (`bottomInset_eq`), and an inset grows with the
  distance from the middle of its corner (`ellipseInset_mono`).

    • `contains_roundedRect`   — the pixels of the region, row by row,
    • `roundedRect_wellShaped` — the shape.
-/
import FlutterWlroots.Renderer.Geometry

namespace FlutterWlroots.Renderer

open FlutterWlroots.Compositor (WlrBox)

/-! ## §1. Insets. -/

theorem clampInt_bounds {lo hi : Int} (v : Int) (h : lo ≤ hi) :
    lo ≤ clampInt v lo hi ∧ clampInt v lo hi ≤ hi := by
  unfold clampInt
  split_ifs
  all_goals omega

section Ellipse

variable {dy dy' : ℝ} {rx ry : Int}

theorem ellipseInset_bounds (h : 0 ≤ rx) (dy : ℝ) (ry : Int) :
    0 ≤ ellipseInset dy rx ry ∧ ellipseInset dy rx ry ≤ rx := by
  unfold ellipseInset
  dsimp only
  split_ifs
  all_goals omega

/-- The side does not matter. -/
theorem ellipseInset_congr (h : |dy| = |dy'|) : ellipseInset dy rx ry = ellipseInset dy' rx ry := by
  unfold ellipseInset
  rw [h]

/-- The square of the half width of the ellipse, as a part of that in the middle. -/
noncomputable def ellipsePart (dy : ℝ) (ry : Int) : ℝ := 1 - (|dy| * |dy|) / (ry * ry)

theorem ellipsePart_bounds (hry : 0 < ry) (h : |dy| < ry) :
    0 < ellipsePart dy ry ∧ ellipsePart dy ry ≤ 1 := by
  have hry' : (0 : ℝ) < ry := Int.cast_pos.mpr hry
  have hsquare : |dy| * |dy| < ry * ry := mul_self_lt_mul_self (abs_nonneg dy) h
  unfold ellipsePart
  constructor
  · rw [sub_pos, div_lt_one (mul_pos hry' hry')]
    exact hsquare
  · rw [sub_le_self_iff]
    positivity

/-- Inside the ellipse the inset is not clamped. -/
theorem ellipseInset_inside (hrx : 0 < rx) (hry : 0 < ry) (h : |dy| < ry) :
    ellipseInset dy rx ry = ⌈(rx : ℝ) - rx * Real.sqrt (ellipsePart dy ry)⌉ := by
  obtain ⟨hpos, hle⟩ := ellipsePart_bounds hry h
  have hrx' : (0 : ℝ) < rx := Int.cast_pos.mpr hrx
  have hsqrt : Real.sqrt (ellipsePart dy ry) ≤ 1 := Real.sqrt_le_one.mpr hle
  have hlow : 0 ≤ ⌈(rx : ℝ) - rx * Real.sqrt (ellipsePart dy ry)⌉ := by
    refine Int.ceil_nonneg ?_
    rw [sub_nonneg]
    exact mul_le_of_le_one_right hrx'.le hsqrt
  have hhigh : ⌈(rx : ℝ) - rx * Real.sqrt (ellipsePart dy ry)⌉ ≤ rx := by
    rw [Int.ceil_le, sub_le_self_iff]
    exact mul_nonneg hrx'.le (Real.sqrt_nonneg _)
  unfold ellipsePart at hpos hlow hhigh ⊢
  unfold ellipseInset
  dsimp only
  rw [if_neg (by omega), if_neg (not_le.mpr h), if_neg (not_le.mpr hpos),
    if_neg (not_lt.mpr hlow), if_neg (not_lt.mpr hhigh)]

/-- **Further away from the middle** the inset is not smaller. -/
theorem ellipseInset_mono (hrx : 0 ≤ rx) (h : |dy| ≤ |dy'|) :
    ellipseInset dy rx ry ≤ ellipseInset dy' rx ry := by
  by_cases hnone : rx ≤ 0 ∨ ry ≤ 0
  · unfold ellipseInset
    rw [if_pos hnone, if_pos hnone]
  · rw [not_or, not_le, not_le] at hnone
    rcases lt_or_ge |dy'| (ry : ℝ) with hin | hout
    · have hry' : (0 : ℝ) < ry := Int.cast_pos.mpr hnone.2
      have hpart : ellipsePart dy' ry ≤ ellipsePart dy ry := by
        unfold ellipsePart
        gcongr
      rw [ellipseInset_inside hnone.1 hnone.2 hin,
        ellipseInset_inside hnone.1 hnone.2 (lt_of_le_of_lt h hin)]
      refine Int.ceil_le_ceil (sub_le_sub_left ?_ _)
      exact mul_le_mul_of_nonneg_left (Real.sqrt_le_sqrt hpart) (Int.cast_nonneg hrx)
    · -- outside of the ellipse it is the whole radius
      have hwhole : ellipseInset dy' rx ry = rx := by
        unfold ellipseInset
        dsimp only
        rw [if_neg (by omega), if_pos hout]
      rw [hwhole]
      exact (ellipseInset_bounds hrx dy ry).2

end Ellipse

/-! ## §2. Rows of a corner. -/

section Corner

variable {rX rY : Int}

theorem topInset_bounds (h : 0 ≤ rX) (rY row : Int) :
    0 ≤ topInset rX rY row ∧ topInset rX rY row ≤ rX := by
  unfold topInset
  split
  · exact ellipseInset_bounds h _ rY
  · exact ⟨le_rfl, h⟩

theorem topInset_of_ge {row : Int} (h : rY ≤ row) : topInset rX rY row = 0 := by
  unfold topInset
  rw [if_neg (by omega)]

/-- Towards the middle of a corner the inset does not grow. -/
theorem topInset_anti (h : 0 ≤ rX) {i j : Int} (hij : i ≤ j) :
    topInset rX rY j ≤ topInset rX rY i := by
  rcases le_or_gt rY j with hge | hlt
  · rw [topInset_of_ge hge]
    exact (topInset_bounds h rY i).1
  · unfold topInset
    by_cases hpos : rY > 0
    · rw [if_pos ⟨hpos, hlt⟩, if_pos ⟨hpos, by omega⟩]
      refine ellipseInset_mono h ?_
      have hij' : (i : ℝ) ≤ j := Int.cast_le.mpr hij
      have hlt' : (j : ℝ) + 1 ≤ rY := by exact_mod_cast hlt
      -- both rows are above the middle, the middles of their pixels too
      rw [abs_of_nonpos (by linarith), abs_of_nonpos (by linarith)]
      linarith
    · rw [if_neg fun hand => hpos hand.1, if_neg fun hand => hpos hand.1]

/-- **Upside down** a lower corner is an upper one. -/
theorem bottomInset_eq (height row : Int) :
    bottomInset height rX rY row = topInset rX rY (height - 1 - row) := by
  have hsame : (rY > 0 ∧ row ≥ height - rY) ↔ (rY > 0 ∧ height - 1 - row < rY) := by omega
  unfold bottomInset topInset
  simp only [hsame]
  split
  · refine ellipseInset_congr ?_
    rw [← abs_neg]
    congr 1
    push_cast
    ring
  · rfl

end Corner

/-! ## §3. Regions built row by row. -/

section Rows

variable {dst : PixmanRegion32} {px py : Int}

theorem mem_rows {start stop row : Int} : row ∈ rows start stop ↔ start ≤ row ∧ row < stop := by
  unfold rows
  rw [List.mem_map]
  constructor
  · rintro ⟨i, hi, rfl⟩
    rw [List.mem_range] at hi
    omega
  · rintro ⟨hle, hlt⟩
    exact ⟨(row - start).toNat, List.mem_range.mpr (by omega), by omega⟩

theorem not_contains_init : ¬ PixmanRegion32.init.Contains px py := by
  rintro ⟨box, hbox, -⟩
  exact List.not_mem_nil hbox

theorem contains_unionRect {x y width height : Int} :
    (dst.unionRect x y width height).Contains px py ↔
      dst.Contains px py ∨ (x ≤ px ∧ px < x + width) ∧ y ≤ py ∧ py < y + height := by
  unfold PixmanRegion32.Contains PixmanRegion32.unionRect
  rw [List.exists_mem_cons_iff, or_comm]

/-- **A row** is an interval, or nothing if the insets take all of it. -/
theorem contains_unionRow {x y width row insetLeft insetRight : Int} :
    (unionRow dst x y width row insetLeft insetRight).Contains px py ↔ dst.Contains px py
      ∨ py = y + row ∧ x + insetLeft ≤ px ∧ px < x + width - insetRight := by
  unfold unionRow
  dsimp only
  split
  · rw [contains_unionRect]
    refine or_congr Iff.rfl ?_
    omega
  · rw [iff_self_or]
    omega

/-- **A loop over rows** each of which adds the pixels `Q`. -/
theorem contains_foldl {step : PixmanRegion32 → Int → PixmanRegion32} {Q : Int → Prop} :
    ∀ (rows : List Int) (dst : PixmanRegion32),
      (∀ row ∈ rows, ∀ dst, (step dst row).Contains px py ↔ dst.Contains px py ∨ Q row) →
      ((rows.foldl step dst).Contains px py ↔ dst.Contains px py ∨ ∃ row ∈ rows, Q row)
  | [], dst, _ => by
      simp
  | row :: rows, dst, h => by
      rw [List.foldl_cons,
        contains_foldl rows (step dst row) fun r hr => h r (List.mem_cons_of_mem _ hr),
        h row List.mem_cons_self, List.exists_mem_cons_iff, or_assoc]

end Rows

/-! ## §4. One side. -/

/-- The inset of a row on one side, with the radii of its upper and its lower corner; `band` is the
    height of the upper band. -/
noncomputable def sideInset (band height topX topY bottomX bottomY row : Int) : Int :=
  if row < band then topInset topX topY row else bottomInset height bottomX bottomY row

section Side

variable {band height lower topX topY bottomX bottomY row : Int}

theorem sideInset_bounds (htop : 0 ≤ topX) (hbottom : 0 ≤ bottomX) :
    0 ≤ sideInset band height topX topY bottomX bottomY row
      ∧ sideInset band height topX topY bottomX bottomY row ≤ max topX bottomX := by
  unfold sideInset
  split
  · have hbounds := topInset_bounds htop topY row
    exact ⟨hbounds.1, le_max_of_le_left hbounds.2⟩
  · have hbounds := topInset_bounds hbottom bottomY (height - 1 - row)
    rw [← bottomInset_eq] at hbounds
    exact ⟨hbounds.1, le_max_of_le_right hbounds.2⟩

theorem sideInset_upper (h : row < band) :
    sideInset band height topX topY bottomX bottomY row = topInset topX topY row := if_pos h

theorem sideInset_lower (h : band ≤ row) :
    sideInset band height topX topY bottomX bottomY row = bottomInset height bottomX bottomY row :=
  if_neg (not_lt.mpr h)

/-- Between the bands nothing is cut off. -/
theorem sideInset_middle (h : band ≤ row) (h' : row < height - lower) (hlower : bottomY ≤ lower) :
    sideInset band height topX topY bottomX bottomY row = 0 := by
  rw [sideInset_lower h, bottomInset_eq, topInset_of_ge (by omega)]

/-- **From the top edge on** the insets do not grow. -/
theorem sideInset_anti (htop : 0 ≤ topX) (hbottom : 0 ≤ bottomX) (hlower : bottomY ≤ lower)
    {i j : Int} (hij : i ≤ j) (hj : j < height - lower) :
    sideInset band height topX topY bottomX bottomY j
      ≤ sideInset band height topX topY bottomX bottomY i := by
  rcases lt_or_ge j band with hlt | hge
  · rw [sideInset_upper hlt, sideInset_upper (lt_of_le_of_lt hij hlt)]
    exact topInset_anti htop hij
  · rw [sideInset_middle hge hj hlower]
    exact (sideInset_bounds htop hbottom).1

/-- **Towards the bottom edge** they do not shrink. -/
theorem sideInset_mono (hbottom : 0 ≤ bottomX) {i j : Int} (hi : band ≤ i) (hij : i ≤ j) :
    sideInset band height topX topY bottomX bottomY i
      ≤ sideInset band height topX topY bottomX bottomY j := by
  rw [sideInset_lower hi, sideInset_lower (hi.trans hij), bottomInset_eq, bottomInset_eq]
  exact topInset_anti hbottom (by omega)

/-- With the same corners above and below, the rows are the same from both edges on. -/
theorem sideInset_mirror (h : 2 * topY ≤ height) (row : Int) :
    sideInset topY height topX topY topX topY (height - 1 - row)
      = sideInset topY height topX topY topX topY row := by
  have hback : height - 1 - (height - 1 - row) = row := by omega
  rcases lt_or_ge row topY with hlt | hge
  · rw [sideInset_upper hlt, sideInset_lower (by omega), bottomInset_eq, hback]
  · rw [sideInset_lower hge, bottomInset_eq]
    rcases lt_or_ge (height - 1 - row) topY with hlt' | hge'
    · rw [sideInset_upper hlt']
    · rw [sideInset_lower hge', bottomInset_eq, hback, topInset_of_ge hge, topInset_of_ge hge']

end Side

/-! ## §5. The region. -/

namespace CornerRadii

/-- The heights of the upper and of the lower corners. -/
def topBand (r : CornerRadii) : Int := if r.rTlY > r.rTrY then r.rTlY else r.rTrY

def bottomBand (r : CornerRadii) : Int := if r.rBlY > r.rBrY then r.rBlY else r.rBrY

/-- The insets of a row. -/
noncomputable def leftInset (r : CornerRadii) (height row : Int) : Int :=
  sideInset r.topBand height r.rTlX r.rTlY r.rBlX r.rBlY row

noncomputable def rightInset (r : CornerRadii) (height row : Int) : Int :=
  sideInset r.topBand height r.rTrX r.rTrY r.rBrX r.rBrY row

/-- All corners have the same radii. -/
def Same (r : CornerRadii) : Prop :=
  (r.rTrX = r.rTlX ∧ r.rBrX = r.rTlX ∧ r.rBlX = r.rTlX)
    ∧ r.rTrY = r.rTlY ∧ r.rBrY = r.rTlY ∧ r.rBlY = r.rTlY

/-- Radii between zero and half of the size. -/
structure Within (r : CornerRadii) (width height : Int) : Prop where
  tl : (0 ≤ r.rTlX ∧ 2 * r.rTlX ≤ width) ∧ 0 ≤ r.rTlY ∧ 2 * r.rTlY ≤ height
  tr : (0 ≤ r.rTrX ∧ 2 * r.rTrX ≤ width) ∧ 0 ≤ r.rTrY ∧ 2 * r.rTrY ≤ height
  br : (0 ≤ r.rBrX ∧ 2 * r.rBrX ≤ width) ∧ 0 ≤ r.rBrY ∧ 2 * r.rBrY ≤ height
  bl : (0 ≤ r.rBlX ∧ 2 * r.rBlX ≤ width) ∧ 0 ≤ r.rBlY ∧ 2 * r.rBlY ≤ height

variable {r : CornerRadii} {width height row : Int}

theorem within_clamp (r : CornerRadii) (hw : 1 ≤ width) (hh : 1 ≤ height) :
    (r.clamp (width / 2) (height / 2)).Within width height := by
  have hx : ∀ v, 0 ≤ clampInt v 0 (width / 2) ∧ 2 * clampInt v 0 (width / 2) ≤ width := by
    intro v
    have hbounds := clampInt_bounds v (show 0 ≤ width / 2 by omega)
    omega
  have hy : ∀ v, 0 ≤ clampInt v 0 (height / 2) ∧ 2 * clampInt v 0 (height / 2) ≤ height := by
    intro v
    have hbounds := clampInt_bounds v (show 0 ≤ height / 2 by omega)
    omega
  exact ⟨⟨hx _, hy _⟩, ⟨hx _, hy _⟩, ⟨hx _, hy _⟩, ⟨hx _, hy _⟩⟩

theorem Same.clamp (h : r.Same) (halfW halfH : Int) : (r.clamp halfW halfH).Same := by
  obtain ⟨⟨h1, h2, h3⟩, h4, h5, h6⟩ := h
  unfold Same CornerRadii.clamp
  simp only [h1, h2, h3, h4, h5, h6, and_self]

theorem le_bottomBand (r : CornerRadii) : r.rBlY ≤ r.bottomBand ∧ r.rBrY ≤ r.bottomBand := by
  unfold bottomBand
  split
  all_goals omega

/-- **The bands do not meet.** -/
theorem Within.bands (h : r.Within width height) : 0 ≤ r.topBand ∧ 0 ≤ r.bottomBand
    ∧ r.topBand ≤ height - r.bottomBand := by
  obtain ⟨htl, htr, hbr, hbl⟩ := h
  unfold topBand bottomBand
  split_ifs
  all_goals omega

/-- What is cut off on both sides is not more than the width. -/
theorem Within.insets (h : r.Within width height) (row : Int) :
    0 ≤ r.leftInset height row ∧ 0 ≤ r.rightInset height row
      ∧ r.leftInset height row + r.rightInset height row ≤ width := by
  have hleft : 0 ≤ r.leftInset height row ∧ r.leftInset height row ≤ max r.rTlX r.rBlX :=
    sideInset_bounds h.tl.1.1 h.bl.1.1
  have hright : 0 ≤ r.rightInset height row ∧ r.rightInset height row ≤ max r.rTrX r.rBrX :=
    sideInset_bounds h.tr.1.1 h.br.1.1
  obtain ⟨htl, htr, hbr, hbl⟩ := h
  omega

end CornerRadii

/-- The pixels of a row. -/
def InRow (x y width height : Int) (r : CornerRadii) (px py row : Int) : Prop :=
  py = y + row ∧ x + r.leftInset height row ≤ px ∧ px < x + width - r.rightInset height row

/-- The rows between the bands. -/
def middleBand (x y width height : Int) (r : CornerRadii) : PixmanRegion32 :=
  if height - r.topBand - r.bottomBand > 0 then
    PixmanRegion32.init.unionRect x (y + r.topBand) width (height - r.topBand - r.bottomBand)
  else .init

/-- They have no insets. -/
theorem contains_middleBand {x y width height px py : Int} {r : CornerRadii} :
    (middleBand x y width height r).Contains px py ↔
      ∃ row, (r.topBand ≤ row ∧ row < height - r.bottomBand)
        ∧ InRow x y width height r px py row := by
  have hlower := r.le_bottomBand
  have hinsets : ∀ row, r.topBand ≤ row → row < height - r.bottomBand →
      r.leftInset height row = 0 ∧ r.rightInset height row = 0 := fun row hge hlt =>
    ⟨sideInset_middle hge hlt hlower.1, sideInset_middle hge hlt hlower.2⟩
  unfold middleBand
  split
  · rw [contains_unionRect, or_iff_right not_contains_init]
    constructor
    · intro hin
      obtain ⟨hleft, hright⟩ := hinsets (py - y) (by omega) (by omega)
      refine ⟨py - y, by omega, by omega, ?_⟩
      rw [hleft, hright]
      omega
    · rintro ⟨row, hrow, rfl, hin⟩
      obtain ⟨hleft, hright⟩ := hinsets row hrow.1 hrow.2
      rw [hleft, hright] at hin
      omega
  · refine iff_of_false not_contains_init ?_
    rintro ⟨row, hrow, -⟩
    omega

/-- **The pixels of the region**, row by row. -/
theorem contains_roundedRect {x y width height px py : Int} (radii : CornerRadii) (hw : 1 ≤ width)
    (hh : 1 ≤ height) :
    (pixmanRegion32InitRoundedRect x y width height radii).Contains px py ↔
      ∃ row, (0 ≤ row ∧ row < height)
        ∧ InRow x y width height (radii.clamp (width / 2) (height / 2)) px py row := by
  have hwithin := radii.within_clamp hw hh
  unfold pixmanRegion32InitRoundedRect
  rw [if_neg (by omega)]
  dsimp only
  generalize radii.clamp (width / 2) (height / 2) = r at hwithin ⊢
  obtain ⟨htop, hbottom, hbands⟩ := hwithin.bands
  have hlower := r.le_bottomBand
  change PixmanRegion32.Contains ((rows (height - r.bottomBand) height).foldl _
    ((rows 0 r.topBand).foldl _ (middleBand x y width height r))) px py ↔ _
  rw [contains_foldl (Q := InRow x y width height r px py),
    contains_foldl (Q := InRow x y width height r px py), contains_middleBand]
  · simp only [mem_rows]
    constructor
    · rintro ((⟨row, hrow, hin⟩ | ⟨row, hrow, hin⟩) | ⟨row, hrow, hin⟩)
      · exact ⟨row, by omega, hin⟩
      · exact ⟨row, by omega, hin⟩
      · exact ⟨row, by omega, hin⟩
    · rintro ⟨row, hrow, hin⟩
      rcases lt_or_ge row r.topBand with hlt | hge
      · exact .inl (.inr ⟨row, ⟨hrow.1, hlt⟩, hin⟩)
      · rcases lt_or_ge row (height - r.bottomBand) with hlt' | hge'
        · exact .inl (.inl ⟨row, ⟨hge, hlt'⟩, hin⟩)
        · exact .inr ⟨row, ⟨hge', hrow.2⟩, hin⟩
  · intro row hrow dst
    rw [mem_rows] at hrow
    rw [contains_unionRow, InRow, CornerRadii.leftInset, CornerRadii.rightInset,
      sideInset_upper hrow.2, sideInset_upper hrow.2]
  · intro row hrow dst
    rw [mem_rows] at hrow
    rw [if_neg (by omega), contains_unionRow, InRow, CornerRadii.leftInset, CornerRadii.rightInset,
      sideInset_lower (by omega), sideInset_lower (by omega)]

/-! ## §6. The shape. -/

/-- What a clip with rounded corners should look like. -/
structure WellShaped (x y width height : Int) (radii : CornerRadii) (region : PixmanRegion32) :
    Prop where
  /-- It is inside the rectangle. -/
  inside : ∀ px py, region.Contains px py →
    (x ≤ px ∧ px < x + width) ∧ y ≤ py ∧ py < y + height
  /-- Each row is one interval. -/
  interval : ∀ py, ∃ start stop, ∀ px, region.Contains px py ↔ start ≤ px ∧ px < stop
  /-- The insets are what the rows leave out. -/
  insets : ∀ row, 0 ≤ row → row < height → ∀ px, region.Contains px (y + row) ↔
    x + radii.leftInset height row ≤ px ∧ px < x + width - radii.rightInset height row
  /-- Between the bands of the corners the rows have the full width. -/
  full : ∀ row, radii.topBand ≤ row → row < height - radii.bottomBand → ∀ px,
    region.Contains px (y + row) ↔ x ≤ px ∧ px < x + width
  /-- From the top edge on the insets do not grow. -/
  upper : ∀ i j, 0 ≤ i → i ≤ j → j < height - radii.bottomBand →
    radii.leftInset height j ≤ radii.leftInset height i
      ∧ radii.rightInset height j ≤ radii.rightInset height i
  /-- And neither do they from the bottom edge on. -/
  lower : ∀ i j, radii.topBand ≤ i → i ≤ j → j < height →
    radii.leftInset height i ≤ radii.leftInset height j
      ∧ radii.rightInset height i ≤ radii.rightInset height j

/-- The region is its own mirror image, both ways. -/
def Mirrored (x y width height : Int) (region : PixmanRegion32) : Prop :=
  ∀ dx dy, (region.Contains (x + (width - 1 - dx)) (y + dy) ↔ region.Contains (x + dx) (y + dy))
    ∧ (region.Contains (x + dx) (y + (height - 1 - dy)) ↔ region.Contains (x + dx) (y + dy))

section Shape

variable {x y width height : Int} {radii : CornerRadii}

/-- A pixel, by its row. -/
theorem contains_at (radii : CornerRadii) (hw : 1 ≤ width) (hh : 1 ≤ height) (px py : Int) :
    (pixmanRegion32InitRoundedRect x y width height radii).Contains px py ↔
      (0 ≤ py - y ∧ py - y < height)
        ∧ x + (radii.clamp (width / 2) (height / 2)).leftInset height (py - y) ≤ px
        ∧ px < x + width - (radii.clamp (width / 2) (height / 2)).rightInset height (py - y) := by
  rw [contains_roundedRect radii hw hh]
  constructor
  · rintro ⟨row, hrow, rfl, hin⟩
    rw [add_sub_cancel_left]
    exact ⟨hrow, hin⟩
  · rintro ⟨hrow, hin⟩
    exact ⟨py - y, hrow, (add_sub_cancel y py).symm, hin⟩

theorem wellShaped_roundedRect (x y : Int) (radii : CornerRadii) (hw : 1 ≤ width)
    (hh : 1 ≤ height) :
    WellShaped x y width height (radii.clamp (width / 2) (height / 2))
      (pixmanRegion32InitRoundedRect x y width height radii) := by
  have hwithin := radii.within_clamp hw hh
  have hcontains := contains_at (x := x) (y := y) radii hw hh
  -- from here on only the bounds of the clamped radii matter
  generalize radii.clamp (width / 2) (height / 2) = r at hwithin hcontains ⊢
  have hlower := r.le_bottomBand
  obtain ⟨htop, hbottom, hbands⟩ := hwithin.bands
  constructor
  case inside =>
    intro px py h
    rw [hcontains] at h
    have hinsets := hwithin.insets (py - y)
    omega
  case interval =>
    intro py
    by_cases hin : 0 ≤ py - y ∧ py - y < height
    · refine ⟨x + r.leftInset height (py - y), x + width - r.rightInset height (py - y),
        fun px => ?_⟩
      rw [hcontains, and_iff_right hin]
    · refine ⟨x, x, fun px => ?_⟩
      rw [hcontains]
      exact iff_of_false (fun h => hin h.1) (by omega)
  case insets =>
    intro row hle hlt px
    rw [hcontains, add_sub_cancel_left, and_iff_right ⟨hle, hlt⟩]
  case full =>
    intro row hle hlt px
    rw [hcontains, add_sub_cancel_left, CornerRadii.leftInset, CornerRadii.rightInset,
      sideInset_middle hle hlt hlower.1, sideInset_middle hle hlt hlower.2]
    omega
  case upper =>
    intro i j _ hij hj
    exact ⟨sideInset_anti hwithin.tl.1.1 hwithin.bl.1.1 hlower.1 hij hj,
      sideInset_anti hwithin.tr.1.1 hwithin.br.1.1 hlower.2 hij hj⟩
  case lower =>
    intro i j hi hij _
    exact ⟨sideInset_mono hwithin.bl.1.1 hi hij, sideInset_mono hwithin.br.1.1 hi hij⟩

/-- With the same radii everywhere both sides have the same insets, from above and from below. -/
theorem CornerRadii.Same.insets {r : CornerRadii} (h : r.Same) (hwithin : r.Within width height)
    (row : Int) : r.rightInset height row = r.leftInset height row
      ∧ r.leftInset height (height - 1 - row) = r.leftInset height row := by
  obtain ⟨⟨htrX, hbrX, hblX⟩, htrY, hbrY, hblY⟩ := h
  have hband : r.topBand = r.rTlY := by
    unfold topBand
    rw [htrY, if_neg (lt_irrefl _)]
  unfold rightInset leftInset
  rw [htrX, hbrX, hblX, htrY, hbrY, hblY, hband]
  exact ⟨rfl, sideInset_mirror hwithin.tl.2.2 row⟩

theorem mirrored_roundedRect (x y : Int) (radii : CornerRadii) (hw : 1 ≤ width) (hh : 1 ≤ height)
    (hsame : radii.Same) :
    Mirrored x y width height (pixmanRegion32InitRoundedRect x y width height radii) := by
  have hinsets := (hsame.clamp (width / 2) (height / 2)).insets (radii.within_clamp hw hh)
  intro dx dy
  rw [contains_at radii hw hh, contains_at radii hw hh, contains_at radii hw hh,
    add_sub_cancel_left, add_sub_cancel_left, (hinsets dy).1, (hinsets (height - 1 - dy)).1,
    (hinsets dy).2]
  omega

/-- **Rounded clips are well shaped**, and symmetric where all corners are the same. -/
theorem roundedRect_wellShaped (x y width height : Int) (radii : CornerRadii) (hw : 1 ≤ width)
    (hh : 1 ≤ height) :
    WellShaped x y width height (radii.clamp (width / 2) (height / 2))
        (pixmanRegion32InitRoundedRect x y width height radii)
      ∧ (radii.Same →
        Mirrored x y width height (pixmanRegion32InitRoundedRect x y width height radii)) :=
  ⟨wellShaped_roundedRect x y radii hw hh, mirrored_roundedRect x y radii hw hh⟩

end Shape

/-- A rectangle of an odd width, with radii that are clamped. -/
theorem roundedRect_wellShaped_pill :
    WellShaped 10 20 7 4 ⟨3, 2, 3, 2, 3, 2, 3, 2⟩
        (pixmanRegion32InitRoundedRect 10 20 7 4 ⟨9, 9, 9, 9, 9, 9, 9, 9⟩)
      ∧ Mirrored 10 20 7 4 (pixmanRegion32InitRoundedRect 10 20 7 4 ⟨9, 9, 9, 9, 9, 9, 9, 9⟩) := by
  obtain ⟨hshape, hmirror⟩ := roundedRect_wellShaped 10 20 7 4 ⟨9, 9, 9, 9, 9, 9, 9, 9⟩ (by decide)
    (by decide)
  exact ⟨hshape, hmirror ⟨⟨rfl, rfl, rfl⟩, rfl, rfl, rfl⟩⟩

end FlutterWlroots.Renderer
