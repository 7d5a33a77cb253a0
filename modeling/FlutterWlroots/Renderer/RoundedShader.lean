/-
  FlutterWlroots.Renderer.RoundedShader — the shader for rounded clips (shaders.c).

  A platform view with a rounded clip is drawn by `rounded_fragment_src`, which computes a signed
  distance to the rounded rectangle and smooths it over one pixel.  Without it the same clip is a
  region of pixels, row by row.  The shader looks at the middle of a pixel and the region at its
  outer edge, so that the shader keeps what the region keeps.

  Numbers are exact; `smoothstep` is its formula, also for edges that decrease.

    • `sdfRoundedBox_nonpos_iff` — the sign of the distance,
    • `half_le_smoothstep`       — what is smoothed to more than a half,
    • `region_within_mask`       — every pixel of the region is kept by the shader.
-/
import FlutterWlroots.Renderer.RoundedClips
import FlutterWlroots.Renderer.SceneLayers

namespace FlutterWlroots.Renderer

open FlutterWlroots.Compositor (WlrBox)

/-! ## §1. The shader. -/

/-- `sdf_rounded_box`. -/
noncomputable def sdfRoundedBox (px py halfWidth halfHeight r : ℝ) : ℝ :=
  let qx := |px| - halfWidth + r
  let qy := |py| - halfHeight + r
  min (max qx qy) 0 + Real.sqrt (max qx 0 ^ 2 + max qy 0 ^ 2) - r

/-- `smoothstep`. -/
noncomputable def smoothstep (edge0 edge1 x : ℝ) : ℝ :=
  let t := min (max ((x - edge0) / (edge1 - edge0)) 0) 1
  t * t * (3.0 - 2.0 * t)

/-- The radius of the corner that a point is at. -/
noncomputable def cornerRadius (rc : FwrRoundedClip) (localX localY : ℝ) : ℝ :=
  if localX < 0 ∧ localY < 0 then rc.radiusTl
  else if localX ≥ 0 ∧ localY < 0 then rc.radiusTr
  else if localX ≥ 0 ∧ localY ≥ 0 then rc.radiusBr
  else rc.radiusBl

/-- `aa` in `rounded_fragment_src`, for the fragment at `gl_FragCoord`; the uniform `output_height`
    is not the height of the framebuffer. -/
noncomputable def roundedMask (rc : FwrRoundedClip) (outputHeight fragX fragY : ℝ) : ℝ :=
  let halfWidth : ℝ := (rc.rect.width : ℝ) * 0.5
  let halfHeight : ℝ := (rc.rect.height : ℝ) * 0.5
  let localX := fragX - (rc.rect.x + halfWidth)
  let localY := outputHeight - fragY - (rc.rect.y + halfHeight)
  smoothstep 0.5 (-0.5)
    (sdfRoundedBox localX localY halfWidth halfHeight (cornerRadius rc localX localY))

/-! ## §2. Distance and smoothing. -/

section Distance

variable {px py halfWidth halfHeight r d : ℝ}

/-- **Inside** is what is no further than the radius from the inner box. -/
theorem sdfRoundedBox_nonpos_iff (hr : 0 ≤ r) :
    sdfRoundedBox px py halfWidth halfHeight r ≤ 0 ↔
      max (|px| - halfWidth + r) 0 ^ 2 + max (|py| - halfHeight + r) 0 ^ 2 ≤ r ^ 2 := by
  unfold sdfRoundedBox
  dsimp only
  generalize |px| - halfWidth + r = qx
  generalize |py| - halfHeight + r = qy
  rcases le_or_gt (max qx qy) 0 with hin | hout
  · -- in the inner box both hold
    obtain ⟨hx, hy⟩ := max_le_iff.mp hin
    rw [min_eq_left hin, max_eq_right hx, max_eq_right hy, zero_pow two_ne_zero, add_zero,
      Real.sqrt_zero]
    refine iff_of_true (by linarith) (sq_nonneg r)
  · rw [min_eq_right hout.le, zero_add, sub_nonpos, Real.sqrt_le_left hr]

/-- The polynomial is half way where its argument is. -/
theorem half_le_hermite {t : ℝ} (h0 : 0 ≤ t) (h1 : t ≤ 1) :
    0.5 ≤ t * t * (3 - 2 * t) ↔ 0.5 ≤ t := by
  have hfactor : t * t * (3 - 2 * t) - 0.5 = (t - 0.5) * (1 + 2 * (t * (1 - t))) := by ring
  have hpos : 0 < 1 + 2 * (t * (1 - t)) := by
    have hmul := mul_nonneg h0 (sub_nonneg.mpr h1)
    linarith
  rw [← sub_nonneg, hfactor, mul_nonneg_iff_of_pos_right hpos, sub_nonneg]

/-- A distance of zero is half way. -/
theorem half_le_smoothstep : 0.5 ≤ smoothstep 0.5 (-0.5) d ↔ d ≤ 0 := by
  have ht : (d - 0.5) / (-0.5 - 0.5) = 0.5 - d := by
    norm_num
    ring
  have hthree : (3.0 : ℝ) = 3 := by norm_num
  have htwo : (2.0 : ℝ) = 2 := by norm_num
  unfold smoothstep
  dsimp only
  rw [hthree, htwo, ht,
    half_le_hermite (le_min (le_max_right _ _) zero_le_one) (min_le_right _ _), le_min_iff, le_max_iff]
  constructor
  · rintro ⟨hle | hle, -⟩
    · linarith
    · norm_num at hle
  · intro hd
    exact ⟨.inl (by linarith), by norm_num⟩

end Distance

/-! ## §3. One corner. -/

section Corner

variable {r n m : Int}

/-- **A pixel beyond the inset**: its middle is in the circle. -/
theorem middle_in_circle (hr : 0 < r) (hm : 0 ≤ m ∧ m < r) (hn : n < r)
    (hin : topInset r r m ≤ n) :
    ((r : ℝ) - n - 0.5) ^ 2 + ((r : ℝ) - m - 0.5) ^ 2 ≤ (r : ℝ) ^ 2 := by
  have hr' : (0 : ℝ) < r := Int.cast_pos.mpr hr
  have hm0 : (0 : ℝ) ≤ m := Int.cast_nonneg_iff.mpr hm.1
  have hm' : (m : ℝ) + 1 ≤ r := by exact_mod_cast hm.2
  have hn' : (n : ℝ) + 1 ≤ r := by exact_mod_cast hn
  have hdist : |(m : ℝ) + 0.5 - r| < r := by
    rw [abs_lt]
    constructor <;> linarith
  rw [topInset, if_pos ⟨hr, hm.2⟩, ellipseInset_inside hr hr hdist, Int.ceil_le] at hin
  -- the half chord of the circle at this height
  have hchord : ((r : ℝ) * Real.sqrt (ellipsePart ((m : ℝ) + 0.5 - r) r)) ^ 2
      = (r : ℝ) ^ 2 - ((m : ℝ) + 0.5 - r) ^ 2 := by
    rw [mul_pow, Real.sq_sqrt (ellipsePart_bounds hr hdist).1.le, ellipsePart, abs_mul_abs_self,
      mul_sub, mul_one, mul_div_assoc', ← sq, ← sq, mul_div_cancel_left₀ _ (pow_ne_zero 2 hr'.ne')]
  have hle : (r : ℝ) - n - 0.5 ≤ r * Real.sqrt (ellipsePart ((m : ℝ) + 0.5 - r) r) := by linarith
  have hsq := pow_le_pow_left₀ (show (0 : ℝ) ≤ r - n - 0.5 by linarith) hle 2
  rw [hchord] at hsq
  nlinarith

/-- The point is `n` pixels from one side and `m` from the other. -/
theorem sdf_corner {px py width height : ℝ} (hr : 0 ≤ r) (hn : 0 ≤ n) (hm : 0 ≤ m)
    (hx : |px| = width * 0.5 - n - 0.5) (hy : |py| = height * 0.5 - m - 0.5)
    (hin : m < r → topInset r r m ≤ n) :
    sdfRoundedBox px py (width * 0.5) (height * 0.5) r ≤ 0 := by
  have hr' : (0 : ℝ) ≤ r := Int.cast_nonneg_iff.mpr hr
  have hn' : (0 : ℝ) ≤ n := Int.cast_nonneg_iff.mpr hn
  have hm' : (0 : ℝ) ≤ m := Int.cast_nonneg_iff.mpr hm
  have hqx : |px| - width * 0.5 + r = r - n - 0.5 := by rw [hx]; ring
  have hqy : |py| - height * 0.5 + r = r - m - 0.5 := by rw [hy]; ring
  rw [sdfRoundedBox_nonpos_iff hr', hqx, hqy]
  -- only where both are positive the corner is rounded
  rcases lt_or_ge n r with hnr | hnr
  · rcases lt_or_ge m r with hmr | hmr
    · have hn1 : (n : ℝ) + 1 ≤ r := by exact_mod_cast hnr
      have hm1 : (m : ℝ) + 1 ≤ r := by exact_mod_cast hmr
      rw [max_eq_left (by linarith), max_eq_left (by linarith)]
      exact middle_in_circle (by omega) ⟨hm, hmr⟩ hnr (hin hmr)
    · have hmr' : (r : ℝ) ≤ m := Int.cast_le.mpr hmr
      have hn1 : (n : ℝ) + 1 ≤ r := by exact_mod_cast hnr
      rw [max_eq_left (by linarith), max_eq_right (by linarith)]
      nlinarith
  · have hnr' : (r : ℝ) ≤ n := Int.cast_le.mpr hnr
    rw [max_eq_right (by linarith)]
    rcases le_total ((r : ℝ) - m - 0.5) 0 with hneg | hpos
    · rw [max_eq_right hneg]
      nlinarith
    · rw [max_eq_left hpos]
      nlinarith

end Corner

/-! ## §4. The region and the shader. -/

theorem clampInt_of_within {v half : Int} (h : 0 ≤ v ∧ v ≤ half) : clampInt v 0 half = v := by
  unfold clampInt
  rw [if_neg (by omega), if_neg (by omega)]

/-- The insets of a row, by the corner it is at. -/
theorem corner_insets {width height tl tr br bl : Int}
    (htl : 0 ≤ tl ∧ 2 * tl ≤ width ∧ 2 * tl ≤ height)
    (htr : 0 ≤ tr ∧ 2 * tr ≤ width ∧ 2 * tr ≤ height)
    (hbr : 0 ≤ br ∧ 2 * br ≤ width ∧ 2 * br ≤ height)
    (hbl : 0 ≤ bl ∧ 2 * bl ≤ width ∧ 2 * bl ≤ height) (row : Int) :
    let r : CornerRadii := ⟨tl, tl, tr, tr, br, br, bl, bl⟩
    ((row < tl → topInset tl tl row ≤ r.leftInset height row) ∧
      (height - 1 - row < bl → topInset bl bl (height - 1 - row) ≤ r.leftInset height row)) ∧
    (row < tr → topInset tr tr row ≤ r.rightInset height row) ∧
      (height - 1 - row < br → topInset br br (height - 1 - row) ≤ r.rightInset height row) := by
  intro r
  have htop : (tl ≤ r.topBand ∧ tr ≤ r.topBand) ∧ r.topBand ≤ height - bl ∧
      r.topBand ≤ height - br := by
    show (tl ≤ (if tl > tr then tl else tr) ∧ tr ≤ (if tl > tr then tl else tr)) ∧
      (if tl > tr then tl else tr) ≤ height - bl ∧ (if tl > tr then tl else tr) ≤ height - br
    split
    all_goals omega
  unfold CornerRadii.leftInset CornerRadii.rightInset
  refine ⟨⟨fun hlt => ?_, fun hlt => ?_⟩, fun hlt => ?_, fun hlt => ?_⟩
  · rw [sideInset_upper (by omega)]
  · rw [sideInset_lower (by omega), bottomInset_eq]
  · rw [sideInset_upper (by omega)]
  · rw [sideInset_lower (by omega), bottomInset_eq]

/-- **Every pixel of the region is kept by the shader**, for corners with one radius each, of at
    most half of the size.  The shader takes `outputHeight`, the height of the whole layout, for the
    height of the framebuffer: what it keeps is further up by as many rows as the layout is
    taller. -/
theorem region_within_mask (x y width height tl tr br bl px py : Int)
    (outputHeight framebufferHeight : ℝ)
    (hw : 1 ≤ width) (hh : 1 ≤ height)
    (htl : 0 ≤ tl ∧ 2 * tl ≤ width ∧ 2 * tl ≤ height)
    (htr : 0 ≤ tr ∧ 2 * tr ≤ width ∧ 2 * tr ≤ height)
    (hbr : 0 ≤ br ∧ 2 * br ≤ width ∧ 2 * br ≤ height)
    (hbl : 0 ≤ bl ∧ 2 * bl ≤ width ∧ 2 * bl ≤ height)
    (hin : (pixmanRegion32InitRoundedRect x y width height
      ⟨tl, tl, tr, tr, br, br, bl, bl⟩).Contains px py) :
    0.5 ≤ roundedMask ⟨⟨x, y, width, height⟩, tl, tr, br, bl⟩ outputHeight (px + 0.5)
      (framebufferHeight - (py - (outputHeight - framebufferHeight) + 0.5)) := by
  rw [contains_roundedRect _ hw hh] at hin
  have hclamp : (⟨tl, tl, tr, tr, br, br, bl, bl⟩ : CornerRadii).clamp (width / 2) (height / 2)
      = ⟨tl, tl, tr, tr, br, br, bl, bl⟩ := by
    unfold CornerRadii.clamp
    simp only [CornerRadii.mk.injEq]
    refine ⟨?_, ?_, ?_, ?_, ?_, ?_, ?_, ?_⟩
    all_goals exact clampInt_of_within (by omega)
  rw [hclamp] at hin
  obtain ⟨row, hrow, rfl, hleft, hright⟩ := hin
  obtain ⟨⟨hltop, hlbottom⟩, hrtop, hrbottom⟩ := corner_insets htl htr hbr hbl row
  unfold roundedMask
  dsimp only
  rw [half_le_smoothstep]
  have hlocalX : (px : ℝ) + 0.5 - ((x : ℝ) + width * 0.5) = px - x + 0.5 - width * 0.5 := by ring
  have hlocalY : outputHeight - (framebufferHeight - (((y + row : Int) : ℝ)
      - (outputHeight - framebufferHeight) + 0.5)) - ((y : ℝ) + height * 0.5)
        = row + 0.5 - height * 0.5 := by
    push_cast
    ring
  rw [hlocalX, hlocalY]
  unfold cornerRadius
  dsimp only
  have hinsets : 0 ≤ px - x ∧ 0 ≤ x + width - 1 - px := by
    have hwithin : (⟨tl, tl, tr, tr, br, br, bl, bl⟩ : CornerRadii).Within width height := by
      refine ⟨?_, ?_, ?_, ?_⟩
      all_goals
        dsimp only
        omega
    have hnonneg := hwithin.insets row
    omega
  -- by the sides that the point is closer to
  rcases lt_or_ge ((px : ℝ) - x + 0.5 - width * 0.5) 0 with hx | hx
  · have habsx : |(px : ℝ) - x + 0.5 - width * 0.5| = width * 0.5 - (px - x : Int) - 0.5 := by
      rw [abs_of_neg hx]
      push_cast
      ring
    rcases lt_or_ge ((row : ℝ) + 0.5 - height * 0.5) 0 with hy | hy
    · have habsy : |(row : ℝ) + 0.5 - height * 0.5| = height * 0.5 - row - 0.5 := by
        rw [abs_of_neg hy]
        ring
      rw [if_pos ⟨hx, hy⟩, Rat.cast_intCast]
      exact sdf_corner htl.1 hinsets.1 hrow.1 habsx habsy fun hlt => (hltop hlt).trans (by omega)
    · have habsy : |(row : ℝ) + 0.5 - height * 0.5|
          = height * 0.5 - (height - 1 - row : Int) - 0.5 := by
        rw [abs_of_nonneg hy]
        push_cast
        ring
      rw [if_neg fun hand => not_le.mpr hand.2 hy, if_neg fun hand => not_le.mpr hand.2 hy,
        if_neg fun hand => not_lt.mpr hand.1 hx, Rat.cast_intCast]
      exact sdf_corner hbl.1 hinsets.1 (by omega) habsx habsy fun hlt =>
        (hlbottom hlt).trans (by omega)
  · have habsx : |(px : ℝ) - x + 0.5 - width * 0.5|
        = width * 0.5 - (x + width - 1 - px : Int) - 0.5 := by
      rw [abs_of_nonneg hx]
      push_cast
      ring
    rcases lt_or_ge ((row : ℝ) + 0.5 - height * 0.5) 0 with hy | hy
    · have habsy : |(row : ℝ) + 0.5 - height * 0.5| = height * 0.5 - row - 0.5 := by
        rw [abs_of_neg hy]
        ring
      rw [if_neg fun hand => not_le.mpr hand.1 hx, if_pos ⟨hx, hy⟩, Rat.cast_intCast]
      exact sdf_corner htr.1 hinsets.2 hrow.1 habsx habsy fun hlt => (hrtop hlt).trans (by omega)
    · have habsy : |(row : ℝ) + 0.5 - height * 0.5|
          = height * 0.5 - (height - 1 - row : Int) - 0.5 := by
        rw [abs_of_nonneg hy]
        push_cast
        ring
      rw [if_neg fun hand => not_le.mpr hand.1 hx, if_neg fun hand => not_le.mpr hand.2 hy,
        if_pos ⟨hx, hy⟩, Rat.cast_intCast]
      exact sdf_corner hbr.1 hinsets.2 (by omega) habsx habsy fun hlt =>
        (hrbottom hlt).trans (by omega)

/-- In the first row, beside the only corner that is rounded. -/
theorem region_within_mask_row :
    0.5 ≤ roundedMask ⟨⟨0, 0, 10, 10⟩, 3, 0, 0, 0⟩ 768 ((5 : Int) + 0.5)
      (768 - ((0 : Int) - (768 - 768) + 0.5)) := by
  refine region_within_mask 0 0 10 10 3 0 0 0 5 0 768 768 (by decide) (by decide) (by decide)
    (by decide) (by decide) (by decide) ?_
  rw [contains_roundedRect _ (by decide) (by decide)]
  refine ⟨0, by decide, rfl, ?_⟩
  have hleft : CornerRadii.leftInset ⟨3, 3, 0, 0, 0, 0, 0, 0⟩ 10 0 ≤ 3 :=
    (sideInset_upper (by decide)).trans_le (topInset_bounds (by decide) 3 0).2
  have hright : CornerRadii.rightInset ⟨3, 3, 0, 0, 0, 0, 0, 0⟩ 10 0 = 0 :=
    (sideInset_upper (by decide)).trans (topInset_of_ge le_rfl)
  show 0 + CornerRadii.leftInset ⟨3, 3, 0, 0, 0, 0, 0, 0⟩ 10 0 ≤ 5 ∧
    5 < 0 + 10 - CornerRadii.rightInset ⟨3, 3, 0, 0, 0, 0, 0, 0⟩ 10 0
  omega

end FlutterWlroots.Renderer
