/-
  FlutterWlroots.Renderer.ScaledEdges — boxes that share an edge, at the scale of an output.

  `scale_box` rounds the start and the size of a box, not its end.  The end of one box and the start
  of the next one come from the same product only at integer scales; elsewhere they can be a pixel
  apart, which leaves a gap or lets the boxes overlap.

    • `scaleBox_eq_some`  — what is rounded,
    • `scaledEnd_iff`     — one direction,
    • `scaleBox_edges`    — both.
-/
import FlutterWlroots.Renderer.Geometry

namespace FlutterWlroots.Renderer

open Lib.Rounding
open FlutterWlroots.Compositor (WlrBox)

variable {box box' A B A' B' : WlrBox} {scale : ℚ}

theorem toInt_eq_some {x y : Int} (h : toInt x = some y) : y = x := by
  unfold toInt at h
  split at h
  next => exact (Option.some.inj h).symm
  next => cases h

/-- **Each number is rounded by itself**, at scale 1 too. -/
theorem scaleBox_eq_some (h : scaleBox box scale = some box') :
    box' = ⟨lround (box.x * scale), lround (box.y * scale), lround (box.width * scale),
      lround (box.height * scale)⟩ := by
  unfold scaleBox at h
  split at h
  next hone =>
    -- the box is returned as it is, which is what rounding its integers gives
    rw [hone]
    simp only [mul_one, lround_intCast]
    exact (Option.some.inj h).symm
  next =>
    obtain ⟨x, hx, h⟩ := Option.bind_eq_some_iff.mp h
    obtain ⟨y, hy, h⟩ := Option.bind_eq_some_iff.mp h
    obtain ⟨width, hwidth, h⟩ := Option.bind_eq_some_iff.mp h
    obtain ⟨height, hheight, h⟩ := Option.bind_eq_some_iff.mp h
    cases h
    rw [toInt_eq_some hx, toInt_eq_some hy, toInt_eq_some hwidth, toInt_eq_some hheight]

/-- The scaled end of what starts at `start` and the scaled start of what follows: at most a pixel
    apart, and the same if rounding is additive there. -/
theorem scaledEnd_iff {start size next : Int} (h : start + size = next) (scale : ℚ) :
    |lround (start * scale) + lround (size * scale) - lround (next * scale)| ≤ 1
      ∧ (lround (start * scale) + lround (size * scale) = lround (next * scale)
        ↔ Additive (start * scale) (size * scale)) := by
  have hproduct : (next : ℚ) * scale = start * scale + size * scale := by
    rw [← h]
    push_cast
    ring
  rw [hproduct]
  exact ⟨abs_lround_add_le _ _, lround_add_iff⟩

/-- **Shared edges** are scaled to edges that are at most a pixel apart, and to the same edge
    exactly where the offsets of start and size from the nearest integers do not add up to a half. -/
theorem scaleBox_edges (scale : ℚ) (A B A' B' : WlrBox)
    (hA : scaleBox A scale = some A') (hB : scaleBox B scale = some B') :
    (A.x + A.width = B.x → |A'.x + A'.width - B'.x| ≤ 1
        ∧ (A'.x + A'.width = B'.x ↔ Additive ((A.x : ℚ) * scale) (A.width * scale)))
      ∧ (A.y + A.height = B.y → |A'.y + A'.height - B'.y| ≤ 1
        ∧ (A'.y + A'.height = B'.y ↔ Additive ((A.y : ℚ) * scale) (A.height * scale))) := by
  rw [scaleBox_eq_some hA, scaleBox_eq_some hB]
  exact ⟨fun h => scaledEnd_iff h scale, fun h => scaledEnd_iff h scale⟩

theorem scaleBox_edges_quarter : scaleBox ⟨4, 0, 3, 8⟩ (5 / 4) = some ⟨5, 0, 4, 10⟩
    ∧ scaleBox ⟨7, 8, 1, 1⟩ (5 / 4) = some ⟨9, 10, 1, 1⟩
    ∧ Additive ((4 : Int) * (5 / 4) : ℚ) ((3 : Int) * (5 / 4)) := by
  have hA : scaleBox ⟨4, 0, 3, 8⟩ (5 / 4) = some ⟨5, 0, 4, 10⟩ := by decide +kernel
  have hB : scaleBox ⟨7, 8, 1, 1⟩ (5 / 4) = some ⟨9, 10, 1, 1⟩ := by decide +kernel
  exact ⟨hA, hB, ((scaleBox_edges (5 / 4) _ _ _ _ hA hB).1 rfl).2.mp rfl⟩

/-- At the scale 1.25 two boxes of one pixel get a gap, at 1.5 they overlap. -/
theorem scaled_edges_apart :
    scaleBox ⟨1, 0, 1, 1⟩ (5 / 4) = some ⟨1, 0, 1, 1⟩
      ∧ scaleBox ⟨2, 0, 1, 1⟩ (5 / 4) = some ⟨3, 0, 1, 1⟩
      ∧ scaleBox ⟨1, 0, 1, 1⟩ (3 / 2) = some ⟨2, 0, 2, 2⟩
      ∧ scaleBox ⟨2, 0, 1, 1⟩ (3 / 2) = some ⟨3, 0, 2, 2⟩
      ∧ ¬ ∀ (scale : ℚ) (A B A' B' : WlrBox), 0 < scale → A.x + A.width = B.x →
        scaleBox A scale = some A' → scaleBox B scale = some B' → A'.x + A'.width = B'.x := by
  have hA : scaleBox ⟨1, 0, 1, 1⟩ (5 / 4) = some ⟨1, 0, 1, 1⟩ := by decide +kernel
  have hB : scaleBox ⟨2, 0, 1, 1⟩ (5 / 4) = some ⟨3, 0, 1, 1⟩ := by decide +kernel
  refine ⟨hA, hB, by decide +kernel, by decide +kernel, fun hall => ?_⟩
  have hedge := hall (5 / 4) _ _ _ _ (by norm_num) rfl hA hB
  exact absurd hedge (by decide)

end FlutterWlroots.Renderer
