/-
  FlutterWlroots.Renderer.MutationStack — what the mutations of a platform view come to.

  The loop over the mutations keeps a transformation, a region and an opacity.  What they mean is
  independent of how they are kept: the transformation does the affine ones one after the other, and
  a pixel is in the region if every clip has it, each clip taken in the transformation reached by
  then.  The surfaces of the window are moved by the viewport of the output; the clips are not.
  Numbers are exact here; those of the renderer are rounded.

    • `applyMutation_applied`, `applyMutations_applied` — one mutation, all of them,
    • `transformPoint_stack` — the transformation of a list,
    • `draws_clipped`        — the calls that draw a platform view,
    • `draws_rounded`        — and those with a rounded clip,
    • `agrees_with_texture`  — the box of the content is that of a texture layer.
-/
import FlutterWlroots.Renderer.RoundedClips
import FlutterWlroots.Renderer.ScaledEdges
import FlutterWlroots.Renderer.SceneLayers
import FlutterWlroots.Renderer.TransformedClips

namespace FlutterWlroots.Renderer

open FlutterWlroots.Compositor (WlrBox)

/-! ## §1. Regions. -/

section Regions

variable {px py : Int} {a b tmp : PixmanRegion32} {box : WlrBox} {s : Mutated}

/-- A pixel of a box. -/
def InBox (box : WlrBox) (px py : Int) : Prop :=
  (box.x ≤ px ∧ px < box.x + box.width) ∧ box.y ≤ py ∧ py < box.y + box.height

theorem contains_initRect : (PixmanRegion32.initRect box).Contains px py ↔ InBox box px py := by
  unfold PixmanRegion32.Contains PixmanRegion32.initRect
  simp only [List.mem_singleton, exists_eq_left, InBox]

theorem inBox_intersectBox {c d : WlrBox} :
    InBox (intersectBox c d) px py ↔ InBox c px py ∧ InBox d px py := by
  unfold InBox intersectBox
  dsimp only
  omega

theorem contains_intersect :
    (a.intersect b).Contains px py ↔ a.Contains px py ∧ b.Contains px py := by
  unfold PixmanRegion32.Contains PixmanRegion32.intersect
  constructor
  · rintro ⟨box, hbox, hin⟩
    obtain ⟨c, hc, hbox⟩ := List.mem_flatMap.mp hbox
    obtain ⟨d, hd, rfl⟩ := List.mem_map.mp hbox
    obtain ⟨hinc, hind⟩ := inBox_intersectBox.mp hin
    exact ⟨⟨c, hc, hinc⟩, d, hd, hind⟩
  · rintro ⟨⟨c, hc, hinc⟩, d, hd, hind⟩
    refine ⟨intersectBox c d, ?_, inBox_intersectBox.mpr ⟨hinc, hind⟩⟩
    exact List.mem_flatMap.mpr ⟨c, hc, List.mem_map.mpr ⟨d, hd, rfl⟩⟩

/-- No clip so far leaves the pixel out. -/
def Mutated.Shows (s : Mutated) (px py : Int) : Prop :=
  ∀ region ∈ s.clipRegion, region.Contains px py

theorem shows_clip : (s.clip tmp).Shows px py ↔ s.Shows px py ∧ tmp.Contains px py := by
  unfold Mutated.Shows Mutated.clip
  simp only [Option.mem_some_iff, forall_eq']
  cases hclip : s.clipRegion with
  | none => simp
  | some region =>
      simp only [Option.mem_some_iff, forall_eq']
      exact contains_intersect

end Regions

/-! ## §2. One mutation. -/

/-- The transformation after a mutation. -/
def enter (t : FlutterTransformation) : PlatformViewMutation → FlutterTransformation
  | .transformation m => if flutterTransformIsAffine m then flutterTransformMultiply m t else t
  | _ => t

/-- The factor of a mutation. -/
def opacityOf : PlatformViewMutation → ℚ
  | .opacity opacity => opacity
  | _ => 1

/-- Nothing that the renderer passes over. -/
def isSupported : PlatformViewMutation → Bool
  | .transformation m => flutterTransformIsAffine m
  | _ => true

section Asks

variable (outputScale : ℚ) (disableRadius : Bool)

/-- The clip of a mutation has the pixel. -/
def Asks (t : FlutterTransformation) : PlatformViewMutation → Int × Int → Prop
  | .clipRect rect, p =>
      ∃ box, mutationBox t outputScale rect = some box ∧ InBox box p.1 p.2
  | .clipRoundedRect r, p =>
      ∃ box region, mutationBox t outputScale r.rect = some box ∧
        roundedRegion outputScale disableRadius r box = some region ∧ region.Contains p.1 p.2
  | _, _ => True

/-- The rounded clip of a mutation, if it has a radius that counts. -/
def roundedOf (t : FlutterTransformation) : PlatformViewMutation → Option FwrRoundedClip
  | .clipRoundedRect r =>
      ((mutationBox t outputScale r.rect).map (roundedClipOf r outputScale)).filter
        (hasAnyRadius disableRadius)
  | _ => none

/-- The first rounded clip of a list. -/
def firstRounded : FlutterTransformation → List PlatformViewMutation → Option FwrRoundedClip
  | _, [] => none
  | t, m :: ms => (roundedOf outputScale disableRadius t m).or (firstRounded (enter t m) ms)

/-- A pixel that every clip of the list has, each in the transformation reached by then. -/
def Unclipped : FlutterTransformation → List PlatformViewMutation → Int → Int → Prop
  | _, [], _, _ => True
  | t, m :: ms, px, py =>
      Asks outputScale disableRadius t m (px, py) ∧ Unclipped (enter t m) ms px py

end Asks

variable {outputScale : ℚ} {disableRadius : Bool} {s s' : Mutated} {m : PlatformViewMutation}
  {ms : List PlatformViewMutation}

/-- What a list of mutations does; `asked` is what it asks of a pixel. -/
structure Applied (s s' : Mutated) (t : FlutterTransformation) (opacity : ℚ) (supported : Bool)
    (rounded : Option FwrRoundedClip) (asked : Int → Int → Prop) : Prop where
  transform : s'.currentTransform = t
  opacity : s'.opacity = s.opacity * opacity
  affine : s'.transformAffine = (s.transformAffine && supported)
  rounded : s'.roundedClip = s.roundedClip.or rounded
  shows : ∀ px py, s'.Shows px py ↔ s.Shows px py ∧ asked px py

/-- **A turn of the loop.** -/
theorem applyMutation_applied (h : applyMutation outputScale disableRadius s m = some s') :
    Applied s s' (enter s.currentTransform m) (opacityOf m) (isSupported m)
      (roundedOf outputScale disableRadius s.currentTransform m)
      fun px py => Asks outputScale disableRadius s.currentTransform m (px, py) := by
  cases m with
  | opacity opacity =>
      obtain rfl := Option.some.inj h
      exact ⟨rfl, rfl, (Bool.and_true _).symm, (Option.or_none).symm,
        fun px py => (and_iff_left trivial).symm⟩
  | transformation t =>
      rw [applyMutation] at h
      cases haffine : flutterTransformIsAffine t with
      | false =>
          rw [haffine, if_pos Bool.false_ne_true] at h
          obtain rfl := Option.some.inj h
          refine ⟨?_, (mul_one _).symm, ?_, (Option.or_none).symm,
            fun px py => (and_iff_left trivial).symm⟩
          · rw [enter, haffine]
            rfl
          · rw [isSupported, haffine, Bool.and_false]
      | true =>
          rw [haffine, if_neg (not_not_intro rfl)] at h
          obtain rfl := Option.some.inj h
          refine ⟨?_, (mul_one _).symm, ?_, (Option.or_none).symm,
            fun px py => (and_iff_left trivial).symm⟩
          · rw [enter, if_pos haffine]
          · rw [isSupported, haffine, Bool.and_true]
  | clipRect rect =>
      obtain ⟨box, hbox, hrun⟩ := Option.bind_eq_some_iff.mp h
      obtain rfl := Option.some.inj hrun
      have hasked : ∀ px py, (PixmanRegion32.initRect box).Contains px py
          ↔ Asks outputScale disableRadius s.currentTransform (.clipRect rect) (px, py) := by
        intro px py
        rw [contains_initRect]
        constructor
        · intro hin
          exact ⟨box, hbox, hin⟩
        · rintro ⟨box', hbox', hin⟩
          rw [hbox] at hbox'
          obtain rfl := Option.some.inj hbox'
          exact hin
      refine ⟨rfl, (mul_one _).symm, (Bool.and_true _).symm, (Option.or_none).symm,
        fun px py => ?_⟩
      exact shows_clip.trans (and_congr Iff.rfl (hasked px py))
  | clipRoundedRect r =>
      obtain ⟨box, hbox, hrun⟩ := Option.bind_eq_some_iff.mp h
      obtain ⟨tmp, htmp, hrun⟩ := Option.bind_eq_some_iff.mp hrun
      obtain rfl := Option.some.inj hrun
      have hrounded : (if hasAnyRadius disableRadius (roundedClipOf r outputScale box) ∧
          s.roundedClip = none then some (roundedClipOf r outputScale box) else s.roundedClip)
          = s.roundedClip.or
            (roundedOf outputScale disableRadius s.currentTransform (.clipRoundedRect r)) := by
        rw [roundedOf, hbox, Option.map_some, Option.filter_some]
        cases s.roundedClip with
        | some rc =>
            rw [if_neg fun hand => nomatch hand.2]
            rfl
        | none =>
            rw [Option.none_or]
            cases hasAnyRadius disableRadius (roundedClipOf r outputScale box) with
            | true => rw [if_pos ⟨rfl, rfl⟩, if_pos rfl]
            | false => rw [if_neg (fun hand => Bool.false_ne_true hand.1), if_neg Bool.false_ne_true]
      refine ⟨rfl, (mul_one _).symm, (Bool.and_true _).symm, hrounded, fun px py => ?_⟩
      refine shows_clip.trans (and_congr Iff.rfl ?_)
      constructor
      · intro hin
        exact ⟨box, tmp, hbox, htmp, hin⟩
      · rintro ⟨box', tmp', hbox', htmp', hin⟩
        rw [hbox] at hbox'
        obtain rfl := Option.some.inj hbox'
        rw [htmp] at htmp'
        obtain rfl := Option.some.inj htmp'
        exact hin

/-! ## §3. All mutations. -/

theorem applied_refl (s : Mutated) :
    Applied s s s.currentTransform 1 true none fun _ _ => True where
  transform := rfl
  opacity := (mul_one _).symm
  affine := (Bool.and_true _).symm
  rounded := Option.or_none.symm
  shows _ _ := (and_iff_left trivial).symm

/-- **The loop.** -/
theorem applyMutations_applied (h : applyMutations outputScale disableRadius s ms = some s') :
    Applied s s' (ms.foldl enter s.currentTransform) (ms.map opacityOf).prod (ms.all isSupported)
      (firstRounded outputScale disableRadius s.currentTransform ms)
      (Unclipped outputScale disableRadius s.currentTransform ms) := by
  induction ms generalizing s with
  | nil =>
      obtain rfl := Option.some.inj h
      exact applied_refl s
  | cons m ms ih =>
      rw [applyMutations, List.foldlM_cons] at h
      obtain ⟨s₁, hfirst, hrest⟩ := Option.bind_eq_some_iff.mp h
      have hone := applyMutation_applied hfirst
      have hall := ih hrest
      rw [hone.transform] at hall
      refine ⟨hall.transform, ?_, ?_, ?_, fun px py => ?_⟩
      · rw [hall.opacity, hone.opacity, List.map_cons, List.prod_cons, mul_assoc]
      · rw [hall.affine, hone.affine, List.all_cons, Bool.and_assoc]
      · rw [hall.rounded, hone.rounded, Option.or_assoc]
        rfl
      · rw [hall.shows, hone.shows, and_assoc]
        exact Iff.rfl

/-! ## §4. The transformation. -/

/-- The transformations of a list that are affine. -/
def affineParts : List PlatformViewMutation → List FlutterTransformation
  | [] => []
  | .transformation t :: ms =>
      if flutterTransformIsAffine t then t :: affineParts ms else affineParts ms
  | _ :: ms => affineParts ms

/-- A point through one transformation after the other. -/
def transformThrough (p : ℚ × ℚ) (ts : List FlutterTransformation) : ℚ × ℚ :=
  ts.foldl (fun p t => flutterTransformPoint t p.1 p.2) p

theorem isAffine_enter {t : FlutterTransformation} (h : flutterTransformIsAffine t = true)
    (m : PlatformViewMutation) : flutterTransformIsAffine (enter t m) = true := by
  cases m with
  | transformation t' =>
      rw [enter]
      split
      next haffine => exact isAffine_multiply haffine h
      next => exact h
  | opacity | clipRect | clipRoundedRect => exact h

/-- **The transformation reached** does the affine ones in their order. -/
theorem transformPoint_stack {t : FlutterTransformation} (h : flutterTransformIsAffine t = true)
    (ms : List PlatformViewMutation) (x y : ℚ) :
    flutterTransformIsAffine (ms.foldl enter t) = true ∧
      flutterTransformPoint (ms.foldl enter t) x y
        = transformThrough (flutterTransformPoint t x y) (affineParts ms) := by
  induction ms generalizing t with
  | nil => exact ⟨h, rfl⟩
  | cons m ms ih =>
      obtain ⟨haffine, hpoint⟩ := ih (isAffine_enter h m)
      refine ⟨haffine, hpoint.trans ?_⟩
      cases m with
      | transformation t' =>
          rw [enter, affineParts]
          split
          next =>
            rw [flutterTransformPoint_multiply h]
            rfl
          next => rfl
      | opacity | clipRect | clipRoundedRect => rfl

theorem isAffine_identity : flutterTransformIsAffine .identity = true := by decide

theorem transformPoint_identity (x y : ℚ) :
    flutterTransformPoint .identity x y = (x, y) := by
  simp [flutterTransformPoint, FlutterTransformation.identity]

/-! ## §5. The calls that draw a platform view. -/

section Calls

/-- **One call for each surface** that has a texture, in their order. -/
theorem forEachSurface_calls {f : VisitedSurface → Option (List DrawCall)}
    {P : VisitedSurface → DrawCall → Prop}
    (hnone : ∀ surface, surface.texture = none → f surface = some [])
    (hsome : ∀ surface texture drawn, surface.texture = some texture → f surface = some drawn →
      ∃ call, drawn = [call] ∧ P surface call) :
    ∀ {surfaces : List VisitedSurface} {calls : List DrawCall},
      forEachSurface f surfaces = some calls →
        List.Forall₂ P (surfaces.filter (·.texture.isSome)) calls := by
  intro surfaces
  induction surfaces with
  | nil =>
      intro calls h
      obtain rfl := Option.some.inj h
      exact .nil
  | cons surface surfaces ih =>
      intro calls h
      obtain ⟨drawn, hdrawn, hrun⟩ := Option.bind_eq_some_iff.mp h
      obtain ⟨rest, hrest, hrun⟩ := Option.bind_eq_some_iff.mp hrun
      obtain rfl := Option.some.inj hrun
      cases htexture : surface.texture with
      | none =>
          rw [hnone surface htexture] at hdrawn
          obtain rfl := Option.some.inj hdrawn
          rw [List.filter_cons_of_neg (by simp [htexture])]
          exact ih hrest
      | some texture =>
          obtain ⟨call, rfl, hcall⟩ := hsome surface texture drawn htexture hdrawn
          rw [List.filter_cons_of_pos (by simp [htexture])]
          exact .cons hcall (ih hrest)

/-- A surface is moved by the viewport. -/
theorem surfaceBox_eq_some {t : FlutterTransformation} {outputScale csx csy : ℚ}
    {viewport : OutputViewport} {surface : VisitedSurface} {box : WlrBox}
    (h : surfaceBox t outputScale csx csy viewport surface = some box) :
    ∃ layoutBox, mutationBox t outputScale (surface.contentRect csx csy) = some layoutBox ∧
      box = { layoutBox with x := layoutBox.x - viewport.x, y := layoutBox.y - viewport.y } := by
  obtain ⟨layoutBox, hbox, hrun⟩ := Option.bind_eq_some_iff.mp h
  obtain ⟨x, hx, hrun⟩ := Option.bind_eq_some_iff.mp hrun
  obtain ⟨y, hy, hrun⟩ := Option.bind_eq_some_iff.mp hrun
  obtain rfl := Option.some.inj hrun
  rw [toInt_eq_some hx, toInt_eq_some hy]
  exact ⟨layoutBox, hbox, rfl⟩

/-- Where a surface of a view is on an output: its rectangle through the transformation that the
    mutations come to, moved by the viewport. -/
def RenderedView.outputBox (view : RenderedView) (firstOutput : Option ℚ) (size : FlutterPair)
    (mutations : List PlatformViewMutation) (viewport : OutputViewport)
    (surface : VisitedSurface) : Option WlrBox :=
  (mutationBox (mutations.foldl enter .identity) (view.scale firstOutput)
    (surface.contentRect (view.contentScaleX size) (view.contentScaleY size))).map fun box =>
      { box with x := box.x - viewport.x, y := box.y - viewport.y }

variable {view : RenderedView} {firstOutput : Option ℚ} {size : FlutterPair}
  {mutations : List PlatformViewMutation} {viewport : OutputViewport} {total : Int × Int}
  {calls : List DrawCall} {s : Mutated} {surface : VisitedSurface} {box : WlrBox}

/-- What the loop leaves, from its start on. -/
theorem applyMutations_init
    (h : applyMutations (view.scale firstOutput) view.disableRadius .init mutations = some s) :
    s.currentTransform = mutations.foldl enter .identity ∧
      s.opacity = (mutations.map opacityOf).prod ∧
      s.roundedClip = firstRounded (view.scale firstOutput) view.disableRadius .identity mutations ∧
      ∀ px py, s.Shows px py
        ↔ Unclipped (view.scale firstOutput) view.disableRadius .identity mutations px py := by
  have happlied := applyMutations_applied h
  refine ⟨happlied.transform, happlied.opacity.trans (one_mul _), happlied.rounded,
    fun px py => ?_⟩
  rw [happlied.shows]
  exact and_iff_right fun region hregion => by cases hregion

theorem outputBox_of_surfaceBox (htransform : s.currentTransform = mutations.foldl enter .identity)
    (h : surfaceBox s.currentTransform (view.scale firstOutput) (view.contentScaleX size)
      (view.contentScaleY size) viewport surface = some box) :
    view.outputBox firstOutput size mutations viewport surface = some box := by
  obtain ⟨layoutBox, hlayout, rfl⟩ := surfaceBox_eq_some h
  rw [htransform] at hlayout
  unfold RenderedView.outputBox
  rw [hlayout]
  rfl

/-- **The calls that draw a platform view**, as long as none of its clips is drawn by the shader:
    each surface in its box, moved by the viewport of the output, and under a region that has the
    pixels of every clip, which is not moved. -/
theorem draws_clipped (view : RenderedView) (firstOutput : Option ℚ) (size : FlutterPair)
    (mutations : List PlatformViewMutation) (viewport : OutputViewport) (total : Int × Int)
    (calls : List DrawCall)
    (hflat : firstRounded (view.scale firstOutput) view.disableRadius .identity mutations = none)
    (hrun : renderSceneLayerPlatform view firstOutput size mutations viewport total = some calls) :
    ∃ clip : Option PixmanRegion32,
      (∀ px py, (∀ region ∈ clip, region.Contains px py) ↔
        Unclipped (view.scale firstOutput) view.disableRadius .identity mutations px py) ∧
      List.Forall₂ (fun surface call => ∃ texture box, surface.texture = some texture ∧
          view.outputBox firstOutput size mutations viewport surface = some box ∧
          call = .addTexture texture box (mutations.map opacityOf).prod clip)
        (view.surfaces.filter (·.texture.isSome)) calls := by
  obtain ⟨s, hs, hrun⟩ := Option.bind_eq_some_iff.mp hrun
  obtain ⟨htransform, hopacity, hrounded, hshows⟩ := applyMutations_init hs
  rw [hrounded, hflat] at hrun
  refine ⟨s.clipRegion, hshows, forEachSurface_calls ?_ ?_ hrun⟩
  · intro surface htexture
    unfold renderSurfaceIterator
    rw [htexture]
  · intro surface texture drawn htexture hdrawn
    unfold renderSurfaceIterator at hdrawn
    rw [htexture] at hdrawn
    obtain ⟨box, hbox, hdrawn⟩ := Option.bind_eq_some_iff.mp hdrawn
    obtain rfl := Option.some.inj hdrawn
    refine ⟨_, rfl, texture, box, htexture, outputBox_of_surfaceBox htransform hbox, ?_⟩
    rw [hopacity]

/-- A window on the second of two outputs, in a clip: the clip is where it would be on the first
    output. -/
theorem draws_clipped_second : ∃ clip : Option PixmanRegion32,
    (∀ px py, (∀ region ∈ clip, region.Contains px py) ↔
      Unclipped 1 false .identity [.transformation ⟨1, 0, 100, 0, 1, 0, 0, 0, 1⟩, .opacity 0.5,
        .clipRect ⟨0, 0, 4, 4⟩] px py) ∧
    List.Forall₂ (fun (surface : VisitedSurface) (call : DrawCall) =>
        ∃ texture box, surface.texture = some texture ∧
          RenderedView.outputBox ⟨some 1, false, false, 10, 10, [⟨0, 0, 10, 10, some 7⟩]⟩ none
            ⟨10, 10⟩ [.transformation ⟨1, 0, 100, 0, 1, 0, 0, 0, 1⟩, .opacity 0.5,
              .clipRect ⟨0, 0, 4, 4⟩] ⟨100, 0, 100, 100⟩ surface = some box ∧
          call = .addTexture texture box (List.map opacityOf [.transformation
            ⟨1, 0, 100, 0, 1, 0, 0, 0, 1⟩, .opacity 0.5, .clipRect ⟨0, 0, 4, 4⟩]).prod clip)
      [⟨0, 0, 10, 10, some 7⟩]
      [.addTexture 7 ⟨0, 0, 10, 10⟩ (1 * 0.5) (some (.initRect ⟨100, 0, 4, 4⟩))] :=
  draws_clipped ⟨some 1, false, false, 10, 10, [⟨0, 0, 10, 10, some 7⟩]⟩ none ⟨10, 10⟩
    [.transformation ⟨1, 0, 100, 0, 1, 0, 0, 0, 1⟩, .opacity 0.5, .clipRect ⟨0, 0, 4, 4⟩]
    ⟨100, 0, 100, 100⟩ (200, 100) _ (by decide +kernel) (by decide +kernel)

/-- A box as a quad of the viewport, which has the size of the layout if it has none. -/
def viewportQuad (viewport : OutputViewport) (total : Int × Int) (box : WlrBox) : NdcQuad :=
  ndcOfBox box.x box.y (box.x + box.width) (box.y + box.height)
    (positiveOr viewport.width (positiveOr total.1 1))
    (positiveOr viewport.height (positiveOr total.2 1))

/-- **With a rounded clip the region is not used**: every surface is drawn by the shader, in its box
    and with the first rounded clip, whatever the other clips are. -/
theorem draws_rounded (view : RenderedView) (firstOutput : Option ℚ) (size : FlutterPair)
    (mutations : List PlatformViewMutation) (viewport : OutputViewport) (total : Int × Int)
    (calls : List DrawCall) (rc : FwrRoundedClip)
    (hfirst : firstRounded (view.scale firstOutput) view.disableRadius .identity mutations
      = some rc)
    (hrun : renderSceneLayerPlatform view firstOutput size mutations viewport total = some calls) :
    List.Forall₂ (fun surface call => ∃ texture box, surface.texture = some texture ∧
        view.outputBox firstOutput size mutations viewport surface = some box ∧
        call = .drawRounded texture (viewportQuad viewport total box)
          (mutations.map opacityOf).prod rc (positiveOr total.2 1))
      (view.surfaces.filter (·.texture.isSome)) calls := by
  obtain ⟨s, hs, hrun⟩ := Option.bind_eq_some_iff.mp hrun
  obtain ⟨htransform, hopacity, hrounded, -⟩ := applyMutations_init hs
  rw [hrounded, hfirst] at hrun
  refine forEachSurface_calls ?_ ?_ hrun
  · intro surface htexture
    unfold renderSurfaceRoundedIterator
    rw [htexture]
  · intro surface texture drawn htexture hdrawn
    unfold renderSurfaceRoundedIterator at hdrawn
    rw [htexture] at hdrawn
    obtain ⟨box, hbox, hdrawn⟩ := Option.bind_eq_some_iff.mp hdrawn
    obtain rfl := Option.some.inj hdrawn
    refine ⟨_, rfl, texture, box, htexture, outputBox_of_surfaceBox htransform hbox, ?_⟩
    rw [hopacity]
    rfl

/-- A clip to one pixel inside of a rounded one is not in the call. -/
theorem draws_rounded_pixel : List.Forall₂ (fun (surface : VisitedSurface) (call : DrawCall) =>
      ∃ texture box, surface.texture = some texture ∧
        RenderedView.outputBox ⟨some 1, false, false, 10, 10, [⟨0, 0, 10, 10, some 7⟩]⟩ none
          ⟨10, 10⟩ [.clipRoundedRect ⟨⟨0, 0, 10, 10⟩, ⟨3, 3⟩, ⟨3, 3⟩, ⟨3, 3⟩, ⟨3, 3⟩⟩,
            .clipRect ⟨0, 0, 1, 1⟩] ⟨0, 0, 10, 10⟩ surface = some box ∧
        call = .drawRounded texture (viewportQuad ⟨0, 0, 10, 10⟩ (10, 10) box)
          (List.map opacityOf [.clipRoundedRect ⟨⟨0, 0, 10, 10⟩, ⟨3, 3⟩, ⟨3, 3⟩, ⟨3, 3⟩, ⟨3, 3⟩⟩,
            .clipRect ⟨0, 0, 1, 1⟩]).prod ⟨⟨0, 0, 10, 10⟩, 3, 3, 3, 3⟩ 10)
    [⟨0, 0, 10, 10, some 7⟩]
    [.drawRounded 7 ⟨-1, 1, 1, -1⟩ 1 ⟨⟨0, 0, 10, 10⟩, 3, 3, 3, 3⟩ 10] :=
  draws_rounded ⟨some 1, false, false, 10, 10, [⟨0, 0, 10, 10, some 7⟩]⟩ none ⟨10, 10⟩
    [.clipRoundedRect ⟨⟨0, 0, 10, 10⟩, ⟨3, 3⟩, ⟨3, 3⟩, ⟨3, 3⟩, ⟨3, 3⟩⟩, .clipRect ⟨0, 0, 1, 1⟩]
    ⟨0, 0, 10, 10⟩ (10, 10) _ ⟨⟨0, 0, 10, 10⟩, 3, 3, 3, 3⟩ (by decide +kernel) (by decide +kernel)

end Calls

/-! ## §6. Frame and content. -/

section Content

variable {t : FlutterTransformation} {rect : FlutterRect} {box : WlrBox} {view : RenderedView}
  {size : FlutterPair}

/-- The box of a rectangle that is only moved. -/
theorem mutationBox_translation {dx dy : ℚ}
    (h : ∀ x y, flutterTransformPoint t x y = (x + dx, y + dy)) (hx : rect.left ≤ rect.right)
    (hy : rect.top ≤ rect.bottom) (hbox : mutationBox t 1 rect = some box) :
    box.x = ⌊rect.left + dx⌋ ∧ box.y = ⌊rect.top + dy⌋ ∧
      box.x + box.width = ⌈rect.right + dx⌉ ∧ box.y + box.height = ⌈rect.bottom + dy⌉ := by
  obtain ⟨flat, hflat, hscaled⟩ := Option.bind_eq_some_iff.mp hbox
  rw [scaleBox, if_pos rfl] at hscaled
  obtain rfl := Option.some.inj hscaled
  unfold flutterTransformRect at hflat
  simp only [h] at hflat
  obtain ⟨x, hx', hflat⟩ := Option.bind_eq_some_iff.mp hflat
  obtain ⟨y, hy', hflat⟩ := Option.bind_eq_some_iff.mp hflat
  obtain ⟨width, hwidth, hflat⟩ := Option.bind_eq_some_iff.mp hflat
  obtain ⟨height, hheight, hflat⟩ := Option.bind_eq_some_iff.mp hflat
  obtain rfl := Option.some.inj hflat
  have hleft : rect.left + dx ≤ rect.right + dx := by linarith
  have htop : rect.top + dy ≤ rect.bottom + dy := by linarith
  rw [toInt_eq_some hx', toInt_eq_some hy', toInt_eq_some hwidth, toInt_eq_some hheight,
    min_eq_left hleft, min_self, max_eq_right hleft, max_self, min_self, max_self, min_self,
    max_self, min_eq_left htop, max_eq_right htop]
  refine ⟨rfl, rfl, ?_, ?_⟩
  · show ⌊rect.left + dx⌋ + (⌈rect.right + dx⌉ - ⌊rect.left + dx⌋) = _
    omega
  · show ⌊rect.top + dy⌋ + (⌈rect.bottom + dy⌉ - ⌊rect.top + dy⌋) = _
    omega

/-- The side of a surface, scaled, is that of its layer if they are the same or more than one part
    in a hundred apart. -/
theorem contentScale_mul {surfWidth surfHeight surf : Int} {side : ℚ} (hw : surfWidth > 0)
    (hh : surfHeight > 0) (hsize : size.fst > 0 ∧ size.snd > 0) (hsurf : surf > 0)
    (hside : side = surf ∨ side > 1.01 * surf) :
    surf * contentScale surfWidth surfHeight size surf side = side := by
  have hpos : (0 : ℚ) < surf := Int.cast_pos.mpr hsurf
  rw [contentScale, if_pos ⟨hw, hh, hsize⟩]
  rcases hside with heq | hlarge
  · have hone : side / surf = 1 := by rw [heq, div_self hpos.ne']
    dsimp only
    rw [hone, if_neg (by norm_num), mul_one, heq]
  · have hscale : side / surf > 1.01 := (lt_div_iff₀ hpos).mpr hlarge
    dsimp only
    rw [if_pos hscale, mul_div_cancel₀ _ hpos.ne']

/-- **Frame and content are on the same pixels**, as far as numbers are exact: a window that Flutter
    only moves, on an output without a scale, has the edges of a texture layer of the same place
    and size. -/
theorem agrees_with_texture (view : RenderedView) (firstOutput : Option ℚ)
    (offset size : FlutterPair) (mutations : List PlatformViewMutation) (viewport : OutputViewport)
    (texture : Option Nat) (box : WlrBox) (hscale : view.scale firstOutput = 1)
    (hmoved : ∀ x y, transformThrough (x, y) (affineParts mutations)
      = (x + offset.fst, y + offset.snd))
    (hw : view.surfWidth > 0) (hh : view.surfHeight > 0)
    (hwidth : size.fst = view.surfWidth ∨ size.fst > 1.01 * view.surfWidth)
    (hheight : size.snd = view.surfHeight ∨ size.snd > 1.01 * view.surfHeight)
    (hbox : surfaceBox (mutations.foldl enter .identity) (view.scale firstOutput)
      (view.contentScaleX size) (view.contentScaleY size) viewport
      ⟨0, 0, view.surfWidth, view.surfHeight, texture⟩ = some box) :
    (box.x, box.y, box.x + box.width, box.y + box.height)
      = textureLayerEdges offset size viewport := by
  have hw' : (0 : ℚ) < view.surfWidth := Int.cast_pos.mpr hw
  have hh' : (0 : ℚ) < view.surfHeight := Int.cast_pos.mpr hh
  have hsize : size.fst > 0 ∧ size.snd > 0 := by
    constructor
    · rcases hwidth with heq | hlarge <;> linarith
    · rcases hheight with heq | hlarge <;> linarith
  have hpoint : ∀ x y, flutterTransformPoint (mutations.foldl enter .identity) x y
      = (x + offset.fst, y + offset.snd) := by
    intro x y
    rw [(transformPoint_stack isAffine_identity mutations x y).2, transformPoint_identity, hmoved]
  obtain ⟨layoutBox, hlayout, rfl⟩ := surfaceBox_eq_some hbox
  rw [hscale] at hlayout
  have hright : view.surfWidth * view.contentScaleX size = size.fst :=
    contentScale_mul hw hh hsize hw hwidth
  have hbottom : view.surfHeight * view.contentScaleY size = size.snd :=
    contentScale_mul hw hh hsize hh hheight
  have hrect : VisitedSurface.contentRect ⟨0, 0, view.surfWidth, view.surfHeight, texture⟩
      (view.contentScaleX size) (view.contentScaleY size) = ⟨0, 0, size.fst, size.snd⟩ := by
    simp only [VisitedSurface.contentRect, Int.cast_zero, zero_mul, zero_add, hright, hbottom]
  rw [hrect] at hlayout
  obtain ⟨hx, hy, hx', hy'⟩ := mutationBox_translation hpoint hsize.1.le hsize.2.le hlayout
  dsimp only at hx hy hx' hy'
  rw [zero_add] at hx hy
  unfold textureLayerEdges
  rw [add_comm offset.fst, add_comm offset.snd, ← hx, ← hy, ← hx', ← hy']
  simp only [Prod.mk.injEq, true_and]
  omega

/-- A window between pixels, with its frame. -/
theorem agrees_with_texture_moved :
    surfaceBox ⟨1, 0, 0.5, 0, 1, 1.25, 0, 0, 1⟩ 1 1 1 ⟨0, 0, 100, 100⟩ ⟨0, 0, 10, 10, none⟩
        = some ⟨0, 1, 11, 11⟩ ∧
      ((0, 1, 0 + 11, 1 + 11) : Int × Int × Int × Int)
        = textureLayerEdges ⟨0.5, 1.25⟩ ⟨10, 10⟩ ⟨0, 0, 100, 100⟩ := by
  refine ⟨by decide +kernel, ?_⟩
  exact agrees_with_texture ⟨some 1, false, false, 10, 10, []⟩ none ⟨0.5, 1.25⟩ ⟨10, 10⟩
    [.transformation ⟨1, 0, 0.5, 0, 1, 1.25, 0, 0, 1⟩] ⟨0, 0, 100, 100⟩ none ⟨0, 1, 11, 11⟩ rfl
    (fun x y => by simp [affineParts, transformThrough, flutterTransformIsAffine,
      flutterTransformPoint]) (by decide) (by decide) (.inl (by norm_num)) (.inl (by norm_num))
    (by decide +kernel)

end Content

end FlutterWlroots.Renderer
