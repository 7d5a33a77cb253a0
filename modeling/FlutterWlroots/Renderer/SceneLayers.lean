/-
  FlutterWlroots.Renderer.SceneLayers — drawing the scene that Flutter has presented (renderer.c).

  A layer of the scene is a texture of Flutter or a platform view, which is a window.  Around a
  platform view Flutter puts mutations: transformations, clips, opacity.  They are gone through
  once; a clip is taken in the transformation reached by then.  With a rounded clip the surfaces of
  the window are drawn by a shader that knows that one clip, otherwise as textures under the region
  of all clips.

    • `applyMutation`            — one mutation,
    • `renderSceneLayerPlatform` — the calls that draw a platform view,
    • `renderSceneLayerTexture`  — the quad of a texture of Flutter,
    • `renderScene`              — all layers in their order.

  Numbers are exact, as in `Geometry`; so they are finite, and the tests for that always succeed.
-/
import FlutterWlroots.Renderer.BackingStores
import FlutterWlroots.Renderer.Geometry

namespace FlutterWlroots.Renderer

open Lib.Rounding
open FlutterWlroots.Compositor (WlrBox)

/-! ## §1. Mutations. -/

/-- `FlutterRect`. -/
structure FlutterRect where
  left : ℚ
  top : ℚ
  right : ℚ
  bottom : ℚ
  deriving DecidableEq, Repr

/-- `FlutterRoundedRect`; a radius has a width and a height. -/
structure FlutterRoundedRect where
  rect : FlutterRect
  upperLeftCornerRadius : FlutterPair
  upperRightCornerRadius : FlutterPair
  lowerRightCornerRadius : FlutterPair
  lowerLeftCornerRadius : FlutterPair

/-- `FlutterPlatformViewMutation`. -/
inductive PlatformViewMutation where
  | opacity (opacity : ℚ)
  | transformation (transformation : FlutterTransformation)
  | clipRect (clipRect : FlutterRect)
  | clipRoundedRect (clipRoundedRect : FlutterRoundedRect)

/-- `fwr_rounded_clip`, when it is active. -/
structure FwrRoundedClip where
  rect : WlrBox
  radiusTl : ℚ
  radiusTr : ℚ
  radiusBr : ℚ
  radiusBl : ℚ
  deriving DecidableEq, Repr

/-- The pixels of both boxes. -/
def intersectBox (a b : WlrBox) : WlrBox where
  x := max a.x b.x
  y := max a.y b.y
  width := min (a.x + a.width) (b.x + b.width) - max a.x b.x
  height := min (a.y + a.height) (b.y + b.height) - max a.y b.y

deriving instance DecidableEq for PixmanRegion32

/-- `pixman_region32_init_rect`; a box without a pixel gives the empty region. -/
def PixmanRegion32.initRect (box : WlrBox) : PixmanRegion32 := ⟨[box]⟩

/-- `pixman_region32_intersect`. -/
def PixmanRegion32.intersect (a b : PixmanRegion32) : PixmanRegion32 :=
  ⟨a.rects.flatMap fun box => b.rects.map (intersectBox box)⟩

/-- The local variables of the loop over the mutations; without a `clipRegion`, `has_clip` is
    false. -/
structure Mutated where
  opacity : ℚ
  currentTransform : FlutterTransformation
  transformAffine : Bool
  clipRegion : Option PixmanRegion32
  roundedClip : Option FwrRoundedClip

/-- The unit matrix. -/
def FlutterTransformation.identity : FlutterTransformation := ⟨1, 0, 0, 0, 1, 0, 0, 0, 1⟩

namespace Mutated

/-- Before the loop. -/
def init : Mutated where
  opacity := 1
  currentTransform := .identity
  transformAffine := true
  clipRegion := none
  roundedClip := none

/-- The region of a clip added to those there are. -/
def clip (s : Mutated) (tmp : PixmanRegion32) : Mutated :=
  { s with
    clipRegion := some (match s.clipRegion with
      | none => tmp
      | some clipRegion => clipRegion.intersect tmp) }

end Mutated

/-- `flutter_transform_rect` and `scale_box` one after the other. -/
def mutationBox (t : FlutterTransformation) (outputScale : ℚ) (rect : FlutterRect) :
    Option WlrBox := do
  let box ← flutterTransformRect t rect.left rect.top rect.right rect.bottom
  scaleBox box outputScale

/-- The four radii for the shader. -/
def roundedClipOf (r : FlutterRoundedRect) (outputScale : ℚ) (box : WlrBox) : FwrRoundedClip where
  rect := box
  radiusTl := r.upperLeftCornerRadius.fst * outputScale
  radiusTr := r.upperRightCornerRadius.fst * outputScale
  radiusBr := r.lowerRightCornerRadius.fst * outputScale
  radiusBl := r.lowerLeftCornerRadius.fst * outputScale

/-- `has_any_radius`. -/
def hasAnyRadius (disableRadius : Bool) (rc : FwrRoundedClip) : Bool :=
  !disableRadius &&
    (rc.radiusTl > 0.5 || rc.radiusTr > 0.5 || rc.radiusBr > 0.5 || rc.radiusBl > 0.5)

/-- The radii in pixels, both ways. -/
def cornerRadii (r : FlutterRoundedRect) (outputScale : ℚ) : Option CornerRadii := do
  let rTlX ← toInt (lround (r.upperLeftCornerRadius.fst * outputScale))
  let rTlY ← toInt (lround (r.upperLeftCornerRadius.snd * outputScale))
  let rTrX ← toInt (lround (r.upperRightCornerRadius.fst * outputScale))
  let rTrY ← toInt (lround (r.upperRightCornerRadius.snd * outputScale))
  let rBrX ← toInt (lround (r.lowerRightCornerRadius.fst * outputScale))
  let rBrY ← toInt (lround (r.lowerRightCornerRadius.snd * outputScale))
  let rBlX ← toInt (lround (r.lowerLeftCornerRadius.fst * outputScale))
  let rBlY ← toInt (lround (r.lowerLeftCornerRadius.snd * outputScale))
  return { rTlX, rTlY, rTrX, rTrY, rBrX, rBrY, rBlX, rBlY }

section Loop

variable (outputScale : ℚ) (disableRadius : Bool)

/-- The region of a rounded clip. -/
noncomputable def roundedRegion (r : FlutterRoundedRect) (box : WlrBox) : Option PixmanRegion32 :=
  if disableRadius ∨ ¬ hasAnyRadius disableRadius (roundedClipOf r outputScale box) then
    some (.initRect box)
  else do
    let radii ← cornerRadii r outputScale
    return pixmanRegion32InitRoundedRect box.x box.y box.width box.height radii

/-- A turn of the loop over the mutations; no result if a number does not fit in `int`. -/
noncomputable def applyMutation (s : Mutated) : PlatformViewMutation → Option Mutated
  | .opacity opacity => some { s with opacity := s.opacity * opacity }
  | .transformation mutationTransform =>
      if ¬ flutterTransformIsAffine mutationTransform then some { s with transformAffine := false }
      else some { s with
        currentTransform := flutterTransformMultiply mutationTransform s.currentTransform }
  | .clipRect clipRect => do
      let box ← mutationBox s.currentTransform outputScale clipRect
      return s.clip (.initRect box)
  | .clipRoundedRect r => do
      let box ← mutationBox s.currentTransform outputScale r.rect
      let rc := roundedClipOf r outputScale box
      -- only the first one counts for the shader
      let roundedClip := if hasAnyRadius disableRadius rc ∧ s.roundedClip = none then some rc
        else s.roundedClip
      let tmp ← roundedRegion outputScale disableRadius r box
      return { s with roundedClip }.clip tmp

/-- The loop over the mutations. -/
noncomputable def applyMutations (s : Mutated) (mutations : List PlatformViewMutation) :
    Option Mutated := mutations.foldlM (applyMutation outputScale disableRadius) s

end Loop

/-! ## §2. Platform views. -/

/-- A surface that `wlr_surface_for_each_surface` visits: where it is, its size, its texture. -/
structure VisitedSurface where
  sx : Int
  sy : Int
  width : Int
  height : Int
  texture : Option Nat

/-- What is read of a view: `outputScale` is the scale of its output if it has one, `surfWidth` and
    `surfHeight` are the size of its own surface. -/
structure RenderedView where
  outputScale : Option ℚ
  maximized : Bool
  fullscreen : Bool
  surfWidth : Int
  surfHeight : Int
  surfaces : List VisitedSurface

/-- `fwr_output_viewport`. -/
structure OutputViewport where
  x : Int
  y : Int
  width : Int
  height : Int

/-- A rectangle for GL, in normalised device coordinates. -/
structure NdcQuad where
  left : ℚ
  right : ℚ
  top : ℚ
  bottom : ℚ
  deriving DecidableEq, Repr

/-- What is drawn: a texture with `wlr_render_pass_add_texture`, a quad with the shader for rounded
    clips, a quad with a texture of Flutter. -/
inductive DrawCall where
  | addTexture (texture : Nat) (dstBox : WlrBox) (alpha : ℚ) (clip : Option PixmanRegion32)
  | drawRounded (texture : Nat) (quad : NdcQuad) (alpha : ℚ) (roundedClip : FwrRoundedClip)
      (outputHeight : Int)
  | drawTexture (texture : Nat) (quad : NdcQuad)
  deriving DecidableEq

/-- `content_scale_x` or `content_scale_y`, by the side of the surface and of the layer; the other
    tests only repeat that it is positive. -/
def contentScale (surfWidth surfHeight : Int) (size : FlutterPair) (surf : Int) (side : ℚ) : ℚ :=
  if surfWidth > 0 ∧ surfHeight > 0 ∧ size.fst > 0 ∧ size.snd > 0 then
    let s := side / surf
    if s > 1.01 then s else 1
  else 1

/-- The rectangle of a surface in the view, scaled. -/
def VisitedSurface.contentRect (surface : VisitedSurface) (contentScaleX contentScaleY : ℚ) :
    FlutterRect :=
  let left := surface.sx * contentScaleX
  let top := surface.sy * contentScaleY
  ⟨left, top, left + surface.width * contentScaleX, top + surface.height * contentScaleY⟩

/-- Where a surface of the view is drawn. -/
def surfaceBox (t : FlutterTransformation) (outputScale contentScaleX contentScaleY : ℚ)
    (viewport : OutputViewport) (surface : VisitedSurface) : Option WlrBox := do
  let dstBox ← mutationBox t outputScale (surface.contentRect contentScaleX contentScaleY)
  let x ← toInt (dstBox.x - viewport.x)
  let y ← toInt (dstBox.y - viewport.y)
  return { dstBox with x, y }

/-- A box of pixels as a quad of a framebuffer. -/
def ndcOfBox (left top right bottom : ℚ) (width height : Int) : NdcQuad where
  left := left / width * 2 - 1
  right := right / width * 2 - 1
  top := 1 - top / height * 2
  bottom := 1 - bottom / height * 2

/-- The size of the output layout, or of the viewport if it has one. -/
def positiveOr (n default : Int) : Int := if n > 0 then n else default

/-- `render_surface_iterator`. -/
def renderSurfaceIterator (s : Mutated) (outputScale contentScaleX contentScaleY : ℚ)
    (viewport : OutputViewport) (surface : VisitedSurface) : Option (List DrawCall) :=
  match surface.texture with
  | none => some []
  | some texture => do
      let dstBox ← surfaceBox s.currentTransform outputScale contentScaleX contentScaleY viewport
        surface
      return [.addTexture texture dstBox s.opacity s.clipRegion]

/-- `render_surface_rounded_iterator`; `total` is the size of the output layout. -/
def renderSurfaceRoundedIterator (s : Mutated) (roundedClip : FwrRoundedClip)
    (outputScale contentScaleX contentScaleY : ℚ) (viewport : OutputViewport) (total : Int × Int)
    (surface : VisitedSurface) : Option (List DrawCall) :=
  match surface.texture with
  | none => some []
  | some texture => do
      let outputWidth := positiveOr total.1 1
      let outputHeight := positiveOr total.2 1
      let dstBox ← surfaceBox s.currentTransform outputScale contentScaleX contentScaleY viewport
        surface
      let viewWidth := positiveOr viewport.width outputWidth
      let viewHeight := positiveOr viewport.height outputHeight
      let quad := ndcOfBox dstBox.x dstBox.y (dstBox.x + dstBox.width) (dstBox.y + dstBox.height)
        viewWidth viewHeight
      return [.drawRounded texture quad s.opacity roundedClip outputHeight]

/-- All surfaces of a view, in the order in which they are visited. -/
def forEachSurface (f : VisitedSurface → Option (List DrawCall)) :
    List VisitedSurface → Option (List DrawCall)
  | [] => some []
  | surface :: surfaces => do
      let calls ← f surface
      let rest ← forEachSurface f surfaces
      return calls ++ rest

namespace RenderedView

variable (view : RenderedView)

/-- `output_scale`; `firstOutput` is the scale of the first output, if there is one. -/
def scale (firstOutput : Option ℚ) : ℚ := (view.outputScale.or firstOutput).getD 1

/-- `content_scale_x`, for a layer of this size. -/
def contentScaleX (size : FlutterPair) : ℚ :=
  contentScale view.surfWidth view.surfHeight size view.surfWidth size.fst

/-- `content_scale_y`. -/
def contentScaleY (size : FlutterPair) : ℚ :=
  contentScale view.surfWidth view.surfHeight size view.surfHeight size.snd

/-- `disable_radius`. -/
def disableRadius : Bool := view.maximized || view.fullscreen

end RenderedView

/-- `render_scene_layer_platform`, for the view of the layer. -/
noncomputable def renderSceneLayerPlatform (view : RenderedView) (firstOutput : Option ℚ)
    (size : FlutterPair) (mutations : List PlatformViewMutation) (viewport : OutputViewport)
    (total : Int × Int) : Option (List DrawCall) := do
  let outputScale := view.scale firstOutput
  let contentScaleX := view.contentScaleX size
  let contentScaleY := view.contentScaleY size
  let s ← applyMutations outputScale view.disableRadius .init mutations
  match s.roundedClip with
  | some roundedClip =>
      forEachSurface (renderSurfaceRoundedIterator s roundedClip outputScale contentScaleX
        contentScaleY viewport total) view.surfaces
  | none =>
      forEachSurface (renderSurfaceIterator s outputScale contentScaleX contentScaleY viewport)
        view.surfaces

/-! ## §3. The scene. -/

/-- The box of a texture layer in pixels of the output: left, top, right, bottom. -/
def textureLayerEdges (offset size : FlutterPair) (viewport : OutputViewport) :
    Int × Int × Int × Int :=
  (⌊offset.fst⌋ - viewport.x, ⌊offset.snd⌋ - viewport.y,
    ⌈offset.fst + size.fst⌉ - viewport.x, ⌈offset.snd + size.snd⌉ - viewport.y)

/-- `render_scene_layer_texture`; `texture` is the name of the texture. -/
def renderSceneLayerTexture (offset size : FlutterPair) (texture : Nat)
    (viewport : OutputViewport) : DrawCall :=
  let outputWidth := positiveOr viewport.width 1
  let outputHeight := positiveOr viewport.height 1
  let (x0, y0, x1, y1) := textureLayerEdges offset size viewport
  .drawTexture texture (ndcOfBox x0 y0 x1 y1 outputWidth outputHeight)

/-- A layer of the scene; the handle of a view is the low half of its id. -/
noncomputable def renderSceneLayer (views : UInt32 → Option RenderedView)
    (textureName : Nat → Nat) (firstOutput : Option ℚ) (viewport : OutputViewport)
    (total : Int × Int) : SceneLayer PlatformViewMutation → Option (List DrawCall)
  | .texture offset size texture =>
      some [renderSceneLayerTexture offset size (textureName texture) viewport]
  | .platform _ size platformViewId mutations =>
      match views (UInt32.ofInt platformViewId) with
      | none => some []
      | some view => renderSceneLayerPlatform view firstOutput size mutations viewport total

/-- `fwr_renderer_render_scene`. -/
noncomputable def renderScene (views : UInt32 → Option RenderedView) (textureName : Nat → Nat)
    (firstOutput : Option ℚ) (viewport : OutputViewport) (total : Int × Int) :
    List (SceneLayer PlatformViewMutation) → Option (List DrawCall)
  | [] => some []
  | layer :: layers => do
      let calls ← renderSceneLayer views textureName firstOutput viewport total layer
      let rest ← renderScene views textureName firstOutput viewport total layers
      return calls ++ rest

end FlutterWlroots.Renderer
