/-
  FlutterWlroots.Renderer.SoftwareCursor — the cursor that is drawn on an output (output.c, input.c,
  cursor.c).

  A client sets the cursor to a surface of its own, Dart to a cursor of the theme.  `render_cursor`
  draws the one or the other on top of a frame; it keeps one texture, made of the image of a theme's
  cursor, with the name it was made for.

    • `renderCursor`        — the drawing, which may find that the surface has been freed,
    • `cursorFrames`        — the runs of requests and frames,
    • `asked`, `left`       — what was asked for last, and what is left of it on the screen,
    • `slot_cacheTexture`   — the texture is fetched from a cache for one object,
    • `frames_show_asked`   — every frame shows what was asked for last, but that a client cannot
                              hide a cursor of the theme.
-/
import FlutterWlroots.Compositor.Events
import FlutterWlroots.Lib.SlotCache
import FlutterWlroots.Lib.Watch

namespace FlutterWlroots.Renderer

open Lib FlutterWlroots.Compositor

/-! ## §1. Drawing. -/

/-- `struct wlr_xcursor_image`; `buffer` are its pixels. -/
structure XcursorImage where
  width : Int
  height : Int
  hotspotX : Int
  hotspotY : Int
  buffer : Nat
  deriving DecidableEq, Repr

/-- What does not change: whether another compositor draws the cursor, and the first image of
    each cursor of the theme. -/
structure CursorTheme where
  nested : Bool
  xcursor : String → Option XcursorImage

/-- A frame of an output: where the cursor and the viewport are, which surfaces are mapped and have
    a texture, with its size, and whether pixels could be uploaded. -/
structure CursorFrame where
  cursorX : Int
  cursorY : Int
  viewportX : Int
  viewportY : Int
  mapped : Ptr → Bool
  texture : Ptr → Option (Int × Int)
  uploads : Bool

/-- The instance with its `xcursor_texture`; `textures` are those made and not destroyed. -/
structure CursorState where
  compositor : Instance
  xcursorTexture : Option Nat
  xcursorTextureName : Option String
  textures : Store XcursorImage

/-- The texture of a surface, or one that was made of an image. -/
inductive CursorTexture where
  | surface (surface : Ptr)
  | xcursor (texture : Nat)
  deriving DecidableEq, Repr

/-- `wlr_render_texture_options`. -/
structure DrawnCursor where
  texture : CursorTexture
  dstBox : WlrBox
  deriving DecidableEq, Repr

namespace CursorFrame

/-- `cursor_box`. -/
def cursorBox (f : CursorFrame) (hotspotX hotspotY width height : Int) : WlrBox where
  x := f.cursorX - hotspotX - f.viewportX
  y := f.cursorY - hotspotY - f.viewportY
  width := width
  height := height

end CursorFrame

namespace CursorState

variable (t : CursorTheme) (f : CursorFrame) (s : CursorState)

def init : CursorState := ⟨.init, none, none, .empty⟩

/-- The old texture destroyed, and its name freed. -/
def destroyTexture : CursorState :=
  { s with
    xcursorTexture := none
    xcursorTextureName := none
    textures :=
      match s.xcursorTexture with
      | some texture => s.textures.free texture
      | none => s.textures }

/-- The texture of a cursor of the theme, created or reused. -/
def cacheTexture (name : String) (image : XcursorImage) : CursorState :=
  if s.xcursorTexture = none ∨ s.xcursorTextureName = none ∨ s.xcursorTextureName ≠ some name then
    let s := s.destroyTexture
    if f.uploads then
      { s with
        xcursorTexture := some s.textures.next
        xcursorTextureName := some name
        textures := s.textures.alloc image }
    else s
  else s

/-- The branch for the theme; no result if the texture was destroyed. -/
def renderXcursor : Option (CursorState × Option DrawnCursor) :=
  match s.compositor.currentXcursorName with
  | none => some (s, none)
  | some name =>
      match t.xcursor name with
      | none => some (s, none)
      | some image =>
          let s := s.cacheTexture f name image
          match s.xcursorTexture with
          | none => some (s, none)
          | some texture =>
              (s.textures.get texture).map fun pixels =>
                (s, some ⟨.xcursor texture,
                  f.cursorBox image.hotspotX image.hotspotY pixels.width pixels.height⟩)

/-- `render_cursor`; no result if something that was freed is read. -/
def renderCursor : Option (CursorState × Option DrawnCursor) :=
  if t.nested then some (s, none)
  else
    match s.compositor.clientCursorSurface with
    | none => s.renderXcursor t f
    | some surface =>
        if s.compositor.wlrSurfaces.Live surface then
          if f.mapped surface then
            some (s, (f.texture surface).map fun size =>
              ⟨.surface surface, f.cursorBox s.compositor.clientCursorHotspotX
                s.compositor.clientCursorHotspotY size.1 size.2⟩)
          else s.renderXcursor t f
        else none

end CursorState

/-! ## §2. Runs. -/

/-- Surfaces come and go, clients and Dart ask for a cursor, and outputs draw frames. -/
inductive CursorEvent where
  | newSurface
  | surfaceDestroy (surface : Ptr)
  | requestCursor (focused : Bool) (surface : Option Ptr) (hotspotX hotspotY : Int)
  | activateSystemCursor (xcursorName : String)
  | frame (f : CursorFrame)

namespace CursorState

/-- An event of the compositor. -/
def handle (s : CursorState) (e : Event) : Option CursorState :=
  (Compositor.compositor.step s.compositor e).map fun compositor => { s with compositor }

def step (t : CursorTheme) (s : CursorState) : CursorEvent → Option CursorState
  | .newSurface => s.handle .newSurface
  | .surfaceDestroy surface => s.handle (.surfaceDestroy surface)
  | .requestCursor focused surface x y => s.handle (.requestCursor focused surface x y)
  | .activateSystemCursor xcursorName => s.handle (.activateSystemCursor xcursorName)
  | .frame f => (s.renderCursor t f).map (·.1)

end CursorState

/-- The runs with a theme. -/
def cursorFrames (t : CursorTheme) : Machine CursorState CursorEvent where
  init := .init
  step := CursorState.step t

/-- What is to be seen; a client that asks for no cursor may do so over a cursor of the theme. -/
inductive AskedCursor where
  | theme (xcursorName : String)
  | surface (surface : Ptr) (hotspotX hotspotY : Int)
  | hidden (above : Option String)
  deriving DecidableEq, Repr

/-- The cursor of the theme that is up. -/
def AskedCursor.up : AskedCursor → Option String
  | .theme xcursorName => some xcursorName
  | .surface _ _ _ => none
  | .hidden above => above

/-- What is asked for after an event. -/
def asked : CursorEvent → AskedCursor → AskedCursor
  | .requestCursor true (some surface) x y, _ => .surface surface x y
  | .requestCursor true none _ _, a => .hidden a.up
  | .activateSystemCursor xcursorName, _ => .theme xcursorName
  | _, a => a

/-- What is left of it: `on_seat_request_cursor` does not take a cursor of the theme down. -/
def AskedCursor.left : AskedCursor → AskedCursor
  | .hidden (some xcursorName) => .theme xcursorName
  | a => a

/-- The runs with what was asked for last. -/
def askedFrames (t : CursorTheme) : Machine (Watched CursorState AskedCursor) CursorEvent :=
  (cursorFrames t).watch (.theme "left_ptr") fun _ e a => asked e a

/-! ## §3. The texture. -/

namespace CursorState

/-- The texture with its name, as a cache for one object. -/
def slot (s : CursorState) : SlotCache String XcursorImage :=
  ⟨s.xcursorTexture, s.xcursorTextureName, s.textures⟩

/-- The image that a texture is made of, which is there for the names that are looked up. -/
def imageOf (t : CursorTheme) (name : String) : XcursorImage :=
  (t.xcursor name).getD ⟨0, 0, 0, 0, 0⟩

variable {t : CursorTheme} {f : CursorFrame} {s s' : CursorState} {name : String}
  {image : XcursorImage}

/-- **The texture is fetched from the cache.** -/
theorem slot_cacheTexture (s : CursorState) (f : CursorFrame) (name : String)
    (image : XcursorImage) :
    (s.cacheTexture f name image).slot
      = s.slot.fetch name (if f.uploads then some image else none) := by
  have hcond : (s.xcursorTexture = none ∨ s.xcursorTextureName = none
      ∨ s.xcursorTextureName ≠ some name)
      ↔ ¬ (s.xcursorTexture.isSome = true ∧ s.xcursorTextureName = some name) := by
    cases s.xcursorTexture <;> cases s.xcursorTextureName <;> simp
  unfold cacheTexture SlotCache.fetch
  rw [if_congr hcond rfl rfl, ite_not]
  show slot (if s.xcursorTexture.isSome = true ∧ s.xcursorTextureName = some name then _ else _)
    = if s.xcursorTexture.isSome = true ∧ s.xcursorTextureName = some name then _ else _
  split
  · rfl
  · dsimp only
    cases f.uploads <;> rfl

theorem compositor_cacheTexture (s : CursorState) (f : CursorFrame) (name : String)
    (image : XcursorImage) : (s.cacheTexture f name image).compositor = s.compositor := by
  unfold cacheTexture
  split
  · dsimp only
    split <;> rfl
  · rfl

/-! ## §4. What is seen. -/

end CursorState

/-- The surface of a client, or the image of a cursor. -/
inductive CursorPicture where
  | surface (surface : Ptr)
  | image (image : XcursorImage)
  deriving DecidableEq, Repr

/-- A picture and where it is. -/
structure SeenCursor where
  picture : CursorPicture
  box : WlrBox
  deriving DecidableEq, Repr

/-- What is seen of a texture that was drawn. -/
def CursorState.look (s : CursorState) (drawn : DrawnCursor) : Option SeenCursor :=
  match drawn.texture with
  | .surface surface => some ⟨.surface surface, drawn.dstBox⟩
  | .xcursor texture => (s.textures.get texture).map fun image => ⟨.image image, drawn.dstBox⟩

namespace AskedCursor

/-- What a frame shows: a cursor of the theme if its texture is kept or can be made, a surface if it
    is mapped and has a texture. -/
def shown (t : CursorTheme) (f : CursorFrame) (kept : Option String) :
    AskedCursor → Option SeenCursor
  | .theme xcursorName =>
      (t.xcursor xcursorName).bind fun image =>
        if kept = some xcursorName ∨ f.uploads then
          some ⟨.image image, f.cursorBox image.hotspotX image.hotspotY image.width image.height⟩
        else none
  | .surface p x y =>
      if f.mapped p then
        (f.texture p).map fun size => ⟨.surface p, f.cursorBox x y size.1 size.2⟩
      else none
  | .hidden _ => none

/-- The instance holds what was asked for. -/
def HeldBy (s : Instance) : AskedCursor → Prop
  | .theme xcursorName =>
      s.currentXcursorName = some xcursorName ∧ s.clientCursorSurface = none
  | .surface p x y =>
      s.currentXcursorName = none ∧ s.clientCursorSurface = some p
        ∧ s.clientCursorHotspotX = x ∧ s.clientCursorHotspotY = y
  | .hidden _ => s.currentXcursorName = none ∧ s.clientCursorSurface = none

end AskedCursor

namespace CursorState

variable {t : CursorTheme} {f : CursorFrame} {s s' : CursorState} {a : AskedCursor}
  {drawn : Option DrawnCursor} {name : String} {image : XcursorImage}

/-- What every run keeps. -/
structure Ready (t : CursorTheme) (s : CursorState) (a : AskedCursor) : Prop where
  held : a.HeldBy s.compositor
  slot : s.slot.Coherent (imageOf t)

theorem imageOf_eq (h : t.xcursor name = some image) : imageOf t name = image := by
  unfold imageOf
  rw [h, Option.getD_some]

theorem made_eq (h : t.xcursor name = some image) :
    ∀ x ∈ (if f.uploads then some image else none), x = imageOf t name := by
  intro x hx
  rw [imageOf_eq h]
  cases hup : f.uploads with
  | true =>
      rw [hup, if_pos rfl] at hx
      exact (Option.some.inj hx).symm
  | false =>
      rw [hup, if_neg Bool.false_ne_true] at hx
      cases hx

theorem Ready.cacheTexture (h : Ready t s a) (himage : t.xcursor name = some image) :
    Ready t (s.cacheTexture f name image) a where
  held := by
    rw [compositor_cacheTexture]
    exact h.held
  slot := by
    rw [slot_cacheTexture]
    exact h.slot.fetch (made_eq himage)

/-- **The branch for the theme.** -/
theorem renderXcursor_of_ready (h : Ready t s (.theme name)) :
    ∃ s' drawn, s.renderXcursor t f = some (s', drawn) ∧ Ready t s' (.theme name)
      ∧ drawn.bind s'.look = (AskedCursor.theme name).shown t f s.xcursorTextureName
      ∧ (s.xcursorTextureName = some name → s' = s) := by
  unfold renderXcursor
  rw [h.held.1]
  dsimp only
  cases himage : t.xcursor name with
  | none =>
      refine ⟨s, none, rfl, h, ?_, fun _ => rfl⟩
      rw [AskedCursor.shown, himage]
      rfl
  | some image =>
      have hready := h.cacheTexture (f := f) himage
      have hfound : (s.cacheTexture f name image).slot.found
          = if s.xcursorTextureName = some name then some image
            else if f.uploads then some image else none := by
        rw [slot_cacheTexture, h.slot.found_fetch, imageOf_eq himage]
        rfl
      have hsame : s.xcursorTextureName = some name → s.cacheTexture f name image = s := by
        intro hname
        have hisSome := h.slot.isSome_of_key hname
        unfold CursorState.cacheTexture
        rw [if_neg]
        rw [hname]
        cases hobject : s.xcursorTexture with
        | none =>
            rw [show s.slot.object = s.xcursorTexture from rfl, hobject] at hisSome
            cases hisSome
        | some texture => simp
      have hshown : (AskedCursor.theme name).shown t f s.xcursorTextureName
          = (s.cacheTexture f name image).slot.found.map fun image =>
            ⟨.image image, f.cursorBox image.hotspotX image.hotspotY image.width image.height⟩ := by
        rw [hfound, AskedCursor.shown, himage, Option.bind_some]
        by_cases hname : s.xcursorTextureName = some name
        · rw [if_pos (.inl hname), if_pos hname]
          rfl
        · rw [if_neg hname]
          cases f.uploads with
          | true =>
              rw [if_pos (.inr rfl)]
              rfl
          | false =>
              rw [if_neg (by simp [hname])]
              rfl
      rw [hshown]
      dsimp only
      clear hshown
      generalize s.cacheTexture f name image = cached at *
      cases hobject : cached.xcursorTexture with
      | none =>
          refine ⟨cached, none, rfl, hready, ?_, hsame⟩
          unfold SlotCache.found
          rw [show cached.slot.object = none from hobject]
          rfl
      | some texture =>
          -- the slot names a texture that is there
          obtain ⟨pixels, hpixels⟩ := Store.live_iff.mp ((hready.slot.live texture).mpr hobject)
          have hpixels : cached.textures.get texture = some pixels := hpixels
          have hin : cached.slot.found = some pixels := by
            unfold SlotCache.found
            rw [show cached.slot.object = some texture from hobject]
            exact hpixels
          refine ⟨cached, _, congrArg (Option.map _) hpixels, hready, ?_, hsame⟩
          rw [hin] at hfound
          have himg : pixels = image := by
            split at hfound
            · exact Option.some.inj hfound
            · split at hfound
              · exact Option.some.inj hfound
              · cases hfound
          subst himg
          rw [hin]
          show (cached.textures.get texture).map _ = _
          rw [hpixels]
          rfl

/-! ## §5. Every frame. -/

/-- The surface that was asked for is gone. -/
def Gone (s : CursorState) (a : AskedCursor) : Prop :=
  ∃ p x y, a = .surface p x y ∧ ¬ s.compositor.wlrSurfaces.Live p

/-- A frame, after which what every run keeps is still there. -/
structure Shows (t : CursorTheme) (f : CursorFrame) (s : CursorState) (a : AskedCursor)
    (s' : CursorState) (drawn : Option DrawnCursor) : Prop where
  ready : Ready t s' a
  seen : drawn.bind s'.look = if t.nested then none else a.shown t f s.xcursorTextureName
  same : (∀ name, a = .theme name → s.xcursorTextureName = some name) → s' = s

/-- **One frame** ends, unless the surface that was asked for is gone. -/
theorem renderCursor_of_ready (h : Ready t s a) (f : CursorFrame) :
    (s.renderCursor t f = none ∧ t.nested = false ∧ s.Gone a)
      ∨ (∃ s' drawn, s.renderCursor t f = some (s', drawn) ∧ Shows t f s a s' drawn
        ∧ ¬ (t.nested = false ∧ s.Gone a)) := by
  unfold renderCursor
  cases hnested : t.nested with
  | true =>
      refine .inr ⟨s, none, if_pos rfl, ⟨h, ?_, fun _ => rfl⟩, fun hno => Bool.noConfusion hno.1⟩
      rw [hnested, if_pos rfl]
      rfl
  | false =>
      rw [if_neg Bool.false_ne_true]
      have hasked := h.held
      cases a with
      | theme name =>
          obtain ⟨s', drawn, hrun, hready, hseen, hsame⟩ := renderXcursor_of_ready (f := f) h
          rw [hasked.2]
          refine .inr ⟨s', drawn, hrun, ⟨hready, ?_, fun hname => hsame (hname name rfl)⟩, ?_⟩
          · rw [hnested, if_neg Bool.false_ne_true]
            exact hseen
          · rintro ⟨-, p, x, y, heq, -⟩
            cases heq
      | hidden above =>
          rw [hasked.2]
          refine .inr ⟨s, none, ?_, ⟨h, ?_, fun _ => rfl⟩, ?_⟩
          · unfold renderXcursor
            rw [hasked.1]
          · rw [hnested, if_neg Bool.false_ne_true]
            rfl
          · rintro ⟨-, p, x, y, heq, -⟩
            cases heq
      | surface p x y =>
          obtain ⟨hname, hsurface, hx, hy⟩ := hasked
          rw [hsurface]
          dsimp only
          by_cases hlive : s.compositor.wlrSurfaces.Live p
          · rw [if_pos hlive]
            have hnot : ¬ (false = false ∧ s.Gone (.surface p x y)) := by
              rintro ⟨-, p', x', y', heq, hgone⟩
              cases heq
              exact hgone hlive
            cases hmapped : f.mapped p with
            | true =>
                refine .inr ⟨s, _, if_pos rfl, ⟨h, ?_, fun _ => rfl⟩, hnot⟩
                rw [hnested, if_neg Bool.false_ne_true, AskedCursor.shown, hmapped, if_pos rfl, hx,
                  hy]
                cases f.texture p <;> rfl
            | false =>
                -- the theme has no name any more
                refine .inr ⟨s, none, ?_, ⟨h, ?_, fun _ => rfl⟩, hnot⟩
                · rw [if_neg Bool.false_ne_true]
                  unfold renderXcursor
                  rw [hname]
                · rw [hnested, if_neg Bool.false_ne_true, AskedCursor.shown, hmapped,
                    if_neg Bool.false_ne_true]
                  rfl
          · rw [if_neg hlive]
            exact .inl ⟨rfl, rfl, p, x, y, rfl, hlive⟩

/-! ## §6. Runs. -/

theorem ready_init (t : CursorTheme) : Ready t .init (.theme "left_ptr") :=
  ⟨⟨rfl, rfl⟩, SlotCache.coherent_empty _⟩

/-- A request, or a surface that comes or goes. -/
theorem Ready.handle (h : Ready t s a) {e : Event} {a' : AskedCursor}
    (hstep : s.handle e = some s')
    (hasked : ∀ compositor, s.compositor.handle e = .ok compositor → a'.HeldBy compositor) :
    Ready t s' a' := by
  obtain ⟨compositor, hcompositor, rfl⟩ := Option.map_eq_some_iff.mp hstep
  exact ⟨hasked compositor (compositor_step.mp hcompositor).2, h.slot⟩

/-- **One event.** -/
theorem Ready.step (h : Ready t s a.left) {e : CursorEvent} (hstep : s.step t e = some s') :
    Ready t s' (asked e a).left := by
  cases e with
  | newSurface | surfaceDestroy =>
      refine h.handle hstep fun compositor heq => ?_
      cases heq
      have hheld := h.held
      show a.left.HeldBy _
      cases ha : a.left <;> rw [ha] at hheld <;> exact hheld
  | activateSystemCursor xcursorName =>
      refine h.handle hstep fun compositor heq => ?_
      cases heq
      exact ⟨rfl, rfl⟩
  | requestCursor focused surface x y =>
      refine h.handle hstep fun compositor heq => ?_
      cases heq
      cases focused with
      | false => cases surface <;> exact h.held
      | true =>
          cases surface with
          | some p => exact ⟨rfl, rfl, rfl, rfl⟩
          | none =>
              cases a with
              | theme name => exact ⟨h.held.1, rfl⟩
              | surface p x' y' => exact ⟨h.held.1, rfl⟩
              | hidden above => cases above <;> exact ⟨h.held.1, rfl⟩
  | frame f =>
      obtain ⟨⟨s₁, drawn⟩, hrun, rfl⟩ := Option.map_eq_some_iff.mp hstep
      rcases renderCursor_of_ready h f with ⟨hnone, -⟩ | ⟨s₂, drawn₂, hok, hshows, -⟩
      · cases hrun.symm.trans hnone
      · cases hrun.symm.trans hok
        exact hshows.ready

theorem reach_ready {w : Watched CursorState AskedCursor} (h : (askedFrames t).Reachable w) :
    Ready t w.state w.note.left := by
  refine h.invariant (P := fun w => Ready t w.state w.note.left) (ready_init t) ?_
  intro w e w' hw _ hstep
  obtain ⟨hstep, hnote⟩ := Machine.watch_step.mp hstep
  rw [hnote]
  exact hw.step hstep

end CursorState

/-! The pointer of a theme, drawn a second time where nothing can be uploaded. -/

def pointerTheme : CursorTheme where
  nested := false
  xcursor := fun name => if name = "pointer" then some ⟨24, 24, 4, 4, 1⟩ else none

def frameAt (cursorX cursorY : Int) (uploads : Bool) : CursorFrame :=
  ⟨cursorX, cursorY, 0, 0, fun _ => false, fun _ => none, uploads⟩

/-- A client hides the pointer, which stays. -/
example : ((askedFrames pointerTheme).exec (askedFrames pointerTheme).init
    [.activateSystemCursor "pointer", .frame (frameAt 10 10 true),
      .requestCursor true none 0 0]).bind (fun w =>
        (w.state.renderCursor pointerTheme (frameAt 100 50 false)).map fun result =>
          (w.note, result.2.bind result.1.look))
      = some (.hidden (some "pointer"), some ⟨.image ⟨24, 24, 4, 4, 1⟩, ⟨96, 46, 24, 24⟩⟩) := by
  decide +kernel

end FlutterWlroots.Renderer
