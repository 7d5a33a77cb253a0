/-
  FlutterWlroots.Input.ResizeGrab — a window dragged by its edges.

  Dragging the left or the top edge moves the window by as much as it shrinks, so that the opposite
  edge stays where it is.  The size is then raised to the least one, but the position is not taken
  back: from there on the window slides along with the cursor.

    • `draggedEdge_iff`    — one edge: where the opposite one ends up,
    • `resizeGrab_box_iff` — a whole step of the grab,
    • `resize_opposite_iff` — both handlers that make it.
-/
import FlutterWlroots.Input.PointerEvents

namespace FlutterWlroots.Input

open Lib Lib.CInt FlutterWlroots.Compositor FlutterWlroots.Messages

/-! ## §1. The property. -/

/-- Values of an `int`. -/
def IsInt32 (x : Int) : Prop := -2 ^ 31 ≤ x ∧ x < 2 ^ 31

/-- An edge of something at `start` and `size` long is not dragged past the least size, and no `int`
    overflows. -/
def EdgeFits (start size d : Int) : Prop :=
  100 ≤ size - d ∧ IsInt32 (size - d) ∧ IsInt32 (start + d)

namespace FwrGrabState

variable (grab : FwrGrabState)

/-- `WLR_EDGE_TOP`. -/
def Top : Prop := grab.resizeEdges &&& 1 ≠ 0

/-- `WLR_EDGE_BOTTOM`. -/
def Bottom : Prop := grab.resizeEdges &&& 2 ≠ 0

/-- `WLR_EDGE_LEFT`. -/
def Left : Prop := grab.resizeEdges &&& 4 ≠ 0

/-- `WLR_EDGE_RIGHT`. -/
def Right : Prop := grab.resizeEdges &&& 8 ≠ 0

/-- A resize as it can be started, of a window that is large enough. -/
structure Resizes : Prop where
  type : grab.type = .resize
  x : IsInt32 grab.startViewX
  y : IsInt32 grab.startViewY
  width : 100 ≤ grab.startViewWidth ∧ grab.startViewWidth < 2 ^ 31
  height : 100 ≤ grab.startViewHeight ∧ grab.startViewHeight < 2 ^ 31
  horizontal : ¬ (grab.Left ∧ grab.Right)
  vertical : ¬ (grab.Top ∧ grab.Bottom)

/-- The view is large enough afterwards, the edge opposite to one that is dragged is where it was
    at the start, and a position whose edge is not dragged is kept. -/
structure KeepsOpposite (view view' : FwrView) : Prop where
  width : 100 ≤ view'.width
  height : 100 ≤ view'.height
  left : grab.Left → view'.x + view'.width = grab.startViewX + grab.startViewWidth
  top : grab.Top → view'.y + view'.height = grab.startViewY + grab.startViewHeight
  x : ¬ grab.Left → view'.x = view.x
  y : ¬ grab.Top → view'.y = view.y

/-- Neither the left nor the top edge is dragged too far. -/
def WithinMinimum (dx dy : Int) : Prop :=
  (grab.Left → EdgeFits grab.startViewX grab.startViewWidth dx)
    ∧ (grab.Top → EdgeFits grab.startViewY grab.startViewHeight dy)

end FwrGrabState

/-! ## §2. One edge. -/

/-- An edge dragged by `d`, with the size raised to the least one. -/
theorem draggedEdge_iff {start size d : Int} (hstart : IsInt32 start)
    (hsize : 100 ≤ size ∧ size < 2 ^ 31) (hd : IsInt32 d) :
    toInt32 (start + d) + max (toInt32 (size - d)) 100 = start + size ↔
      EdgeFits start size d := by
  unfold EdgeFits toInt32
  unfold IsInt32 at *
  rw [Int.bmod_def, Int.bmod_def]
  norm_num at hstart hsize hd ⊢
  omega

/-- `(int)` makes an `int` of every `double`. -/
theorem isInt32_toInt (c : Target) (x : Double) : IsInt32 (c.toInt x) := by
  have houtside : IsInt32 (c.outside x).toInt :=
    ⟨BitVec.le_toInt (c.outside x), BitVec.toInt_lt⟩
  unfold Target.toInt Lib.Double.toInt
  split
  next z hz =>
    split
    next hrange => exact hrange
    next => exact houtside
  next => exact houtside

variable {c : Target} {s : InputInstance} {grab : FwrGrabState} {view view' : FwrView} {dx dy : Int}

/-- The view with the box that it gets. -/
theorem FwrGrabState.Resizes.keepsOpposite_iff (h : grab.Resizes) (hdx : IsInt32 dx)
    (hdy : IsInt32 dy) (hbox : (⟨view'.x, view'.y, view'.width, view'.height⟩ : WlrBox)
      = InputInstance.resizedBox grab view dx dy) :
    grab.KeepsOpposite view view' ↔ grab.WithinMinimum dx dy := by
  obtain ⟨hx, hy, hwidth, hheight⟩ := WlrBox.mk.inj hbox
  have hleft : grab.Left → (view'.x + view'.width = grab.startViewX + grab.startViewWidth
      ↔ EdgeFits grab.startViewX grab.startViewWidth dx) := by
    intro hleft
    have hright : ¬ grab.Right := fun hright => h.horizontal ⟨hleft, hright⟩
    rw [hx.trans (if_pos hleft),
      hwidth.trans (congrArg (max · 100) ((if_neg hright).trans (if_pos hleft)))]
    exact draggedEdge_iff h.x h.width hdx
  have htop : grab.Top → (view'.y + view'.height = grab.startViewY + grab.startViewHeight
      ↔ EdgeFits grab.startViewY grab.startViewHeight dy) := by
    intro htop
    have hbottom : ¬ grab.Bottom := fun hbottom => h.vertical ⟨htop, hbottom⟩
    rw [hy.trans (if_pos htop),
      hheight.trans (congrArg (max · 100) ((if_neg hbottom).trans (if_pos htop)))]
    exact draggedEdge_iff h.y h.height hdy
  constructor
  · intro hkept
    exact ⟨fun hl => (hleft hl).mp (hkept.left hl), fun ht => (htop ht).mp (hkept.top ht)⟩
  · intro hwithin
    exact
      { width := hwidth ▸ le_max_right ..
        height := hheight ▸ le_max_right ..
        left := fun hl => (hleft hl).mpr (hwithin.1 hl)
        top := fun ht => (htop ht).mpr (hwithin.2 ht)
        x := fun hl => hx.trans (if_neg hl)
        y := fun ht => hy.trans (if_neg ht) }

/-! ## §3. The handlers. -/

/-- The handler leaves a view, and the opposite edge exactly under the condition. -/
def DragsWithin (s : InputInstance) (p : Ptr) (view : FwrView) (r : Handled) (q : Prop) : Prop :=
  ∃ s' calls view', r = .ok (s', calls) ∧ s'.compositor.view p = .ok view'
    ∧ (s.input.grab.KeepsOpposite view view' ↔ q)

theorem resizeGrab_box_iff {p : Ptr} (hgrab : s.input.grab.Resizes)
    (hget : s.compositor.views.get s.input.grab.viewHandle = some p)
    (hview : s.compositor.view p = .ok view) (cursorX cursorY : Double) :
    DragsWithin s p view (s.dragGrab c cursorX cursorY)
      (s.input.grab.WithinMinimum (c.toInt (c.sub cursorX s.input.grab.startCursorX))
        (c.toInt (c.sub cursorY s.input.grab.startCursorY))) := by
  have hrun : s.dragGrab c cursorX cursorY = s.resizeGrab c cursorX cursorY := by
    rw [InputInstance.dragGrab, hgrab.type]
  have hset : ∀ view', (s.compositor.setView p view').view p = .ok view' := fun view' =>
    Instance.deref_eq_ok.mpr (Store.get_set_self (Store.live_of_get (Instance.view_ok hview)))
  rw [hrun, InputInstance.resizeGrab, hget]
  dsimp only
  rw [hview]
  exact ⟨_, _, _, rfl, hset _,
    hgrab.keepsOpposite_iff (isInt32_toInt ..) (isInt32_toInt ..) rfl⟩

/-- The same, with a call after those of the grab. -/
theorem DragsWithin.snoc {p : Ptr} {r : Handled} {q : Prop} (h : DragsWithin s p view r q)
    (call : InputInstance → Call) : DragsWithin s p view (do
      let (s', calls) ← r
      return (s', calls ++ [call s'])) q := by
  obtain ⟨s', calls, view', rfl, hview, hiff⟩ := h
  exact ⟨s', calls ++ [call s'], view', rfl, hview, hiff⟩

/-- A motion of the hardware, with the cursor where it is now. -/
theorem processCursorMotion_opposite_iff {p : Ptr} (hgrab : s.input.grab.Resizes)
    (hget : s.compositor.views.get s.input.grab.viewHandle = some p)
    (hview : s.compositor.view p = .ok view) (timeMsec : UInt32) (usesSsd : Bool) :
    DragsWithin s p view (s.processCursorMotion c timeMsec usesSsd)
      (s.input.grab.WithinMinimum (c.toInt (c.sub s.cursorX s.input.grab.startCursorX))
        (c.toInt (c.sub s.cursorY s.input.grab.startCursorY))) := by
  unfold InputInstance.processCursorMotion
  rw [hgrab.type]
  exact (resizeGrab_box_iff hgrab hget hview s.cursorX s.cursorY).snoc
    (·.sendFlutterMouseEvent .move false 0 0)

/-- A message about a motion over any view. -/
theorem surfacePointer_opposite_iff {p q : Ptr} (hgrab : s.input.grab.Resizes)
    (hget : s.compositor.views.get s.input.grab.viewHandle = some p)
    (hview : s.compositor.view p = .ok view) {args : StandardMessageCodec.DartValue}
    {message : SurfacePointerEventMessage} {under : FwrView}
    (hargs : decodeSurfacePointerEventMessage args = some message)
    (hunder : s.compositor.views.get message.surfaceHandle = some q)
    (hlive : s.compositor.view q = .ok under)
    (hevent : pointerEventType message.eventType = .move
      ∨ pointerEventType message.eventType = .hover) (surf : SurfaceUnder) :
    DragsWithin s p view (s.fwrHandleSurfacePointerEventMessage c args (some surf))
      (s.input.grab.WithinMinimum
        (c.toInt (c.sub message.globalPosX s.input.grab.startCursorX))
        (c.toInt (c.sub message.globalPosY s.input.grab.startCursorY))) := by
  have hdrag := resizeGrab_box_iff (c := c) (s := s.trackCursor message) hgrab hget hview
    message.globalPosX message.globalPosY
  have hevents : (s.trackCursor message).grabbedPointerEvent c message
      = (s.trackCursor message).dragGrab c message.globalPosX message.globalPosY := by
    unfold InputInstance.grabbedPointerEvent
    rcases hevent with hmove | hhover
    · rw [hmove]
    · rw [hhover]
  have hactive : (s.trackCursor message).input.grab.type ≠ .none := by
    show s.input.grab.type ≠ .none
    rw [hgrab.type]
    exact FwrGrabType.noConfusion
  unfold InputInstance.fwrHandleSurfacePointerEventMessage
  rw [hargs]
  dsimp only
  rw [hunder]
  dsimp only
  rw [hlive]
  show DragsWithin s p view (if (s.trackCursor message).input.grab.type ≠ .none then _ else _) _
  rw [if_pos hactive, hevents]
  exact hdrag.snoc fun _ => .respond true

/-- **A resize keeps the opposite edge**, whether the mouse or a message of Flutter drives it, exactly
    as long as no edge is dragged past the least size. -/
theorem resize_opposite_iff (c : Target) (s : InputInstance) (p : Ptr) (view : FwrView)
    (hgrab : s.input.grab.Resizes)
    (hget : s.compositor.views.get s.input.grab.viewHandle = some p)
    (hview : s.compositor.view p = .ok view) :
    (∀ timeMsec usesSsd,
      DragsWithin s p view (s.processCursorMotion c timeMsec usesSsd)
        (s.input.grab.WithinMinimum (c.toInt (c.sub s.cursorX s.input.grab.startCursorX))
          (c.toInt (c.sub s.cursorY s.input.grab.startCursorY))))
    ∧ ∀ args surf message q under, decodeSurfacePointerEventMessage args = some message →
      s.compositor.views.get message.surfaceHandle = some q → s.compositor.view q = .ok under →
      (pointerEventType message.eventType = .move
        ∨ pointerEventType message.eventType = .hover) →
      DragsWithin s p view (s.fwrHandleSurfacePointerEventMessage c args (some surf))
        (s.input.grab.WithinMinimum
          (c.toInt (c.sub message.globalPosX s.input.grab.startCursorX))
          (c.toInt (c.sub message.globalPosY s.input.grab.startCursorY))) :=
  ⟨processCursorMotion_opposite_iff hgrab hget hview,
    fun _ surf _ _ _ hargs hunder hlive hevent =>
      surfacePointer_opposite_iff hgrab hget hview hargs hunder hlive hevent surf⟩

/-- A window of 400 by 300, grabbed by its left edge. -/
def leftEdgeGrabbed : List PointerEvent :=
  [.compositor (.newToplevel 7), .compositor (.toplevelMap 0 ⟨0, 0, 400, 300⟩ (fun _ _ => none) true),
   .requestResize 0 4]

/-- The grab of that window. -/
def leftEdgeGrab : FwrGrabState := ⟨.resize, 1, 0, 0, 82, 82, 400, 300, 4⟩

theorem leftEdgeGrab_resizes : leftEdgeGrab.Resizes where
  type := rfl
  x := ⟨by decide, by decide⟩
  y := ⟨by decide, by decide⟩
  width := ⟨by decide, by decide⟩
  height := ⟨by decide, by decide⟩
  horizontal := fun h => h.2 rfl
  vertical := fun h => h.1 rfl

theorem resize_opposite_iff_left : ∃ s view, s.input.grab = leftEdgeGrab ∧
    ((∀ timeMsec usesSsd,
      DragsWithin s 0 view (s.processCursorMotion .still timeMsec usesSsd)
        (s.input.grab.WithinMinimum
          (Target.still.toInt (Target.still.sub s.cursorX s.input.grab.startCursorX))
          (Target.still.toInt (Target.still.sub s.cursorY s.input.grab.startCursorY))))
    ∧ ∀ args surf message q under, decodeSurfacePointerEventMessage args = some message →
      s.compositor.views.get message.surfaceHandle = some q → s.compositor.view q = .ok under →
      (pointerEventType message.eventType = .move
        ∨ pointerEventType message.eventType = .hover) →
      DragsWithin s 0 view (s.fwrHandleSurfacePointerEventMessage .still args (some surf))
        (s.input.grab.WithinMinimum
          (Target.still.toInt (Target.still.sub message.globalPosX s.input.grab.startCursorX))
          (Target.still.toInt (Target.still.sub message.globalPosY s.input.grab.startCursorY)))) := by
  have hrun : (((pointer .still).exec (pointer .still).init leftEdgeGrabbed).map fun s =>
      (s.now.input.grab, s.now.compositor.views.get 1, (s.now.compositor.viewObjects.get 0).isSome))
      = some (leftEdgeGrab, some 0, true) := by decide +kernel
  obtain ⟨s, -, hend⟩ := Option.map_eq_some_iff.mp hrun
  simp only [Prod.mk.injEq] at hend
  obtain ⟨hgrab, hget, hsome⟩ := hend
  obtain ⟨view, hview⟩ := Option.isSome_iff_exists.mp hsome
  exact ⟨s.now, view, hgrab, resize_opposite_iff .still s.now 0 view
    (hgrab ▸ leftEdgeGrab_resizes) (hgrab ▸ hget) (Instance.deref_eq_ok.mpr hview)⟩

/-- **The edge dragged 450 to the right**: the window at 82 is 100 wide then and has moved to 532; its
    right edge was at 482. -/
theorem rightEdge_moves : ((pointer .still).exec (pointer .still).init
    (leftEdgeGrabbed ++ [.cursorMotion 0x407C200000000000 0 1 false])).map (fun s =>
      (s.now.compositor.viewObjects.get 0).map fun view => (view.x, view.width))
    = some (some (532, 100)) := by decide +kernel

end FlutterWlroots.Input
