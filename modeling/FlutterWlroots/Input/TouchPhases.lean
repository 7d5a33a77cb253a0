/-
  FlutterWlroots.Input.TouchPhases — touch screens (input.c).

  A finger is a pointer of Flutter, under its touch id.  It is added and goes down at once, moves,
  and goes up and is removed at once, at the place it was seen last, which is kept for each input
  device; the ids from 10 on are ignored.  The pointers of two touch screens are not kept apart, a
  finger that goes down before the engine runs is not made good for, and nobody listens to a touch
  that is cancelled.

    • `TouchInv.counted`    — what the events of one pointer do,
    • `inv_touch_step`      — the pointers that are down are the fingers that are,
    • `touches_well_formed` — every run in which no two screens use one id at once, no finger is
                              down when the engine starts, and none is cancelled.

  Coordinates are of any type with the scaling to the screen, which is a parameter.
-/
import Mathlib.Data.List.Basic
import Mathlib.Data.Rat.Defs
import FlutterWlroots.Lib.Watch

namespace FlutterWlroots.Input

open Lib

/-! ## §1. input.c. -/

/-- `FWR_MULTITOUCH_MAX`, and the length of `touch_points`. -/
def FWR_MULTITOUCH_MAX : Int := 10

inductive TouchPhase where
  | kAdd
  | kDown
  | kMove
  | kUp
  | kRemove
deriving DecidableEq, Repr

/-- A `FlutterPointerEvent` of the kind `kFlutterPointerDeviceKindTouch`. -/
structure TouchPointerEvent (F : Type) where
  device : Int
  phase : TouchPhase
  x : F
  y : F
deriving DecidableEq, Repr

/-- The touch screens, and what Flutter was told of them. -/
structure TouchScreens (F : Type) where
  /-- `instance->engine != NULL`. -/
  engine : Bool
  /-- `touch_points` of each input device. -/
  touchPoints : Nat → Int → F × F
  sent : List (TouchPointerEvent F)

/-- `wlr_touch_down_event` and its like; `box` is the size of the whole layout. -/
inductive TouchEvent (F : Type) where
  | down (device : Nat) (touchId : Int) (point : F × F) (box : Int × Int)
  | up (device : Nat) (touchId : Int) (box : Int × Int)
  | motion (device : Nat) (touchId : Int) (point : F × F) (box : Int × Int)
  | cancel (device : Nat) (touchId : Int)
  /-- The engine has started. -/
  | engineRun
deriving DecidableEq, Repr

/-- `screen_width` and `screen_height`. -/
def screenSize (size : Int) : Int := if size > 0 then size else 1

section Handlers

variable {F : Type} (scale : F → Int → F) (s : TouchScreens F)

/-- The event of a phase at a point. -/
def touchPointerEvent (touchId : Int) (point : F × F) (box : Int × Int) (phase : TouchPhase) :
    TouchPointerEvent F :=
  ⟨touchId, phase, scale point.1 (screenSize box.1), scale point.2 (screenSize box.2)⟩

namespace TouchScreens

def setPoint (device : Nat) (touchId : Int) (point : F × F) : TouchScreens F :=
  { s with
    touchPoints := Function.update s.touchPoints device
      (Function.update (s.touchPoints device) touchId point) }

def send (events : List (TouchPointerEvent F)) : TouchScreens F :=
  { s with sent := s.sent ++ events }

/-- `on_server_cursor_touch_down`; no result for an index outside `touch_points`. -/
def touchDown (device : Nat) (touchId : Int) (point : F × F) (box : Int × Int) :
    Option (TouchScreens F) :=
  if !s.engine then some s
  else if touchId ≥ FWR_MULTITOUCH_MAX then some s
  else if touchId < 0 then none
  else some ((s.setPoint device touchId point).send
    ([.kAdd, .kDown].map (touchPointerEvent scale touchId point box)))

/-- `on_server_cursor_touch_up`. -/
def touchUp (device : Nat) (touchId : Int) (box : Int × Int) : Option (TouchScreens F) :=
  if !s.engine then some s
  else if touchId ≥ FWR_MULTITOUCH_MAX then some s
  else if touchId < 0 then none
  else some (s.send
    ([.kUp, .kRemove].map (touchPointerEvent scale touchId (s.touchPoints device touchId) box)))

/-- `on_server_cursor_touch_motion`. -/
def touchMotion (device : Nat) (touchId : Int) (point : F × F) (box : Int × Int) :
    Option (TouchScreens F) :=
  if !s.engine then some s
  else if touchId ≥ FWR_MULTITOUCH_MAX then some s
  else if touchId < 0 then none
  else some ((s.setPoint device touchId point).send
    [touchPointerEvent scale touchId point box .kMove])

def handle (s : TouchScreens F) : TouchEvent F → Option (TouchScreens F)
  | .down device touchId point box => s.touchDown scale device touchId point box
  | .up device touchId box => s.touchUp scale device touchId box
  | .motion device touchId point box => s.touchMotion scale device touchId point box
  -- there is no listener
  | .cancel _ _ => some s
  | .engineRun => some { s with engine := true }

end TouchScreens

/-- The touch screens; `zero` is what `calloc` leaves in `touch_points`. -/
def touchScreens (zero : F) : Machine (TouchScreens F) (TouchEvent F) where
  init := ⟨false, fun _ _ => (zero, zero), []⟩
  step := TouchScreens.handle scale

end Handlers

/-! ## §2. Pointers. -/

/-- A pointer of Flutter. -/
inductive PointerLife where
  | absent
  | added
  | down
deriving DecidableEq, Repr

/-- A phase, for a pointer that may get it. -/
def PointerLife.next : PointerLife → TouchPhase → Option PointerLife
  | .absent, .kAdd => some .added
  | .added, .kDown => some .down
  | .down, .kMove => some .down
  | .down, .kUp => some .added
  | .added, .kRemove => some .absent
  | _, _ => none

section Lives

variable {F : Type}

/-- A pointer after some events of all pointers; none when a phase does not fit. -/
def lives (k : Int) : PointerLife → List (TouchPointerEvent F) → Option PointerLife
  | life, [] => some life
  | life, e :: es =>
      if e.device = k then (life.next e.phase).bind fun life => lives k life es
      else lives k life es

theorem lives_append (k : Int) (life : PointerLife) (es es' : List (TouchPointerEvent F)) :
    lives k life (es ++ es') = (lives k life es).bind fun life => lives k life es' := by
  induction es generalizing life with
  | nil => rfl
  | cons e es ih =>
      rw [List.cons_append, lives, lives]
      split
      · rw [Option.bind_assoc]
        congr 1
        funext life
        exact ih life
      · exact ih life

/-- The events of another pointer. -/
theorem lives_other {k : Int} {es : List (TouchPointerEvent F)} (h : ∀ e ∈ es, e.device ≠ k)
    (life : PointerLife) : lives k life es = some life := by
  induction es with
  | nil => rfl
  | cons e es ih =>
      obtain ⟨he, hes⟩ := List.forall_mem_cons.mp h
      rw [lives, if_neg he]
      exact ih hes

end Lives

/-! ## §3. Fingers. -/

/-- A finger that is down, where it was seen last. -/
structure Finger (F : Type) where
  device : Nat
  touchId : Int
  point : F × F
deriving DecidableEq, Repr

section Runs

variable {F : Type}

/-- The finger of a device. -/
def Finger.Is (f : Finger F) (device : Nat) (touchId : Int) : Prop :=
  f.device = device ∧ f.touchId = touchId

instance (f : Finger F) (device : Nat) (touchId : Int) : Decidable (f.Is device touchId) :=
  inferInstanceAs (Decidable (_ ∧ _))

/-- A finger that moves. -/
def Finger.moved (device : Nat) (touchId : Int) (point : F × F) (f : Finger F) : Finger F :=
  if f.Is device touchId then { f with point } else f

/-- The fingers that are down. -/
def noteFingers : TouchScreens F → TouchEvent F → List (Finger F) → List (Finger F)
  | _, .down device touchId point _, fingers => ⟨device, touchId, point⟩ :: fingers
  | _, .up device touchId _, fingers => fingers.filter fun f => ¬ f.Is device touchId
  | _, .motion device touchId point _, fingers =>
      fingers.map (Finger.moved device touchId point)
  | _, .cancel device touchId, fingers => fingers.filter fun f => ¬ f.Is device touchId
  | _, .engineRun, fingers => fingers

/-- What touch screens do, and the condition on a run: a finger goes down that is not down, on any
    screen if its id counts, one that is down moves and goes up, none that counts is cancelled, and
    none is down when the engine starts. -/
def Fits (fingers : List (Finger F)) : TouchEvent F → Prop
  | .down device touchId _ _ => 0 ≤ touchId ∧ ∀ f ∈ fingers, f.touchId = touchId →
      f.device ≠ device ∧ FWR_MULTITOUCH_MAX ≤ touchId
  | .up device touchId _ | .motion device touchId _ _ => ∃ f ∈ fingers, f.Is device touchId
  | .cancel device touchId => (∃ f ∈ fingers, f.Is device touchId) ∧ FWR_MULTITOUCH_MAX ≤ touchId
  | .engineRun => ∀ f ∈ fingers, FWR_MULTITOUCH_MAX ≤ f.touchId

instance (fingers : List (Finger F)) : DecidablePred (Fits fingers) := fun e =>
  match e with
  | .down device touchId _ _ => inferInstanceAs (Decidable (0 ≤ touchId ∧
      ∀ f ∈ fingers, f.touchId = touchId → f.device ≠ device ∧ FWR_MULTITOUCH_MAX ≤ touchId))
  | .up device touchId _ | .motion device touchId _ _ =>
      inferInstanceAs (Decidable (∃ f ∈ fingers, f.Is device touchId))
  | .cancel device touchId => inferInstanceAs
      (Decidable ((∃ f ∈ fingers, f.Is device touchId) ∧ FWR_MULTITOUCH_MAX ≤ touchId))
  | .engineRun => inferInstanceAs (Decidable (∀ f ∈ fingers, FWR_MULTITOUCH_MAX ≤ f.touchId))

variable (scale : F → Int → F) (zero : F)

abbrev watchedTouch : Machine (Watched (TouchScreens F) (List (Finger F))) (TouchEvent F) :=
  (touchScreens scale zero).watch [] noteFingers

abbrev TouchRuns : Watched (TouchScreens F) (List (Finger F)) → Prop :=
  (watchedTouch scale zero).Reach fun w e => Fits w.note e

/-! ## §4. The pointers are the fingers. -/

variable {scale zero}

/-- A finger that counts is down. -/
def IsDown (fingers : List (Finger F)) (k : Int) : Prop :=
  k < FWR_MULTITOUCH_MAX ∧ ∃ f ∈ fingers, f.touchId = k

instance (fingers : List (Finger F)) (k : Int) : Decidable (IsDown fingers k) :=
  inferInstanceAs (Decidable (_ ∧ _))

/-- What a pointer is for these fingers. -/
def lifeOf (fingers : List (Finger F)) (k : Int) : PointerLife :=
  if IsDown fingers k then .down else .absent

/-- The fingers, without regard to Flutter: a finger that counts is down on one screen, and once. -/
structure Hand (fingers : List (Finger F)) : Prop where
  nonneg : ∀ f ∈ fingers, 0 ≤ f.touchId
  alone : ∀ f ∈ fingers, ∀ g ∈ fingers, f.touchId = g.touchId → f.touchId < FWR_MULTITOUCH_MAX →
    f.device = g.device

/-- What every run keeps. -/
structure TouchInv (w : Watched (TouchScreens F) (List (Finger F))) : Prop where
  hand : Hand w.note
  early : w.state.engine = false → w.state.sent = []
  lives : w.state.engine = true →
    ∀ k, lives k .absent w.state.sent = some (lifeOf w.note k)
  points : w.state.engine = true → ∀ f ∈ w.note, f.touchId < FWR_MULTITOUCH_MAX →
    w.state.touchPoints f.device f.touchId = f.point
  range : ∀ e ∈ w.state.sent, 0 ≤ e.device ∧ e.device < FWR_MULTITOUCH_MAX

section Steps

variable {s s' : TouchScreens F} {fingers : List (Finger F)} {device : Nat} {touchId : Int}
  {point : F × F} {box : Int × Int}

/-- The handlers behind their three tests. -/
theorem guards_eq_some {new : TouchScreens F}
    (h : (if !s.engine then some s else if touchId ≥ FWR_MULTITOUCH_MAX then some s
      else if touchId < 0 then none else some new) = some s') :
    s' = s ∧ (s.engine = false ∨ FWR_MULTITOUCH_MAX ≤ touchId)
      ∨ s' = new ∧ s.engine = true ∧ 0 ≤ touchId ∧ touchId < FWR_MULTITOUCH_MAX := by
  split at h
  next hengine =>
      cases h
      exact .inl ⟨rfl, .inl (by simpa using hengine)⟩
  next hengine =>
      split at h
      next hmax =>
          cases h
          exact .inl ⟨rfl, .inr hmax⟩
      next hmax =>
          split at h
          next => cases h
          next hneg =>
              cases h
              exact .inr ⟨rfl, by simpa using hengine, Int.not_lt.mp hneg, Int.not_le.mp hmax⟩

/-- The fingers have changed, and Flutter need not know. -/
theorem TouchInv.ignored {fingers' : List (Finger F)} (hi : TouchInv ⟨s, fingers⟩)
    (hhand : Hand fingers')
    (hsame : s.engine = false ∨ (∀ k, IsDown fingers' k ↔ IsDown fingers k)
      ∧ ∀ f ∈ fingers', f.touchId < FWR_MULTITOUCH_MAX → f ∈ fingers) :
    TouchInv ⟨s, fingers'⟩ := by
  refine ⟨hhand, hi.early, fun hengine k => ?_, fun hengine f hf hmax => ?_, hi.range⟩
  · rcases hsame with hnone | ⟨hdown, -⟩
    · exact absurd (hnone.symm.trans hengine) Bool.false_ne_true
    · rw [lifeOf, if_congr (hdown k) rfl rfl]
      exact hi.lives hengine k
  · rcases hsame with hnone | ⟨-, hmem⟩
    · exact absurd (hnone.symm.trans hengine) Bool.false_ne_true
    · exact hi.points hengine f (hmem f hf hmax) hmax

/-- The events of one pointer, which follow the finger. -/
theorem TouchInv.counted {fingers' : List (Finger F)} {points : Nat → Int → F × F}
    {es : List (TouchPointerEvent F)} (hi : TouchInv ⟨s, fingers⟩) (hengine : s.engine = true)
    (hid : 0 ≤ touchId) (hmax : touchId < FWR_MULTITOUCH_MAX) (hhand : Hand fingers')
    (hes : ∀ e ∈ es, e.device = touchId)
    (hlives : Input.lives touchId (lifeOf fingers touchId) es = some (lifeOf fingers' touchId))
    (hothers : ∀ k, k ≠ touchId → (IsDown fingers' k ↔ IsDown fingers k))
    (hpoints : ∀ f ∈ fingers', f.touchId < FWR_MULTITOUCH_MAX →
      points f.device f.touchId = f.point) :
    TouchInv ⟨{ s with touchPoints := points, sent := s.sent ++ es }, fingers'⟩ := by
  refine ⟨hhand, fun hnone => ?_, fun _ k => ?_, fun _ => hpoints, fun e he => ?_⟩
  · exact absurd (hnone.symm.trans hengine) Bool.false_ne_true
  · show Input.lives k .absent (s.sent ++ es) = some (lifeOf fingers' k)
    rw [lives_append, hi.lives hengine k, Option.bind_some]
    by_cases hk : k = touchId
    · rw [hk]
      exact hlives
    · rw [lives_other fun e he heq => hk (heq.symm.trans (hes e he)), lifeOf, lifeOf,
        if_congr (hothers k hk) rfl rfl]
  · rcases List.mem_append.mp he with he | he
    · exact hi.range e he
    · rw [hes e he]
      exact ⟨hid, hmax⟩

theorem lifeOf_down (h : IsDown fingers touchId) : lifeOf fingers touchId = .down := if_pos h

theorem lifeOf_absent (h : ¬ IsDown fingers touchId) : lifeOf fingers touchId = .absent := if_neg h

/-! A finger goes down. -/

theorem hand_down (h : Hand fingers) (hid : 0 ≤ touchId)
    (hnew : ∀ f ∈ fingers, f.touchId = touchId →
      f.device ≠ device ∧ FWR_MULTITOUCH_MAX ≤ touchId) :
    Hand (⟨device, touchId, point⟩ :: fingers) := by
  refine ⟨List.forall_mem_cons.mpr ⟨hid, h.nonneg⟩, fun f hf g hg heq hlt => ?_⟩
  rcases List.mem_cons.mp hf with rfl | hf
  · rcases List.mem_cons.mp hg with rfl | hg
    · rfl
    · exact absurd hlt (Int.not_lt.mpr (hnew g hg heq.symm).2)
  · rcases List.mem_cons.mp hg with rfl | hg
    · rw [heq] at hlt
      exact absurd hlt (Int.not_lt.mpr (hnew f hf heq).2)
    · exact h.alone f hf g hg heq hlt

theorem isDown_cons {f : Finger F} {k : Int} :
    IsDown (f :: fingers) k ↔ k < FWR_MULTITOUCH_MAX ∧ f.touchId = k ∨ IsDown fingers k := by
  unfold IsDown
  rw [List.exists_mem_cons_iff, and_or_left]

theorem inv_down (hi : TouchInv ⟨s, fingers⟩)
    (hfits : Fits fingers (.down device touchId point box))
    (h : s.touchDown scale device touchId point box = some s') :
    TouchInv ⟨s', ⟨device, touchId, point⟩ :: fingers⟩ := by
  obtain ⟨hid, hnew⟩ := hfits
  have hhand : Hand (⟨device, touchId, point⟩ :: fingers) := hand_down hi.hand hid hnew
  rcases guards_eq_some h with ⟨rfl, hnone⟩ | ⟨rfl, hengine, -, hmax⟩
  · refine hi.ignored hhand (hnone.imp_right fun hmax => ⟨fun k => ?_, fun f hf hlt => ?_⟩)
    · rw [isDown_cons]
      refine or_iff_right fun ⟨hlt, heq⟩ => ?_
      rw [← heq] at hlt
      exact absurd hlt (Int.not_lt.mpr hmax)
    · rcases List.mem_cons.mp hf with rfl | hf
      · exact absurd hlt (Int.not_lt.mpr hmax)
      · exact hf
  · have hfree : ∀ f ∈ fingers, f.touchId ≠ touchId :=
      fun f hf heq => absurd hmax (Int.not_lt.mpr (hnew f hf heq).2)
    have habsent : ¬ IsDown fingers touchId := fun ⟨_, f, hf, heq⟩ => hfree f hf heq
    refine hi.counted hengine hid hmax hhand ?_ ?_ (fun k hk => ?_) fun f hf hlt => ?_
    · intro e he
      obtain ⟨phase, -, rfl⟩ := List.mem_map.mp he
      rfl
    · rw [lifeOf_absent habsent, lifeOf_down (isDown_cons.mpr (.inl ⟨hmax, rfl⟩))]
      simp [Input.lives, PointerLife.next, touchPointerEvent]
    · rw [isDown_cons]
      exact or_iff_right fun ⟨_, heq⟩ => hk heq.symm
    · rcases List.mem_cons.mp hf with rfl | hf
      · show Function.update s.touchPoints device _ device touchId = point
        rw [Function.update_self, Function.update_self]
      · show Function.update s.touchPoints device _ f.device f.touchId = f.point
        have hold := hi.points hengine f hf hlt
        by_cases hdevice : f.device = device
        · rw [hdevice, Function.update_self, Function.update_of_ne (hfree f hf), ← hdevice]
          exact hold
        · rw [Function.update_of_ne hdevice]
          exact hold

/-! A finger goes up. -/

theorem mem_up {f : Finger F} :
    f ∈ fingers.filter (fun f => ¬ f.Is device touchId) ↔ f ∈ fingers ∧ ¬ f.Is device touchId := by
  rw [List.mem_filter, decide_eq_true_iff]

theorem hand_up (h : Hand fingers) : Hand (fingers.filter fun f => ¬ f.Is device touchId) :=
  ⟨fun f hf => h.nonneg f (mem_up.mp hf).1,
    fun f hf g hg => h.alone f (mem_up.mp hf).1 g (mem_up.mp hg).1⟩

theorem isDown_up {k : Int} (hk : k ≠ touchId) :
    IsDown (fingers.filter fun f => ¬ f.Is device touchId) k ↔ IsDown fingers k := by
  unfold IsDown
  refine and_congr_right fun _ => exists_congr fun f => ?_
  rw [mem_up]
  constructor
  · rintro ⟨⟨hf, -⟩, heq⟩
    exact ⟨hf, heq⟩
  · rintro ⟨hf, heq⟩
    exact ⟨⟨hf, fun his => hk (heq.symm.trans his.2)⟩, heq⟩

/-- A finger that does not count is gone. -/
theorem TouchInv.gone (hi : TouchInv ⟨s, fingers⟩)
    (hsame : s.engine = false ∨ FWR_MULTITOUCH_MAX ≤ touchId) :
    TouchInv ⟨s, fingers.filter fun f => ¬ f.Is device touchId⟩ := by
  refine hi.ignored (hand_up hi.hand)
    (hsame.imp_right fun hmax => ⟨fun k => ?_, fun g hg _ => (mem_up.mp hg).1⟩)
  by_cases hk : k = touchId
  · have hlarge : ¬ k < FWR_MULTITOUCH_MAX := by
      rw [hk]
      exact Int.not_lt.mpr hmax
    exact iff_of_false (fun hdown => hlarge hdown.1) fun hdown => hlarge hdown.1
  · exact isDown_up hk

theorem inv_up (hi : TouchInv ⟨s, fingers⟩) (hfits : Fits fingers (.up device touchId box))
    (h : s.touchUp scale device touchId box = some s') :
    TouchInv ⟨s', fingers.filter fun f => ¬ f.Is device touchId⟩ := by
  obtain ⟨f, hf, hdevice, hid⟩ := hfits
  subst hdevice hid
  have hhand : Hand (fingers.filter fun g => ¬ g.Is f.device f.touchId) := hand_up hi.hand
  rcases guards_eq_some h with ⟨rfl, hnone⟩ | ⟨rfl, hengine, hid, hmax⟩
  · exact hi.gone hnone
  · have hdown : IsDown fingers f.touchId := ⟨hmax, f, hf, rfl⟩
    have habsent : ¬ IsDown (fingers.filter fun g => ¬ g.Is f.device f.touchId) f.touchId := by
      rintro ⟨-, g, hg, heq⟩
      obtain ⟨hg, hnot⟩ := mem_up.mp hg
      exact hnot ⟨hi.hand.alone g hg f hf heq (heq ▸ hmax), heq⟩
    refine hi.counted hengine hid hmax hhand ?_ ?_ (fun k hk => isDown_up hk) fun g hg hlt => ?_
    · intro e he
      obtain ⟨phase, -, rfl⟩ := List.mem_map.mp he
      rfl
    · rw [lifeOf_down hdown, lifeOf_absent habsent]
      simp [Input.lives, PointerLife.next, touchPointerEvent]
    · exact hi.points hengine g (mem_up.mp hg).1 hlt

/-! A finger moves. -/

theorem moved_device (f : Finger F) : (f.moved device touchId point).device = f.device := by
  unfold Finger.moved
  split <;> rfl

theorem moved_touchId (f : Finger F) : (f.moved device touchId point).touchId = f.touchId := by
  unfold Finger.moved
  split <;> rfl

theorem hand_motion (h : Hand fingers) :
    Hand (fingers.map (Finger.moved device touchId point)) := by
  constructor
  · intro f hf
    obtain ⟨f₀, hf₀, rfl⟩ := List.mem_map.mp hf
    rw [moved_touchId]
    exact h.nonneg f₀ hf₀
  · intro f hf g hg
    obtain ⟨f₀, hf₀, rfl⟩ := List.mem_map.mp hf
    obtain ⟨g₀, hg₀, rfl⟩ := List.mem_map.mp hg
    rw [moved_touchId, moved_touchId, moved_device, moved_device]
    exact h.alone f₀ hf₀ g₀ hg₀

theorem isDown_motion {k : Int} :
    IsDown (fingers.map (Finger.moved device touchId point)) k ↔ IsDown fingers k := by
  unfold IsDown
  refine and_congr_right fun _ => ⟨?_, ?_⟩
  · rintro ⟨f, hf, heq⟩
    obtain ⟨f₀, hf₀, rfl⟩ := List.mem_map.mp hf
    exact ⟨f₀, hf₀, (moved_touchId f₀).symm.trans heq⟩
  · rintro ⟨f, hf, heq⟩
    exact ⟨f.moved device touchId point, List.mem_map_of_mem hf, (moved_touchId f).trans heq⟩

theorem inv_motion (hi : TouchInv ⟨s, fingers⟩)
    (hfits : Fits fingers (.motion device touchId point box))
    (h : s.touchMotion scale device touchId point box = some s') :
    TouchInv ⟨s', fingers.map (Finger.moved device touchId point)⟩ := by
  obtain ⟨f, hf, hdevice, hid⟩ := hfits
  have hhand : Hand (fingers.map (Finger.moved device touchId point)) := hand_motion hi.hand
  rcases guards_eq_some h with ⟨rfl, hnone⟩ | ⟨rfl, hengine, hpos, hmax⟩
  · refine hi.ignored hhand (hnone.imp_right fun hmax =>
      ⟨fun k => isDown_motion, fun g' hg' hlt => ?_⟩)
    obtain ⟨g, hg, rfl⟩ := List.mem_map.mp hg'
    have hother : ¬ g.Is device touchId := by
      intro his
      rw [moved_touchId, his.2] at hlt
      exact absurd hlt (Int.not_lt.mpr hmax)
    rw [Finger.moved, if_neg hother]
    exact hg
  · have hdown : IsDown fingers touchId := ⟨hmax, f, hf, hid⟩
    refine hi.counted hengine hpos hmax hhand ?_ ?_ (fun k _ => isDown_motion) fun g' hg' hlt => ?_
    · intro e he
      rw [List.mem_singleton.mp he]
      rfl
    · rw [lifeOf_down hdown, lifeOf_down (isDown_motion.mpr hdown)]
      simp [Input.lives, PointerLife.next, touchPointerEvent]
    · obtain ⟨g, hg, rfl⟩ := List.mem_map.mp hg'
      rw [moved_touchId] at hlt
      have hold := hi.points hengine g hg hlt
      rw [moved_device, moved_touchId]
      show Function.update s.touchPoints device _ g.device g.touchId = _
      unfold Finger.moved
      split
      next his => rw [his.1, his.2, Function.update_self, Function.update_self]
      next hnot =>
          by_cases hdevice : g.device = device
          · have hne : g.touchId ≠ touchId := fun heq => hnot ⟨hdevice, heq⟩
            rw [hdevice, Function.update_self, Function.update_of_ne hne, ← hdevice]
            exact hold
          · rw [Function.update_of_ne hdevice]
            exact hold

end Steps

theorem inv_touch_init : TouchInv (watchedTouch scale zero).init :=
  ⟨⟨nofun, nofun⟩, fun _ => rfl, nofun, nofun, nofun⟩

theorem inv_touch_step (w : Watched (TouchScreens F) (List (Finger F))) (e : TouchEvent F)
    (w' : Watched (TouchScreens F) (List (Finger F))) (hi : TouchInv w) (hok : Fits w.note e)
    (h : (watchedTouch scale zero).step w e = some w') : TouchInv w' := by
  obtain ⟨s, fingers⟩ := w
  obtain ⟨s', fingers'⟩ := w'
  obtain ⟨hstep, hnote⟩ := Machine.watch_step.mp h
  subst hnote
  cases e with
  | down device touchId point box => exact inv_down hi hok hstep
  | up device touchId box => exact inv_up hi hok hstep
  | motion device touchId point box => exact inv_motion hi hok hstep
  | cancel device touchId =>
      cases hstep
      exact hi.gone (.inr hok.2)
  | engineRun =>
      cases hstep
      cases hengine : s.engine with
      | true =>
          exact ⟨hi.hand, nofun, fun _ => hi.lives hengine, fun _ => hi.points hengine, hi.range⟩
      | false =>
          have hnone : ∀ k, ¬ IsDown fingers k := by
            rintro k ⟨hlt, f, hf, rfl⟩
            exact absurd hlt (Int.not_lt.mpr (hok f hf))
          refine ⟨hi.hand, nofun, fun _ k => ?_, fun _ f hf hlt => ?_, hi.range⟩
          · show Input.lives k .absent s.sent = some (lifeOf fingers k)
            rw [hi.early hengine, lifeOf_absent (hnone k)]
            rfl
          · exact absurd hlt (Int.not_lt.mpr (hok f hf))

/-- **Touches are well formed.**  In every run that fits, each pointer has gone through its phases
    in order and is down if and only if a finger is down that counts, only ids below the tenth are
    used, and a finger goes up where it was seen last, as far as the layout has not changed. -/
theorem touches_well_formed (scale : F → Int → F) (zero : F)
    {w : Watched (TouchScreens F) (List (Finger F))} (h : TouchRuns scale zero w)
    (hengine : w.state.engine = true) :
    (∀ k, lives k .absent w.state.sent = some (lifeOf w.note k))
      ∧ (∀ e ∈ w.state.sent, 0 ≤ e.device ∧ e.device < FWR_MULTITOUCH_MAX)
      ∧ ∀ f ∈ w.note, f.touchId < FWR_MULTITOUCH_MAX → ∀ box,
        (w.state.touchUp scale f.device f.touchId box).map (·.sent) =
          some (w.state.sent ++
            [.kUp, .kRemove].map (touchPointerEvent scale f.touchId f.point box)) := by
  have hi : TouchInv w := h.invariant inv_touch_init inv_touch_step
  refine ⟨hi.lives hengine, hi.range, fun f hf hlt box => ?_⟩
  have hneg : ¬ f.touchId < 0 := Int.not_lt.mpr (hi.hand.nonneg f hf)
  rw [TouchScreens.touchUp, hengine, if_neg (by decide), if_neg (Int.not_le.mpr hlt), if_neg hneg,
    hi.points hengine f hf hlt]
  rfl

/-- Two screens; of the fingers of the second one, one is too many. -/
theorem touches_well_formed_two :
    ∃ w, TouchRuns (fun (x : Rat) (size : Int) => x * size) 0 w
      ∧ w.state.sent.map (fun e => (e.device, e.phase, e.x)) =
        [(0, .kAdd, 960), (0, .kDown, 960), (3, .kAdd, 480), (3, .kDown, 480), (0, .kMove, 480),
          (0, .kUp, 480), (0, .kRemove, 480)]
      ∧ ∀ k, lives k .absent w.state.sent = some (lifeOf w.note k) := by
  let es : List (TouchEvent Rat) :=
    [.engineRun, .down 0 0 (1 / 2, 1 / 2) (1920, 1080), .down 1 3 (1 / 4, 0) (1920, 1080),
      .down 1 10 (0, 0) (1920, 1080), .motion 0 0 (1 / 4, 1 / 2) (1920, 1080),
      .up 0 0 (1920, 1080)]
  let scale (x : Rat) (size : Int) : Rat := x * size
  have hrun : ((watchedTouch scale 0).execIf (fun w e => Fits w.note e)
      (watchedTouch scale 0).init es).map
      (fun w => (w.state.engine, w.state.sent.map fun e => (e.device, e.phase, e.x))) =
        some (true, [(0, .kAdd, 960), (0, .kDown, 960), (3, .kAdd, 480), (3, .kDown, 480),
          (0, .kMove, 480), (0, .kUp, 480), (0, .kRemove, 480)]) := by decide +kernel
  obtain ⟨w, hw, heq⟩ := Option.map_eq_some_iff.mp hrun
  have hreach := Machine.reach_execIf es .init hw
  obtain ⟨hengine, hsent⟩ := Prod.mk.inj heq
  exact ⟨w, hreach, hsent, (touches_well_formed _ 0 hreach hengine).1⟩

end Runs

end FlutterWlroots.Input
