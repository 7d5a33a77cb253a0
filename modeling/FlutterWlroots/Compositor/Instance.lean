/-
  FlutterWlroots.Compositor.Instance — the objects of the compositor and the pointers between them.

  `fwr_instance` owns outputs, views, subsurfaces and popups; each of them is an object of a store,
  and the pointers of the C structs are identities in these stores.  The lists and handle maps hold
  such identities too.  Following a pointer to an object that has been freed is a `Fault`, at which
  a run of the model ends.

  What wlroots answers (geometry, the output under a point, whether a commit succeeded) comes with
  the event that makes the handler ask.
-/
import Mathlib.Data.List.Sort
import Mathlib.Data.Rat.Defs
import FlutterWlroots.Lib.CInt
import FlutterWlroots.Lib.Store

namespace FlutterWlroots.Compositor

open Lib

/-! ## §1. handle_map.cc. -/

/-- `struct handle_map`: the next handle and the entries. -/
structure HandleMap (α : Type) where
  next : UInt32
  map : AList fun _ : UInt32 => α

namespace HandleMap

variable {α : Type} {m : HandleMap α} {handle key : UInt32} {v w : α}

/-- `handle_map_new`. -/
def new : HandleMap α := ⟨1, ∅⟩

/-- `handle_map_add`; `std::map::insert` keeps an entry that is already there. -/
def add (m : HandleMap α) (v : α) : UInt32 × HandleMap α :=
  (m.next,
    { next := m.next + 1
      map := if m.next ∈ m.map then m.map else m.map.insert m.next v })

/-- `handle_map_get`. -/
def get (m : HandleMap α) (handle : UInt32) : Option α := m.map.lookup handle

/-- `handle_map_remove`, which also says whether there was an entry. -/
def remove (m : HandleMap α) (handle : UInt32) : Bool × HandleMap α :=
  if handle ∈ m.map then (true, { m with map := m.map.erase handle }) else (false, m)

/-- The values `handle_map_iter_next` goes through, in the order of their handles. -/
def values (m : HandleMap α) : List α :=
  (m.map.entries.insertionSort fun a b => a.1 ≤ b.1).map (·.2)

@[simp] theorem get_new (handle : UInt32) : (new : HandleMap α).get handle = none :=
  AList.lookup_empty handle

theorem get_add (h : (m.add v).2.get handle = some w) :
    handle = m.next ∧ w = v ∨ m.get handle = some w := by
  rw [get, add] at h
  dsimp only at h
  split at h
  case isTrue => exact .inr h
  case isFalse hnew =>
    by_cases hkey : handle = m.next
    · subst hkey
      rw [AList.lookup_insert] at h
      exact .inl ⟨rfl, (Option.some.inj h).symm⟩
    · rw [AList.lookup_insert_ne hkey] at h
      exact .inr h

theorem get_remove (h : (m.remove key).2.get handle = some w) :
    handle ≠ key ∧ m.get handle = some w := by
  rw [remove] at h
  split at h
  case isTrue hmem =>
    have hlive : handle ∈ m.map.erase key := AList.lookup_isSome.mp (Option.isSome_of_eq_some h)
    have hne := (AList.mem_erase.mp hlive).1
    exact ⟨hne, (AList.lookup_erase_ne hne).symm.trans h⟩
  case isFalse hmem =>
    refine ⟨fun heq => hmem (heq ▸ AList.lookup_isSome.mp (Option.isSome_of_eq_some h)), h⟩

end HandleMap

/-! ## §2. instance.h. -/

/-- A pointer: the identity of an object. -/
abbrev Ptr := Nat

/-- `struct wlr_box`. -/
structure WlrBox where
  x : Int
  y : Int
  width : Int
  height : Int
deriving DecidableEq, Repr

/-- What is read of a `struct wlr_output`: which one it is, the refresh rate of its current mode if
    it has one, and its scale (which is only copied). -/
structure WlrOutput where
  id : Nat
  refresh : Option Int
  scale : Rat
deriving DecidableEq, Repr

/-- `struct fwr_output`. -/
structure FwrOutput where
  id : UInt32
  wlrOutput : WlrOutput
deriving DecidableEq, Repr

/-- `struct fwr_view`. -/
structure FwrView where
  handle : UInt32
  xdgSurface : Nat
  x : Int
  y : Int
  width : Int
  height : Int
  currentOutput : Option Ptr
  outputScale : Rat
  geoX : Int
  geoY : Int
  textureId : Int
  textureRegistered : Bool
  subsurfaces : List Ptr
deriving DecidableEq, Repr

/-- `struct fwr_subsurface`. -/
structure FwrSubsurface where
  handle : UInt32
  parentView : Ptr
  x : Int
  y : Int
  width : Int
  height : Int
  currentOutput : Option Ptr
  outputScale : Rat
  textureId : Int
  textureRegistered : Bool
deriving DecidableEq, Repr

/-- `struct fwr_popup`. -/
structure FwrPopup where
  handle : UInt32
  parentView : Ptr
  parentViewHandle : UInt32
  x : Int
  y : Int
  width : Int
  height : Int
  currentOutput : Option Ptr
  outputScale : Rat
  textureId : Int
  textureRegistered : Bool
  unconstrained : Bool
deriving DecidableEq, Repr

/-- Calls to the engine about external textures. -/
inductive TextureCall where
  | register (textureId : Int)
  | unregister (textureId : Int)
  | markFrameAvailable (textureId : Int)
deriving DecidableEq, Repr

/-- `struct fwr_instance`, with the objects it owns; `wlrSurfaces` are the surfaces of clients, of
    which only the existence matters here. -/
structure Instance where
  outputObjects : Store FwrOutput
  viewObjects : Store FwrView
  subsurfaceObjects : Store FwrSubsurface
  popupObjects : Store FwrPopup
  wlrSurfaces : Store Unit
  views : HandleMap Ptr
  subsurfaces : HandleMap Ptr
  popups : HandleMap Ptr
  viewsList : List Ptr
  outputs : List Ptr
  vsyncOutput : Option Ptr
  nextOutputId : UInt32
  currentXcursorName : Option String
  clientCursorSurface : Option Ptr
  clientCursorHotspotX : Int
  clientCursorHotspotY : Int
  textureCalls : List TextureCall

/-- A freed object has been used. -/
inductive Fault where
  | freedOutput
  | freedView
  | freedSubsurface
  | freedPopup
deriving DecidableEq, Repr

namespace Instance

/-- The instance after initialisation. -/
def init : Instance where
  outputObjects := .empty
  viewObjects := .empty
  subsurfaceObjects := .empty
  popupObjects := .empty
  wlrSurfaces := .empty
  views := .new
  subsurfaces := .new
  popups := .new
  viewsList := []
  outputs := []
  vsyncOutput := none
  nextOutputId := 0
  currentXcursorName := some "left_ptr"
  clientCursorSurface := none
  clientCursorHotspotX := 0
  clientCursorHotspotY := 0
  textureCalls := []

/-- A pointer followed. -/
def deref {α : Type} (objects : Store α) (fault : Fault) (p : Ptr) : Except Fault α :=
  match objects.get p with
  | some x => .ok x
  | none => .error fault

def output (s : Instance) (p : Ptr) : Except Fault FwrOutput := deref s.outputObjects .freedOutput p

def view (s : Instance) (p : Ptr) : Except Fault FwrView := deref s.viewObjects .freedView p

def subsurface (s : Instance) (p : Ptr) : Except Fault FwrSubsurface :=
  deref s.subsurfaceObjects .freedSubsurface p

def popup (s : Instance) (p : Ptr) : Except Fault FwrPopup := deref s.popupObjects .freedPopup p

def setView (s : Instance) (p : Ptr) (view : FwrView) : Instance :=
  { s with viewObjects := s.viewObjects.set p view }

def setSubsurface (s : Instance) (p : Ptr) (sub : FwrSubsurface) : Instance :=
  { s with subsurfaceObjects := s.subsurfaceObjects.set p sub }

def setPopup (s : Instance) (p : Ptr) (popup : FwrPopup) : Instance :=
  { s with popupObjects := s.popupObjects.set p popup }

/-- A call to the engine. -/
def call (s : Instance) (c : TextureCall) : Instance :=
  { s with textureCalls := s.textureCalls ++ [c] }

theorem deref_eq_ok {α : Type} {objects : Store α} {fault : Fault} {p : Ptr} {x : α} :
    deref objects fault p = .ok x ↔ objects.get p = some x := by
  unfold deref
  cases objects.get p <;> simp

theorem deref_of_live {α : Type} {objects : Store α} (fault : Fault) {p : Ptr}
    (h : objects.Live p) : ∃ x, deref objects fault p = .ok x := by
  obtain ⟨x, hx⟩ := Store.live_iff.mp h
  exact ⟨x, deref_eq_ok.mpr hx⟩

end Instance

end FlutterWlroots.Compositor
