/-
  FlutterWlroots.Desktop.SubsurfaceTable — Dart's subsurfaces mirror those of the compositor.

  Once all messages are delivered, Dart has an object for each mapped subsurface, with its box, its
  texture and the handle of its parent.  The list of a window is that of its mapped subsurfaces, but
  only of those that were mapped after the window: wlroots maps the subsurfaces that a window has
  already before it maps the window, and these are in the table but in no list.

    • `SubSides.Right.mapSub` … — what each message does to the table and the lists,
    • `right_newToplevel` …     — which of them an event of the compositor comes to,
    • `sides_step`              — one event,
    • `subsurfaces_mirrored`    — every run.
-/
import FlutterWlroots.Desktop.ChildSurfaces
import FlutterWlroots.Desktop.ShellSteps
import FlutterWlroots.Lib.Mirror

namespace FlutterWlroots.Desktop

open Lib Lib.StateRun FlutterWlroots.Compositor

/-! ## §1. The two sides. -/

/-- What matters of both sides for subsurfaces; the keys are the handles of the views. -/
structure SubSides where
  frames : Ptr → Option (ChildFrame Ptr)
  keys : Ptr → Option UInt32
  objects : Store Subsurface
  subsurfaces : UInt32 → Option Nat
  surfaces : UInt32 → Option (List Nat)
  shown : Ptr → Bool
  mapped : Ptr → Bool
  children : Ptr → List Ptr

namespace SubSides

variable (x : SubSides)

/-- What Dart is to say of a subsurface. -/
def Describes (q : Ptr) (e : Subsurface) : Prop :=
  ∃ f k, x.frames q = some f ∧ x.keys f.parent = some k ∧ e = ⟨f.handle, f.textureId, k, f.box⟩

/-- The object that is under the handle of a subsurface. -/
def idOf (q : Ptr) : Option Nat := (x.frames q).bind fun f => x.subsurfaces f.handle

/-- A list of objects is that of the children. -/
def Lists (p : Ptr) (ids : List Nat) : Prop := ids.map some = (x.children p).map x.idOf

def subs : Mirror Ptr UInt32 Subsurface where
  keyOf := fun q => (x.frames q).map (·.handle)
  shown := x.mapped
  table := fun k => (x.subsurfaces k).bind x.objects.get

def views : Mirror Ptr UInt32 (List Nat) := ⟨x.keys, x.shown, x.surfaces⟩

/-- Both tables are right, and the children of a window are its subsurfaces. -/
structure Right : Prop where
  subs : x.subs.Faithful x.Describes
  views : x.views.Faithful x.Lists
  objects : ∀ k id, x.subsurfaces k = some id → x.objects.Live id
  children : ∀ p, ∀ q ∈ x.children p,
    x.mapped q = true ∧ ∃ f, x.frames q = some f ∧ f.parent = p

/-! ## §2. Changes. -/

def newView (p : Ptr) (k : UInt32) : SubSides :=
  { x with
    keys := Function.update x.keys p (some k), shown := Function.update x.shown p false }

def mapView (p : Ptr) (k : UInt32) : SubSides :=
  { x with
    surfaces := Function.update x.surfaces k (some []), shown := Function.update x.shown p true
    children := Function.update x.children p [] }

def unmapView (p : Ptr) (k : UInt32) : SubSides :=
  { x with
    surfaces := Function.update x.surfaces k none, shown := Function.update x.shown p false }

def destroyView (p : Ptr) : SubSides := { x with keys := Function.update x.keys p none }

def newSub (q : Ptr) (f : ChildFrame Ptr) : SubSides :=
  { x with
    frames := Function.update x.frames q (some f), mapped := Function.update x.mapped q false }

def mapSub (q : Ptr) (f : ChildFrame Ptr) (k : UInt32) : SubSides :=
  { x with
    frames := Function.update x.frames q (some f)
    objects := x.objects.alloc ⟨f.handle, f.textureId, k, f.box⟩
    subsurfaces := Function.update x.subsurfaces f.handle (some x.objects.next)
    surfaces := Function.update x.surfaces k ((x.surfaces k).map (· ++ [x.objects.next]))
    mapped := Function.update x.mapped q true
    children := Function.update x.children f.parent (x.children f.parent ++ [q]) }

/-- The objects of a list that are not under the handle. -/
def without (k : UInt32) (ids : List Nat) : List Nat :=
  ids.filter fun id => (x.objects.get id).all fun e => e.handle ≠ k

def unmapSub (q : Ptr) (f : ChildFrame Ptr) (k : UInt32) : SubSides :=
  { x with
    subsurfaces := Function.update x.subsurfaces f.handle none
    surfaces := Function.update x.surfaces k ((x.surfaces k).map (x.without f.handle))
    mapped := Function.update x.mapped q false
    children := Function.update x.children f.parent ((x.children f.parent).filter (· ≠ q)) }

/-- The object under the handle in another box. -/
def positioned (k : UInt32) (box : WlrBox) : Store Subsurface :=
  match x.subsurfaces k with
  | none => x.objects
  | some id =>
      match x.objects.get id with
      | none => x.objects
      | some e => x.objects.set id { e with box := box }

def moveSub (q : Ptr) (f : ChildFrame Ptr) (box : WlrBox) : SubSides :=
  { x with
    frames := Function.update x.frames q (some (f.inBox box))
    objects := x.positioned f.handle box }

def destroySub (q : Ptr) : SubSides := { x with frames := Function.update x.frames q none }

/-! ## §3. What each change keeps. -/

namespace Right

variable {x} {p q : Ptr} {f : ChildFrame Ptr} {k : UInt32} (h : x.Right)

include h

theorem key_of_entry {k : UInt32} {e : Subsurface}
    (he : (x.subsurfaces k).bind x.objects.get = some e) : e.handle = k := by
  obtain ⟨q, hq, -, f, k', hf, -, rfl⟩ := h.subs.owned k e he
  have hq' : (x.frames q).map (·.handle) = some k := hq
  rw [hf] at hq'
  exact Option.some.inj hq'

theorem get_of_id {id : Nat} (hid : x.subsurfaces k = some id) :
    ∃ e, x.objects.get id = some e ∧ e.handle = k := by
  obtain ⟨e, he⟩ := Store.live_iff.mp (h.objects k id hid)
  refine ⟨e, he, h.key_of_entry ?_⟩
  rw [hid]
  exact he

/-- No object is under two handles. -/
theorem id_injective {k k' : UInt32} {id : Nat} (hid : x.subsurfaces k = some id)
    (hid' : x.subsurfaces k' = some id) : k = k' := by
  obtain ⟨e, he, hk⟩ := h.get_of_id hid
  obtain ⟨e', he', hk'⟩ := h.get_of_id hid'
  obtain rfl : e = e' := Option.some.inj (he.symm.trans he')
  exact hk.symm.trans hk'

theorem ne_of_handle {r : Ptr} {g : ChildFrame Ptr} (hf : x.frames q = some f)
    (hg : x.frames r = some g) (hne : r ≠ q) : g.handle ≠ f.handle := by
  have hkey : ∀ {p : Ptr} {f : ChildFrame Ptr}, x.frames p = some f →
      x.subs.keyOf p = some f.handle := by
    intro p f hf
    show (x.frames p).map _ = _
    rw [hf]
    rfl
  exact h.subs.ne_key (hkey hf) (hkey hg) hne

theorem newView (hnew : x.keys p = none) (hunused : ∀ q, x.keys q ≠ some k) :
    (x.newView p k).Right where
  subs := h.subs.mono fun q e ⟨f, k', hf, hk', he⟩ => by
    have hne : f.parent ≠ p := by
      intro heq
      rw [heq, hnew] at hk'
      cases hk'
    refine ⟨f, k', hf, ?_, he⟩
    show Function.update x.keys p (some k) f.parent = some k'
    rwa [Function.update_of_ne hne]
  views := h.views.enter hnew hunused fun _ _ _ hlists => hlists
  objects := h.objects
  children := h.children

theorem mapView (hp : x.keys p = some k) : (x.mapView p k).Right where
  subs := h.subs
  views := by
    refine h.views.publish hp ?_ fun q ids hne hlists => ?_
    · show [] = (Function.update x.children p [] p).map _
      rw [Function.update_self]
      rfl
    · show _ = (Function.update x.children p [] q).map _
      rw [Function.update_of_ne hne]
      exact hlists
  objects := h.objects
  children := by
    intro r q hq
    by_cases hr : r = p
    · have hq' : q ∈ Function.update x.children p [] r := hq
      rw [hr, Function.update_self] at hq'
      cases hq'
    · have hq' : q ∈ Function.update x.children p [] r := hq
      rw [Function.update_of_ne hr] at hq'
      exact h.children r q hq'

theorem unmapView (hp : x.keys p = some k) : (x.unmapView p k).Right where
  subs := h.subs
  views := h.views.withdraw hp fun _ _ _ hlists => hlists
  objects := h.objects
  children := h.children

theorem destroyView (hhidden : x.shown p = false)
    (hfree : ∀ q f, x.frames q = some f → f.parent = p → x.mapped q = false) :
    (x.destroyView p).Right where
  subs := h.subs.mono_shown fun q e hmapped ⟨f, k', hf, hk', he⟩ => by
    have hne : f.parent ≠ p := by
      intro heq
      have hunmapped := hfree q f hf heq
      rw [show x.mapped q = true from hmapped] at hunmapped
      cases hunmapped
    refine ⟨f, k', hf, ?_, he⟩
    show Function.update x.keys p none f.parent = some k'
    rwa [Function.update_of_ne hne]
  views := h.views.leave hhidden fun _ _ _ hlists => hlists
  objects := h.objects
  children := h.children

theorem newSub (hnew : x.frames q = none)
    (hunused : ∀ r g, x.frames r = some g → g.handle ≠ f.handle) : (x.newSub q f).Right := by
  have hold : ∀ r g, x.frames r = some g → r ≠ q := by
    rintro r g hg rfl
    rw [hnew] at hg
    cases hg
  have hframe : ∀ r, r ≠ q → (x.newSub q f).frames r = x.frames r :=
    fun r hr => Function.update_of_ne hr ..
  refine ⟨?_, ?_, h.objects, fun p r hr => ?_⟩
  · have hmirror : (x.newSub q f).subs = x.subs.enter q f.handle := by
      show Mirror.mk _ _ _ = Mirror.mk _ _ _
      congr 1
      funext r
      by_cases hr : r = q
      · rw [hr, Function.update_self]
        show (Function.update x.frames q (some f) q).map _ = _
        rw [Function.update_self]
        rfl
      · rw [Function.update_of_ne hr, hframe r hr]
        rfl
    rw [hmirror]
    refine h.subs.enter ?_ ?_ ?_
    · show (x.frames q).map _ = none
      rw [hnew]
      rfl
    · intro r hr
      obtain ⟨g, hg, hkey⟩ := Option.map_eq_some_iff.mp hr
      exact hunused r g hg hkey
    · rintro r e hr ⟨g, k', hg, hk', he⟩
      exact ⟨g, k', (hframe r hr).trans hg, hk', he⟩
  · refine h.views.mono fun p ids hlists => ?_
    have hids : ∀ r ∈ x.children p, (x.newSub q f).idOf r = x.idOf r := by
      intro r hr
      obtain ⟨-, g, hg, -⟩ := h.children p r hr
      unfold idOf
      rw [hframe r (hold r g hg)]
      rfl
    show _ = (x.children p).map _
    rw [List.map_congr_left hids]
    exact hlists
  · obtain ⟨hmapped, g, hg, hparent⟩ := h.children p r hr
    refine ⟨?_, g, (hframe r (hold r g hg)).trans hg, hparent⟩
    show Function.update x.mapped q false r = true
    rwa [Function.update_of_ne (hold r g hg)]

theorem destroySub (hunmapped : x.mapped q = false) : (x.destroySub q).Right := by
  have hmapped : ∀ r, x.mapped r = true → r ≠ q := by
    rintro r hr rfl
    rw [hunmapped] at hr
    cases hr
  have hframe : ∀ r, r ≠ q → (x.destroySub q).frames r = x.frames r :=
    fun r hr => Function.update_of_ne hr ..
  refine ⟨?_, ?_, h.objects, fun p r hr => ?_⟩
  · have hmirror : (x.destroySub q).subs = x.subs.leave q := by
      show Mirror.mk _ _ _ = Mirror.mk _ _ _
      congr 1
      funext r
      by_cases hr : r = q
      · rw [hr, Function.update_self]
        show (Function.update x.frames q none q).map _ = _
        rw [Function.update_self]
        rfl
      · rw [Function.update_of_ne hr, hframe r hr]
        rfl
    rw [hmirror]
    refine h.subs.leave hunmapped ?_
    rintro r e hr ⟨g, k', hg, hk', he⟩
    exact ⟨g, k', (hframe r hr).trans hg, hk', he⟩
  · refine h.views.mono fun p ids hlists => ?_
    have hids : ∀ r ∈ x.children p, (x.destroySub q).idOf r = x.idOf r := by
      intro r hr
      unfold idOf
      rw [hframe r (hmapped r (h.children p r hr).1)]
      rfl
    show _ = (x.children p).map _
    rw [List.map_congr_left hids]
    exact hlists
  · obtain ⟨hr', g, hg, hparent⟩ := h.children p r hr
    exact ⟨hr', g, (hframe r (hmapped r hr')).trans hg, hparent⟩

/-- A subsurface mapped: it gets a new object, which goes to the end of the list of its parent. -/
theorem mapSub {g : ChildFrame Ptr} (hf : x.frames q = some f) (hhandle : g.handle = f.handle)
    (hparent : g.parent = f.parent) (hk : x.keys f.parent = some k)
    (hunmapped : x.mapped q = false) : (x.mapSub q g k).Right := by
  have hmapped : ∀ r, x.mapped r = true → r ≠ q := by
    rintro r hr rfl
    rw [hunmapped] at hr
    cases hr
  have hself : (x.mapSub q g k).frames q = some g := Function.update_self ..
  have hframe : ∀ r, r ≠ q → (x.mapSub q g k).frames r = x.frames r :=
    fun r hr => Function.update_of_ne hr ..
  have hother : ∀ k', k' ≠ g.handle → (x.mapSub q g k).subsurfaces k' = x.subsurfaces k' :=
    fun k' hk' => Function.update_of_ne hk' ..
  have hidOf : ∀ r g', x.frames r = some g' → r ≠ q → (x.mapSub q g k).idOf r = x.idOf r := by
    intro r g' hg' hr
    unfold idOf
    rw [hframe r hr, hg', Option.bind_some, Option.bind_some, hother _ ?_]
    rw [hhandle]
    exact h.ne_of_handle hf hg' hr
  refine ⟨?_, ?_, ?_, ?_⟩
  · have hmirror : (x.mapSub q g k).subs
        = x.subs.publish q g.handle ⟨g.handle, g.textureId, k, g.box⟩ := by
      show Mirror.mk _ _ _ = Mirror.mk _ _ _
      congr 1
      · funext r
        by_cases hr : r = q
        · rw [hr, hself]
          show some g.handle = (x.frames q).map _
          rw [hf, hhandle]
          rfl
        · rw [hframe r hr]
          rfl
      · funext k'
        by_cases hk' : k' = g.handle
        · subst hk'
          rw [Function.update_self]
          show (Function.update x.subsurfaces g.handle (some x.objects.next) g.handle).bind _ = _
          rw [Function.update_self]
          exact Store.get_alloc_next _ _
        · rw [Function.update_of_ne hk', hother k' hk']
          show _ = (x.subsurfaces k').bind x.objects.get
          cases hid : x.subsurfaces k' with
          | none => rfl
          | some id => exact Store.get_alloc_ne (Store.ne_next (h.objects k' id hid))
    rw [hmirror]
    refine h.subs.publish ?_ ⟨g, k, hself, by rw [hparent]; exact hk, rfl⟩ ?_
    · show (x.frames q).map _ = _
      rw [hf, hhandle]
      rfl
    · rintro r e hr ⟨g', k', hg', hk', he⟩
      exact ⟨g', k', (hframe r hr).trans hg', hk', he⟩
  · have hkey : x.views.keyOf g.parent = some k := by
      rw [hparent]
      exact hk
    have hlists : ∀ p, (x.children p).map (x.mapSub q g k).idOf = (x.children p).map x.idOf := by
      intro p
      refine List.map_congr_left fun r hr => ?_
      obtain ⟨hr', g', hg', -⟩ := h.children p r hr
      exact hidOf r g' hg' (hmapped r hr')
    refine h.views.revise hkey (fun ids hids => ?_) fun p ids hne hids => ?_
    · show (ids ++ [x.objects.next]).map some
        = (Function.update x.children g.parent _ g.parent).map _
      have hnew : (x.mapSub q g k).idOf q = some x.objects.next := by
        unfold idOf
        rw [hself]
        exact Function.update_self ..
      rw [Function.update_self, List.map_append, List.map_append, hlists, List.map_singleton,
        List.map_singleton, hnew, show ids.map some = _ from hids]
    · show _ = (Function.update x.children g.parent _ p).map _
      rw [Function.update_of_ne hne, hlists]
      exact hids
  · intro k' id hid
    by_cases hk' : k' = g.handle
    · have hid' : Function.update x.subsurfaces g.handle (some x.objects.next) k' = some id := hid
      rw [hk', Function.update_self] at hid'
      exact Store.live_alloc.mpr (.inl (Option.some.inj hid').symm)
    · rw [hother k' hk'] at hid
      exact Store.live_alloc.mpr (.inr (h.objects k' id hid))
  · intro p r hr
    have hcases : (p = g.parent ∧ r = q) ∨ r ∈ x.children p := by
      have hr' : r ∈ Function.update x.children g.parent (x.children g.parent ++ [q]) p := hr
      by_cases hp : p = g.parent
      · rw [hp, Function.update_self, List.mem_append, List.mem_singleton] at hr'
        rcases hr' with hr' | hr'
        · exact .inr (hp ▸ hr')
        · exact .inl ⟨hp, hr'⟩
      · rw [Function.update_of_ne hp] at hr'
        exact .inr hr'
    rcases hcases with ⟨rfl, rfl⟩ | hr'
    · exact ⟨Function.update_self .., g, hself, rfl⟩
    · obtain ⟨hm, g', hg', hp⟩ := h.children p r hr'
      refine ⟨?_, g', (hframe r (hmapped r hm)).trans hg', hp⟩
      show Function.update x.mapped q true r = true
      rwa [Function.update_of_ne (hmapped r hm)]

/-- In a list of objects, those that are not under a handle are those of the other children. -/
theorem without_lists {cs : List Ptr} {ids : List Nat} (hf : x.frames q = some f)
    (hcs : ∀ r ∈ cs, ∃ g, x.frames r = some g) (hids : ids.map some = cs.map x.idOf) :
    (x.without f.handle ids).map some = (cs.filter (· ≠ q)).map x.idOf := by
  induction cs generalizing ids with
  | nil =>
      rw [List.map_nil, List.map_eq_nil_iff] at hids
      rw [hids]
      rfl
  | cons r cs ih =>
      cases ids with
      | nil => cases hids
      | cons id ids =>
          rw [List.map_cons, List.map_cons, List.cons.injEq] at hids
          obtain ⟨hid, hids⟩ := hids
          have hrest := ih (fun r hr => hcs r (List.mem_cons_of_mem _ hr)) hids
          obtain ⟨g, hg⟩ := hcs r List.mem_cons_self
          have hid' : x.subsurfaces g.handle = some id := by
            rw [hid]
            unfold idOf
            rw [hg]
            rfl
          obtain ⟨e, he, hkey⟩ := h.get_of_id hid'
          unfold without at hrest ⊢
          by_cases hr : r = q
          · obtain rfl : g = f := Option.some.inj (hg.symm.trans (hr ▸ hf))
            rw [List.filter_cons_of_neg (by rw [he, Option.all_some, hkey]; simp),
              List.filter_cons_of_neg (by simp [hr])]
            exact hrest
          · have hne : g.handle ≠ f.handle := h.ne_of_handle hf hg hr
            rw [List.filter_cons_of_pos (by rw [he, Option.all_some, hkey]; simp [hne]),
              List.filter_cons_of_pos (by simp [hr]), List.map_cons, List.map_cons, hrest, hid]

/-- A subsurface unmapped: its object is in no table and in no list. -/
theorem unmapSub (hf : x.frames q = some f) (hk : x.keys f.parent = some k) :
    (x.unmapSub q f k).Right := by
  have hother : ∀ k', k' ≠ f.handle → (x.unmapSub q f k).subsurfaces k' = x.subsurfaces k' :=
    fun k' hk' => Function.update_of_ne hk' ..
  have hidOf : ∀ r g, x.frames r = some g → r ≠ q → (x.unmapSub q f k).idOf r = x.idOf r := by
    intro r g hg hr
    show (x.frames r).bind _ = (x.frames r).bind _
    rw [hg, Option.bind_some, Option.bind_some, hother _ (h.ne_of_handle hf hg hr)]
  have hlists : ∀ cs : List Ptr, (∀ r ∈ cs, ∃ g, x.frames r = some g) → (∀ r ∈ cs, r ≠ q) →
      cs.map (x.unmapSub q f k).idOf = cs.map x.idOf := by
    intro cs hcs hne
    refine List.map_congr_left fun r hr => ?_
    obtain ⟨g, hg⟩ := hcs r hr
    exact hidOf r g hg (hne r hr)
  have hframes : ∀ p, ∀ r ∈ x.children p, ∃ g, x.frames r = some g := by
    intro p r hr
    obtain ⟨-, g, hg, -⟩ := h.children p r hr
    exact ⟨g, hg⟩
  refine ⟨?_, ?_, ?_, ?_⟩
  · have hmirror : (x.unmapSub q f k).subs = x.subs.withdraw q f.handle := by
      show Mirror.mk _ _ _ = Mirror.mk _ _ _
      congr 1
      funext k'
      by_cases hk' : k' = f.handle
      · subst hk'
        rw [Function.update_self]
        show (Function.update x.subsurfaces f.handle none f.handle).bind _ = _
        rw [Function.update_self]
        rfl
      · rw [Function.update_of_ne hk', hother k' hk']
        rfl
    rw [hmirror]
    refine h.subs.withdraw ?_ fun r e _ hdescribes => hdescribes
    show (x.frames q).map _ = _
    rw [hf]
    rfl
  · refine h.views.revise hk (fun ids hids => ?_) fun p ids hne hids => ?_
    · show _ = (Function.update x.children f.parent _ f.parent).map _
      rw [Function.update_self, hlists]
      · exact h.without_lists hf (hframes f.parent) hids
      · intro r hr
        exact hframes f.parent r (List.mem_filter.mp hr).1
      · intro r hr
        simpa using (List.mem_filter.mp hr).2
    · show _ = (Function.update x.children f.parent _ p).map _
      rw [Function.update_of_ne hne, hlists _ (hframes p)]
      · exact hids
      · rintro r hr rfl
        obtain ⟨-, g, hg, hp⟩ := h.children p r hr
        obtain rfl : g = f := Option.some.inj (hg.symm.trans hf)
        exact hne hp.symm
  · intro k' id hid
    by_cases hk' : k' = f.handle
    · have hid' : Function.update x.subsurfaces f.handle none k' = some id := hid
      rw [hk', Function.update_self] at hid'
      cases hid'
    · rw [hother k' hk'] at hid
      exact h.objects k' id hid
  · intro p r hr
    have hcases : r ∈ x.children p ∧ r ≠ q := by
      have hr' : r ∈ Function.update x.children f.parent
          ((x.children f.parent).filter (· ≠ q)) p := hr
      by_cases hp : p = f.parent
      · rw [hp, Function.update_self, List.mem_filter] at hr'
        exact ⟨hp ▸ hr'.1, by simpa using hr'.2⟩
      · rw [Function.update_of_ne hp] at hr'
        refine ⟨hr', ?_⟩
        rintro rfl
        obtain ⟨-, g, hg, hparent⟩ := h.children p r hr'
        obtain rfl : g = f := Option.some.inj (hg.symm.trans hf)
        exact hp hparent.symm
    obtain ⟨hm, hg⟩ := h.children p r hcases.1
    refine ⟨?_, hg⟩
    show Function.update x.mapped q false r = true
    rwa [Function.update_of_ne hcases.2]

/-- A subsurface moved, and its object if it has one. -/
theorem moveSub {box : WlrBox} (hf : x.frames q = some f) : (x.moveSub q f box).Right := by
  have hself : (x.moveSub q f box).frames q = some (f.inBox box) := Function.update_self ..
  have hframe : ∀ r, r ≠ q → (x.moveSub q f box).frames r = x.frames r :=
    fun r hr => Function.update_of_ne hr ..
  have hlive : ∀ id, (x.positioned f.handle box).Live id ↔ x.objects.Live id := by
    intro id
    unfold positioned
    split
    · rfl
    · split
      · rfl
      · exact Store.live_set
  have hkey : x.subs.keyOf q = some f.handle := by
    show (x.frames q).map _ = _
    rw [hf]
    rfl
  refine ⟨?_, ?_, fun k id hid => (hlive id).mpr (h.objects k id hid), fun p r hr => ?_⟩
  · have hmirror : (x.moveSub q f box).subs
        = x.subs.revise f.handle fun e => { e with box := box } := by
      show Mirror.mk _ _ _ = Mirror.mk _ _ _
      congr 1
      · funext r
        by_cases hr : r = q
        · rw [hr, hself, show x.subs.keyOf q = _ from hkey]
          rfl
        · rw [hframe r hr]
          rfl
      · funext k
        show (x.subsurfaces k).bind (x.positioned f.handle box).get = _
        unfold positioned
        by_cases hk : k = f.handle
        · subst hk
          rw [Function.update_self]
          show _ = ((x.subsurfaces f.handle).bind x.objects.get).map _
          cases hid : x.subsurfaces f.handle with
          | none => rfl
          | some id =>
              obtain ⟨e, he, -⟩ := h.get_of_id hid
              dsimp only [Option.bind_some]
              rw [he]
              exact Store.get_set_self (Store.live_of_get he)
        · rw [Function.update_of_ne hk]
          show _ = (x.subsurfaces k).bind x.objects.get
          cases hid : x.subsurfaces k with
          | none => rfl
          | some id =>
              cases hid' : x.subsurfaces f.handle with
              | none => rfl
              | some id' =>
                  obtain ⟨e, he, -⟩ := h.get_of_id hid'
                  have hne : id ≠ id' := by
                    rintro rfl
                    exact hk (h.id_injective hid hid')
                  dsimp only [Option.bind_some]
                  rw [he]
                  exact Store.get_set_ne hne
    rw [hmirror]
    refine h.subs.revise hkey ?_ ?_
    · rintro e ⟨g, k, hg, hk, rfl⟩
      obtain rfl : g = f := Option.some.inj (hg.symm.trans hf)
      exact ⟨g.inBox box, k, hself, hk, rfl⟩
    · rintro r e hr ⟨g, k, hg, hk, he⟩
      exact ⟨g, k, (hframe r hr).trans hg, hk, he⟩
  · refine h.views.mono fun p ids hlists => ?_
    have hids : (x.moveSub q f box).idOf = x.idOf := by
      funext r
      unfold idOf
      by_cases hr : r = q
      · rw [hr, hself, hf]
        rfl
      · rw [hframe r hr]
        rfl
    show _ = (x.children p).map _
    rw [hids]
    exact hlists
  · obtain ⟨hmapped, g, hg, hp⟩ := h.children p r hr
    by_cases hr : r = q
    · subst hr
      obtain rfl : g = f := Option.some.inj (hg.symm.trans hf)
      exact ⟨hmapped, g.inBox box, hself, hp⟩
    · exact ⟨hmapped, g, (hframe r hr).trans hg, hp⟩

end Right

end SubSides

/-! ## §4. Events. -/

/-- The toplevel that an event maps. -/
def mappedToplevel : Event → Option Ptr
  | .toplevelMap p .. => some p
  | _ => none

namespace SubSides

/-- The two sides of a link. -/
def of (s : ChildLink) (note : ChildNote) : SubSides where
  frames := s.compositor.childFrames.subs.frames
  keys := fun p => (s.compositor.windowFrames.frames p).map (·.handle)
  objects := s.settled.objects
  subsurfaces := s.settled.subsurfaces
  surfaces := s.settled.surfaces
  shown := note.shown
  mapped := note.mapped
  children := note.children

variable {s s' : ChildLink} {note : ChildNote} {e : Event} {p : Ptr} {k : UInt32}
  {t t' : ChildFrames} {w w' : WindowFrames}

theorem key_of_view {view : FwrView} (hv : s.compositor.view p = .ok view) :
    (of s note).keys p = some view.handle := by
  show (s.compositor.windowFrames.frames p).map _ = _
  rw [Instance.frame_of_get (Instance.view_ok hv)]
  rfl

/-- A view keeps its handle. -/
theorem keys_same (h : Instance.Reframed w e w') (hnew : ∀ xdgSurface, e ≠ .newToplevel xdgSurface)
    (hdestroy : ∀ p, e ≠ .toplevelDestroy p) :
    (fun p => (w'.frames p).map (·.handle)) = fun p => (w.frames p).map (·.handle) := by
  cases h with
  | unchanged => rfl
  | newToplevel xdgSurface => exact absurd rfl (hnew xdgSurface)
  | toplevelMap hf => exact Shell.framePart_put hf (by rfl)
  | toplevelUnmap hf => rfl
  | toplevelCommit hf => exact Shell.framePart_put hf (by rfl)
  | toplevelDestroy hf => exact absurd rfl (hdestroy _)
  | setPosition hq hf => exact Shell.framePart_put hf (by rfl)
  | setPositionGone hq => rfl

theorem keys_create {xdgSurface : Nat} (h : Instance.Reframed w (.newToplevel xdgSurface) w') :
    (fun p => (w'.frames p).map (·.handle))
      = Function.update (fun p => (w.frames p).map (·.handle)) w.next (some w.views.next) := by
  cases h with
  | unchanged hother => cases hother
  | newToplevel => exact Shell.framePart_create ..

theorem keys_destroy (h : Instance.Reframed w (.toplevelDestroy p) w') :
    (fun p => (w'.frames p).map (·.handle))
      = Function.update (fun p => (w.frames p).map (·.handle)) p none := by
  cases h with
  | unchanged hother => cases hother
  | toplevelDestroy => exact Shell.framePart_destroy ..

theorem subs_other (h : ChildEffect t e t') (hother : e.isChild = false) : t' = t := by
  cases h <;> first | rfl | cases hother

theorem subs_new (h : ChildEffect t (.newSubsurface p) t') :
    t'.subs = t.subs.create p ⟨0, 0, 0, 0⟩ := by
  cases h with
  | other hother => cases hother
  | newSubsurface => rfl

theorem subs_map {box : WlrBox} {registered : Bool}
    (h : ChildEffect t (.subsurfaceMap p box registered) t') :
    ∃ f, t.subs.frames p = some f ∧ t'.subs = t.subs.put p (f.subsurfaceMapped box registered) := by
  cases h with
  | other hother => cases hother
  | subsurfaceMap hf => exact ⟨_, hf, rfl⟩

theorem subs_unmap (h : ChildEffect t (.subsurfaceUnmap p) t') : t'.subs = t.subs := by
  cases h with
  | other hother => cases hother
  | subsurfaceUnmap hf => rfl

theorem subs_commit {box : WlrBox} (h : ChildEffect t (.subsurfaceCommit p box) t') :
    ∃ f, t.subs.frames p = some f ∧ t'.subs = t.subs.put p (f.inBox box) := by
  cases h with
  | other hother => cases hother
  | subsurfaceCommit hf => exact ⟨_, hf, rfl⟩

theorem subs_destroy (h : ChildEffect t (.subsurfaceDestroy p) t') :
    t'.subs = t.subs.remove p := by
  cases h with
  | other hother => cases hother
  | subsurfaceDestroy hf => rfl

theorem subs_popup (h : ChildEffect t e t') (hpopup : isPopupEvent e = true) :
    t'.subs = t.subs := by
  cases h <;> first | rfl | cases hpopup

theorem ofParent_eq {f : ChildFrame Ptr} (hf : s.compositor.childFrames.subs.frames p = some f)
    (g : List Ptr → List Ptr) :
    note.ofParent s.compositor p g = { note with
      children := Function.update note.children f.parent (g (note.children f.parent)) } := by
  obtain ⟨sub, hsub, rfl⟩ := Store.project_eq_some.mp hf
  unfold ChildNote.ofParent
  rw [hsub]
  rfl

/-- The frame of a subsurface that can be read, and the handle of its parent. -/
theorem frame_of_sub (note : ChildNote) {sub : FwrSubsurface} {view : FwrView}
    (hsub : s.compositor.subsurface p = .ok sub)
    (hview : s.compositor.view sub.parentView = .ok view) :
    (of s note).frames p = some sub.childFrame ∧
      (of s note).keys sub.childFrame.parent = some view.handle :=
  ⟨Instance.sub_childFrame (Instance.subsurface_ok hsub), key_of_view hview⟩

/-- A position moves the object under the handle. -/
theorem positionSubsurface_eq (s : ChildLink) (note : ChildNote) (k : UInt32) (box : WlrBox) :
    s.settled.positionSubsurface k box
      = { s.settled with objects := (of s note).positioned k box } := by
  unfold DartCompositor.positionSubsurface positioned
  show _ = { s.settled with
    objects := match s.settled.subsurfaces k with
      | none => s.settled.objects
      | some id =>
          match s.settled.objects.get id with
          | none => s.settled.objects
          | some e => s.settled.objects.set id { e with box := box } }
  cases s.settled.subsurfaces k with
  | none => rfl
  | some id =>
      dsimp only
      cases s.settled.objects.get id <;> rfl

/-- Sides that agree, if the messages are about popups only. -/
theorem of_popups {note' : ChildNote} {ms : List ChildMessage}
    (hsettled : s'.settled = ms.foldl DartCompositor.receive s.settled)
    (hms : ∀ m ∈ ms, m.isPopup = true)
    (hframes : s'.compositor.childFrames.subs.frames = s.compositor.childFrames.subs.frames)
    (hkeys : (of s' note').keys = (of s note).keys) (hnote : (of s' note').shown = note.shown)
    (hmapped : (of s' note').mapped = note.mapped)
    (hchildren : (of s' note').children = note.children) : of s' note' = of s note := by
  obtain ⟨popups, hpopups⟩ := receive_popups (d := s.settled) hms
  show SubSides.mk _ _ _ _ _ _ _ _ = SubSides.mk _ _ _ _ _ _ _ _
  congr 1
  · rw [hsettled, hpopups]
  · rw [hsettled, hpopups]
  · rw [hsettled, hpopups]

/-- An event without messages that changes neither side. -/
theorem of_same {ms : List ChildMessage}
    (hsettled : s'.settled = ms.foldl DartCompositor.receive s.settled) (hms : ms = [])
    (hchild : ChildEffect s.compositor.childFrames e s'.compositor.childFrames)
    (hother : e.isChild = false) (hkeys : (of s' note).keys = (of s note).keys) :
    of s' note = of s note := by
  refine of_popups hsettled ?_ (by rw [subs_other hchild hother]) hkeys rfl rfl rfl
  intro m hm
  rw [hms] at hm
  cases hm

/-- What is left of the sides when one component is not as it was. -/
theorem of_eq {x : SubSides} (hframes : s'.compositor.childFrames.subs.frames = x.frames)
    (hkeys : (of s' note).keys = x.keys) (hobjects : s'.settled.objects = x.objects)
    (hsubsurfaces : s'.settled.subsurfaces = x.subsurfaces)
    (hsurfaces : s'.settled.surfaces = x.surfaces) (hshown : note.shown = x.shown)
    (hmapped : note.mapped = x.mapped) (hchildren : note.children = x.children) :
    of s' note = x := by
  cases x
  exact congr (congr (congr (congr (congr (congr (congr (congrArg SubSides.mk hframes) hkeys)
    hobjects) hsubsurfaces) hsurfaces) hshown) hmapped) hchildren

/-- What is known of one event of the compositor. -/
structure Stepped (s : ChildLink) (e : Event) (s' : ChildLink) (ms : List ChildMessage) : Prop where
  child : ChildEffect s.compositor.childFrames e s'.compositor.childFrames
  view : Instance.Reframed s.compositor.windowFrames e s'.compositor.windowFrames
  messages : s.compositor.announced s'.compositor s.texts e = .ok ms
  settled : s'.settled = ms.foldl DartCompositor.receive s.settled

theorem stepped (hstep : s.step (.compositor e) = some s') : ∃ ms, Stepped s e s' ms := by
  obtain ⟨hhandle, ms, hms, hsettled⟩ := compositor_facts hstep
  exact ⟨ms, Instance.handle_childEffect hhandle, Instance.handle_reframed hhandle, hms, hsettled⟩

section Events

variable {ms : List ChildMessage} (h : (of s note).Right) (hs : Stepped s e s' ms)

omit h in
theorem Stepped.keys (hs : Stepped s e s' ms) (note note' : ChildNote)
    (hnew : ∀ xdgSurface, e ≠ .newToplevel xdgSurface) (hdestroy : ∀ p, e ≠ .toplevelDestroy p) :
    (of s' note').keys = (of s note).keys :=
  keys_same hs.view hnew hdestroy

include h

theorem right_newToplevel {xdgSurface : Nat} (hs : Stepped s (.newToplevel xdgSurface) s' ms)
    (hok : InTurn s.compositor note (.newToplevel xdgSurface)) :
    (of s' (ChildNote.remark s (.compositor (.newToplevel xdgSurface)) note)).Right := by
  obtain ⟨hchild, hview, hms, hsettled⟩ := hs
  cases hms
  have hsides : of s' (ChildNote.remark s (.compositor (.newToplevel xdgSurface)) note)
      = (of s note).newView s.compositor.viewObjects.next s.compositor.views.next :=
    of_eq (by rw [subs_other hchild rfl]; rfl) (keys_create hview) (by rw [hsettled]; rfl)
      (by rw [hsettled]; rfl) (by rw [hsettled]; rfl) rfl rfl rfl
  rw [hsides]
  refine h.newView ?_ fun q hq => ?_
  · show (s.compositor.windowFrames.frames _).map _ = none
    rw [show s.compositor.windowFrames.frames s.compositor.viewObjects.next = none from
      Instance.frame_next _]
    rfl
  · obtain ⟨f, hf, hhandle'⟩ := Option.map_eq_some_iff.mp hq
    obtain ⟨view, hv, rfl⟩ := Instance.view_of_frame hf
    exact hok q view hv hhandle'

theorem right_toplevelMap {geo : WlrBox} {layout : OutputLayout} {registered : Bool}
    (hs : Stepped s (.toplevelMap p geo layout registered) s' ms) (hfit : (s.texts p).fit = true) :
    (of s'
      (ChildNote.remark s (.compositor (.toplevelMap p geo layout registered)) note)).Right := by
  have hkeys := fun note' => hs.keys note note' (by simp) (by simp)
  obtain ⟨hchild, -, hms, hsettled⟩ := hs
  simp only [Instance.announced, except_bind_eq_ok] at hms
  obtain ⟨view, hv, hms⟩ := hms
  cases hms
  have hk : (of s note).keys p = some view.handle := by
    rw [← hkeys note]
    exact key_of_view hv
  -- the message is decoded
  have hreceived : s'.settled = { s.settled with
      surfaces := Function.update s.settled.surfaces view.handle (some []) } :=
    hsettled.trans (if_pos hfit)
  have hsides : of s' (ChildNote.remark s (.compositor (.toplevelMap p geo layout registered)) note)
      = (of s note).mapView p view.handle :=
    of_eq (by rw [subs_other hchild rfl]; rfl) (hkeys _) (by rw [hreceived]; rfl)
      (by rw [hreceived]; rfl) (by rw [hreceived]; rfl) rfl rfl rfl
  rw [hsides]
  exact h.mapView hk

theorem right_toplevelUnmap (hs : Stepped s (.toplevelUnmap p) s' ms) :
    (of s' (ChildNote.remark s (.compositor (.toplevelUnmap p)) note)).Right := by
  have hkeys := fun note' => hs.keys note note' (by simp) (by simp)
  obtain ⟨hchild, -, hms, hsettled⟩ := hs
  simp only [Instance.announced, except_bind_eq_ok] at hms
  obtain ⟨view, hv, hms⟩ := hms
  cases hms
  have hk : (of s note).keys p = some view.handle := by
    rw [← hkeys note]
    exact key_of_view hv
  have hsides : of s' (ChildNote.remark s (.compositor (.toplevelUnmap p)) note)
      = (of s note).unmapView p view.handle :=
    of_eq (by rw [subs_other hchild rfl]; rfl) (hkeys _) (by rw [hsettled]; rfl)
      (by rw [hsettled]; rfl) (by rw [hsettled]; rfl) rfl rfl rfl
  rw [hsides]
  exact h.unmapView hk

theorem right_toplevelDestroy (hs : Stepped s (.toplevelDestroy p) s' ms)
    (hok : InTurn s.compositor note (.toplevelDestroy p)) :
    (of s' (ChildNote.remark s (.compositor (.toplevelDestroy p)) note)).Right := by
  obtain ⟨hchild, hview, hms, hsettled⟩ := hs
  cases hms
  have hsides : of s' (ChildNote.remark s (.compositor (.toplevelDestroy p)) note)
      = (of s note).destroyView p :=
    of_eq (by rw [subs_other hchild rfl]; rfl) (keys_destroy hview) (by rw [hsettled]; rfl)
      (by rw [hsettled]; rfl) (by rw [hsettled]; rfl) rfl rfl rfl
  rw [hsides]
  refine h.destroyView hok.1 fun q f hf hparent => ?_
  obtain ⟨sub, hsub, rfl⟩ := Store.project_eq_some.mp hf
  exact hok.2 q sub hsub hparent

theorem right_newSubsurface {parentView : Ptr} (hs : Stepped s (.newSubsurface parentView) s' ms)
    (hok : InTurn s.compositor note (.newSubsurface parentView)) :
    (of s' (ChildNote.remark s (.compositor (.newSubsurface parentView)) note)).Right := by
  have hkeys := fun note' => hs.keys note note' (by simp) (by simp)
  obtain ⟨hchild, -, hms, hsettled⟩ := hs
  cases hms
  have hframes : s'.compositor.childFrames.subs.frames
      = Function.update s.compositor.childFrames.subs.frames s.compositor.subsurfaceObjects.next
        (some ⟨s.compositor.subsurfaces.next, parentView, 0, false, ⟨0, 0, 0, 0⟩⟩) := by
    rw [subs_new hchild]
    rfl
  have hsides : of s' (ChildNote.remark s (.compositor (.newSubsurface parentView)) note)
      = (of s note).newSub s.compositor.subsurfaceObjects.next
        ⟨s.compositor.subsurfaces.next, parentView, 0, false, ⟨0, 0, 0, 0⟩⟩ :=
    of_eq hframes (hkeys _) (by rw [hsettled]; rfl) (by rw [hsettled]; rfl)
      (by rw [hsettled]; rfl) rfl rfl rfl
  rw [hsides]
  refine h.newSub (Store.project_next _ _) fun r g hg => ?_
  obtain ⟨sub, hsub, rfl⟩ := Store.project_eq_some.mp hg
  exact hok r sub hsub

theorem right_subsurfaceMap {box : WlrBox} {registered : Bool}
    (hs : Stepped s (.subsurfaceMap p box registered) s' ms)
    (hok : InTurn s.compositor note (.subsurfaceMap p box registered)) :
    (of s' (ChildNote.remark s (.compositor (.subsurfaceMap p box registered)) note)).Right := by
  have hkeys := fun note' => hs.keys note note' (by simp) (by simp)
  obtain ⟨hchild, -, hms, hsettled⟩ := hs
  simp only [Instance.announced, Instance.sendSubsurfaceMap, except_bind_eq_ok] at hms
  obtain ⟨sub, hsub, view, hv, hms⟩ := hms
  cases hms
  obtain ⟨f, hf, heq⟩ := subs_map hchild
  obtain ⟨hself, hk⟩ := frame_of_sub note hsub hv
  have hframe : sub.childFrame = f.subsurfaceMapped box registered := by
    refine Option.some.inj (hself.symm.trans ?_)
    show s'.compositor.childFrames.subs.frames p = _
    rw [heq]
    exact ChildTable.frames_put
  have hsides : of s' (ChildNote.remark s (.compositor (.subsurfaceMap p box registered)) note)
      = (of s note).mapSub p sub.childFrame view.handle := by
    show of s' (ChildNote.ofParent _ s.compositor p _) = _
    rw [ofParent_eq hf, hframe]
    refine of_eq (by rw [heq]; rfl) (hkeys _) ?_ ?_ ?_ rfl rfl rfl
    all_goals
      rw [hsettled, ← hframe]
      rfl
  rw [hsides]
  refine h.mapSub hf (by rw [hframe]; rfl) (by rw [hframe]; rfl) ?_ hok
  rw [← hkeys note]
  have hparent : sub.childFrame.parent = f.parent := by
    rw [hframe]
    rfl
  rw [← hparent]
  exact hk

theorem right_subsurfaceUnmap (hs : Stepped s (.subsurfaceUnmap p) s' ms)
    (hok : InTurn s.compositor note (.subsurfaceUnmap p)) :
    (of s' (ChildNote.remark s (.compositor (.subsurfaceUnmap p)) note)).Right := by
  have hkeys := fun note' => hs.keys note note' (by simp) (by simp)
  obtain ⟨hchild, -, hms, hsettled⟩ := hs
  simp only [Instance.announced, Instance.sendSubsurfaceUnmap, except_bind_eq_ok] at hms
  obtain ⟨sub, hsub, view, hv, hms⟩ := hms
  cases hms
  have heq := subs_unmap hchild
  obtain ⟨hself, hk⟩ := frame_of_sub note hsub hv
  have hf : (of s note).frames p = some sub.childFrame := by
    show s.compositor.childFrames.subs.frames p = _
    rw [← heq]
    exact hself
  rw [hkeys note] at hk
  have hkey : (of s note).subs.keyOf p = some sub.handle := by
    show ((of s note).frames p).map _ = _
    rw [hf]
    rfl
  -- the object that is under the handle is that of the subsurface
  obtain ⟨e, he⟩ := h.subs.present p sub.handle hkey hok
  have he' : s.settled.subsurface sub.handle = some e := he
  obtain ⟨g, k, hg, hk', rfl⟩ := h.subs.relation hkey he
  obtain rfl : g = sub.childFrame := Option.some.inj (hg.symm.trans hf)
  obtain rfl : k = view.handle := Option.some.inj (hk'.symm.trans hk)
  have hreceived : s'.settled = s.settled.unmapSubsurface sub.handle := hsettled
  unfold DartCompositor.unmapSubsurface at hreceived
  rw [he'] at hreceived
  have hsides : of s' (ChildNote.remark s (.compositor (.subsurfaceUnmap p)) note)
      = (of s note).unmapSub p sub.childFrame view.handle := by
    show of s' (ChildNote.ofParent _ s.compositor p _) = _
    rw [ofParent_eq (show s.compositor.childFrames.subs.frames p = _ from hf)]
    refine of_eq (by rw [heq]; rfl) (hkeys _) ?_ ?_ ?_ rfl rfl rfl
    all_goals
      rw [hreceived]
      rfl
  rw [hsides]
  exact h.unmapSub hf hk

theorem right_subsurfaceCommit {box : WlrBox} (hs : Stepped s (.subsurfaceCommit p box) s' ms) :
    (of s' note).Right := by
  have hkeys := fun note' => hs.keys note note' (by simp) (by simp)
  obtain ⟨hchild, -, hms, hsettled⟩ := hs
  simp only [Instance.announced, except_bind_eq_ok] at hms
  obtain ⟨sub₀, hsub₀, hms⟩ := hms
  obtain ⟨f, hf, heq⟩ := subs_commit hchild
  obtain rfl : f = sub₀.childFrame := Option.some.inj (hf.symm.trans
    (Instance.sub_childFrame (Instance.subsurface_ok hsub₀)))
  split at hms
  next hmoved =>
    simp only [Instance.sendSubsurfacePosition, except_bind_eq_ok] at hms
    obtain ⟨sub, hsub, view, hv, hms⟩ := hms
    cases hms
    have hframe : sub.childFrame = sub₀.childFrame.inBox box := by
      refine Option.some.inj
        ((Instance.sub_childFrame (Instance.subsurface_ok hsub)).symm.trans ?_)
      rw [heq]
      exact ChildTable.frames_put
    have hhandle' : sub.handle = sub₀.childFrame.handle := congrArg ChildFrame.handle hframe
    have hbox : (⟨sub.x, sub.y, sub.width, sub.height⟩ : WlrBox) = box :=
      congrArg ChildFrame.box hframe
    have hreceived : s'.settled = s.settled.positionSubsurface sub₀.childFrame.handle box := by
      rw [← hhandle', ← hbox]
      exact hsettled
    rw [positionSubsurface_eq s note] at hreceived
    have hsides : of s' note = (of s note).moveSub p sub₀.childFrame box := by
      refine of_eq (by rw [heq]; rfl) (hkeys _) ?_ ?_ ?_ rfl rfl rfl
      all_goals
        rw [hreceived]
        rfl
    rw [hsides]
    exact h.moveSub hf
  next hunmoved =>
    cases hms
    have hbox : sub₀.childFrame.box = box := of_not_not hunmoved
    have hsides : of s' note = of s note := by
      refine of_popups hsettled (fun m hm => absurd hm List.not_mem_nil) ?_ (hkeys _) rfl rfl rfl
      rw [heq, ← hbox]
      show (s.compositor.childFrames.subs.put p sub₀.childFrame).frames = _
      rw [ChildTable.put_self hf]
    rw [hsides]
    exact h

theorem right_subsurfaceDestroy (hs : Stepped s (.subsurfaceDestroy p) s' ms)
    (hok : InTurn s.compositor note (.subsurfaceDestroy p)) : (of s' note).Right := by
  have hkeys := fun note' => hs.keys note note' (by simp) (by simp)
  obtain ⟨hchild, -, hms, hsettled⟩ := hs
  cases hms
  have hsides : of s' note = (of s note).destroySub p :=
    of_eq (by rw [subs_destroy hchild]; rfl) (hkeys _) (by rw [hsettled]; rfl)
      (by rw [hsettled]; rfl) (by rw [hsettled]; rfl) rfl rfl rfl
  rw [hsides]
  exact h.destroySub hok

include hs

/-- The messages of popups do not matter. -/
theorem right_popup (hpopup : isPopupEvent e = true) {note' : ChildNote}
    (hshown : note'.shown = note.shown) (hmapped : note'.mapped = note.mapped)
    (hchildren : note'.children = note.children) : (of s' note').Right := by
  have hkeys : (of s' note').keys = (of s note).keys :=
    hs.keys _ _ (fun _ heq => by rw [heq] at hpopup; cases hpopup)
      fun _ heq => by rw [heq] at hpopup; cases hpopup
  have hms : ∀ m ∈ ms, m.isPopup = true := fun m hm =>
    (announced_isPopup hs.messages m hm).trans hpopup
  have hsides : of s' note' = of s note := of_popups hs.settled hms
    (by rw [subs_popup hs.child hpopup]) hkeys hshown hmapped hchildren
  rw [hsides]
  exact h

theorem right_other (hnone : ms = []) (hother : e.isChild = false)
    (hnew : ∀ xdgSurface, e ≠ .newToplevel xdgSurface) (hdestroy : ∀ p, e ≠ .toplevelDestroy p) :
    (of s' note).Right := by
  rw [of_same hs.settled hnone hs.child hother (hs.keys _ _ hnew hdestroy)]
  exact h

end Events

/-- **One event of the compositor.** -/
theorem sides_step (h : (of s note).Right) (hok : InTurn s.compositor note e)
    (hfit : ∀ p ∈ mappedToplevel e, (s.texts p).fit = true)
    (hstep : s.step (.compositor e) = some s') :
    (of s' (ChildNote.remark s (.compositor e) note)).Right := by
  obtain ⟨ms, hs⟩ := stepped hstep
  cases e with
  | newToplevel xdgSurface => exact right_newToplevel h hs hok
  | toplevelMap p geo layout registered => exact right_toplevelMap h hs (hfit p rfl)
  | toplevelUnmap p => exact right_toplevelUnmap h hs
  | toplevelDestroy p => exact right_toplevelDestroy h hs hok
  | newSubsurface parentView => exact right_newSubsurface h hs hok
  | subsurfaceMap p box registered => exact right_subsurfaceMap h hs hok
  | subsurfaceUnmap p => exact right_subsurfaceUnmap h hs hok
  | subsurfaceCommit p box => exact right_subsurfaceCommit h hs
  | subsurfaceDestroy p => exact right_subsurfaceDestroy h hs hok
  | newPopup | popupMap | popupUnmap | popupCommit | popupReposition | popupDestroy =>
      exact right_popup h hs rfl rfl rfl rfl
  | newOutput | outputDestroy | outputCommitState | setVsyncOutput | toplevelCommit | setPosition
    | newSurface | surfaceDestroy | requestCursor | activateSystemCursor =>
      have hnone : ms = [] := (Except.ok.inj hs.messages).symm
      exact right_other h hs hnone rfl (by simp) (by simp)

end SubSides

/-! ## §5. Runs. -/

section Runs

/-- What Dart is to have of a subsurface: its handle, its texture, the handle of its parent, its
    box. -/
def subsurfaceOf (s : Instance) (q : Ptr) : Option Subsurface := do
  let sub ← s.subsurfaceObjects.get q
  let view ← s.viewObjects.get sub.parentView
  some ⟨sub.handle, sub.textureId, view.handle, ⟨sub.x, sub.y, sub.width, sub.height⟩⟩

variable {s : ChildLink} {note : ChildNote}

theorem describes_iff {q : Ptr} {e : Subsurface} :
    (SubSides.of s note).Describes q e ↔ subsurfaceOf s.compositor q = some e := by
  unfold subsurfaceOf
  simp only [Option.bind_eq_bind, Option.bind_eq_some_iff]
  constructor
  · rintro ⟨f, k, hf, hk, rfl⟩
    obtain ⟨sub, hsub, rfl⟩ := Store.project_eq_some.mp hf
    obtain ⟨g, hg, rfl⟩ := Option.map_eq_some_iff.mp hk
    obtain ⟨view, hv, rfl⟩ := Instance.view_of_frame hg
    exact ⟨sub, hsub, view, hv, rfl⟩
  · rintro ⟨sub, hsub, view, hv, he⟩
    exact ⟨sub.childFrame, view.handle, Instance.sub_childFrame hsub,
      SubSides.key_of_view (Instance.deref_eq_ok.mpr hv), (Option.some.inj he).symm⟩

theorem right_init : (SubSides.of .init .start).Right where
  subs := ⟨fun p q k hp => (by cases hp), fun k e he => (by cases he), fun p k hp => (by cases hp)⟩
  views := ⟨fun p q k hp => (by cases hp), fun k e he => (by cases he), fun p k hp => (by cases hp)⟩
  objects := fun k id hid => by cases hid
  children := fun p q hq => by cases hq

/-- Each toplevel that is mapped has a title and an app id that fit the message. -/
def MapsDecoded (w : Watched ChildLink ChildNote) : ChildEvent → Prop
  | .compositor e => ∀ p ∈ mappedToplevel e, (w.state.texts p).fit = true
  | .setTexts .. => True
  | .deliver => True

/-- Clients keep to the protocol, and their texts fit. -/
def DecodedTurn (w : Watched ChildLink ChildNote) (e : ChildEvent) : Prop :=
  ChildTurn w e ∧ MapsDecoded w e

instance (w : Watched ChildLink ChildNote) : (e : ChildEvent) → Decidable (MapsDecoded w e)
  | .compositor e =>
      inferInstanceAs (Decidable (∀ p ∈ mappedToplevel e, (w.state.texts p).fit = true))
  | .setTexts .. => inferInstanceAs (Decidable True)
  | .deliver => inferInstanceAs (Decidable True)

instance (w : Watched ChildLink ChildNote) (e : ChildEvent) : Decidable (DecodedTurn w e) :=
  inferInstanceAs (Decidable (_ ∧ _))

/-- Another state with the same compositor, and the same table to come. -/
theorem right_congr {s' : ChildLink} (h : (SubSides.of s note).Right)
    (hcompositor : s'.compositor = s.compositor) (hsettled : s'.settled = s.settled) :
    (SubSides.of s' note).Right := by
  have hsides : SubSides.of s' note = SubSides.of s note := by
    unfold SubSides.of
    rw [hcompositor, hsettled]
  rw [hsides]
  exact h

theorem right_step {w w' : Watched ChildLink ChildNote} {e : ChildEvent}
    (h : (SubSides.of w.state w.note).Right) (hok : DecodedTurn w e)
    (hstep : watchedChildren.step w e = some w') : (SubSides.of w'.state w'.note).Right := by
  obtain ⟨hlink, hnote⟩ := Machine.watch_step.mp hstep
  rw [hnote]
  cases e with
  | compositor e => exact SubSides.sides_step h hok.1 hok.2 hlink
  | setTexts p texts =>
      obtain ⟨hcompositor, hsettled⟩ := setTexts_facts hlink
      exact right_congr h hcompositor hsettled
  | deliver =>
      obtain ⟨hcompositor, hsettled⟩ := deliver_facts hlink
      exact right_congr h hcompositor hsettled

/-- **Subsurfaces.**  When nothing is under way, the objects in Dart's table are those of the mapped
    subsurfaces, and the list of a shown window is that of its children, in their order. -/
theorem subsurfaces_mirrored {w : Watched ChildLink ChildNote}
    (h : watchedChildren.Reach DecodedTurn w)
    (hquiet : w.state.channel.pending = []) :
    (∀ k e, w.state.channel.receiver.subsurface k = some e ↔
        ∃ q, w.note.mapped q = true ∧ subsurfaceOf w.state.compositor q = some e ∧ e.handle = k)
      ∧ ∀ p view, w.state.compositor.viewObjects.get p = some view → w.note.shown p = true →
        (∀ q ∈ w.note.children p, w.note.mapped q = true ∧
          ∃ sub, w.state.compositor.subsurfaceObjects.get q = some sub ∧ sub.parentView = p)
        ∧ ∃ ids, w.state.channel.receiver.surfaces view.handle = some ids ∧
          ids.map w.state.channel.receiver.objects.get
            = (w.note.children p).map (subsurfaceOf w.state.compositor) := by
  have hright : (SubSides.of w.state w.note).Right := h.invariant right_init fun _ _ _ => right_step
  have hsettled : w.state.channel.receiver = w.state.settled := settled_quiet hquiet
  rw [hsettled]
  refine ⟨fun k e => ⟨fun he => ?_, fun ⟨q, hq, he, hk⟩ => ?_⟩, fun p view hv hshown => ⟨?_, ?_⟩⟩
  · obtain ⟨q, -, hq, hdescribes⟩ := hright.subs.owned k e he
    exact ⟨q, hq, describes_iff.mp hdescribes, hright.key_of_entry he⟩
  · have hdescribes : (SubSides.of w.state w.note).Describes q e := describes_iff.mpr he
    obtain ⟨f, k', hf, -, rfl⟩ := hdescribes
    have hkey : (SubSides.of w.state w.note).subs.keyOf q = some f.handle := by
      show ((SubSides.of w.state w.note).frames q).map _ = _
      rw [hf]
      rfl
    obtain ⟨e', he'⟩ := hright.subs.present q f.handle hkey hq
    have hsame := describes_iff.mp (hright.subs.relation hkey he')
    rw [he] at hsame
    cases hsame
    rw [← hk]
    exact he'
  · intro q hq
    obtain ⟨hmapped, f, hf, hparent⟩ := hright.children p q hq
    obtain ⟨sub, hsub, rfl⟩ := Store.project_eq_some.mp hf
    exact ⟨hmapped, sub, hsub, hparent⟩
  · have hkey : (SubSides.of w.state w.note).keys p = some view.handle :=
      SubSides.key_of_view (Instance.deref_eq_ok.mpr hv)
    obtain ⟨ids, hids⟩ := hright.views.present p view.handle hkey hshown
    have hlists : ids.map some = (w.note.children p).map (SubSides.of w.state w.note).idOf :=
      hright.views.relation hkey hids
    refine ⟨ids, hids, ?_⟩
    have hget : ids.map w.state.settled.objects.get
        = (ids.map some).map fun id => id.bind w.state.settled.objects.get := by
      rw [List.map_map]
      rfl
    rw [hget, hlists, List.map_map]
    refine List.map_congr_left fun q hq => ?_
    -- a child is mapped, so that it has its object
    obtain ⟨hmapped, f, hf, -⟩ := hright.children p q hq
    have hkeyOf : (SubSides.of w.state w.note).subs.keyOf q = some f.handle := by
      show ((SubSides.of w.state w.note).frames q).map _ = _
      rw [hf]
      rfl
    obtain ⟨e, he⟩ := hright.subs.present q f.handle hkeyOf hmapped
    rw [describes_iff.mp (hright.subs.relation hkeyOf he)]
    show ((SubSides.of w.state w.note).idOf q).bind _ = _
    unfold SubSides.idOf
    rw [hf]
    exact he

/-- One subsurface of a window is mapped before the window and one after it: Dart has both, and one
    of them in the list of the window. -/
theorem subsurfaces_mirrored_late :
    ∃ w, watchedChildren.Reach DecodedTurn w ∧ (w.state.channel.receiver.subsurface 1).isSome
      ∧ (w.state.channel.receiver.subsurface 2).isSome
      ∧ ∃ ids, w.state.channel.receiver.surfaces 1 = some ids ∧
          ids.map w.state.channel.receiver.objects.get
            = [some ⟨2, 100002, 1, ⟨6, 5, 10, 10⟩⟩] := by
  let es : List ChildEvent :=
    [.compositor (.newToplevel 7), .setTexts 0 ⟨"Files", "org.example.files"⟩,
      .compositor (.newSubsurface 0), .compositor (.newSubsurface 0),
      .compositor (.subsurfaceMap 0 ⟨0, 0, 10, 10⟩ true),
      .compositor (.toplevelMap 0 ⟨0, 0, 100, 100⟩ (fun _ _ => none) true),
      .compositor (.subsurfaceMap 1 ⟨5, 5, 10, 10⟩ true),
      .compositor (.subsurfaceCommit 1 ⟨6, 5, 10, 10⟩), .deliver, .deliver, .deliver, .deliver]
  have hrun : (watchedChildren.execIf DecodedTurn watchedChildren.init es).map (fun w =>
      ((w.state.compositor.viewObjects.get 0).map (·.handle),
        (w.note.children 0).map (subsurfaceOf w.state.compositor),
        w.state.channel.pending.isEmpty && w.note.shown 0,
        (w.state.channel.receiver.subsurface 1).isSome,
        (w.state.channel.receiver.subsurface 2).isSome))
      = some (some 1, [some ⟨2, 100002, 1, ⟨6, 5, 10, 10⟩⟩], true, true, true) := by
    decide +kernel
  obtain ⟨w, hw, heq⟩ := Option.map_eq_some_iff.mp hrun
  have hreach := Machine.reach_execIf es .init hw
  simp only [Prod.mk.injEq] at heq
  obtain ⟨hhandle, hchildren, hquiet, hfirst, hsecond⟩ := heq
  obtain ⟨hquiet, hshown⟩ := Bool.and_eq_true_iff.mp hquiet
  obtain ⟨view, hv, hkey⟩ := Option.map_eq_some_iff.mp hhandle
  obtain ⟨-, ids, hids, hlist⟩ :=
    (subsurfaces_mirrored hreach (List.isEmpty_iff.mp hquiet)).2 0 view hv hshown
  rw [hkey] at hids
  exact ⟨w, hreach, hfirst, hsecond, ids, hids, hlist.trans hchildren⟩

end Runs

end FlutterWlroots.Desktop
