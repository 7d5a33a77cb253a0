/-
  FlutterWlroots.Compositor.TextureTables — handles and texture ids, apart from the objects.

  Of a view, a subsurface or a popup only the handle, the texture id and the registration matter
  to external textures; a `Table` has these for all objects of one kind, with the handle map that
  leads to them.

    • `Table.ofStore` — the table of a store, with a rule for each change of the store,
    • `Indexed.create`, `Indexed.put`, `Indexed.destroy` — the handle map leads to every object
      under its own handle, as long as new handles are not in use.
-/
import FlutterWlroots.Compositor.Handles

namespace FlutterWlroots.Compositor

open Lib

/-! ## §1. Tables. -/

/-- The part of an object that external textures depend on. -/
structure TextureRecord where
  handle : UInt32
  textureId : Int
  registered : Bool

/-- The objects of one kind and their handle map. -/
structure Table where
  next : Ptr
  records : Ptr → Option TextureRecord
  handles : HandleMap Ptr

namespace Table

variable {t : Table} {p q : Ptr} {r r' : TextureRecord} {α : Type} {objects : Store α}
  {record : α → TextureRecord} {handles : HandleMap Ptr} {x y : α}

/-- A new object, under the handle that `handle_map_add` returns. -/
def create (t : Table) : Table where
  next := t.next + 1
  records := Function.update t.records t.next (some ⟨t.handles.next, 0, false⟩)
  handles := (t.handles.add t.next).2

/-- An object that is there, changed. -/
def put (t : Table) (p : Ptr) (r : TextureRecord) : Table :=
  { t with records := Function.update t.records p (some r) }

/-- An object freed and taken out of the handle map. -/
def destroy (t : Table) (p : Ptr) (handle : UInt32) : Table :=
  { t with
    records := Function.update t.records p none
    handles := (t.handles.remove handle).2 }

/-- The table of a store. -/
def ofStore (objects : Store α) (record : α → TextureRecord) (handles : HandleMap Ptr) : Table where
  next := objects.next
  records := fun p => (objects.get p).map record
  handles := handles

theorem records_ofStore (hx : objects.get p = some x) :
    (ofStore objects record handles).records p = some (record x) := by
  show (objects.get p).map record = _
  rw [hx, Option.map_some]

/-- A record belongs to an object of the store. -/
theorem records_ok (hr : (ofStore objects record handles).records p = some r) :
    ∃ x, objects.get p = some x ∧ record x = r := Option.map_eq_some_iff.mp hr

theorem ofStore_alloc (hrecord : record x = ⟨handles.next, 0, false⟩) :
    ofStore (objects.alloc x) record (handles.add objects.next).2
      = (ofStore objects record handles).create := by
  unfold ofStore create
  congr 1
  funext p
  rw [Store.get_alloc_eq]
  by_cases hp : p = objects.next
  · rw [hp, Function.update_self, Function.update_self, Option.map_some, hrecord]
  · rw [Function.update_of_ne hp, Function.update_of_ne hp]

theorem ofStore_set (hx : objects.get p = some x) (y : α) :
    ofStore (objects.set p y) record handles = (ofStore objects record handles).put p (record y) := by
  unfold ofStore put
  congr 1
  · exact Store.next_set objects p y
  · funext q
    rw [Store.get_set_eq (Store.live_of_get hx)]
    by_cases hq : q = p
    · rw [hq, Function.update_self, Function.update_self, Option.map_some]
    · rw [Function.update_of_ne hq, Function.update_of_ne hq]

theorem put_self (hr : t.records p = some r) : t.put p r = t := by
  unfold put
  rw [← hr, Function.update_eq_self]

@[simp] theorem put_put (t : Table) (p : Ptr) (r r' : TextureRecord) :
    (t.put p r).put p r' = t.put p r' := by
  unfold put
  rw [Function.update_idem]

/-- An object of which the record does not change. -/
theorem ofStore_set_same (hx : objects.get p = some x) (hrecord : record y = record x) :
    ofStore (objects.set p y) record handles = ofStore objects record handles := by
  rw [ofStore_set hx, hrecord, put_self (records_ofStore hx)]

theorem ofStore_free (objects : Store α) (record : α → TextureRecord) (handles : HandleMap Ptr)
    (p : Ptr) (handle : UInt32) :
    ofStore (objects.free p) record (handles.remove handle).2
      = (ofStore objects record handles).destroy p handle := by
  unfold ofStore destroy
  congr 1
  funext q
  rw [Store.get_free_eq]
  by_cases hq : q = p
  · rw [hq, Function.update_self, Function.update_self, Option.map_none]
  · rw [Function.update_of_ne hq, Function.update_of_ne hq]

theorem ofStore_modifyAll {f : α → α} {ps : List Ptr} {objects' : Store α}
    (hf : ∀ x, record (f x) = record x) (h : objects.modifyAll f ps = some objects') :
    ofStore objects' record handles = ofStore objects record handles := by
  obtain ⟨hnext, hget⟩ := Store.modifyAll_map hf h
  unfold ofStore
  congr 1
  exact funext hget

/-! ## §2. The handle map leads to the objects. -/

/-- The handle map has exactly the objects that are there, each under its handle. -/
structure Indexed (t : Table) : Prop where
  get_iff : ∀ handle p, t.handles.get handle = some p ↔
    ∃ r, t.records p = some r ∧ r.handle = handle
  fresh : ∀ p, t.next ≤ p → t.records p = none

theorem Indexed.get (h : t.Indexed) (hr : t.records p = some r) :
    t.handles.get r.handle = some p :=
  (h.get_iff r.handle p).mpr ⟨r, hr, rfl⟩

/-- **Two objects have different handles.** -/
theorem Indexed.injective (h : t.Indexed) (hr : t.records p = some r)
    (hr' : t.records q = some r') (heq : r.handle = r'.handle) : p = q := by
  have hp := h.get hr
  rw [heq, h.get hr'] at hp
  exact (Option.some.inj hp).symm

theorem indexed_new : Indexed ⟨0, fun _ => none, .new⟩ where
  get_iff := fun handle p => by
    rw [HandleMap.get_new]
    exact ⟨nofun, fun ⟨_, hr, _⟩ => nomatch hr⟩
  fresh := fun _ _ => rfl

@[simp] theorem records_create_self (t : Table) :
    t.create.records t.next = some ⟨t.handles.next, 0, false⟩ := Function.update_self ..

@[simp] theorem records_put_self (t : Table) (p : Ptr) (r : TextureRecord) :
    (t.put p r).records p = some r := Function.update_self ..

@[simp] theorem records_destroy_self (t : Table) (p : Ptr) (handle : UInt32) :
    (t.destroy p handle).records p = none := Function.update_self ..

theorem records_create_of_ne (hp : p ≠ t.next) : t.create.records p = t.records p :=
  Function.update_of_ne hp _ _

theorem records_put_of_ne (hp : p ≠ q) : (t.put q r).records p = t.records p :=
  Function.update_of_ne hp _ _

theorem records_destroy_of_ne {handle : UInt32} (hp : p ≠ q) :
    (t.destroy q handle).records p = t.records p := Function.update_of_ne hp _ _

theorem Indexed.ne_next (h : t.Indexed) (hr : t.records p = some r) : p ≠ t.next := fun heq => by
  rw [h.fresh p heq.ge] at hr
  cases hr

/-- A new object, if its handle is not in use. -/
theorem Indexed.create (h : t.Indexed) (hunused : t.handles.next ∉ t.handles.map) :
    t.create.Indexed where
  get_iff := fun handle p => by
    show (t.handles.add t.next).2.get handle = some p ↔ _
    rw [HandleMap.get_add_eq hunused]
    by_cases hhandle : handle = t.handles.next
    · subst hhandle
      rw [Function.update_self]
      constructor
      · intro heq
        cases heq
        exact ⟨_, records_create_self t, rfl⟩
      · rintro ⟨r, hr, heq⟩
        by_cases hp : p = t.next
        · rw [hp]
        -- an older object does not have a handle that is not in use
        · rw [records_create_of_ne hp] at hr
          have hget := h.get hr
          rw [heq, HandleMap.get_eq_none_iff.mpr hunused] at hget
          cases hget
    · rw [Function.update_of_ne hhandle, h.get_iff]
      by_cases hp : p = t.next
      · subst hp
        rw [h.fresh t.next (Nat.le_refl _), records_create_self]
        constructor
        · rintro ⟨r, hr, -⟩
          cases hr
        · rintro ⟨r, hr, heq⟩
          cases hr
          exact absurd heq.symm hhandle
      · rw [records_create_of_ne hp]
  fresh := fun p hp => by
    have hlt : t.next < p := hp
    rw [records_create_of_ne (Nat.ne_of_gt hlt), h.fresh p hlt.le]

theorem Indexed.put (h : t.Indexed) (hr : t.records p = some r) (hhandle : r'.handle = r.handle) :
    (t.put p r').Indexed where
  get_iff := fun handle q => by
    show t.handles.get handle = some q ↔ _
    rw [h.get_iff]
    by_cases hq : q = p
    · subst hq
      rw [records_put_self, hr]
      constructor
      · rintro ⟨_, ⟨⟩, heq⟩
        exact ⟨r', rfl, hhandle.trans heq⟩
      · rintro ⟨_, ⟨⟩, heq⟩
        exact ⟨r, rfl, hhandle.symm.trans heq⟩
    · rw [records_put_of_ne hq]
  fresh := fun q hq => by
    have hfresh : t.records q = none := h.fresh q hq
    have hne : q ≠ p := fun heq => by
      rw [heq, hr] at hfresh
      cases hfresh
    rw [records_put_of_ne hne, hfresh]

theorem Indexed.destroy (h : t.Indexed) (hr : t.records p = some r) :
    (t.destroy p r.handle).Indexed where
  get_iff := fun handle q => by
    have hmem : r.handle ∈ t.handles.map := by
      by_contra hmem
      have hget := h.get hr
      rw [HandleMap.get_eq_none_iff.mpr hmem] at hget
      cases hget
    show (t.handles.remove r.handle).2.get handle = some q ↔ _
    rw [HandleMap.remove_of_mem hmem]
    dsimp only
    rw [HandleMap.get_erase_eq]
    by_cases hq : q = p
    · subst hq
      rw [records_destroy_self]
      constructor
      -- the handle map led to the object under its own handle only
      · intro hget
        by_cases hhandle : handle = r.handle
        · rw [hhandle, Function.update_self] at hget
          cases hget
        · rw [Function.update_of_ne hhandle, h.get_iff, hr] at hget
          obtain ⟨_, ⟨⟩, heq⟩ := hget
          exact absurd heq.symm hhandle
      · rintro ⟨_, hnone, -⟩
        cases hnone
    · rw [records_destroy_of_ne hq, ← h.get_iff]
      by_cases hhandle : handle = r.handle
      · rw [hhandle, Function.update_self]
        constructor
        · exact nofun
        · intro hget
          rw [h.get hr] at hget
          exact absurd (Option.some.inj hget).symm hq
      · rw [Function.update_of_ne hhandle]
  fresh := fun q hq => by
    by_cases hp : q = p
    · rw [hp, records_destroy_self]
    · rw [records_destroy_of_ne hp]
      exact h.fresh q hq

end Table

end FlutterWlroots.Compositor
