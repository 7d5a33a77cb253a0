/-
  FlutterWlroots.Lib.SlotCache — a cache for one object.

  The slot names an object of a store and the key it was made for.  `fetch` uses the object if the
  key is the same; otherwise it frees the object first and then tries to make another one, which may
  fail and leaves the slot empty.  `Coherent image` says that the slot names all objects of the
  store, and that each one is the image of its key.

    • `fetch_of_key`, `fetch_of_ne` — the two ways,
    • `Coherent.fetch`              — the cache stays coherent,
    • `Coherent.found_fetch`        — what is found.
-/
import FlutterWlroots.Lib.Store

namespace Lib

/-- The object that is held, its key, and all objects there are. -/
structure SlotCache (κ α : Type) where
  object : Option Nat
  key : Option κ
  objects : Store α

namespace SlotCache

variable {κ α : Type}

def empty : SlotCache κ α := ⟨none, none, .empty⟩

/-- The slot emptied, and its object freed. -/
def drop (s : SlotCache κ α) : SlotCache κ α where
  object := none
  key := none
  objects :=
    match s.object with
    | some p => s.objects.free p
    | none => s.objects

/-- An object put into the slot, if it could be made. -/
def put (s : SlotCache κ α) (k : κ) : Option α → SlotCache κ α
  | some x => ⟨some s.objects.next, some k, s.objects.alloc x⟩
  | none => s

variable [DecidableEq κ]

/-- The slot with an object for the key; `made` is what making one comes to. -/
def fetch (s : SlotCache κ α) (k : κ) (made : Option α) : SlotCache κ α :=
  if s.object.isSome ∧ s.key = some k then s else s.drop.put k made

/-- The object in the slot. -/
def found (s : SlotCache κ α) : Option α := s.object.bind s.objects.get

/-- The slot names all objects, and each is the image of its key. -/
structure Coherent (image : κ → α) (s : SlotCache κ α) : Prop where
  live : ∀ p, s.objects.Live p ↔ s.object = some p
  key : ∀ k, s.key = some k → s.found = some (image k)
  object : s.key = none → s.object = none

variable {image : κ → α} {s : SlotCache κ α} {k : κ} {made : Option α}

omit [DecidableEq κ] in
theorem coherent_empty (image : κ → α) : (empty : SlotCache κ α).Coherent image := by
  refine ⟨fun p => iff_of_false ?_ (Option.some_ne_none p).symm,
    fun k h => absurd h.symm (Option.some_ne_none k), fun _ => rfl⟩
  intro h
  obtain ⟨x, hx⟩ := Store.live_iff.mp h
  rw [show (empty : SlotCache κ α).objects = .empty from rfl, Store.get_empty] at hx
  cases hx

omit [DecidableEq κ] in
theorem Coherent.isSome_of_key (h : s.Coherent image) (hkey : s.key = some k) :
    s.object.isSome = true := by
  have hfound := h.key k hkey
  cases hobject : s.object with
  | none =>
      rw [found, hobject] at hfound
      cases hfound
  | some p => rfl

/-- The key is the one of the slot. -/
theorem Coherent.fetch_of_key (h : s.Coherent image) (hkey : s.key = some k) :
    s.fetch k made = s := if_pos ⟨h.isSome_of_key hkey, hkey⟩

/-- The key is another one. -/
theorem fetch_of_ne (hkey : s.key ≠ some k) : s.fetch k made = s.drop.put k made :=
  if_neg fun hsame => hkey hsame.2

omit [DecidableEq κ] in
theorem Coherent.drop (h : s.Coherent image) : s.drop.Coherent image := by
  refine ⟨fun p => iff_of_false ?_ (Option.some_ne_none p).symm,
    fun k h => absurd h.symm (Option.some_ne_none k), fun _ => rfl⟩
  unfold SlotCache.drop
  cases hobject : s.object with
  | none =>
      intro hlive
      rw [(h.live p).mp hlive] at hobject
      cases hobject
  | some q =>
      intro hlive
      obtain ⟨hne, hlive⟩ := Store.live_free.mp hlive
      rw [(h.live p).mp hlive] at hobject
      exact hne (Option.some.inj hobject)

omit [DecidableEq κ] in
theorem Coherent.put (h : s.Coherent image) (hnone : s.object = none)
    (hmade : ∀ x ∈ made, x = image k) : (s.put k made).Coherent image := by
  cases made with
  | none => exact h
  | some x =>
      obtain rfl : x = image k := hmade x rfl
      refine ⟨fun p => ?_, fun k' hkey => ?_, fun h => absurd h (Option.some_ne_none k)⟩
      · show (s.objects.alloc (image k)).Live p ↔ some s.objects.next = some p
        rw [Store.live_alloc, h.live, hnone, Option.some.injEq]
        constructor
        · rintro (rfl | hno)
          · rfl
          · cases hno
        · intro heq
          exact .inl heq.symm
      · cases hkey
        exact Store.get_alloc_next _ _

/-- **A fetch keeps the cache coherent.** -/
theorem Coherent.fetch (h : s.Coherent image) (hmade : ∀ x ∈ made, x = image k) :
    (s.fetch k made).Coherent image := by
  by_cases hkey : s.key = some k
  · rw [h.fetch_of_key hkey]
    exact h
  · rw [fetch_of_ne hkey]
    exact h.drop.put rfl hmade

/-- **What is found**: the image of the key, if it was there or could be made. -/
theorem Coherent.found_fetch (h : s.Coherent image) :
    (s.fetch k made).found = if s.key = some k then some (image k) else made := by
  by_cases hkey : s.key = some k
  · rw [h.fetch_of_key hkey, if_pos hkey, h.key k hkey]
  · rw [fetch_of_ne hkey, if_neg hkey]
    cases made with
    | none => rfl
    | some x => exact Store.get_alloc_next _ _

end SlotCache

end Lib
