/-
  FlutterWlroots.Renderer.DmabufTexture — what the imported texture shows.

  The loops of `get_or_create_egl_image` only drop entries with their images (`Dropped`), so that
  before a new image is created the current one is either in its slot as before or gone.

    • `Wf`             — every entry has its own image; kept by every call,
    • `Shows`          — the texture shows the buffer of the call and the current image is cached,
    • `Sound`          — what a call needs,
    • `reach_shows`    — the texture is right as long as every call has it, and wrong as soon as
                         one call has not.
-/
import FlutterWlroots.Renderer.DmabufImport

namespace FlutterWlroots.Renderer

open Lib

namespace EglState

variable {s s' s'' : EglState} {i j : Fin 4} {D D' : Fin 4 → Prop} {handle buffer : Nat}
  {width height : Int}

/-! ## §1. Dropped entries. -/

theorem lookup_erase (images : AList fun _ : Nat => EglImage) (key handle : Nat) :
    (images.erase handle).lookup key = if key = handle then none else images.lookup key := by
  split
  next h =>
    subst h
    exact AList.lookup_erase key images
  next h => exact AList.lookup_erase_ne h

/-- The entries in `D` are gone with their images, the others are as they were. -/
structure Dropped (D : Fin 4 → Prop) (s s' : EglState) : Prop where
  kept : ∀ i, ¬ D i → s'.entry i = s.entry i
  dropped : ∀ i, D i → (s'.entry i).eglImage = 0
  gone : ∀ i, D i → (s.entry i).eglImage ≠ 0 → s'.live.lookup (s.entry i).eglImage = none
  live : ∀ handle, handle ≠ 0 → (∀ i, D i → (s.entry i).eglImage ≠ handle) →
    s'.live.lookup handle = s.live.lookup handle
  sub : ∀ handle image, s'.live.lookup handle = some image → s.live.lookup handle = some image
  frame : ∃ live eglCache, s' = { s with live, cache := { s.cache with eglCache } }

theorem Dropped.refl (s : EglState) : Dropped (fun _ => False) s s :=
  ⟨fun _ _ => rfl, nofun, nofun, fun _ _ _ => rfl, fun _ _ => id, _, _, rfl⟩

theorem Dropped.congr (h : Dropped D s s') (heq : ∀ i, D i ↔ D' i) : Dropped D' s s' := by
  obtain rfl : D = D' := funext fun i => propext (heq i)
  exact h

theorem Dropped.trans (h : Dropped D s s') (h' : Dropped D' s' s'') :
    Dropped (fun i => D i ∨ D' i) s s'' := by
  obtain ⟨live, eglCache, hframe⟩ := h.frame
  obtain ⟨live', eglCache', hframe'⟩ := h'.frame
  refine ⟨fun i hi => ?_, fun i hi => ?_, fun i hi hne => ?_, fun handle hne hi => ?_,
    fun handle image himage => h.sub handle image (h'.sub handle image himage),
    live', eglCache', ?_⟩
  · obtain ⟨hD, hD'⟩ := not_or.mp hi
    exact (h'.kept i hD').trans (h.kept i hD)
  · by_cases hD' : D' i
    · exact h'.dropped i hD'
    · rw [h'.kept i hD']
      exact h.dropped i (hi.resolve_right hD')
  · by_cases hD : D i
    · have hgone := h.gone i hD hne
      by_cases hex : ∃ j, D' j ∧ (s'.entry j).eglImage = (s.entry i).eglImage
      · obtain ⟨j, hj, heq⟩ := hex
        rw [← heq]
        exact h'.gone j hj (heq ▸ hne)
      · rw [h'.live _ hne fun j hj heq => hex ⟨j, hj, heq⟩]
        exact hgone
    · have hkept := h.kept i hD
      rw [← hkept] at hne ⊢
      exact h'.gone i (hi.resolve_left hD) hne
  · rw [h'.live handle hne fun i hD' heq => ?_, h.live handle hne fun i hD => hi i (.inl hD)]
    by_cases hD : D i
    · exact hne (heq.symm.trans (h.dropped i hD))
    · exact hi i (.inr hD') ((congrArg _ (h.kept i hD)).symm.trans heq)
  · rw [hframe', hframe]

/-- The current image forgotten, as after a change of size. -/
def reset (s : EglState) : EglState :=
  { s with cache := { s.cache with currentEglImage := 0, texParamsSet := false } }

theorem Dropped.reset (h : Dropped D s s') : Dropped D s.reset s'.reset := by
  obtain ⟨hkept, hdropped, hgone, hlive, hsub, _, _, rfl⟩ := h
  exact ⟨hkept, hdropped, hgone, hlive, hsub, _, _, rfl⟩

theorem Dropped.advance (h : Dropped D s s') : Dropped D s.advance s'.advance := by
  obtain ⟨hkept, hdropped, hgone, hlive, hsub, _, _, rfl⟩ := h
  exact ⟨hkept, hdropped, hgone, hlive, hsub, _, _, rfl⟩

/-! The rest of the state. -/

theorem Dropped.cache (h : Dropped D s s') :
    ∃ eglCache, s'.cache = { s.cache with eglCache } := by
  obtain ⟨_, eglCache, rfl⟩ := h.frame
  exact ⟨eglCache, rfl⟩

theorem Dropped.current (h : Dropped D s s') :
    s'.cache.currentEglImage = s.cache.currentEglImage := by
  obtain ⟨_, _, rfl⟩ := h.frame
  rfl

theorem Dropped.eglCacheNext (h : Dropped D s s') :
    s'.cache.eglCacheNext = s.cache.eglCacheNext := by
  obtain ⟨_, _, rfl⟩ := h.frame
  rfl

theorem Dropped.bound (h : Dropped D s s') : s'.bound = s.bound := by
  obtain ⟨_, _, rfl⟩ := h.frame
  rfl

theorem Dropped.created (h : Dropped D s s') : s'.created = s.created := by
  obtain ⟨_, _, rfl⟩ := h.frame
  rfl

theorem Dropped.tex (h : Dropped D s s') : s'.cache.tex = s.cache.tex := by
  obtain ⟨_, _, rfl⟩ := h.frame
  rfl

/-! ## §2. The loops. -/

theorem dropped_setEntry (s : EglState) (i : Fin 4) {entry : EglImageCacheEntry}
    (hentry : entry.eglImage = 0) :
    Dropped (· = i) s ((s.eglDestroyImage (s.entry i).eglImage).setEntry i entry) := by
  refine ⟨fun j hj => Function.update_of_ne hj .., ?_, ?_, fun handle _ hi => ?_,
    fun handle image himage => ?_, _, _, rfl⟩
  · rintro j rfl
    show (Function.update s.cache.eglCache j _ j).eglImage = 0
    rw [Function.update_self]
    exact hentry
  · rintro j rfl -
    exact AList.lookup_erase ..
  · exact AList.lookup_erase_ne (Ne.symm (hi i rfl))
  · have himage' : (s.live.erase (s.entry i).eglImage).lookup handle = some image := himage
    rw [lookup_erase] at himage'
    split at himage'
    · cases himage'
    · exact himage'

/-- An entry without an image may count as dropped. -/
theorem dropped_empty (h : (s.entry i).eglImage = 0) : Dropped (· = i) s s := by
  refine ⟨fun _ _ => rfl, ?_, ?_, fun _ _ _ => rfl, fun _ _ => id, _, _, rfl⟩
  · rintro j rfl
    exact h
  · rintro j rfl hne
    exact absurd h hne

theorem dropped_invalidate (s : EglState) (i : Fin 4) : Dropped (· = i) s (s.invalidate i) :=
  dropped_setEntry s i rfl

/-- The entry at which the first loop stops. -/
def hit (s : EglState) (buffer : Nat) (width height : Int) (is : List (Fin 4)) : Option (Fin 4) :=
  is.find? fun i => s.Caches buffer i ∧ s.HasSize width height i

theorem hit_cons_self (is : List (Fin 4)) (h : s.Caches buffer i)
    (hsize : s.HasSize width height i) : s.hit buffer width height (i :: is) = some i :=
  List.find?_cons_of_pos (decide_eq_true ⟨h, hsize⟩)

theorem hit_cons_of_not (is : List (Fin 4))
    (h : ¬ (s.Caches buffer i ∧ s.HasSize width height i)) :
    s.hit buffer width height (i :: is) = s.hit buffer width height is :=
  List.find?_cons_of_neg (by simpa using h)

theorem hit_spec {is : List (Fin 4)} (h : s.hit buffer width height is = some i) :
    s.Caches buffer i ∧ s.HasSize width height i := by
  simpa using
    List.find?_some (p := fun i => decide (s.Caches buffer i ∧ s.HasSize width height i)) h

theorem not_caches_invalidate (s : EglState) (i : Fin 4) : ¬ (s.invalidate i).Caches buffer i :=
  fun h => h.2 ((dropped_invalidate s i).dropped i rfl)

theorem entry_invalidate (h : j ≠ i) : (s.invalidate i).entry j = s.entry j :=
  (dropped_invalidate s i).kept j h

theorem caches_invalidate (h : (s.invalidate i).Caches buffer j) : j ≠ i ∧ s.Caches buffer j := by
  have hne : j ≠ i := fun heq => not_caches_invalidate s i (heq ▸ h)
  unfold Caches at h
  rw [entry_invalidate hne] at h
  exact ⟨hne, h⟩

theorem hit_invalidate {is : List (Fin 4)} (h : ¬ s.HasSize width height i) :
    (s.invalidate i).hit buffer width height is = s.hit buffer width height is := by
  refine congrArg (is.find? ·) (funext fun j => decide_eq_decide.mpr ?_)
  by_cases hj : j = i
  · subst hj
    exact ⟨fun hfit => absurd hfit.1 (not_caches_invalidate s j), fun hfit => absurd hfit.2 h⟩
  · unfold Caches HasSize
    rw [entry_invalidate hj]

/-- **The first loop.**  It finds the first image that fits; what it drops has another size. -/
theorem lookup_spec (buffer : Nat) (width height : Int) (is : List (Fin 4)) :
    ∀ s : EglState, ∃ D s',
      lookup buffer width height is s
        = ((s.hit buffer width height is).map fun i => (s.entry i).eglImage, s') ∧
      Dropped D s s' ∧ (∀ i, D i → s.Caches buffer i ∧ ¬ s.HasSize width height i) ∧
      (s.hit buffer width height is = none → ∀ i ∈ is, s.Caches buffer i → D i) := by
  induction is with
  | nil => exact fun s => ⟨_, s, rfl, .refl s, nofun, nofun⟩
  | cons i is ih =>
      intro s
      by_cases hcaches : s.Caches buffer i
      · by_cases hsize : s.HasSize width height i
        · have hhit := hit_cons_self is hcaches hsize
          refine ⟨_, s, ?_, .refl s, nofun, fun hnone => ?_⟩
          · rw [lookup, if_pos hcaches, if_pos hsize, hhit]
            rfl
          · rw [hhit] at hnone
            cases hnone
        -- an image of another size: the loop goes on without it
        · obtain ⟨D, s', hlookup, hdropped, hD, hall⟩ := ih (s.invalidate i)
          have hhit := hit_cons_of_not is fun h : s.Caches buffer i ∧ _ => hsize h.2
          rw [hit_invalidate hsize] at hlookup hall
          refine ⟨_, s', ?_, (dropped_invalidate s i).trans hdropped, ?_, fun hnone j hj hj' => ?_⟩
          · rw [lookup, if_pos hcaches, if_neg hsize, hlookup, hhit]
            cases hfound : s.hit buffer width height is with
            | none => rfl
            | some j =>
                have hne : j ≠ i := fun heq => hsize (heq ▸ (hit_spec hfound).2)
                rw [Option.map_some, Option.map_some, entry_invalidate hne]
          · rintro j (rfl | hj)
            · exact ⟨hcaches, hsize⟩
            · obtain ⟨hj, hj'⟩ := hD j hj
              obtain ⟨hne, hj⟩ := caches_invalidate hj
              unfold HasSize at hj'
              rw [entry_invalidate hne] at hj'
              exact ⟨hj, hj'⟩
          · by_cases hne : j = i
            · exact .inl hne
            · refine .inr (hall (hhit ▸ hnone) j ((List.mem_cons.mp hj).resolve_left hne) ?_)
              unfold Caches
              rwa [entry_invalidate hne]
      · obtain ⟨D, s', hlookup, hdropped, hD, hall⟩ := ih s
        have hhit := hit_cons_of_not is fun h : _ ∧ s.HasSize width height i => hcaches h.1
        refine ⟨D, s', ?_, hdropped, hD, fun hnone j hj hj' => ?_⟩
        · rw [lookup, if_neg hcaches, hlookup, hhit]
        · refine hall (hhit ▸ hnone) j ((List.mem_cons.mp hj).resolve_left ?_) hj'
          rintro rfl
          exact hcaches hj'

/-- **The second loop.** -/
theorem clear_spec (is : List (Fin 4)) : ∀ s : EglState, Dropped (· ∈ is) s (clear is s) := by
  induction is with
  | nil => exact fun s => (Dropped.refl s).congr fun i => (List.mem_nil_iff i).symm
  | cons i is ih =>
      intro s
      rw [clear]
      split
      next h =>
        exact ((dropped_invalidate s i).trans (ih (s.invalidate i))).congr fun j =>
          List.mem_cons.symm
      next h =>
        exact ((dropped_empty (not_not.mp h)).trans (ih s)).congr fun j => List.mem_cons.symm

theorem mem_slots (i : Fin 4) : i ∈ slots := by
  revert i
  decide

/-- The slot in turn. -/
theorem evict_spec (s : EglState) : Dropped (· = s.cache.eglCacheNext) s.advance s.evict := by
  show Dropped _ _ (if (s.advance.entry s.cache.eglCacheNext).eglImage ≠ 0 then _ else s.advance)
  split
  next h => exact dropped_setEntry s.advance _ rfl
  next h => exact dropped_empty (not_not.mp h)

theorem resize_of_resized (h : s.Resized width height) :
    s.resize width height = (clear slots s).reset := if_pos h

theorem resize_of_not (h : ¬ s.Resized width height) : s.resize width height = s := if_neg h

/-- What is left when no image fits: after a change of size nothing, otherwise all but the images
    of the buffer and the one in the slot in turn. -/
theorem miss_spec (hhit : s.hit buffer width height slots = none) :
    ∃ D, Dropped D
        (if s.Resized width height then s.reset else s).advance
        ((lookup buffer width height slots s).2.resize width height).evict ∧
      (lookup buffer width height slots s).1 = none ∧
      ((lookup buffer width height slots s).2.resize width height).cache.eglCacheNext
        = s.cache.eglCacheNext ∧
      D s.cache.eglCacheNext ∧
      (¬ s.Resized width height → ∀ i, D i ↔ s.Caches buffer i ∨ i = s.cache.eglCacheNext) := by
  obtain ⟨D, s1, hlookup, hdropped, hD, hall⟩ := lookup_spec buffer width height slots s
  have hresized : s1.Resized width height ↔ s.Resized width height := by
    obtain ⟨_, _, rfl⟩ := hdropped.frame
    rfl
  rw [hlookup, hhit]
  by_cases h : s.Resized width height
  · have hclear : Dropped (fun i => D i ∨ i ∈ slots) s.reset (s1.resize width height) := by
      rw [resize_of_resized (hresized.mpr h)]
      exact (hdropped.trans (clear_spec slots s1)).reset
    rw [if_pos h]
    have hnext := hclear.eglCacheNext
    refine ⟨_, hclear.advance.trans (evict_spec _), rfl, hnext, .inr hnext.symm, fun hn => ?_⟩
    exact absurd h hn
  · have hresize : s1.resize width height = s1 := resize_of_not (mt hresized.mp h)
    rw [if_neg h, hresize]
    have hnext := hdropped.eglCacheNext
    refine ⟨_, hdropped.advance.trans (evict_spec s1), rfl, hnext, .inr hnext.symm, fun _ i => ?_⟩
    rw [hnext]
    exact or_congr_left ⟨fun hi => (hD i hi).1, hall hhit i (mem_slots i)⟩

/-! ## §3. The invariant. -/

/-- Every entry has its own image, every image its own identity. -/
structure Wf (s : EglState) : Prop where
  null : s.live.lookup 0 = none
  entry_live : ∀ i, (s.entry i).eglImage ≠ 0 → (s.entry i).eglImage ∈ s.live
  entry_unique : ∀ i j, (s.entry i).eglImage ≠ 0 → (s.entry i).eglImage = (s.entry j).eglImage →
    i = j
  id_lt : ∀ handle image, s.live.lookup handle = some image → image.id < s.created
  id_unique : ∀ handle handle' image image', s.live.lookup handle = some image →
    s.live.lookup handle' = some image' → image.id = image'.id → handle = handle'
  bound_lt : ∀ image ∈ s.bound, image.id < s.created
  tex : s.cache.tex = 0 → s.cache.currentEglImage = 0

/-- The current image is cached, and the texture is bound to it. -/
def Held (s : EglState) : Prop :=
  ∃ i, (s.entry i).eglImage = s.cache.currentEglImage ∧
    s.bound = s.live.lookup s.cache.currentEglImage

theorem Wf.lookup_ne_none (h : s.Wf) (hi : (s.entry i).eglImage ≠ 0) :
    s.live.lookup (s.entry i).eglImage ≠ none :=
  mt AList.lookup_eq_none.mp (not_not.mpr (h.entry_live i hi))

/-- The image of an entry that is kept. -/
theorem Wf.live_of_kept (h : s.Wf) (hd : Dropped D s s') (hi : ¬ D i)
    (hne : (s.entry i).eglImage ≠ 0) :
    s'.live.lookup (s.entry i).eglImage = s.live.lookup (s.entry i).eglImage :=
  hd.live _ hne fun j hj heq => hi (h.entry_unique i j hne heq.symm ▸ hj)

theorem Wf.dropped (h : s.Wf) (hd : Dropped D s s') : s'.Wf := by
  have hkept : ∀ i, (s'.entry i).eglImage ≠ 0 → ¬ D i := fun i hne hi => hne (hd.dropped i hi)
  refine ⟨?_, fun i hne => ?_, fun i j hne heq => ?_, fun handle image himage => ?_,
    fun handle handle' image image' himage himage' => ?_, ?_, ?_⟩
  · refine Option.eq_none_iff_forall_ne_some.mpr fun image himage => ?_
    exact Option.some_ne_none image ((hd.sub 0 image himage).symm.trans h.null)
  · have heq := hd.kept i (hkept i hne)
    rw [heq] at hne ⊢
    refine AList.lookup_isSome.mp (Option.isSome_iff_ne_none.mpr ?_)
    rw [h.live_of_kept hd (hkept i (by rwa [heq])) hne]
    exact h.lookup_ne_none hne
  · have hi := hd.kept i (hkept i hne)
    have hj := hd.kept j (hkept j (heq ▸ hne))
    rw [hi] at hne
    rw [hi, hj] at heq
    exact h.entry_unique i j hne heq
  · rw [hd.created]
    exact h.id_lt handle image (hd.sub handle image himage)
  · exact h.id_unique handle handle' image image' (hd.sub _ _ himage) (hd.sub _ _ himage')
  · rw [hd.bound, hd.created]
    exact h.bound_lt
  · rw [hd.tex, hd.current]
    exact h.tex

theorem Wf.reset (h : s.Wf) : s.reset.Wf :=
  ⟨h.null, h.entry_live, h.entry_unique, h.id_lt, h.id_unique, h.bound_lt, fun _ => rfl⟩

theorem Wf.advance (h : s.Wf) : s.advance.Wf :=
  ⟨h.null, h.entry_live, h.entry_unique, h.id_lt, h.id_unique, h.bound_lt, h.tex⟩

/-- The current image is in the cache with the texture bound to it, or there is none. -/
def Settled (s : EglState) : Prop := s.cache.currentEglImage = 0 ∨ s.Held

/-- The image of a kept entry stays the current one. -/
theorem Settled.dropped (h : s.Settled) (hwf : s.Wf) (hd : Dropped D s s')
    (hkept : ∀ i, (s.entry i).eglImage = s.cache.currentEglImage → s.cache.currentEglImage ≠ 0 →
      ¬ D i) : s'.Settled := by
  unfold Settled Held
  rw [hd.current, hd.bound]
  by_cases hzero : s.cache.currentEglImage = 0
  · exact .inl hzero
  · obtain ⟨i, hi, hbound⟩ := h.resolve_left hzero
    have hD := hkept i hi hzero
    refine .inr ⟨i, (congrArg _ (hd.kept i hD)).trans hi, hbound.trans ?_⟩
    rw [← hi]
    exact (hwf.live_of_kept hd hD (hi ▸ hzero)).symm

/-- The image of a dropped entry is gone. -/
theorem Wf.current_gone (hwf : s.Wf) (hd : Dropped D s s') (hi : D i)
    (hcurrent : (s.entry i).eglImage = s.cache.currentEglImage)
    (hzero : s.cache.currentEglImage ≠ 0) :
    s'.live.lookup s'.cache.currentEglImage = none ∧
      ∀ j, (s'.entry j).eglImage ≠ s'.cache.currentEglImage := by
  rw [hd.current, ← hcurrent]
  refine ⟨hd.gone i hi (hcurrent ▸ hzero), fun j heq => ?_⟩
  have hne : (s'.entry j).eglImage ≠ 0 := heq ▸ hcurrent ▸ hzero
  have hj : ¬ D j := fun hj => hne (hd.dropped j hj)
  rw [hd.kept j hj] at heq hne
  exact hj (hwf.entry_unique j i hne heq ▸ hi)

/-! A new image. -/

/-- An image created for an empty slot. -/
def fill (s : EglState) (slot : Fin 4) (source : Nat) (entry : EglImageCacheEntry) : EglState :=
  (s.eglCreateImage source entry.eglImage).setEntry slot entry

section Fill

variable {slot : Fin 4} {source : Nat} {entry : EglImageCacheEntry}

theorem entry_fill_self : (s.fill slot source entry).entry slot = entry :=
  Function.update_self ..

theorem entry_fill_ne (h : i ≠ slot) : (s.fill slot source entry).entry i = s.entry i :=
  Function.update_of_ne h ..

theorem lookup_fill_self :
    (s.fill slot source entry).live.lookup entry.eglImage = some ⟨s.created, source⟩ :=
  AList.lookup_insert _

theorem lookup_fill_ne (h : handle ≠ entry.eglImage) :
    (s.fill slot source entry).live.lookup handle = s.live.lookup handle :=
  AList.lookup_insert_ne h

theorem lookup_fill {image : EglImage}
    (h : (s.fill slot source entry).live.lookup handle = some image) :
    handle = entry.eglImage ∧ image = ⟨s.created, source⟩ ∨ s.live.lookup handle = some image := by
  by_cases hhandle : handle = entry.eglImage
  · subst hhandle
    rw [lookup_fill_self] at h
    exact .inl ⟨rfl, (Option.some.inj h).symm⟩
  · rw [lookup_fill_ne hhandle] at h
    exact .inr h

theorem Wf.fill (h : s.Wf) (hnew : entry.eglImage ∉ s.live) (hzero : entry.eglImage ≠ 0) :
    (s.fill slot source entry).Wf := by
  -- no other entry has the new handle
  have hother : ∀ i, i ≠ slot → ((s.fill slot source entry).entry i).eglImage ≠ entry.eglImage := by
    intro i hi heq
    rw [entry_fill_ne hi] at heq
    exact hnew (heq ▸ h.entry_live i (heq ▸ hzero))
  refine ⟨?_, fun i hne => ?_, fun i j hne heq => ?_, fun handle image himage => ?_,
    fun handle handle' image image' himage himage' heq => ?_, fun image himage => ?_, h.tex⟩
  · rw [lookup_fill_ne hzero.symm]
    exact h.null
  · refine (AList.mem_insert _).mpr ?_
    by_cases hi : i = slot
    · subst hi
      rw [entry_fill_self]
      exact .inl rfl
    · rw [entry_fill_ne hi] at hne ⊢
      exact .inr (h.entry_live i hne)
  · by_cases hi : i = slot <;> by_cases hj : j = slot
    · exact hi.trans hj.symm
    · rw [hi, entry_fill_self] at heq
      exact absurd heq.symm (hother j hj)
    · rw [hj, entry_fill_self] at heq
      exact absurd heq (hother i hi)
    · rw [entry_fill_ne hi] at hne heq
      rw [entry_fill_ne hj] at heq
      exact h.entry_unique i j hne heq
  · rcases lookup_fill himage with ⟨-, rfl⟩ | himage
    · exact Nat.lt_succ_self _
    · exact Nat.lt_succ_of_lt (h.id_lt handle image himage)
  · rcases lookup_fill himage with ⟨rfl, rfl⟩ | himage <;>
      rcases lookup_fill himage' with ⟨rfl, rfl⟩ | himage'
    · rfl
    · exact absurd heq.symm (Nat.ne_of_lt (h.id_lt _ _ himage'))
    · exact absurd heq (Nat.ne_of_lt (h.id_lt _ _ himage))
    · exact h.id_unique handle handle' image image' himage himage' heq
  · exact Nat.lt_succ_of_lt (h.bound_lt image himage)

theorem Settled.fill (h : s.Settled) (hwf : s.Wf) (hslot : (s.entry slot).eglImage = 0)
    (hnew : entry.eglImage ∉ s.live) : (s.fill slot source entry).Settled := by
  by_cases hzero : s.cache.currentEglImage = 0
  · exact .inl hzero
  · obtain ⟨i, hi, hbound⟩ := h.resolve_left hzero
    have hne : i ≠ slot := fun heq => hzero (hi.symm.trans (heq ▸ hslot))
    refine .inr ⟨i, ?_, hbound.trans (lookup_fill_ne fun heq => hnew ?_).symm⟩
    · rw [entry_fill_ne hne]
      exact hi
    · rw [← heq, ← hi]
      exact hwf.entry_live i (hi ▸ hzero)

end Fill

/-! The image shown. -/

/-- Binding to the image of an entry. -/
theorem Wf.bind (h : s.Wf) (htex : s.cache.tex ≠ 0) (hi : (s.entry i).eglImage = handle)
    (hcurrent : s.cache.currentEglImage = handle → s.bound = s.live.lookup handle) :
    (s.bind handle).Wf ∧ (s.bind handle).Held ∧ (s.bind handle).bound = s.live.lookup handle := by
  by_cases heq : s.cache.currentEglImage = handle
  · have hbind : s.bind handle = { s with cache := { s.cache with isExternal := true } } :=
      if_neg (not_not.mpr heq)
    rw [hbind]
    refine ⟨⟨h.null, h.entry_live, h.entry_unique, h.id_lt, h.id_unique, h.bound_lt, h.tex⟩,
      ⟨i, hi.trans heq.symm, ?_⟩, hcurrent heq⟩
    show s.bound = s.live.lookup s.cache.currentEglImage
    rw [heq]
    exact hcurrent heq
  · have hbind : s.bind handle = { s with
        bound := s.live.lookup handle
        cache := { s.cache with
          isExternal := true, texParamsSet := true, currentEglImage := handle } } := if_pos heq
    rw [hbind]
    refine ⟨⟨h.null, h.entry_live, h.entry_unique, h.id_lt, h.id_unique, fun image himage => ?_,
      fun hzero => absurd hzero htex⟩, ⟨i, hi, rfl⟩, rfl⟩
    exact h.id_lt handle image himage

/-- What `showImage` leaves, with the image of an entry to show. -/
structure Shown (s : EglState) (c : Import) (handle : Nat) (r : Bool × EglState) : Prop where
  wf : r.2.Wf
  settled : r.2.Settled
  live : r.2.live = s.live
  result : r.1 = true ↔ s.cache.tex ≠ 0 ∨ c.tex ≠ 0
  bound : r.1 = true → r.2.bound = s.live.lookup handle
  lastSeq : r.1 = true → r.2.cache.lastSeq = c.currentSeq
  tex : r.1 = false → r.2.cache.tex = 0

theorem Wf.showImage (c : Import) (attribs : DmabufAttributes) (h : s.Wf) (hhandle : handle ≠ 0)
    (hi : (s.entry i).eglImage = handle)
    (hcurrent : s.cache.currentEglImage = handle → s.bound = s.live.lookup handle) :
    s.Shown c handle (s.showImage c attribs handle) := by
  let s1 := if s.cache.tex = 0 then { s with cache := { s.cache with tex := c.tex } } else s
  have hs1 : ∃ tex, s1 = { s with cache := { s.cache with tex } } ∧
      (tex = 0 → s.cache.currentEglImage = 0) ∧ (tex ≠ 0 ↔ s.cache.tex ≠ 0 ∨ c.tex ≠ 0) := by
    by_cases hzero : s.cache.tex = 0
    · refine ⟨c.tex, if_pos hzero, fun _ => h.tex hzero, ?_⟩
      exact (or_iff_right (not_not.mpr hzero)).symm
    · exact ⟨s.cache.tex, if_neg hzero, h.tex, (or_iff_left_of_imp fun _ => hzero).symm⟩
  obtain ⟨tex, hs1, hnull, htex⟩ := hs1
  have hwf : s1.Wf := by
    rw [hs1]
    exact ⟨h.null, h.entry_live, h.entry_unique, h.id_lt, h.id_unique, h.bound_lt, hnull⟩
  have hshow : s.showImage c attribs handle
      = if s1.cache.tex = 0 then (false, s1)
        else (true,
          { s1.bind handle with
            cache :=
              { (s1.bind handle).cache with
                width := attribs.width, height := attribs.height, lastSeq := c.currentSeq } }) :=
    if_neg hhandle
  have htex1 : s1.cache.tex = tex := congrArg (·.cache.tex) hs1
  rw [hshow]
  split
  next hzero =>
    refine ⟨hwf, .inl (hwf.tex hzero), congrArg (·.live) hs1, ?_, nofun, nofun, fun _ => hzero⟩
    exact ⟨nofun, fun hor => absurd (htex1.symm.trans hzero) (htex.mpr hor)⟩
  next hne =>
    have hi1 : (s1.entry i).eglImage = handle := by
      rw [hs1]
      exact hi
    have hcurrent1 : s1.cache.currentEglImage = handle → s1.bound = s1.live.lookup handle := by
      rw [hs1]
      exact hcurrent
    obtain ⟨hbind, hheld, hbound⟩ := hwf.bind hne hi1 hcurrent1
    have hlive : (s1.bind handle).live = s.live := by
      unfold EglState.bind
      dsimp only
      split <;> rw [hs1]
    refine ⟨⟨hbind.null, hbind.entry_live, hbind.entry_unique, hbind.id_lt, hbind.id_unique,
      hbind.bound_lt, hbind.tex⟩, .inr hheld, hlive, ?_, fun _ => ?_, fun _ => rfl, nofun⟩
    · exact ⟨fun _ => htex.mp (htex1 ▸ hne), fun _ => rfl⟩
    · show (s1.bind handle).bound = _
      rw [hbound, hs1]

/-- The handle is the one bound last: the texture is not bound again. -/
theorem showImage_skip (c : Import) (attribs : DmabufAttributes) (hhandle : handle ≠ 0)
    (htex : s.cache.tex ≠ 0) (hcurrent : s.cache.currentEglImage = handle) :
    (s.showImage c attribs handle).1 = true ∧ (s.showImage c attribs handle).2.bound = s.bound ∧
      (s.showImage c attribs handle).2.live = s.live := by
  have hbind : s.bind handle = { s with cache := { s.cache with isExternal := true } } :=
    if_neg (not_not.mpr hcurrent)
  have hshow : s.showImage c attribs handle = (true,
      { s.bind handle with
        cache :=
          { (s.bind handle).cache with
            width := attribs.width, height := attribs.height, lastSeq := c.currentSeq } }) := by
    unfold showImage
    rw [if_neg hhandle, if_neg htex]
    exact if_neg htex
  rw [hshow, hbind]
  exact ⟨rfl, rfl, rfl⟩

/-! ## §4. What a call needs. -/

/-- The call comes to `get_or_create_egl_image`, and the number of planes is possible. -/
def Asks (s : EglState) (c : Import) (attribs : DmabufAttributes) : Prop :=
  c.hasDmabufImport = true ∧ s.cache.destroyed = false ∧ 0 < attribs.nPlanes ∧
    attribs.nPlanes ≤ dmabufMaxPlanes

/-- If an image fits, it is one of this very buffer and not of an earlier one at its address. -/
def Genuine (s : EglState) (c : Import) (source buffer : Nat) (attribs : DmabufAttributes) : Prop :=
  ∀ i ∈ s.hit buffer attribs.width attribs.height slots, (s.cache.tex ≠ 0 ∨ c.tex ≠ 0) →
    ∀ image ∈ s.live.lookup (s.entry i).eglImage, image.source = source

/-- If none fits and the call destroys the current image without forgetting it, EGL creates an
    image with another handle. -/
def Replaced (s : EglState) (c : Import) (buffer : Nat) (attribs : DmabufAttributes) : Prop :=
  s.hit buffer attribs.width attribs.height slots = none →
    ¬ s.Resized attribs.width attribs.height → s.cache.currentEglImage ≠ 0 →
    (∃ i, (s.entry i).eglImage = s.cache.currentEglImage ∧
      (s.Caches buffer i ∨ i = s.cache.eglCacheNext)) →
    c.image ≠ 0 ∧ c.image ≠ s.cache.currentEglImage

/-- What a step needs. -/
def Sound (s : EglState) : Event → Prop
  | .importDmabuf c =>
      ∀ source ∈ c.source, ∀ buffer ∈ s.buffers.get source, ∀ attribs ∈ c.attribs,
        s.Asks c attribs →
        s.Genuine c source buffer.address attribs ∧ s.Replaced c buffer.address attribs
  | _ => True

/-- **The texture shows the buffer of the call.** -/
structure Shows (s : EglState) : Prop where
  texture : ∀ source ∈ s.imported, ∃ handle image, s.bound = some image ∧
    s.live.lookup handle = some image ∧ image.source = source
  current : s.cache.currentEglImage = 0 ∨
    s.cache.currentEglImage ∈ s.live ∧ ∃ i, (s.entry i).eglImage = s.cache.currentEglImage

/-- What holds between two calls. -/
structure Inv (s : EglState) : Prop where
  wf : s.Wf
  settled : s.Settled
  seq : s.cache.tex ≠ 0 → ∃ seq ∈ s.committed, s.cache.lastSeq ≤ seq

theorem Wf.current_live (h : s.Wf) (hs : s.Settled) :
    s.cache.currentEglImage = 0 ∨
      s.cache.currentEglImage ∈ s.live ∧ ∃ i, (s.entry i).eglImage = s.cache.currentEglImage := by
  by_cases hzero : s.cache.currentEglImage = 0
  · exact .inl hzero
  · obtain ⟨i, hi, -⟩ := hs.resolve_left hzero
    exact .inr ⟨hi ▸ h.entry_live i (hi ▸ hzero), i, hi⟩

theorem importSurfaceDmabuf_cases {c : Import} {r : Bool × EglState}
    (hnew : ∀ attribs, ¬ s.Unchanged attribs c.currentSeq) (h : s.importSurfaceDmabuf c = some r) :
    (r = (false, s) ∧ ∀ source ∈ c.source, ∀ buffer ∈ s.buffers.get source, ∀ attribs ∈ c.attribs,
      ¬ s.Asks c attribs) ∨
    ∃ source buffer attribs eglImage t, c.source = some source ∧
      s.buffers.get source = some buffer ∧ c.attribs = some attribs ∧ s.Asks c attribs ∧
      s.getOrCreateEglImage source buffer.address attribs c.image = some (eglImage, t) ∧
      r = t.showImage c attribs eglImage := by
  unfold importSurfaceDmabuf at h
  split at h
  next hdmabuf =>
    cases h
    exact .inl ⟨rfl, fun _ _ _ _ _ _ hasks => hdmabuf hasks.1⟩
  next hdmabuf =>
    split at h
    next hdestroyed =>
      cases h
      refine .inl ⟨rfl, fun _ _ _ _ _ _ hasks => ?_⟩
      exact Bool.false_ne_true (hasks.2.1.symm.trans hdestroyed)
    next hdestroyed =>
      split at h
      next hsource =>
        cases h
        exact .inl ⟨rfl, fun _ hmem => absurd hmem (by simp [hsource])⟩
      next source hsource =>
        split at h
        next => cases h
        next hattribs =>
          cases h
          refine .inl ⟨rfl, fun _ _ _ _ _ hmem => ?_⟩
          rw [hattribs] at hmem
          cases hmem
        next buffer attribs hbuffer hattribs =>
          rw [if_neg (hnew attribs)] at h
          by_cases hplanes : 0 < attribs.nPlanes ∧ attribs.nPlanes ≤ dmabufMaxPlanes
          · split at h
            next => cases h
            next eglImage t hget =>
              cases h
              refine .inr ⟨source, buffer, attribs, eglImage, t, hsource, hbuffer, hattribs,
                ⟨not_not.mp hdmabuf, ?_, hplanes.1, hplanes.2⟩, hget, rfl⟩
              exact Bool.eq_false_iff.mpr hdestroyed
          -- an impossible number of planes
          · have hget : s.getOrCreateEglImage source buffer.address attribs c.image
                = some (0, s) := by
              refine if_pos ?_
              by_contra hnot
              obtain ⟨hpos, hle⟩ := not_or.mp hnot
              exact hplanes ⟨Int.not_le.mp hpos, Int.not_lt.mp hle⟩
            rw [hget] at h
            cases h
            refine .inl ⟨rfl, fun _ _ _ _ attribs' hattribs' hasks => ?_⟩
            rw [hattribs] at hattribs'
            cases hattribs'
            exact hplanes hasks.2.2

/-- What `get_or_create_egl_image` returns and what it leaves. -/
theorem getOrCreateEglImage_cases {source answer eglImage : Nat} {attribs : DmabufAttributes}
    {c : Import} {t : EglState} (hasks : s.Asks c attribs)
    (h : s.getOrCreateEglImage source buffer attribs answer = some (eglImage, t)) :
    (∃ D i, s.hit buffer attribs.width attribs.height slots = some i ∧ Dropped D s t ∧ ¬ D i ∧
      eglImage = (s.entry i).eglImage) ∨
    ∃ D t0, s.hit buffer attribs.width attribs.height slots = none ∧
      Dropped D (if s.Resized attribs.width attribs.height then s.reset else s).advance t0 ∧
      D s.cache.eglCacheNext ∧
      (¬ s.Resized attribs.width attribs.height →
        ∀ i, D i ↔ s.Caches buffer i ∨ i = s.cache.eglCacheNext) ∧
      (answer = 0 ∧ eglImage = 0 ∧ t = t0 ∨
        answer ≠ 0 ∧ answer ∉ t0.live ∧ eglImage = answer ∧
          t = t0.fill s.cache.eglCacheNext source
            ⟨buffer, answer, attribs.width, attribs.height⟩) := by
  unfold getOrCreateEglImage at h
  rw [if_neg fun hor => hor.elim (Int.not_le.mpr hasks.2.2.1) (Int.not_lt.mpr hasks.2.2.2)] at h
  cases hhit : s.hit buffer attribs.width attribs.height slots with
  | some i =>
      obtain ⟨D, s', hlookup, hdropped, hD, -⟩ :=
        lookup_spec buffer attribs.width attribs.height slots s
      rw [hlookup, hhit] at h
      cases h
      exact .inl ⟨D, i, rfl, hdropped, fun hi => (hD i hi).2 (hit_spec hhit).2, rfl⟩
  | none =>
      obtain ⟨D, hdropped, hnone, hnext, hslot, hD⟩ := miss_spec hhit
      refine .inr ⟨D, _, rfl, hdropped, hslot, hD, ?_⟩
      generalize hs1 : lookup buffer attribs.width attribs.height slots s = s1 at *
      obtain ⟨_, s1⟩ := s1
      cases hnone
      dsimp only at h hnext ⊢
      split at h
      next hzero =>
        cases h
        exact .inl ⟨hzero, rfl, rfl⟩
      next hzero =>
        split at h
        next => cases h
        next hlive =>
          cases h
          refine .inr ⟨hzero, hlive, rfl, ?_⟩
          rw [hnext]
          rfl

/-! ## §5. One call. -/

theorem Inv.unchanged {c : Import} (h : s.Inv) (hlater : s.Later c.currentSeq)
    (attribs : DmabufAttributes) : ¬ s.Unchanged attribs c.currentSeq := by
  rintro ⟨htex, hseq, -⟩
  obtain ⟨seq, hmem, hle⟩ := h.seq htex
  exact absurd (hseq ▸ hle) (UInt32.not_le.mpr (hlater seq hmem))

/-- After a call without an image the current image is still there. -/
theorem shows_record_false {c : Import} (hwf : s.Wf) (hs : s.Settled) :
    (record c (false, s)).Shows :=
  ⟨nofun, hwf.current_live hs⟩

theorem inv_record_false {c : Import} (hwf : s.Wf) (hs : s.Settled)
    (hseq : s.cache.tex ≠ 0 → s.cache.lastSeq ≤ c.currentSeq) : (record c (false, s)).Inv :=
  ⟨⟨hwf.null, hwf.entry_live, hwf.entry_unique, hwf.id_lt, hwf.id_unique, hwf.bound_lt, hwf.tex⟩,
    hs, fun htex => ⟨c.currentSeq, rfl, hseq htex⟩⟩

section Shown

variable {c : Import} {source : Nat} {image : EglImage} {r : Bool × EglState}

theorem Shown.inv_record (h : s.Shown c handle r) : (record c r).Inv := by
  refine ⟨⟨h.wf.null, h.wf.entry_live, h.wf.entry_unique, h.wf.id_lt, h.wf.id_unique,
    h.wf.bound_lt, h.wf.tex⟩, h.settled, fun htex => ⟨c.currentSeq, rfl, ?_⟩⟩
  show r.2.cache.lastSeq ≤ c.currentSeq
  cases hr : r.1 with
  | false => exact absurd (h.tex hr) htex
  | true =>
      rw [h.lastSeq hr]
      exact UInt32.le_refl _

/-- With the image of an entry shown, it matters which buffer the image is of. -/
theorem Shown.shows_iff (h : s.Shown c handle r) (hsource : c.source = some source)
    (himage : s.live.lookup handle = some image) :
    (record c r).Shows ↔ (s.cache.tex ≠ 0 ∨ c.tex ≠ 0 → image.source = source) := by
  constructor
  · intro hshows htex
    have hr := h.result.mpr htex
    obtain ⟨handle', image', hbound, -, hsource'⟩ := hshows.texture source (by
      show (if r.1 = true then c.source else none) = some source
      rw [if_pos hr, hsource])
    have hbound' : r.2.bound = some image' := hbound
    rw [h.bound hr, himage] at hbound'
    cases hbound'
    exact hsource'
  · intro himage'
    refine ⟨fun source' hmem => ?_, h.wf.current_live h.settled⟩
    have hmem' : (if r.1 = true then c.source else none) = some source' := hmem
    split at hmem'
    next hr =>
      cases hsource.symm.trans hmem'
      refine ⟨handle, image, (h.bound hr).trans himage, ?_, himage' (h.result.mp hr)⟩
      show r.2.live.lookup handle = some image
      rw [h.live]
      exact himage
    next => cases hmem'

end Shown

/-- An image of the cache is shown. -/
theorem Inv.shows_hit {c : Import} {source : Nat} {attribs : DmabufAttributes} {t : EglState}
    (h : s.Inv) (hsource : c.source = some source)
    (hhit : s.hit buffer attribs.width attribs.height slots = some i) (hd : Dropped D s t)
    (hi : ¬ D i) :
    (record c (t.showImage c attribs (s.entry i).eglImage)).Inv ∧
      ((record c (t.showImage c attribs (s.entry i).eglImage)).Shows ↔
        s.Genuine c source buffer attribs) := by
  have hne := (hit_spec hhit).1.2
  have hlookup := h.wf.live_of_kept hd hi hne
  obtain ⟨image, himage⟩ := Option.ne_none_iff_exists'.mp (h.wf.lookup_ne_none hne)
  have hshown : t.Shown c (s.entry i).eglImage (t.showImage c attribs (s.entry i).eglImage) := by
    refine (h.wf.dropped hd).showImage c attribs hne (congrArg _ (hd.kept i hi)) fun hcurrent => ?_
    rw [hd.current] at hcurrent
    obtain ⟨-, -, hbound⟩ := h.settled.resolve_left (hcurrent ▸ hne)
    rw [hd.bound, hbound, hcurrent, hlookup]
  refine ⟨hshown.inv_record, (hshown.shows_iff hsource (hlookup.trans himage)).trans ?_⟩
  rw [hd.tex]
  constructor
  · intro hgenuine j hj htex image' himage'
    rw [hhit] at hj
    cases hj
    cases himage.symm.trans himage'
    exact hgenuine htex
  · exact fun hgenuine htex => hgenuine i hhit htex image himage

/-- The state that a new image starts from. -/
theorem Inv.base {attribs : DmabufAttributes} (h : s.Inv) :
    (if s.Resized attribs.width attribs.height then s.reset else s).advance.Wf := by
  split
  · exact h.wf.reset.advance
  · exact h.wf.advance

section Miss

variable {c : Import} {source : Nat} {attribs : DmabufAttributes} {t0 : EglState}

/-- The call destroys the current image without forgetting it. -/
def Lost (s : EglState) (D : Fin 4 → Prop) (attribs : DmabufAttributes) : Prop :=
  ¬ s.Resized attribs.width attribs.height ∧ s.cache.currentEglImage ≠ 0 ∧
    ∃ i, (s.entry i).eglImage = s.cache.currentEglImage ∧ D i

theorem replaced_of_not_lost (h : ¬ s.Lost D attribs)
    (hD : ¬ s.Resized attribs.width attribs.height →
      ∀ i, D i ↔ s.Caches buffer i ∨ i = s.cache.eglCacheNext) :
    s.Replaced c buffer attribs := by
  rintro - hresized hzero ⟨i, hi, hor⟩
  exact absurd ⟨hresized, hzero, i, hi, (hD hresized i).mpr hor⟩ h

theorem Lost.replaced_iff (h : s.Lost D attribs)
    (hhit : s.hit buffer attribs.width attribs.height slots = none)
    (hD : ¬ s.Resized attribs.width attribs.height →
      ∀ i, D i ↔ s.Caches buffer i ∨ i = s.cache.eglCacheNext) :
    s.Replaced c buffer attribs ↔ c.image ≠ 0 ∧ c.image ≠ s.cache.currentEglImage := by
  obtain ⟨hresized, hzero, i, hi, hDi⟩ := h
  exact ⟨fun hrep => hrep hhit hresized hzero ⟨i, hi, (hD hresized i).mp hDi⟩,
    fun hans _ _ _ _ => hans⟩

theorem Inv.settled_of_not_lost (h : s.Inv) (hlost : ¬ s.Lost D attribs)
    (hd : Dropped D (if s.Resized attribs.width attribs.height then s.reset else s).advance t0) :
    t0.Settled := by
  by_cases hresized : s.Resized attribs.width attribs.height
  · rw [if_pos hresized] at hd
    exact .inl hd.current
  · rw [if_neg hresized] at hd
    refine Settled.dropped (s := s.advance) h.settled h.wf.advance hd fun i hi hzero hDi => ?_
    exact hlost ⟨hresized, hzero, i, hi, hDi⟩

/-- The current image lost: nothing has its handle any more, but the texture is bound to it. -/
theorem Inv.lost (h : s.Inv) (hlost : s.Lost D attribs)
    (hd : Dropped D (if s.Resized attribs.width attribs.height then s.reset else s).advance t0) :
    t0.cache.currentEglImage = s.cache.currentEglImage ∧ t0.cache.tex ≠ 0 ∧
      t0.live.lookup s.cache.currentEglImage = none ∧
      (∀ j, (t0.entry j).eglImage ≠ s.cache.currentEglImage) ∧
      ∃ image, t0.bound = some image ∧ s.live.lookup s.cache.currentEglImage = some image := by
  obtain ⟨hresized, hzero, i, hi, hDi⟩ := hlost
  rw [if_neg hresized] at hd
  obtain ⟨hnone, hentry⟩ := h.wf.advance.current_gone hd hDi hi hzero
  have hcurrent : t0.cache.currentEglImage = s.cache.currentEglImage := hd.current
  rw [hcurrent] at hnone hentry
  have hlive := h.wf.lookup_ne_none (hi ▸ hzero)
  rw [hi] at hlive
  obtain ⟨image, himage⟩ := Option.ne_none_iff_exists'.mp hlive
  obtain ⟨-, -, hbound⟩ := h.settled.resolve_left hzero
  refine ⟨hcurrent, ?_, hnone, hentry, image, ?_, himage⟩
  · rw [hd.tex]
    exact fun htex => hzero (h.wf.tex htex)
  · rw [hd.bound]
    exact hbound.trans himage

/-- No image of the cache fits, and EGL does not create one. -/
theorem Inv.shows_failed (h : s.Inv) (hlater : s.Later c.currentSeq)
    (hhit : s.hit buffer attribs.width attribs.height slots = none)
    (hd : Dropped D (if s.Resized attribs.width attribs.height then s.reset else s).advance t0)
    (hD : ¬ s.Resized attribs.width attribs.height →
      ∀ i, D i ↔ s.Caches buffer i ∨ i = s.cache.eglCacheNext)
    (himage : c.image = 0) :
    (s.Replaced c buffer attribs → (record c (false, t0)).Inv) ∧
      ((record c (false, t0)).Shows ↔ s.Replaced c buffer attribs) := by
  by_cases hlost : s.Lost D attribs
  · obtain ⟨hcurrent, -, -, hentry, -⟩ := h.lost hlost hd
    have hnot : ¬ s.Replaced c buffer attribs := fun hrep =>
      ((hlost.replaced_iff hhit hD).mp hrep).1 himage
    refine ⟨fun hrep => absurd hrep hnot, fun hshows => ?_, fun hrep => absurd hrep hnot⟩
    -- the handle that is left over is not in the cache
    rcases hshows.current with hzero | ⟨-, j, hj⟩
    · exact absurd (hcurrent.symm.trans hzero) hlost.2.1
    · exact absurd (hj.trans hcurrent) (hentry j)
  · have hs := h.settled_of_not_lost hlost hd
    have hwf : t0.Wf := h.base.dropped hd
    refine ⟨fun _ => inv_record_false hwf hs fun htex => ?_, fun _ => replaced_of_not_lost hlost hD,
      fun _ => shows_record_false hwf hs⟩
    have hseq : t0.cache.lastSeq = s.cache.lastSeq ∧ t0.cache.tex = s.cache.tex := by
      obtain ⟨_, _, rfl⟩ := hd.frame
      split <;> exact ⟨rfl, rfl⟩
    obtain ⟨seq, hmem, hle⟩ := h.seq (hseq.2 ▸ htex)
    rw [hseq.1]
    exact UInt32.le_trans hle (UInt32.le_of_lt (hlater seq hmem))

/-- No image of the cache fits, and EGL creates one. -/
theorem Inv.shows_created (h : s.Inv) (hsource : c.source = some source)
    (hhit : s.hit buffer attribs.width attribs.height slots = none)
    (hd : Dropped D (if s.Resized attribs.width attribs.height then s.reset else s).advance t0)
    (hslot : D s.cache.eglCacheNext)
    (hD : ¬ s.Resized attribs.width attribs.height →
      ∀ i, D i ↔ s.Caches buffer i ∨ i = s.cache.eglCacheNext)
    (himage : c.image ≠ 0) (hnew : c.image ∉ t0.live) :
    (s.Replaced c buffer attribs → (record c ((t0.fill s.cache.eglCacheNext source
        ⟨buffer, c.image, attribs.width, attribs.height⟩).showImage c attribs c.image)).Inv) ∧
      ((record c ((t0.fill s.cache.eglCacheNext source
        ⟨buffer, c.image, attribs.width, attribs.height⟩).showImage c attribs c.image)).Shows ↔
        s.Replaced c buffer attribs) := by
  have hwf0 : t0.Wf := h.base.dropped hd
  generalize hentry : (⟨buffer, c.image, attribs.width, attribs.height⟩ : EglImageCacheEntry)
    = entry
  have hhandle : entry.eglImage = c.image := by rw [← hentry]
  rw [← hhandle] at himage hnew ⊢
  have hwf : (t0.fill s.cache.eglCacheNext source entry).Wf := hwf0.fill hnew himage
  -- the new image is shown if its handle is not that of a lost image
  have hgood : (t0.cache.currentEglImage = entry.eglImage →
      (t0.fill s.cache.eglCacheNext source entry).bound
        = (t0.fill s.cache.eglCacheNext source entry).live.lookup entry.eglImage) →
      (record c ((t0.fill s.cache.eglCacheNext source entry).showImage c attribs
          entry.eglImage)).Inv ∧
        (record c ((t0.fill s.cache.eglCacheNext source entry).showImage c attribs
          entry.eglImage)).Shows := by
    intro hcurrent
    have hshown := hwf.showImage c attribs himage
      (congrArg EglImageCacheEntry.eglImage entry_fill_self) hcurrent
    exact ⟨hshown.inv_record, (hshown.shows_iff hsource lookup_fill_self).mpr fun _ => rfl⟩
  by_cases hlost : s.Lost D attribs
  · obtain ⟨hcurrent, htex, hnone, -, image, hbound, hold⟩ := h.lost hlost hd
    rw [hlost.replaced_iff hhit hD, ← hhandle]
    by_cases hreused : entry.eglImage = s.cache.currentEglImage
    · refine ⟨fun hrep => absurd hreused hrep.2, fun hshows => ?_,
        fun hrep => absurd hreused hrep.2⟩
      obtain ⟨hresult, hbound', hlive⟩ := showImage_skip c attribs
        (s := t0.fill s.cache.eglCacheNext source entry) himage htex (hcurrent.trans hreused.symm)
      have himported : source ∈ (record c ((t0.fill s.cache.eglCacheNext source entry).showImage c
          attribs entry.eglImage)).imported := by
        unfold record
        rw [hresult, hsource]
        rfl
      obtain ⟨handle, image', hshown, hget, -⟩ := hshows.texture source himported
      -- the texture is bound to the lost image, which no handle leads to
      replace hshown : _ = some image' := hbound'.symm.trans hshown
      replace hget : _ = some image' := (congrArg (AList.lookup handle) hlive).symm.trans hget
      cases hbound.symm.trans hshown
      rcases lookup_fill hget with ⟨-, rfl⟩ | hget
      · have hid := hwf0.bound_lt _ hbound
        exact absurd hid (Nat.lt_irrefl _)
      · have hold' : s.live.lookup handle = some image := by
          have hsub := hd.sub handle image hget
          split at hsub <;> exact hsub
        rw [h.wf.id_unique _ _ _ _ hold' hold rfl, hnone] at hget
        cases hget
    · have hgood := hgood fun heq => absurd (heq.symm.trans hcurrent) hreused
      exact ⟨fun _ => hgood.1, fun _ => ⟨himage, hreused⟩, fun _ => hgood.2⟩
  · have hs : (t0.fill s.cache.eglCacheNext source entry).Settled :=
      (h.settled_of_not_lost hlost hd).fill hwf0 (hd.dropped _ hslot) hnew
    have hgood := hgood fun heq => by
      obtain ⟨-, -, hbound⟩ := hs.resolve_left fun hzero => himage (heq.symm.trans hzero)
      rw [← heq]
      exact hbound
    exact ⟨fun _ => hgood.1, fun _ => replaced_of_not_lost hlost hD, fun _ => hgood.2⟩

end Miss

/-! ## §6. Runs. -/

/-- **One call**: the texture is right after it if and only if the call is sound. -/
theorem Inv.import_iff {c : Import} {r : Bool × EglState} (h : s.Inv)
    (hlater : s.Later c.currentSeq) (hr : s.importSurfaceDmabuf c = some r) :
    (s.Sound (.importDmabuf c) → (record c r).Inv) ∧
      ((record c r).Shows ↔ s.Sound (.importDmabuf c)) := by
  rcases importSurfaceDmabuf_cases (h.unchanged hlater) hr with ⟨rfl, hnot⟩ |
    ⟨source, buffer, attribs, eglImage, t, hsource, hbuffer, hattribs, hasks, hget, rfl⟩
  · have hsound : s.Sound (.importDmabuf c) := fun source hs buffer hb attribs ha hasks =>
      absurd hasks (hnot source hs buffer hb attribs ha)
    refine ⟨fun _ => inv_record_false h.wf h.settled fun htex => ?_, fun _ => hsound,
      fun _ => shows_record_false h.wf h.settled⟩
    obtain ⟨seq, hmem, hle⟩ := h.seq htex
    exact UInt32.le_trans hle (UInt32.le_of_lt (hlater seq hmem))
  · have hsound : s.Sound (.importDmabuf c) ↔
        s.Genuine c source buffer.address attribs ∧ s.Replaced c buffer.address attribs := by
      refine ⟨fun hall => hall source hsource buffer hbuffer attribs hattribs hasks, ?_⟩
      intro hboth source' hs buffer' hb attribs' ha _
      cases hsource.symm.trans hs
      cases hbuffer.symm.trans hb
      cases hattribs.symm.trans ha
      exact hboth
    rw [hsound]
    rcases getOrCreateEglImage_cases hasks hget with ⟨D, i, hhit, hd, hi, rfl⟩ |
      ⟨D, t0, hhit, hd, hslot, hD, hcreate⟩
    · have hreplaced : s.Replaced c buffer.address attribs := fun hnone =>
        absurd (hhit.symm.trans hnone) nofun
      obtain ⟨hinv, hshows⟩ := h.shows_hit hsource hhit hd hi
      exact ⟨fun _ => hinv, hshows.trans (and_iff_left hreplaced).symm⟩
    · have hgenuine : s.Genuine c source buffer.address attribs := fun i hi =>
        absurd (hhit.symm.trans hi) nofun
      rw [and_iff_right hgenuine]
      rcases hcreate with ⟨hzero, rfl, rfl⟩ | ⟨hne, hnew, rfl, rfl⟩
      · exact h.shows_failed hlater hhit hd hD hzero
      · exact h.shows_created hsource hhit hd hslot hD hne hnew

theorem inv_init : init.Inv where
  wf :=
    { null := AList.lookup_empty 0
      entry_live := fun _ hne => absurd rfl hne
      entry_unique := fun _ _ hne => absurd rfl hne
      id_lt := fun handle _ himage => nomatch (AList.lookup_empty handle).symm.trans himage
      id_unique := fun handle _ _ _ himage => nomatch (AList.lookup_empty handle).symm.trans himage
      bound_lt := nofun
      tex := fun _ => rfl }
  settled := .inl rfl
  seq := fun htex => absurd rfl htex

theorem shows_init : init.Shows := ⟨nofun, .inl rfl⟩

/-- A step of the client or of the renderer. -/
theorem Inv.step_iff {e : Event} (h : s.Inv) (hshows : s.Shows) (hstep : s.step e = some s') :
    (s.Sound e → s'.Inv) ∧ (s'.Shows ↔ s.Sound e) := by
  cases e with
  | newBuffer address =>
      rw [step] at hstep
      split at hstep
      next =>
        cases hstep
        exact ⟨fun _ => ⟨⟨h.wf.null, h.wf.entry_live, h.wf.entry_unique, h.wf.id_lt,
          h.wf.id_unique, h.wf.bound_lt, h.wf.tex⟩, h.settled, h.seq⟩,
          fun _ => trivial, fun _ => ⟨hshows.texture, hshows.current⟩⟩
      next => cases hstep
  | freeBuffer source =>
      cases hstep
      exact ⟨fun _ => ⟨⟨h.wf.null, h.wf.entry_live, h.wf.entry_unique, h.wf.id_lt,
        h.wf.id_unique, h.wf.bound_lt, h.wf.tex⟩, h.settled, h.seq⟩,
        fun _ => trivial, fun _ => ⟨hshows.texture, hshows.current⟩⟩
  | importDmabuf c =>
      rw [step] at hstep
      split at hstep
      next hlater =>
        obtain ⟨r, hr, rfl⟩ := Option.map_eq_some_iff.mp hstep
        exact h.import_iff hlater hr
      next => cases hstep

/-- **The texture shows the current buffer** after every call, as long as no image is found under
    the address of another buffer and no current image is destroyed without a new one; a call for
    which this fails leaves it wrong. -/
theorem reach_shows (h : dmabuf.Reach Sound s) :
    s.Shows ∧ ∀ e s', dmabuf.step s e = some s' → (s'.Shows ↔ s.Sound e) := by
  have hinv : s.Inv ∧ s.Shows := by
    refine h.invariant (P := fun s => s.Inv ∧ s.Shows) ⟨inv_init, shows_init⟩
      fun s e s' hs hsound hstep => ?_
    obtain ⟨hinv, hshows⟩ := hs.1.step_iff hs.2 hstep
    exact ⟨hinv hsound, hshows.mpr hsound⟩
  exact ⟨hinv.2, fun e s' hstep => (hinv.1.step_iff hinv.2 hstep).2⟩

instance (s : EglState) (c : Import) (attribs : DmabufAttributes) : Decidable (s.Asks c attribs) :=
  inferInstanceAs (Decidable (_ ∧ _))

instance (s : EglState) (c : Import) (source buffer : Nat) (attribs : DmabufAttributes) :
    Decidable (s.Genuine c source buffer attribs) :=
  Option.decidableForallMem _

instance (s : EglState) (c : Import) (buffer : Nat) (attribs : DmabufAttributes) :
    Decidable (s.Replaced c buffer attribs) :=
  inferInstanceAs (Decidable (_ → _ → _ → _ → _))

instance (s : EglState) : ∀ e, Decidable (s.Sound e)
  | .newBuffer _ => isTrue trivial
  | .freeBuffer _ => isTrue trivial
  | .importDmabuf c =>
      inferInstanceAs (Decidable (∀ source ∈ c.source, ∀ buffer ∈ s.buffers.get source,
        ∀ attribs ∈ c.attribs, s.Asks c attribs →
          s.Genuine c source buffer.address attribs ∧ s.Replaced c buffer.address attribs))

/-- A call for a buffer of 64 by 48. -/
def importOf (source image tex : Nat) (currentSeq : UInt32) : Event :=
  .importDmabuf ⟨true, some source, some ⟨64, 48, 1⟩, currentSeq, image, tex⟩

/-- Five buffers in turn: the image of the first one gives way while it is the current one. -/
theorem reach_shows_fiveBuffers :
    ∃ s, dmabuf.Reach Sound s ∧ s.imported = some 4 ∧
      s.Shows ∧ ∀ e s', dmabuf.step s e = some s' → (s'.Shows ↔ s.Sound e) := by
  let es : List Event :=
    [.newBuffer 16, .newBuffer 32, .newBuffer 48, .newBuffer 64, .newBuffer 80,
      importOf 0 1001 7 1, importOf 1 1002 8 2, importOf 2 1003 8 3, importOf 3 1004 8 4,
      importOf 0 1005 8 5, importOf 4 1006 8 6]
  have hrun : (dmabuf.execIf Sound .init es).map (·.imported) = some (some 4) := by
    decide +kernel
  obtain ⟨s, hs, himported⟩ := Option.map_eq_some_iff.mp hrun
  have hreach := Machine.reach_execIf es .init hs
  exact ⟨s, hreach, himported, reach_shows hreach⟩

/-- **The image of a freed buffer**: a new buffer at the same address and of the same size is taken
    for the old one. -/
theorem not_shows_addressReused :
    ∃ s, dmabuf.exec .init [.newBuffer 16, importOf 0 1001 7 1, .freeBuffer 0, .newBuffer 16,
        importOf 1 1002 8 2] = some s ∧ ¬ s.Shows := by
  have hrun : (dmabuf.exec .init [.newBuffer 16, importOf 0 1001 7 1, .freeBuffer 0, .newBuffer 16,
      importOf 1 1002 8 2]).map (fun s => (s.imported, s.bound)) = some (some 1, some ⟨0, 0⟩) := by
    decide +kernel
  obtain ⟨s, hs, hend⟩ := Option.map_eq_some_iff.mp hrun
  obtain ⟨himported, hbound⟩ := Prod.mk.inj hend
  refine ⟨s, hs, fun hshows => ?_⟩
  obtain ⟨_, image, himage, -, hsource⟩ := hshows.texture 1 himported
  cases hbound.symm.trans himage
  cases hsource

end EglState

end FlutterWlroots.Renderer
