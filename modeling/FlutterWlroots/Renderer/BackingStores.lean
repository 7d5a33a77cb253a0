/-
  FlutterWlroots.Renderer.BackingStores — the textures that Flutter renders into (renderer.c).

  The renderer has two pages of textures that take turns.  `page_get_texture` gives out a texture of
  the current page, recycled if one of the size is unused; `present_layers` shows the textures of
  the frame, deletes what the current page did not need, makes the textures of the other page
  unused and turns to that page.

    • `FwrRenderer`, `page_get_texture`, `create_backing_store`, `present_layers` — the code,
    • `renderer` — its runs; `Frame` is what the engine promises about the layers of a frame,
    • `reach_displaySafe` — no texture that is on display is recycled or deleted.
-/
import FlutterWlroots.Lib.Machine
import FlutterWlroots.Lib.Store
import Mathlib.Data.Finset.Basic
import Mathlib.Data.Multiset.AddSub

namespace FlutterWlroots.Renderer

open Lib

/-! ## §1. State. -/

/-- `fwr_renderer_page_texture`; `texture` is the name of the GL texture. -/
structure PageTexture where
  page : Fin 2
  texture : Nat
  fbo : Nat
  width : Nat
  height : Nat

/-- `fwr_renderer_page`: two lists, each from its head on. -/
structure Page where
  unusedTextures : List Nat
  textures : List Nat

/-- A point or a size of the engine. -/
structure FlutterPair where
  fst : Rat
  snd : Rat

/-- `fwr_renderer_scene_layer`. -/
inductive SceneLayer (Mutation : Type) where
  | texture (offset size : FlutterPair) (texture : Nat)
  | platform (offset size : FlutterPair) (platformViewId : Int) (mutations : List Mutation)

/-- `FlutterLayer`; the `user_data` of a backing store is a texture that was given out. -/
inductive FlutterLayer (Mutation : Type) where
  | backingStore (offset size : FlutterPair) (userData : Nat)
  | platformView (offset size : FlutterPair) (identifier : Int) (mutations : List Mutation)

variable {Mutation : Type}

/-- The textures that layers refer to. -/
def SceneLayer.textureOf : SceneLayer Mutation → List Nat
  | .texture _ _ t => [t]
  | .platform .. => []

def FlutterLayer.textureOf : FlutterLayer Mutation → List Nat
  | .backingStore _ _ t => [t]
  | .platformView .. => []

/-- The part of `fwr_renderer` that has to do with backing stores.  `glTextures` are the GL textures
    that exist, `returned` are the textures given out since the last frame. -/
structure FwrRenderer (Mutation : Type) where
  pageTextures : Store PageTexture
  glTextures : Finset Nat
  pages : Fin 2 → Page
  currentPage : Fin 2
  layers : List (SceneLayer Mutation)
  needsUpdate : Bool
  returned : List Nat

namespace FwrRenderer

variable (r : FwrRenderer Mutation)

/-- `fwr_renderer_init`. -/
def init : FwrRenderer Mutation where
  pageTextures := .empty
  glTextures := ∅
  pages := fun _ => ⟨[], []⟩
  currentPage := 0
  layers := []
  needsUpdate := false
  returned := []

/-- The textures on display. -/
def displayed : List Nat := r.layers.flatMap SceneLayer.textureOf

/-- The page that is not the current one. -/
def lastPageIdx : Fin 2 := if r.currentPage = 0 then 1 else 0

/-! ## §2. Giving out a texture. -/

def hasSize (width height texture : Nat) : Bool :=
  (r.pageTextures.get texture).any fun t => t.width == width && t.height == height

/-- The branch of `page_get_texture` that found an unused texture. -/
def reuse (texture : Nat) : FwrRenderer Mutation :=
  let page := r.pages r.currentPage
  { r with
    pages := Function.update r.pages r.currentPage
      { unusedTextures := page.unusedTextures.erase texture
        textures := texture :: page.textures }
    returned := texture :: r.returned }

/-- The other branch; `name` is the name that `glGenTextures` chose. -/
def generate (width height name fbo : Nat) : FwrRenderer Mutation :=
  let page := r.pages r.currentPage
  { r with
    pageTextures := r.pageTextures.alloc ⟨r.currentPage, name, fbo, width, height⟩
    glTextures := insert name r.glTextures
    pages := Function.update r.pages r.currentPage
      { page with textures := r.pageTextures.next :: page.textures }
    returned := r.pageTextures.next :: r.returned }

/-- `page_get_texture`, with the answers of `glGenTextures` and `glGenFramebuffers`. -/
def pageGetTexture (width height name fbo : Nat) : Nat × FwrRenderer Mutation :=
  match (r.pages r.currentPage).unusedTextures.find? (r.hasSize width height) with
  | some texture => (texture, r.reuse texture)
  | none => (r.pageTextures.next, r.generate width height name fbo)

/-- `create_backing_store`: no framebuffer is made. -/
def createBackingStore (width height name : Nat) : Nat × FwrRenderer Mutation :=
  r.pageGetTexture width height name 0

/-! ## §3. Presenting a frame. -/

def sceneLayer : FlutterLayer Mutation → SceneLayer Mutation
  | .backingStore offset size userData => .texture offset size userData
  | .platformView offset size identifier mutations => .platform offset size identifier mutations

/-- `glDeleteTextures`, then the texture is taken out of its list and freed. -/
def deleteTexture (i : Fin 2) (texture : Nat) : FwrRenderer Mutation :=
  let page := r.pages i
  { r with
    glTextures :=
      match r.pageTextures.get texture with
      | some t => r.glTextures.erase t.texture
      | none => r.glTextures
    pageTextures := r.pageTextures.free texture
    pages := Function.update r.pages i
      { page with unusedTextures := page.unusedTextures.erase texture } }

/-- The loop over `unused_textures` of a page: every texture is deleted. -/
def deleteUnused (i : Fin 2) : List Nat → FwrRenderer Mutation → FwrRenderer Mutation
  | [], r => r
  | texture :: rest, r => deleteUnused i rest (r.deleteTexture i texture)

/-- The loop over `textures` of a page: every texture becomes unused. -/
def retire : List Nat → Page → Page
  | [], page => page
  | texture :: rest, page =>
      retire rest
        { textures := page.textures.erase texture
          unusedTextures := texture :: page.unusedTextures }

/-- `present_layers`. -/
def presentLayers (fLayers : List (FlutterLayer Mutation)) : FwrRenderer Mutation :=
  let r := { r with layers := fLayers.map sceneLayer, needsUpdate := true }
  let lastPageIdx := r.lastPageIdx
  let r := deleteUnused r.currentPage (r.pages r.currentPage).unusedTextures r
  let lastPage := r.pages lastPageIdx
  { r with
    pages := Function.update r.pages lastPageIdx (retire lastPage.textures lastPage)
    currentPage := if r.currentPage = 0 then 1 else 0
    returned := [] }

/-! ## §4. Runs. -/

/-- Two textures have different names, and every texture has a name that exists in GL. -/
structure Named : Prop where
  exist : ∀ p t, r.pageTextures.get p = some t → t.texture ∈ r.glTextures
  unique : ∀ p q t u, r.pageTextures.get p = some t → r.pageTextures.get q = some u →
    t.texture = u.texture → p = q

/-- The four lists, those of the current page first. -/
def pooled : List Nat :=
  (r.pages r.currentPage).unusedTextures ++ (r.pages r.currentPage).textures ++
    ((r.pages r.lastPageIdx).unusedTextures ++ (r.pages r.lastPageIdx).textures)

/-- What holds between two calls: the displayed textures are in use on the page that is not the
    current one, the textures of the coming frame are in use on the current page. -/
structure Wf : Prop where
  named : r.Named
  live : ∀ p ∈ r.pooled, r.pageTextures.Live p
  nodup : r.pooled.Nodup
  displayed : ∀ p ∈ r.displayed, p ∈ (r.pages r.lastPageIdx).textures
  returned : ∀ p ∈ r.returned, p ∈ (r.pages r.currentPage).textures
  returned_nodup : r.returned.Nodup

variable {r}

theorem wf_init : (init : FwrRenderer Mutation).Wf where
  named := ⟨fun p _ ht => (nomatch (Store.get_empty p).symm.trans ht),
    fun p _ _ _ ht => (nomatch (Store.get_empty p).symm.trans ht)⟩
  live := nofun
  nodup := List.nodup_nil
  displayed := nofun
  returned := nofun
  returned_nodup := List.nodup_nil

theorem lastPageIdx_ne (r : FwrRenderer Mutation) : r.lastPageIdx ≠ r.currentPage := by
  unfold lastPageIdx
  split <;> omega

theorem mem_pooled {p : Nat} : p ∈ r.pooled ↔
    (p ∈ (r.pages r.currentPage).unusedTextures ∨ p ∈ (r.pages r.currentPage).textures) ∨
      p ∈ (r.pages r.lastPageIdx).unusedTextures ∨ p ∈ (r.pages r.lastPageIdx).textures := by
  unfold pooled
  simp only [List.mem_append]

/-! A texture given out. -/

/-- What the two branches have in common: `p` goes in front of the textures of the current page. -/
def give (r : FwrRenderer Mutation) (pageTextures : Store PageTexture) (glTextures : Finset Nat)
    (unusedTextures : List Nat) (p : Nat) : FwrRenderer Mutation :=
  { r with
    pageTextures, glTextures
    pages := Function.update r.pages r.currentPage
      { unusedTextures, textures := p :: (r.pages r.currentPage).textures }
    returned := p :: r.returned }

section Give

variable {pageTextures : Store PageTexture} {glTextures : Finset Nat} {unusedTextures : List Nat}
  {p : Nat}

theorem pooled_give : (r.give pageTextures glTextures unusedTextures p).pooled
    = unusedTextures ++ p :: (r.pages r.currentPage).textures ++
      ((r.pages r.lastPageIdx).unusedTextures ++ (r.pages r.lastPageIdx).textures) := by
  show (Function.update r.pages r.currentPage _ r.currentPage).unusedTextures ++
    (Function.update r.pages r.currentPage _ r.currentPage).textures ++
    ((Function.update r.pages r.currentPage _ r.lastPageIdx).unusedTextures ++
      (Function.update r.pages r.currentPage _ r.lastPageIdx).textures) = _
  rw [Function.update_self, Function.update_of_ne r.lastPageIdx_ne]

theorem Wf.give (h : r.Wf)
    (hnamed : (r.give pageTextures glTextures unusedTextures p).Named)
    (hlive : ∀ q ∈ (r.give pageTextures glTextures unusedTextures p).pooled, pageTextures.Live q)
    (hnodup : (r.give pageTextures glTextures unusedTextures p).pooled.Nodup)
    (hp : p ∉ (r.pages r.currentPage).textures) :
    (r.give pageTextures glTextures unusedTextures p).Wf := by
  refine ⟨hnamed, hlive, hnodup, fun q hq => ?_, fun q hq => ?_,
    List.nodup_cons.mpr ⟨fun hmem => hp (h.returned p hmem), h.returned_nodup⟩⟩
  · show q ∈ (Function.update r.pages r.currentPage _ r.lastPageIdx).textures
    rw [Function.update_of_ne r.lastPageIdx_ne]
    exact h.displayed q hq
  · show q ∈ (Function.update r.pages r.currentPage _ r.currentPage).textures
    rw [Function.update_self]
    exact List.mem_cons.mpr ((List.mem_cons.mp hq).imp_right (h.returned q))

end Give

theorem Wf.reuse {p : Nat} (h : r.Wf) (hp : p ∈ (r.pages r.currentPage).unusedTextures) :
    (r.reuse p).Wf := by
  have hperm : (r.reuse p).pooled.Perm r.pooled := by
    -- the texture goes from one list of the current page to the other
    refine (List.Perm.of_eq pooled_give).trans (List.Perm.append_right _ ?_)
    exact List.perm_middle.trans ((List.perm_cons_erase hp).symm.append_right _)
  refine Wf.give h ⟨h.named.exist, h.named.unique⟩ (fun q hq => h.live q (hperm.mem_iff.mp hq))
    (hperm.nodup_iff.mpr h.nodup) fun hmem => ?_
  have hdisjoint := (List.nodup_append.mp (List.nodup_append.mp h.nodup).1).2.2
  exact hdisjoint p hp p hmem rfl

theorem Named.generate {width height name fbo : Nat} (h : r.Named) (hname : name ∉ r.glTextures) :
    (r.generate width height name fbo).Named := by
  have hold : ∀ p t, r.pageTextures.get p = some t → t.texture ≠ name := by
    rintro p t ht rfl
    exact hname (h.exist p t ht)
  refine ⟨fun p t ht => ?_, fun p q t u ht hu heq => ?_⟩
  · rcases Store.get_alloc ht with ⟨-, rfl⟩ | ht
    · exact Finset.mem_insert_self ..
    · exact Finset.mem_insert_of_mem (h.exist p t ht)
  -- an older texture does not have the new name
  · rcases Store.get_alloc ht with ⟨rfl, rfl⟩ | ht <;>
      rcases Store.get_alloc hu with ⟨rfl, rfl⟩ | hu
    · rfl
    · exact absurd heq.symm (hold q u hu)
    · exact absurd heq (hold p t ht)
    · exact h.unique p q t u ht hu heq

theorem Wf.generate {width height name fbo : Nat} (h : r.Wf) (hname : name ∉ r.glTextures) :
    (r.generate width height name fbo).Wf := by
  have hperm : (r.generate width height name fbo).pooled.Perm (r.pageTextures.next :: r.pooled) :=
    (List.Perm.of_eq pooled_give).trans (List.perm_middle.append_right _)
  have hnew : r.pageTextures.next ∉ r.pooled := fun hmem => Store.not_live_next _ (h.live _ hmem)
  refine Wf.give h (h.named.generate hname) (fun q hq => Store.live_alloc.mpr ?_)
    (hperm.nodup_iff.mpr (List.nodup_cons.mpr ⟨hnew, h.nodup⟩)) fun hmem => ?_
  · exact (List.mem_cons.mp (hperm.mem_iff.mp hq)).imp_right (h.live q)
  · exact hnew (mem_pooled.mpr (.inl (.inr hmem)))

/-- What `page_get_texture` returns and what it leaves. -/
theorem pageGetTexture_cases (width height name fbo : Nat) :
    (∃ p ∈ (r.pages r.currentPage).unusedTextures,
        r.pageGetTexture width height name fbo = (p, r.reuse p)) ∨
      r.pageGetTexture width height name fbo
        = (r.pageTextures.next, r.generate width height name fbo) := by
  unfold pageGetTexture
  split
  next p hp => exact .inl ⟨p, List.mem_of_find?_eq_some hp, rfl⟩
  next => exact .inr rfl

theorem Wf.pageGetTexture {width height name fbo : Nat} (h : r.Wf) (hname : name ∉ r.glTextures) :
    (r.pageGetTexture width height name fbo).2.Wf := by
  rcases pageGetTexture_cases (r := r) width height name fbo with ⟨p, hp, heq⟩ | heq
  · rw [heq]
    exact h.reuse hp
  · rw [heq]
    exact h.generate hname

/-! A frame presented. -/

theorem retire_textures (ts unused : List Nat) :
    retire ts ⟨unused, ts⟩ = ⟨ts.reverse ++ unused, []⟩ := by
  induction ts generalizing unused with
  | nil => rfl
  | cons t ts ih =>
      rw [retire]
      show retire ts ⟨t :: unused, (t :: ts).erase t⟩ = _
      rw [List.erase_cons_head, ih, List.reverse_cons, List.append_assoc, List.singleton_append]

theorem Named.deleteTexture {i : Fin 2} {p : Nat} (h : r.Named) : (r.deleteTexture i p).Named := by
  refine ⟨fun q t ht => ?_, fun q q' t u ht hu => ?_⟩
  · obtain ⟨hne, ht⟩ := Store.get_free ht
    have hexist := h.exist q t ht
    show t.texture ∈ match r.pageTextures.get p with
      | some u => r.glTextures.erase u.texture
      | none => r.glTextures
    split
    next u hu => exact Finset.mem_erase.mpr ⟨fun heq => hne (h.unique q p t u ht hu heq), hexist⟩
    next => exact hexist
  · exact h.unique q q' t u (Store.get_free ht).2 (Store.get_free hu).2

/-- What deleting the unused textures of a page changes. -/
structure Deleted (i : Fin 2) (ts : List Nat) (r r' : FwrRenderer Mutation) : Prop where
  named : r.Named → r'.Named
  live : ∀ p, p ∉ ts → r.pageTextures.Live p → r'.pageTextures.Live p
  pages : r'.pages = Function.update r.pages i
    { r.pages i with unusedTextures := (r.pages i).unusedTextures.diff ts }
  layers : r'.layers = r.layers
  currentPage : r'.currentPage = r.currentPage

theorem deleted_deleteUnused (i : Fin 2) (ts : List Nat) :
    ∀ r : FwrRenderer Mutation, Deleted i ts r (deleteUnused i ts r) := by
  induction ts with
  | nil => exact fun r => ⟨id, fun _ _ => id, (Function.update_eq_self i r.pages).symm, rfl, rfl⟩
  | cons t ts ih =>
      intro r
      obtain ⟨hnamed, hlive, hpages, hlayers, hcurrent⟩ := ih (r.deleteTexture i t)
      refine ⟨fun h => hnamed h.deleteTexture, fun p hp hlive' => ?_, ?_, hlayers, hcurrent⟩
      · obtain ⟨hne, hp⟩ := not_or.mp (mt List.mem_cons.mpr hp)
        exact hlive p hp (Store.live_free.mpr ⟨hne, hlive'⟩)
      · rw [deleteUnused, hpages]
        show Function.update (Function.update r.pages i _) i
          { Function.update r.pages i _ i with
            unusedTextures := (Function.update r.pages i _ i).unusedTextures.diff ts } = _
        rw [Function.update_self, Function.update_idem, List.diff_cons]

theorem diff_self (ts : List Nat) : ts.diff ts = [] := by
  induction ts with
  | nil => rfl
  | cons t ts ih => rw [List.diff_cons, List.erase_cons_head, ih]

theorem swap_swap (i : Fin 2) :
    (if (if i = 0 then (1 : Fin 2) else 0) = 0 then (1 : Fin 2) else 0) = i := by
  revert i
  decide

/-- The two pages after `present_layers`. -/
structure Presented (r r' : FwrRenderer Mutation) : Prop where
  currentPage : r'.currentPage = r.lastPageIdx
  lastPageIdx : r'.lastPageIdx = r.currentPage
  lastPage : r'.pages r.currentPage = ⟨[], (r.pages r.currentPage).textures⟩
  page : r'.pages r.lastPageIdx =
    ⟨(r.pages r.lastPageIdx).textures.reverse ++ (r.pages r.lastPageIdx).unusedTextures, []⟩
  named : r.Named → r'.Named
  live : ∀ p, p ∉ (r.pages r.currentPage).unusedTextures → r.pageTextures.Live p →
    r'.pageTextures.Live p
  returned : r'.returned = []

theorem presented_presentLayers (fLayers : List (FlutterLayer Mutation)) :
    Presented r (r.presentLayers fLayers) ∧
      (r.presentLayers fLayers).layers = fLayers.map sceneLayer := by
  let r1 : FwrRenderer Mutation :=
    { r with layers := fLayers.map sceneLayer, needsUpdate := true }
  let r2 := deleteUnused r.currentPage (r.pages r.currentPage).unusedTextures r1
  obtain ⟨hnamed, hlive, hpages, hlayers, hcurrent⟩ : Deleted r.currentPage _ r1 r2 :=
    deleted_deleteUnused ..
  have hswap : (r.presentLayers fLayers).currentPage = r.lastPageIdx := by
    show (if r2.currentPage = 0 then (1 : Fin 2) else 0) = _
    rw [hcurrent]
    rfl
  have hlast : r2.pages r.lastPageIdx = r.pages r.lastPageIdx := by
    rw [hpages, Function.update_of_ne r.lastPageIdx_ne]
  refine ⟨⟨hswap, ?_, ?_, ?_, ?_, ?_, rfl⟩, hlayers⟩
  · rw [lastPageIdx, hswap]
    exact swap_swap r.currentPage
  · show Function.update r2.pages r.lastPageIdx _ r.currentPage = _
    rw [Function.update_of_ne r.lastPageIdx_ne.symm, hpages, Function.update_self]
    show Page.mk ((r.pages r.currentPage).unusedTextures.diff _) _ = _
    rw [diff_self]
  · show Function.update r2.pages r.lastPageIdx
      (retire (r2.pages r.lastPageIdx).textures (r2.pages r.lastPageIdx)) r.lastPageIdx = _
    rw [Function.update_self, hlast, retire_textures]
  · exact fun h => ⟨(hnamed ⟨h.exist, h.unique⟩).exist, (hnamed ⟨h.exist, h.unique⟩).unique⟩
  · exact hlive

/-- The layers of a frame show textures that were given out since the last frame. -/
def Frame (r : FwrRenderer Mutation) (fLayers : List (FlutterLayer Mutation)) : Prop :=
  ∀ p ∈ fLayers.flatMap FlutterLayer.textureOf, p ∈ r.returned

theorem textureOf_sceneLayer (layer : FlutterLayer Mutation) :
    (sceneLayer layer).textureOf = layer.textureOf := by
  cases layer <;> rfl

theorem Wf.presentLayers {fLayers : List (FlutterLayer Mutation)} (h : r.Wf)
    (hframe : r.Frame fLayers) : (r.presentLayers fLayers).Wf := by
  obtain ⟨hp, hlayers⟩ := presented_presentLayers (r := r) fLayers
  have hpooled : (r.presentLayers fLayers).pooled
      = (r.pages r.lastPageIdx).textures.reverse ++ (r.pages r.lastPageIdx).unusedTextures ++ [] ++
        ([] ++ (r.pages r.currentPage).textures) := by
    rw [pooled, hp.currentPage, hp.lastPageIdx, hp.page, hp.lastPage]
  -- only the unused textures of the page that was current are gone
  have hperm : ((r.pages r.currentPage).unusedTextures ++ (r.presentLayers fLayers).pooled).Perm
      r.pooled := by
    refine List.perm_iff_count.mpr fun p => ?_
    rw [hpooled, pooled]
    simp only [List.count_append, List.count_reverse, List.count_nil]
    omega
  obtain ⟨-, hnodup, hdisjoint⟩ := List.nodup_append.mp (hperm.nodup_iff.mpr h.nodup)
  refine ⟨hp.named h.named, fun p hmem => ?_, hnodup, fun p hmem => ?_, fun p hmem => ?_, ?_⟩
  · refine hp.live p (fun hunused => hdisjoint p hunused p hmem rfl) (h.live p ?_)
    exact hperm.mem_iff.mp (List.mem_append_right _ hmem)
  · rw [hp.lastPageIdx, hp.lastPage]
    refine h.returned p (hframe p ?_)
    rwa [FwrRenderer.displayed, hlayers, List.flatMap_map, funext textureOf_sceneLayer] at hmem
  · rw [hp.returned] at hmem
    cases hmem
  · rw [hp.returned]
    exact List.nodup_nil

/-! ## §5. What is on display. -/

/-- A call of the engine. -/
inductive Event (Mutation : Type) where
  | createBackingStore (width height name : Nat)
  | collectBackingStore (texture : Nat)
  | presentLayers (fLayers : List (FlutterLayer Mutation))

/-- The calls; `glGenTextures` returns a name that is not in use. -/
def call (r : FwrRenderer Mutation) : Event Mutation → Option (FwrRenderer Mutation)
  | .createBackingStore width height name =>
      if name ∈ r.glTextures then none else some (r.createBackingStore width height name).2
  | .collectBackingStore _ => some r
  | .presentLayers fLayers => some (r.presentLayers fLayers)

/-- What the engine promises. -/
def Honours (r : FwrRenderer Mutation) : Event Mutation → Prop
  | .presentLayers fLayers => r.Frame fLayers
  | _ => True

instance (r : FwrRenderer Mutation) : ∀ e, Decidable (r.Honours e)
  | .createBackingStore .. => isTrue trivial
  | .collectBackingStore _ => isTrue trivial
  | .presentLayers fLayers =>
      inferInstanceAs (Decidable (∀ p ∈ fLayers.flatMap FlutterLayer.textureOf, p ∈ r.returned))

end FwrRenderer

/-- The renderer, from `fwr_renderer_init` on. -/
def renderer (Mutation : Type) : Machine (FwrRenderer Mutation) (FwrRenderer.Event Mutation) where
  init := .init
  step := FwrRenderer.call

namespace FwrRenderer

variable {r : FwrRenderer Mutation}

theorem reach_wf (h : (renderer Mutation).Reach Honours r) : r.Wf := by
  refine h.invariant wf_init fun r e r' hwf hok hstep => ?_
  cases e with
  | createBackingStore width height name =>
      replace hstep : r.call (.createBackingStore width height name) = some r' := hstep
      rw [call] at hstep
      split at hstep
      · cases hstep
      · cases hstep
        exact hwf.pageGetTexture ‹_›
  | collectBackingStore texture =>
      cases hstep
      exact hwf
  | presentLayers fLayers =>
      cases hstep
      exact hwf.presentLayers hok

/-- The textures that the pages list, list by list. -/
def lists (r : FwrRenderer Mutation) : List (List Nat) :=
  [(r.pages 0).unusedTextures, (r.pages 0).textures,
    (r.pages 1).unusedTextures, (r.pages 1).textures]

/-- A displayed texture is there, and neither unused nor given out again. -/
structure DisplaySafe (r : FwrRenderer Mutation) : Prop where
  allocated : ∀ p ∈ r.displayed, ∃ t, r.pageTextures.get p = some t ∧ t.texture ∈ r.glTextures
  not_unused : ∀ p ∈ r.displayed, ∀ i, p ∉ (r.pages i).unusedTextures
  not_returned : ∀ p ∈ r.displayed, p ∉ r.returned
  not_recycled : ∀ width height name, (r.createBackingStore width height name).1 ∉ r.displayed
  lists_nodup : r.lists.flatten.Nodup
  returned_nodup : r.returned.Nodup
  not_repeated : ∀ width height name, (r.createBackingStore width height name).1 ∉ r.returned

theorem lists_perm (r : FwrRenderer Mutation) : r.lists.flatten.Perm r.pooled := by
  have hpage : r.currentPage = 0 ∨ r.currentPage = 1 := by omega
  have hflatten : r.lists.flatten = (r.pages 0).unusedTextures ++ ((r.pages 0).textures ++
      ((r.pages 1).unusedTextures ++ ((r.pages 1).textures ++ []))) := rfl
  rw [hflatten, pooled, lastPageIdx]
  rcases hpage with h | h
  · rw [h, if_pos rfl, List.append_nil, List.append_assoc]
  · rw [h, if_neg (by decide), List.append_nil, ← List.append_assoc]
    exact List.perm_append_comm

theorem Wf.not_unused {p : Nat} {i : Fin 2} (h : r.Wf)
    (hp : p ∈ (r.pages r.lastPageIdx).textures) : p ∉ (r.pages i).unusedTextures := by
  obtain ⟨-, hlast, hdisjoint⟩ := List.nodup_append.mp h.nodup
  have hi : i = r.currentPage ∨ i = r.lastPageIdx := by
    have := r.lastPageIdx_ne
    omega
  intro hmem
  rcases hi with rfl | rfl
  · exact hdisjoint p (List.mem_append_left _ hmem) p (List.mem_append_right _ hp) rfl
  · exact (List.nodup_append.mp hlast).2.2 p hmem p hp rfl

/-- A texture in use on either page is not given out. -/
theorem Wf.pageGetTexture_fresh {p width height name fbo : Nat} (h : r.Wf)
    (hp : p ∈ (r.pages r.currentPage).textures ∨ p ∈ (r.pages r.lastPageIdx).textures) :
    (r.pageGetTexture width height name fbo).1 ≠ p := by
  have hmem : p ∈ r.pooled := mem_pooled.mpr (hp.imp .inr .inr)
  rintro rfl
  rcases pageGetTexture_cases (r := r) width height name fbo with ⟨q, hq, heq⟩ | heq
  · rw [heq] at hp
    obtain ⟨hcurrent, -, hdisjoint⟩ := List.nodup_append.mp h.nodup
    rcases hp with hp | hp
    · exact (List.nodup_append.mp hcurrent).2.2 q hq q hp rfl
    · exact hdisjoint q (List.mem_append_left _ hq) q (List.mem_append_right _ hp) rfl
  · rw [heq] at hmem
    exact Store.not_live_next _ (h.live _ hmem)

/-- **A backing store on display is never recycled or deleted**, whatever sizes are asked for, as
    long as every frame shows textures that were given out for it. -/
theorem reach_displaySafe (h : (renderer Mutation).Reach Honours r) : r.DisplaySafe := by
  have hwf := reach_wf h
  have hdisjoint := (List.nodup_append.mp hwf.nodup).2.2
  refine
    { allocated := fun p hp => ?_
      not_unused := fun p hp i => hwf.not_unused (hwf.displayed p hp)
      not_returned := fun p hp hreturned => ?_
      not_recycled := fun _ _ _ hmem => hwf.pageGetTexture_fresh (.inr (hwf.displayed _ hmem)) rfl
      lists_nodup := (lists_perm r).nodup_iff.mpr hwf.nodup
      returned_nodup := hwf.returned_nodup
      not_repeated := fun _ _ _ hmem => hwf.pageGetTexture_fresh (.inl (hwf.returned _ hmem)) rfl }
  · have hlive := hwf.live p (mem_pooled.mpr (.inr (.inr (hwf.displayed p hp))))
    obtain ⟨t, ht⟩ := Store.live_iff.mp hlive
    exact ⟨t, ht, hwf.named.exist p t ht⟩
  · exact hdisjoint p (List.mem_append_right _ (hwf.returned p hreturned)) p
      (List.mem_append_right _ (hwf.displayed p hp)) rfl

/-- Three frames; the third one recycles a texture of the first one. -/
theorem reach_displaySafe_threeFrames :
    ∃ r : FwrRenderer Unit, (renderer Unit).Reach Honours r ∧ r.displayed = [0] ∧
      r.DisplaySafe := by
  let es : List (Event Unit) :=
    [.createBackingStore 800 600 1, .createBackingStore 800 600 2,
      .presentLayers [.backingStore ⟨0, 0⟩ ⟨800, 600⟩ 0, .platformView ⟨0, 0⟩ ⟨9, 9⟩ 1 [()],
        .backingStore ⟨0, 0⟩ ⟨800, 600⟩ 1],
      .createBackingStore 800 600 3, .presentLayers [.backingStore ⟨0, 0⟩ ⟨800, 600⟩ 2],
      .createBackingStore 800 600 4, .presentLayers [.backingStore ⟨0, 0⟩ ⟨800, 600⟩ 0]]
  have hrun : ((renderer Unit).execIf Honours .init es).map displayed = some [0] := by
    decide +kernel
  obtain ⟨r, hr, hdisplayed⟩ := Option.map_eq_some_iff.mp hrun
  have hreach := Machine.reach_execIf es .init hr
  exact ⟨r, hreach, hdisplayed, reach_displaySafe hreach⟩

end FwrRenderer

end FlutterWlroots.Renderer
