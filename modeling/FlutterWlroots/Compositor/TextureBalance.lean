/-
  FlutterWlroots.Compositor.TextureBalance — registrations of textures and their ends.

  A popup tests its flag before it registers a texture and clears it when it unregisters one; a view
  and a subsurface do neither when they are mapped and unmapped.  So the calls of a popup are
  balanced, whatever happens, while those of a view or a subsurface are only as long as it is mapped
  once.

    • `Replayed.change` — what one event does to the calls of one object,
    • `followsId_change` — and to the calls with one texture id,
    • `reach_balanced`  — the runs in which the calls are balanced.
-/
import FlutterWlroots.Compositor.TextureLives

namespace FlutterWlroots.Compositor

open Lib Lib.StateRun

/-! ## §1. Runs. -/

/-- The compositor, with the objects that are mapped and the calls made for each object. -/
structure TextureState where
  now : Instance
  mapped : TextureSource → Bool
  calls : TextureSource → List TextureCall

/-- The object that the event maps or unmaps, and whether it is mapped before. -/
def Event.turn : Event → Option (TextureSource × Bool)
  | .toplevelMap p _ _ _ => some (.view p, false)
  | .toplevelUnmap p => some (.view p, true)
  | .subsurfaceMap p _ _ => some (.subsurface p, false)
  | .subsurfaceUnmap p => some (.subsurface p, true)
  | .popupMap p _ _ => some (.popup p, false)
  | .popupUnmap p => some (.popup p, true)
  | _ => none

/-- The view or subsurface that the event maps. -/
def Event.mapsWindow : Event → Option TextureSource
  | .toplevelMap p _ _ _ => some (.view p)
  | .subsurfaceMap p _ _ => some (.subsurface p)
  | _ => none

namespace TextureState

/-- Map and unmap events alternate. -/
def InTurn (s : TextureState) (e : Event) : Prop := ∀ t ∈ e.turn, s.mapped t.1 = t.2

/-- A view or a subsurface is mapped only while it has no texture. -/
def MapsOnce (s : TextureState) (e : Event) : Prop :=
  ∀ x ∈ e.mapsWindow, ∀ r ∈ s.now.tables.record x, r.registered = false

/-- The calls of an event belong to its subject; a new object begins without any. -/
def after (s : TextureState) (e : Event) (now : Instance) : TextureState where
  now := now
  mapped :=
    match s.now.subject e with
    | some x => Function.update s.mapped x (e.mapped.getD (s.mapped x))
    | none => s.mapped
  calls :=
    match s.now.subject e with
    | some x => Function.update s.calls x ((if e.creates then [] else s.calls x) ++
        now.registrationCalls.drop s.now.registrationCalls.length)
    | none => s.calls

instance (s : TextureState) (e : Event) : Decidable (s.InTurn e) :=
  Option.decidableForallMem e.turn

instance (s : TextureState) (e : Event) : Decidable (s.MapsOnce e) :=
  @Option.decidableForallMem _ _ (fun _ => Option.decidableForallMem _) e.mapsWindow

/-- An event in its turn; registrations succeed. -/
def step (s : TextureState) (e : Event) : Option TextureState :=
  if s.now.Deliverable e ∧ s.InTurn e ∧ e.registers = true then
    (s.now.handle e).toOption.map (s.after e)
  else none

/-- The compositor with its external textures. -/
def texturing : Machine TextureState Event where
  init := ⟨.init, fun _ => false, fun _ => []⟩
  step := step

/-- The calls of an object alternate, beginning with a registration, all of them with its texture
    id; it has a texture while it is mapped, and none once it is gone. -/
structure Balanced (s : TextureState) (x : TextureSource) : Prop where
  alternate : ∃ handle, (∀ r ∈ s.now.tables.record x, r.handle = handle) ∧
    replayTexture (x.textureId handle) false (s.calls x) =
      some (isRegistered (s.now.tables.record x))
  mapped : s.mapped x = true → ∀ r ∈ s.now.tables.record x, r.registered = true

/-- What is balanced, for one object. -/
structure Replayed (x : TextureSource) (r : Option TextureRecord) (mapped : Bool)
    (calls : List TextureCall) : Prop where
  alternate : ∃ handle, (∀ r0 ∈ r, r0.handle = handle) ∧
    replayTexture (x.textureId handle) false calls = some (isRegistered r)
  mapped : mapped = true → ∀ r0 ∈ r, r0.registered = true
  textureId : ∀ r0 ∈ r, r0.registered = true → r0.textureId = x.textureId r0.handle

variable {s s' : TextureState} {e : Event} {x : TextureSource} {r r' : Option TextureRecord}
  {mapped : Bool} {calls new : List TextureCall}

theorem Replayed.none (x : TextureSource) (mapped : Bool) : Replayed x none mapped [] where
  alternate := ⟨0, nofun, rfl⟩
  mapped := fun _ _ h => nomatch h
  textureId := fun _ h => nomatch h

/-- **One object**: its calls stay balanced, if it registers no second texture. -/
theorem Replayed.change (h : Replayed x r mapped calls) (hchange : Change x e r new r')
    (honce : e.mapped = some true → ¬x.IsPopup → ∀ r0 ∈ r, r0.registered = false) :
    Replayed x r' (e.mapped.getD mapped) ((if e.creates then [] else calls) ++ new) := by
  obtain ⟨handle, hhandle, hreplay⟩ := h.alternate
  cases hchange with
  | create handle' hnew hmapped =>
      rw [hnew, hmapped]
      refine ⟨⟨handle', ?_, rfl⟩, nofun, ?_⟩
      · rintro r0 ⟨⟩
        rfl
      · rintro r0 ⟨⟩ hr0
        cases hr0
  | createMapped handle' hnew =>
      rw [hnew]
      refine ⟨⟨handle', ?_, ?_⟩, ?_, ?_⟩
      · rintro r0 ⟨⟩
        rfl
      · exact if_pos ⟨rfl, rfl⟩
      · rintro - r0 ⟨⟩
        rfl
      · rintro r0 ⟨⟩ -
        rfl
  | register r0 hold hpopup hother =>
      rw [hold]
      have hnot : r0.registered = false := by
        by_cases hx : x.IsPopup
        · exact hpopup hx
        · exact honce (hother hx) hx r0 rfl
      obtain rfl := hhandle r0 rfl
      refine ⟨⟨r0.handle, ?_, ?_⟩, ?_, ?_⟩
      · rintro r1 ⟨⟩
        rfl
      · show replayTexture _ _ (calls ++ _) = _
        rw [replayTexture_append hreplay]
        exact if_pos ⟨hnot, rfl⟩
      · rintro - r1 ⟨⟩
        rfl
      · rintro r1 ⟨⟩ -
        rfl
  | unregister r0 hold hmapped hr =>
      rw [hold, hmapped]
      obtain rfl := hhandle r0 rfl
      refine ⟨⟨r0.handle, ?_, ?_⟩, nofun, ?_⟩
      · rintro r1 ⟨⟩
        rfl
      · show replayTexture _ _ (calls ++ _) = _
        rw [replayTexture_append hreplay]
        exact if_pos ⟨hr, h.textureId r0 rfl hr⟩
      · rintro r1 ⟨⟩ hr1
        cases hr1
  | destroy r0 hold =>
      rw [hold]
      obtain rfl := hhandle r0 rfl
      refine ⟨⟨r0.handle, nofun, ?_⟩, nofun, nofun⟩
      show replayTexture _ _ (calls ++ _) = _
      rw [replayTexture_append hreplay]
      -- the texture, if there is one, goes with the object
      cases hr : r0.registered with
      | true => exact if_pos ⟨hr, h.textureId r0 rfl hr⟩
      | false => exact congrArg some hr

/-- One object that keeps its texture. -/
theorem Replayed.keep (h : Replayed x r mapped calls)
    (hmapped : e.mapped = some true → ∀ r0 ∈ r, r0.registered = true)
    (hcreates : e.creates = true → r = .none) :
    Replayed x r (e.mapped.getD mapped) (if e.creates then [] else calls) := by
  cases hnew : e.creates with
  | true =>
      rw [hcreates hnew]
      exact .none x _
  | false =>
      refine ⟨h.alternate, fun hm => ?_, h.textureId⟩
      cases he : e.mapped with
      | none =>
          rw [he] at hm
          exact h.mapped hm
      | some b =>
          rw [he] at hm
          exact hmapped (he.trans (congrArg some hm))

/-- The condition, for the subject of an event. -/
theorem MapsOnce.subject (h : s.MapsOnce e) (hsubject : s.now.subject e = some x)
    (hmapped : e.mapped = some true) (hx : ¬x.IsPopup) :
    ∀ r0 ∈ s.now.tables.record x, r0.registered = false := by
  apply h
  cases e with
  | toplevelMap p geo layout registered => exact hsubject
  | subsurfaceMap p box registered => exact hsubject
  | newPopup parentXdg surf registered =>
      cases hsubject
      exact absurd trivial hx
  | popupMap p surf registered =>
      cases hsubject
      exact absurd trivial hx
  | newOutput | outputDestroy | outputCommitState | setVsyncOutput | newToplevel | toplevelUnmap
  | toplevelCommit | toplevelDestroy | setPosition | newSubsurface | subsurfaceUnmap
  | subsurfaceCommit | subsurfaceDestroy | popupUnmap | popupCommit | popupReposition
  | popupDestroy | newSurface | surfaceDestroy | requestCursor | activateSystemCursor =>
      cases hmapped

/-- All objects are balanced. -/
def AllReplayed (s : TextureState) : Prop :=
  ∀ x, Replayed x (s.now.tables.record x) (s.mapped x) (s.calls x)

theorem step_ok (h : s.step e = some s') :
    ∃ now, s.now.Deliverable e ∧ s.InTurn e ∧ e.registers = true ∧ s.now.handle e = .ok now ∧
      s' = s.after e now := by
  unfold step at h
  split at h
  next hok =>
    obtain ⟨now, hnow, rfl⟩ := Option.map_eq_some_iff.mp h
    exact ⟨now, hok.1, hok.2.1, hok.2.2, toOption_eq_some.mp hnow, rfl⟩
  next => cases h

/-- **One step**: an event that maps no view or subsurface with a texture. -/
theorem AllReplayed.step (h : s.AllReplayed) (hok : s.MapsOnce e) (hstep : s.step e = some s') :
    s'.AllReplayed := by
  obtain ⟨now, -, -, hregisters, hhandle, rfl⟩ := step_ok hstep
  obtain ⟨new, hcalls, hlives⟩ := Instance.handle_lives hhandle hregisters
  have hnew : now.registrationCalls.drop s.now.registrationCalls.length = new := by
    rw [hcalls, List.drop_left]
  intro y
  unfold after
  dsimp only
  rw [hnew]
  cases hsubject : s.now.subject e with
  | none =>
      dsimp only
      cases hlives with
      | keeps hrecord _ _ _ =>
          rw [hrecord]
          exact h y
      | changes x hx _ _ _ =>
          rw [hsubject] at hx
          cases hx
  | some x =>
      dsimp only
      by_cases hy : y = x
      · subst hy
        rw [Function.update_self, Function.update_self]
        cases hlives with
        | keeps hrecord hnone hmapped hcreates =>
            rw [hrecord, hnone, List.append_nil]
            exact (h y).keep (fun hm => hmapped hm y hsubject) fun hnew => hcreates hnew y hsubject
        | changes x hx r' hchange hrecord =>
            rw [hsubject] at hx
            cases hx
            rw [hrecord, Function.update_self]
            exact (h y).change hchange (hok.subject hsubject)
      · rw [Function.update_of_ne hy, Function.update_of_ne hy]
        cases hlives with
        | keeps hrecord _ _ _ =>
            rw [hrecord]
            exact h y
        | changes x' hx r' hchange hrecord =>
            rw [hsubject] at hx
            cases hx
            rw [hrecord, Function.update_of_ne hy]
            exact h y

/-! ## §2. Calls by texture id. -/

/-- The object has registered the texture id. -/
def HasId (r : Option TextureRecord) (textureId : Int) : Prop :=
  ∃ r0 ∈ r, r0.registered = true ∧ r0.textureId = textureId

/-- No two objects have registered one id. -/
def Distinct (t : Tables) : Prop :=
  ∀ x y textureId, HasId (t.record x) textureId → HasId (t.record y) textureId → x = y

theorem hasId_iff {now : Instance} {textureId : Int} :
    HasId (now.tables.record x) textureId ↔ now.Registered x textureId := by
  cases x with
  | view p | subsurface p | popup p =>
      constructor
      · rintro ⟨r, hr, hregistered⟩
        obtain ⟨object, hobject, rfl⟩ := Table.records_ok hr
        exact ⟨object, hobject, hregistered⟩
      · rintro ⟨object, hobject, hregistered⟩
        exact ⟨_, Table.records_ofStore hobject, hregistered⟩

theorem distinct_of_separate {now : Instance} (h : now.tables.Separate) : Distinct now.tables :=
  fun x y id hx hy => (Instance.texturesIdentify_of_separate h).distinct x y id
    (hasId_iff.mp hx) (hasId_iff.mp hy)

theorem not_hasId_none {textureId : Int} : ¬HasId none textureId := fun ⟨_, h, _⟩ => nomatch h

theorem hasId_some {r0 : TextureRecord} {textureId : Int} :
    HasId (some r0) textureId ↔ r0.registered = true ∧ r0.textureId = textureId := by
  constructor
  · rintro ⟨r1, ⟨⟩, h⟩
    exact h
  · exact fun h => ⟨r0, rfl, h⟩

theorem callsOf_same {c : TextureCall} {textureId : Int} (h : c.textureId = textureId) :
    callsOf textureId [c] = [c] := List.filter_cons_of_pos (decide_eq_true h)

theorem callsOf_other {c : TextureCall} {textureId : Int} (h : c.textureId ≠ textureId) :
    callsOf textureId [c] = [] := List.filter_cons_of_neg (by simpa using h)

/-- One id before and after some calls for an object; `other` says that another object has it. -/
def FollowsId (textureId : Int) (registered : Bool) (other : Prop) (calls : List TextureCall)
    (r' : Option TextureRecord) : Prop :=
  ∃ registered', replayTexture textureId registered (callsOf textureId calls) = some registered' ∧
    (registered' = true ↔ other ∨ HasId r' textureId)

section OneId

variable {textureId : Int} {registered : Bool} {other : Prop} {r0 : TextureRecord}

theorem followsId_nil (hr : ¬HasId r textureId) (hr' : ¬HasId r' textureId)
    (h : registered = true ↔ other ∨ HasId r textureId) :
    FollowsId textureId registered other [] r' :=
  ⟨registered, rfl, h.trans (by simp only [hr, hr'])⟩

/-- Calls with another id. -/
theorem followsId_other {c : TextureCall} (hid : c.textureId ≠ textureId)
    (hr : ¬HasId r textureId) (hr' : ¬HasId r' textureId)
    (h : registered = true ↔ other ∨ HasId r textureId) :
    FollowsId textureId registered other [c] r' := by
  have hnil := followsId_nil hr hr' h
  unfold FollowsId at hnil ⊢
  rw [callsOf_other hid]
  exact hnil

theorem followsId_register {handle : UInt32} (hr : ¬HasId r textureId)
    (h : registered = true ↔ other ∨ HasId r textureId)
    (hapart : ¬(other ∧ HasId (some ⟨handle, x.textureId handle, true⟩) textureId)) :
    FollowsId textureId registered other [.register (x.textureId handle)]
      (some ⟨handle, x.textureId handle, true⟩) := by
  by_cases hid : (TextureCall.register (x.textureId handle)).textureId = textureId
  · have hnew : HasId (some ⟨handle, x.textureId handle, true⟩) textureId :=
      hasId_some.mpr ⟨rfl, hid⟩
    have hother : ¬other := fun ho => hapart ⟨ho, hnew⟩
    -- neither this object nor another one has the id
    have hfree : registered = false := by
      rw [← Bool.not_eq_true, h]
      exact fun ho => ho.elim hother hr
    unfold FollowsId
    rw [callsOf_same hid]
    exact ⟨true, if_pos ⟨hfree, hid⟩, iff_of_true rfl (.inr hnew)⟩
  · exact followsId_other hid hr (fun hnew => hid (hasId_some.mp hnew).2) h

theorem followsId_unregister (hr0 : r0.registered = true) (hr' : ¬HasId r' textureId)
    (h : registered = true ↔ other ∨ HasId (some r0) textureId)
    (hapart : ¬(other ∧ HasId (some r0) textureId)) :
    FollowsId textureId registered other [.unregister r0.textureId] r' := by
  by_cases hid : (TextureCall.unregister r0.textureId).textureId = textureId
  · have hold : HasId (some r0) textureId := hasId_some.mpr ⟨hr0, hid⟩
    have hother : ¬other := fun ho => hapart ⟨ho, hold⟩
    unfold FollowsId
    rw [callsOf_same hid]
    refine ⟨false, if_pos ⟨h.mpr (.inr hold), hid⟩, iff_of_false nofun ?_⟩
    exact fun ho => ho.elim hother hr'
  · exact followsId_other hid (fun hold => hid (hasId_some.mp hold).2) hr' h

theorem not_hasId_of_unregistered (hr : r0.registered = false) : ¬HasId (some r0) textureId := by
  intro h
  rw [(hasId_some.mp h).1] at hr
  cases hr

/-- **One object, by ids.** -/
theorem followsId_change (hchange : Change x e r new r')
    (honce : e.mapped = some true → ¬x.IsPopup → ∀ r0 ∈ r, r0.registered = false)
    (h : registered = true ↔ other ∨ HasId r textureId)
    (hapart : ¬(other ∧ HasId r textureId)) (hapart' : ¬(other ∧ HasId r' textureId)) :
    FollowsId textureId registered other new r' := by
  cases hchange with
  | create handle hnew hmapped =>
      exact followsId_nil not_hasId_none (not_hasId_of_unregistered rfl) h
  | createMapped handle hnew => exact followsId_register not_hasId_none h hapart'
  | register r0 hold hpopup hother =>
      refine followsId_register (not_hasId_of_unregistered ?_) h hapart'
      by_cases hx : x.IsPopup
      · exact hpopup hx
      · exact honce (hother hx) hx r0 rfl
  | unregister r0 hold hmapped hr =>
      exact followsId_unregister hr (not_hasId_of_unregistered rfl) h hapart
  | destroy r0 hold =>
      cases hr : r0.registered with
      | true => exact followsId_unregister hr not_hasId_none h hapart
      | false => exact followsId_nil (not_hasId_of_unregistered hr) not_hasId_none h

end OneId

/-- For every texture id, the calls of the engine alternate; the last one is a registration if and
    only if an object has the id. -/
def BalancedIds (s : TextureState) : Prop :=
  ∀ textureId, ∃ registered,
    replayTexture textureId false (callsOf textureId s.now.registrationCalls) = some registered ∧
      (registered = true ↔ ∃ x, s.now.Registered x textureId)

theorem exists_registered_iff (x : TextureSource) {now : Instance} {textureId : Int} :
    (∃ y, now.Registered y textureId) ↔
      (∃ y, y ≠ x ∧ HasId (now.tables.record y) textureId) ∨
        HasId (now.tables.record x) textureId := by
  constructor
  · rintro ⟨y, hy⟩
    by_cases hyx : y = x
    · exact .inr (hyx ▸ hasId_iff.mpr hy)
    · exact .inl ⟨y, hyx, hasId_iff.mpr hy⟩
  · rintro (⟨y, -, hy⟩ | hx)
    · exact ⟨y, hasId_iff.mp hy⟩
    · exact ⟨x, hasId_iff.mp hx⟩

theorem BalancedIds.step (h : s.BalancedIds) (hok : s.MapsOnce e) (hstep : s.step e = some s')
    (hdistinct : Distinct s.now.tables) (hdistinct' : Distinct s'.now.tables) :
    s'.BalancedIds := by
  obtain ⟨now, -, -, hregisters, hhandle, rfl⟩ := step_ok hstep
  obtain ⟨new, hcalls, hlives⟩ := Instance.handle_lives hhandle hregisters
  intro textureId
  obtain ⟨registered, hreplay, hregistered⟩ := h textureId
  show ∃ registered, replayTexture textureId false (callsOf textureId now.registrationCalls) =
    some registered ∧ (registered = true ↔ ∃ x, now.Registered x textureId)
  have happend : callsOf textureId (s.now.registrationCalls ++ new) =
      callsOf textureId s.now.registrationCalls ++ callsOf textureId new := List.filter_append ..
  rw [hcalls, happend, replayTexture_append hreplay]
  cases hlives with
  | keeps hrecord hnone _ _ =>
      rw [hnone]
      refine ⟨registered, rfl, hregistered.trans (exists_congr fun x => ?_)⟩
      rw [← hasId_iff, ← hasId_iff, hrecord]
  | changes x hx r' hchange hrecord =>
      have hothers : (∃ y, y ≠ x ∧ HasId (now.tables.record y) textureId) ↔
          ∃ y, y ≠ x ∧ HasId (s.now.tables.record y) textureId := by
        refine exists_congr fun y => and_congr_right fun hy => ?_
        rw [hrecord, Function.update_of_ne hy]
      have hself : now.tables.record x = r' := by rw [hrecord, Function.update_self]
      rw [exists_registered_iff x, hothers, hself]
      rw [exists_registered_iff x] at hregistered
      refine followsId_change hchange (hok.subject hx) hregistered ?_ ?_
      · rintro ⟨⟨y, hy, hyid⟩, hxid⟩
        exact hy (hdistinct y x textureId hyid hxid)
      · rintro ⟨hother, hxid⟩
        obtain ⟨y, hy, hyid⟩ := hothers.mpr hother
        rw [← hself] at hxid
        exact hy (hdistinct' y x textureId hyid hxid)

/-! ## §3. Balance. -/

theorem allReplayed_init : texturing.init.AllReplayed := by
  intro x
  cases x with
  | view p | subsurface p | popup p => exact .none _ _

theorem Replayed.balanced (h : Replayed x (s.now.tables.record x) (s.mapped x) (s.calls x)) :
    s.Balanced x := ⟨h.alternate, h.mapped⟩

theorem reach_allReplayed (h : texturing.Reach MapsOnce s) : s.AllReplayed :=
  h.invariant (P := AllReplayed) allReplayed_init fun _ _ _ hs hok hstep => hs.step hok hstep

/-- The condition with which ids are those of objects. -/
def MapsOnceApart (s : TextureState) (e : Event) : Prop := s.MapsOnce e ∧ s.now.KeepsIdsApart e

instance (s : TextureState) (e : Event) : Decidable (s.MapsOnceApart e) :=
  inferInstanceAs (Decidable (_ ∧ _))

theorem balancedIds_init : texturing.init.BalancedIds := by
  refine fun textureId => ⟨false, rfl, iff_of_false nofun ?_⟩
  rintro ⟨x, hx⟩
  cases x with
  | view p | subsurface p | popup p =>
      obtain ⟨object, hobject, -⟩ := hx
      cases (Store.get_empty p).symm.trans hobject

theorem reach_balancedIds (h : texturing.Reach MapsOnceApart s) :
    s.now.tables.Separate ∧ s.BalancedIds := by
  refine h.invariant (P := fun s => s.now.tables.Separate ∧ s.BalancedIds)
    ⟨Tables.separate_init, balancedIds_init⟩ fun s e s' hs hok hstep => ?_
  obtain ⟨hseparate, hids⟩ := hs
  obtain ⟨now, -, -, -, hhandle, rfl⟩ := step_ok hstep
  have hseparate' := Instance.separate_step hseparate hok.2 (Instance.handle_effect hhandle)
  exact ⟨hseparate', hids.step hok.1 hstep (distinct_of_separate hseparate)
    (distinct_of_separate hseparate')⟩

/-- **Registrations are balanced while no view or subsurface is mapped with a texture**: the calls
    of each object alternate, it has a texture while it is mapped and none when it is gone; and as
    long as ids are kept apart, so do the calls the engine gets for any texture id. -/
theorem reach_balanced (s : TextureState) :
    (texturing.Reach MapsOnce s → ∀ x, s.Balanced x) ∧
      (texturing.Reach MapsOnceApart s → s.BalancedIds) :=
  ⟨fun h x => (reach_allReplayed h x).balanced, fun h => (reach_balancedIds h).2⟩

/-- A popup that is mapped, unmapped, mapped again and destroyed, and a window. -/
theorem reach_balanced_popup :
    (∃ s, texturing.Reach MapsOnce s ∧
      s.calls (.popup 0) = [.register 200001, .unregister 200001, .register 200001,
        .unregister 200001] ∧ s.Balanced (.popup 0)) ∧
    ∃ s, texturing.Reach MapsOnceApart s ∧ s.now.registrationCalls = [.register 1] ∧
      s.BalancedIds := by
  have hpopup : ((texturing.execIf MapsOnce texturing.init
      [.newToplevel 7, .toplevelMap 0 ⟨0, 0, 640, 480⟩ (fun _ _ => none) true,
        .newPopup (some 7) ⟨⟨0, 0, 9, 9⟩, ⟨0, 0, 9, 9⟩, 9, 9, none, false⟩ true,
        .popupMap 0 ⟨⟨0, 0, 9, 9⟩, ⟨0, 0, 9, 9⟩, 9, 9, none, true⟩ true,
        .popupUnmap 0,
        .popupMap 0 ⟨⟨0, 0, 9, 9⟩, ⟨0, 0, 9, 9⟩, 9, 9, none, true⟩ true,
        .popupDestroy 0]).map fun s => s.calls (.popup 0)) =
      some [.register 200001, .unregister 200001, .register 200001, .unregister 200001] := by
    decide +kernel
  have hwindow : ((texturing.execIf MapsOnceApart texturing.init
      [.newToplevel 7, .toplevelMap 0 ⟨0, 0, 640, 480⟩ (fun _ _ => none) true,
        .toplevelUnmap 0]).map fun s => s.now.registrationCalls) = some [.register 1] := by
    decide +kernel
  obtain ⟨s, hs, hcalls⟩ := Option.map_eq_some_iff.mp hpopup
  obtain ⟨w, hw, hend⟩ := Option.map_eq_some_iff.mp hwindow
  have hreach := Machine.reach_execIf _ .init hs
  have hreach' := Machine.reach_execIf _ .init hw
  exact ⟨⟨s, hreach, hcalls, (reach_balanced s).1 hreach (.popup 0)⟩,
    ⟨w, hreach', hend, (reach_balanced w).2 hreach'⟩⟩

/-- **A window that is mapped again** registers its texture twice. -/
theorem not_balanced_remap : ¬∀ s, texturing.Reachable s → ∀ x, s.Balanced x := by
  intro h
  have hrun : ((texturing.exec texturing.init
      [.newToplevel 7, .toplevelMap 0 ⟨0, 0, 640, 480⟩ (fun _ _ => none) true,
        .toplevelUnmap 0, .toplevelMap 0 ⟨0, 0, 640, 480⟩ (fun _ _ => none) true]).map
      fun s => s.calls (.view 0)) = some [.register 1, .register 1] := by decide +kernel
  obtain ⟨s, hs, hcalls⟩ := Option.map_eq_some_iff.mp hrun
  obtain ⟨handle, -, hreplay⟩ := (h s (Machine.reach_exec _ .init hs) (.view 0)).alternate
  rw [hcalls, replayTexture] at hreplay
  -- the second registration finds the texture registered
  split at hreplay
  · cases hreplay
  · cases hreplay

end TextureState

end FlutterWlroots.Compositor
