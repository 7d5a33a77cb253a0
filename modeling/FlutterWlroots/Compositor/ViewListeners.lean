/-
  FlutterWlroots.Compositor.ViewListeners — the listeners of a toplevel (surface.c, flutter_wlroots.c).

  A `struct fwr_view` holds thirteen listeners.  `fwr_new_xdg_toplevel` links eleven of them to
  signals of the toplevel and its surface, `handle_new_toplevel_decoration` the other two to signals
  of the decoration.  The handler of the toplevel's destruction frees the view; it runs before the
  decoration hears of that, whose own handler would take out the last two.

    • `toplevelDestroy_leaves` — which listeners of a freed view stay linked,
    • `along_noneOutlives_iff` — no listener outlives its view as long as no toplevel goes.

  A listener of a freed view that is called, one that is linked twice, and one that is taken out of
  no list end the run.  Lists that go with their object are kept, with what is still linked there.
-/
import FlutterWlroots.Compositor.TextureEffects
import FlutterWlroots.Lib.Signals

namespace FlutterWlroots.Compositor

open Lib Lib.StateRun

/-! ## §1. Listeners. -/

/-- The members of `struct fwr_view` of type `struct wl_listener`. -/
inductive ViewListener where
  | map
  | unmap
  | destroy
  | commit
  | setTitle
  | setAppId
  | requestMove
  | requestResize
  | requestMinimize
  | requestMaximize
  | newSubsurface
  | decorationRequestMode
  | decorationDestroy
deriving DecidableEq, Repr

/-- What has signals: a `wlr_surface`, an `xdg_toplevel`, an xdg decoration. -/
inductive Owner where
  | surface (xdgSurface : Nat)
  | toplevel (xdgSurface : Nat)
  | decoration (decoration : Nat)
deriving DecidableEq, Repr

/-- A signal, called as the listener for it. -/
structure Signal where
  owner : Owner
  event : ViewListener
deriving DecidableEq, Repr

/-- The part of the compositor that has to do with listeners of views; `decoration` is the member of
    `struct fwr_view`. -/
structure ListenerState where
  compositor : Instance
  decoration : Ptr → Option Nat
  signals : Signals Signal (Ptr × ViewListener)

/-- The listeners that `fwr_new_xdg_toplevel` links, in its order. -/
def toplevelLinks (xdgSurface : Nat) (p : Ptr) : List (Signal × Ptr × ViewListener) :=
  [(⟨.surface xdgSurface, .map⟩, p, .map),
   (⟨.surface xdgSurface, .unmap⟩, p, .unmap),
   (⟨.toplevel xdgSurface, .destroy⟩, p, .destroy),
   (⟨.surface xdgSurface, .commit⟩, p, .commit),
   (⟨.toplevel xdgSurface, .setTitle⟩, p, .setTitle),
   (⟨.toplevel xdgSurface, .setAppId⟩, p, .setAppId),
   (⟨.toplevel xdgSurface, .requestMove⟩, p, .requestMove),
   (⟨.toplevel xdgSurface, .requestResize⟩, p, .requestResize),
   (⟨.toplevel xdgSurface, .requestMinimize⟩, p, .requestMinimize),
   (⟨.toplevel xdgSurface, .requestMaximize⟩, p, .requestMaximize),
   (⟨.surface xdgSurface, .newSubsurface⟩, p, .newSubsurface)]

/-- The listeners that `xdg_toplevel_destroy` takes out, in its order. -/
def toplevelUnlinks : List ViewListener :=
  -- neither the requests to minimize and maximize nor the listeners for a decoration
  [.map, .unmap, .destroy, .commit, .setTitle, .setAppId, .requestMove, .requestResize,
   .newSubsurface]

/-- The listeners that `handle_new_toplevel_decoration` links. -/
def decorationLinks (decoration : Nat) (p : Ptr) : List (Signal × Ptr × ViewListener) :=
  [(⟨.decoration decoration, .decorationRequestMode⟩, p, .decorationRequestMode),
   (⟨.decoration decoration, .decorationDestroy⟩, p, .decorationDestroy)]

/-- The listeners that `handle_decoration_destroy` takes out. -/
def decorationUnlinks : List ViewListener := [.decorationRequestMode, .decorationDestroy]

namespace ListenerState

/-! ## §2. Handlers. -/

def init : ListenerState where
  compositor := .init
  decoration := fun _ => none
  signals := .empty

variable (s : ListenerState)

/-- `fwr_new_xdg_toplevel`; `compositor` is what the rest of it leaves. -/
def fwrNewXdgToplevel (compositor : Instance) (xdgSurface : Nat) : Option ListenerState := do
  let p := s.compositor.viewObjects.next
  let signals ← s.signals.addAll (toplevelLinks xdgSurface p)
  some { compositor, signals, decoration := Function.update s.decoration p none }

/-- `xdg_toplevel_destroy`; `compositor` is what the rest of it leaves. -/
def xdgToplevelDestroy (compositor : Instance) (p : Ptr) : Option ListenerState := do
  let signals ← s.signals.removeAll (toplevelUnlinks.map (p, ·))
  some { s with compositor, signals }

/-- The part of an event that has to do with listeners. -/
def toplevelEvent (compositor : Instance) : Event → Option ListenerState
  | .newToplevel xdgSurface => s.fwrNewXdgToplevel compositor xdgSurface
  | .toplevelDestroy p => s.xdgToplevelDestroy compositor p
  | _ => some { s with compositor }

/-- An event of the compositor. -/
def compositorEvent (e : Event) : Option ListenerState := do
  let compositor ← (s.compositor.handle e).toOption
  s.toplevelEvent compositor e

/-- `handle_new_toplevel_decoration`. -/
def handleNewToplevelDecoration (xdgSurface decoration : Nat) : Option ListenerState := do
  match ← (s.compositor.findView xdgSurface s.compositor.viewsList).toOption with
  | none => some s
  | some p => do
      let signals ← s.signals.addAll (decorationLinks decoration p)
      some { s with signals, decoration := Function.update s.decoration p (some decoration) }

/-- `handle_decoration_request_mode` reads `view->decoration`. -/
def handleDecorationRequestMode (p : Ptr) : Option ListenerState :=
  if s.compositor.viewObjects.Live p ∧ s.decoration p ≠ none then some s else none

/-- `handle_decoration_destroy`. -/
def handleDecorationDestroy (p : Ptr) : Option ListenerState :=
  -- after the view has been freed the listener would be read from freed memory
  if s.compositor.viewObjects.Live p then do
    let signals ← s.signals.removeAll (decorationUnlinks.map (p, ·))
    some { s with signals, decoration := Function.update s.decoration p none }
  else none

/-- A handler called for the listeners of a signal. -/
def emit (handler : ListenerState → Ptr → Option ListenerState) :
    List (Ptr × ViewListener) → ListenerState → Option ListenerState
  | [], s => some s
  | l :: ls, s =>
      match handler s l.1 with
      | some s => emit handler ls s
      | none => none

end ListenerState

/-- What can happen to the listeners. -/
inductive ListenerEvent where
  | compositor (e : Event)
  | newToplevelDecoration (xdgSurface decoration : Nat)
  | decorationRequestMode (decoration : Nat)
  | decorationDestroy (decoration : Nat)

/-- The listeners of the views. -/
def listening : Machine ListenerState ListenerEvent where
  init := .init
  step := fun s e =>
    match e with
    | .compositor e => if s.compositor.Deliverable e then s.compositorEvent e else none
    | .newToplevelDecoration xdgSurface decoration =>
        s.handleNewToplevelDecoration xdgSurface decoration
    | .decorationRequestMode decoration =>
        ListenerState.emit ListenerState.handleDecorationRequestMode
          (s.signals.listeners ⟨.decoration decoration, .decorationRequestMode⟩) s
    | .decorationDestroy decoration =>
        ListenerState.emit ListenerState.handleDecorationDestroy
          (s.signals.listeners ⟨.decoration decoration, .decorationDestroy⟩) s

/-! ## §3. The property. -/

namespace ListenerState

/-- The view has been there and has been freed. -/
def Freed (s : ListenerState) (p : Ptr) : Prop :=
  p < s.compositor.viewObjects.next ∧ ¬ s.compositor.viewObjects.Live p

instance (s : ListenerState) (p : Ptr) : Decidable (s.Freed p) :=
  inferInstanceAs (Decidable (_ ∧ _))

/-- **No listener of a freed view is linked.** -/
def NoneOutlives (s : ListenerState) : Prop :=
  ∀ p, s.Freed p → ∀ name, ¬ s.signals.Linked (p, name)

end ListenerState

/-- The event destroys no toplevel. -/
def KeepsToplevels : ListenerEvent → Prop
  | .compositor (.toplevelDestroy _) => False
  | _ => True

instance : (e : ListenerEvent) → Decidable (KeepsToplevels e)
  | .compositor e => by
      unfold KeepsToplevels
      split <;> infer_instance
  | .newToplevelDecoration .. | .decorationRequestMode _ | .decorationDestroy _ => .isTrue trivial

/-! ## §4. Which views there are. -/

section Views

variable {s s' : Instance} {p q : Ptr}

theorem live_iff_record :
    s.viewObjects.Live p ↔ (s.tables.views.records p).isSome := by
  rw [Store.live_iff]
  show _ ↔ ((s.viewObjects.get p).map _).isSome
  rw [Option.isSome_map, Option.isSome_iff_exists]

/-- Two events only change which views there are. -/
theorem handle_views {e : Event} (h : s.handle e = .ok s') (hnew : ∀ x, e ≠ .newToplevel x)
    (hgone : ∀ p, e ≠ .toplevelDestroy p) :
    s'.viewObjects.next = s.viewObjects.next ∧
      ∀ p, s'.viewObjects.Live p ↔ s.viewObjects.Live p := by
  have heffect := Instance.handle_effect h
  suffices hviews : s'.tables.views.next = s.tables.views.next ∧
      ∀ p, (s'.tables.views.records p).isSome ↔ (s.tables.views.records p).isSome by
    refine ⟨hviews.1, fun p => ?_⟩
    rw [live_iff_record, live_iff_record]
    exact hviews.2 p
  generalize s'.tables = t at heffect
  cases heffect with
  | newToplevel => exact absurd rfl (hnew _)
  | toplevelDestroy => exact absurd rfl (hgone _)
  | @toplevelMap p geo layout registered r hr =>
      refine ⟨rfl, fun q => ?_⟩
      show (Function.update s.tables.views.records p _ q).isSome ↔ _
      by_cases hq : q = p
      · rw [hq, Function.update_self, hr]
        exact Iff.rfl
      · rw [Function.update_of_ne hq]
  | _ => exact ⟨rfl, fun _ => Iff.rfl⟩

theorem fwrNewXdgToplevel_views {xdgSurface : Nat}
    (h : s.fwrNewXdgToplevel xdgSurface = .ok s') :
    s'.viewObjects.next = s.viewObjects.next + 1 ∧
      ∀ p, s'.viewObjects.Live p ↔ p = s.viewObjects.next ∨ s.viewObjects.Live p := by
  cases h
  exact ⟨rfl, fun p => Store.live_alloc⟩

theorem xdgToplevelDestroy_views (h : s.xdgToplevelDestroy p = .ok s') :
    s'.viewObjects.next = s.viewObjects.next ∧
      ∀ q, s'.viewObjects.Live q ↔ q ≠ p ∧ s.viewObjects.Live q := by
  obtain ⟨view, hview, htables⟩ := Instance.xdgToplevelDestroy_tables h
  have hviews : s'.tables.views = s.tables.views.destroy p view.handle := congrArg (·.views) htables
  refine ⟨congrArg Table.next hviews, fun q => ?_⟩
  rw [live_iff_record, live_iff_record, hviews]
  show (Function.update s.tables.views.records p none q).isSome ↔ _
  by_cases hq : q = p
  · rw [hq, Function.update_self]
    exact ⟨nofun, fun h => absurd rfl h.1⟩
  · rw [Function.update_of_ne hq, and_iff_right hq]

end Views

/-! ## §5. What is linked. -/

section Links

variable {xdgSurface decoration : Nat} {p q : Ptr} {name : ViewListener}

theorem mem_toplevelLinks :
    (q, name) ∈ (toplevelLinks xdgSurface p).map Prod.snd ↔ q = p ∧ name ∉ decorationUnlinks := by
  cases name <;> simp [toplevelLinks, decorationUnlinks]

theorem mem_decorationLinks :
    (q, name) ∈ (decorationLinks decoration p).map Prod.snd ↔
      q = p ∧ name ∈ decorationUnlinks := by
  cases name <;> simp [decorationLinks, decorationUnlinks]

theorem mem_ofView {names : List ViewListener} :
    (q, name) ∈ names.map (p, ·) ↔ q = p ∧ name ∈ names := by
  rw [List.mem_map]
  constructor
  · rintro ⟨name', hmem, heq⟩
    cases heq
    exact ⟨rfl, hmem⟩
  · rintro ⟨rfl, hmem⟩
    exact ⟨name, hmem, rfl⟩

end Links

namespace ListenerState

/-- A view that is there has its eleven listeners linked, and the other two as long as it has a
    decoration. -/
structure Attached (s : ListenerState) : Prop where
  toplevel : ∀ p, s.compositor.viewObjects.Live p → ∀ name ∉ decorationUnlinks,
    s.signals.Linked (p, name)
  decoration : ∀ p, ∀ name ∈ decorationUnlinks,
    s.signals.Linked (p, name) ↔ s.decoration p ≠ none
  known : ∀ p, s.decoration p ≠ none → p < s.compositor.viewObjects.next

variable {s s' : ListenerState} {p : Ptr} {compositor : Instance} {xdgSurface decoration : Nat}

theorem attached_init : Attached init where
  toplevel := fun p hp => absurd hp (AList.notMem_empty p)
  decoration := fun _ _ _ => iff_of_false Signals.not_linked_empty (fun h => h rfl)
  known := fun _ h => absurd rfl h

/-- Which views there are does not change. -/
theorem Attached.congr (h : Attached s) (hnext : compositor.viewObjects.next
      = s.compositor.viewObjects.next)
    (hlive : ∀ p, compositor.viewObjects.Live p ↔ s.compositor.viewObjects.Live p) :
    Attached { s with compositor } where
  toplevel := fun p hp => h.toplevel p ((hlive p).mp hp)
  decoration := h.decoration
  known := fun p hp => hnext ▸ h.known p hp

theorem Attached.newToplevel (h : Attached s)
    (hcompositor : s.compositor.fwrNewXdgToplevel xdgSurface = .ok compositor)
    (hs : s.fwrNewXdgToplevel compositor xdgSurface = some s') : Attached s' := by
  obtain ⟨hnext, hlive⟩ := fwrNewXdgToplevel_views hcompositor
  obtain ⟨signals, hsignals, hs⟩ := Option.bind_eq_some_iff.mp hs
  cases hs
  refine ⟨fun q hq name hname => ?_, fun q name hname => ?_, fun q hq => ?_⟩
  · rw [Signals.linked_addAll hsignals, mem_toplevelLinks]
    rcases (hlive q).mp hq with rfl | hq
    · exact .inl ⟨rfl, hname⟩
    · exact .inr (h.toplevel q hq name hname)
  · rw [Signals.linked_addAll hsignals, mem_toplevelLinks, h.decoration q name hname,
      or_iff_right fun hnew => hnew.2 hname]
    -- the new view has had no decoration
    show _ ↔ Function.update s.decoration s.compositor.viewObjects.next none q ≠ none
    by_cases hq : q = s.compositor.viewObjects.next
    · rw [hq, Function.update_self]
      exact iff_of_false (fun hne => Nat.lt_irrefl _ (h.known _ hne)) (fun hne => hne rfl)
    · rw [Function.update_of_ne hq]
  · rw [hnext]
    obtain ⟨decoration, hdecoration⟩ := Option.ne_none_iff_exists'.mp hq
    obtain ⟨-, hdecoration⟩ := of_update_none hdecoration
    exact Nat.lt_succ_of_lt (h.known q (by rw [hdecoration]; nofun))

theorem Attached.toplevelDestroy (h : Attached s)
    (hcompositor : s.compositor.xdgToplevelDestroy p = .ok compositor)
    (hs : s.xdgToplevelDestroy compositor p = some s') : Attached s' := by
  obtain ⟨hnext, hlive⟩ := xdgToplevelDestroy_views hcompositor
  obtain ⟨signals, hsignals, hs⟩ := Option.bind_eq_some_iff.mp hs
  cases hs
  refine ⟨fun q hq name hname => ?_, fun q name hname => ?_, fun q hq => hnext ▸ h.known q hq⟩
  · obtain ⟨hne, hq⟩ := (hlive q).mp hq
    rw [Signals.linked_removeAll hsignals, mem_ofView]
    exact ⟨fun hgone => hne hgone.1, h.toplevel q hq name hname⟩
  · rw [Signals.linked_removeAll hsignals, mem_ofView, h.decoration q name hname]
    refine and_iff_right fun hgone => ?_
    revert hname
    cases name <;> first | exact absurd hgone.2 (by decide) | decide

/-- A view that gets or loses a decoration, and the listeners for it. -/
theorem Attached.redecorate (h : Attached s) {signals : Signals Signal (Ptr × ViewListener)}
    {decoration : Option Nat} (hp : p < s.compositor.viewObjects.next)
    (hself : ∀ name ∈ decorationUnlinks, signals.Linked (p, name) ↔ decoration ≠ none)
    (hother : ∀ q name, (q = p → name ∉ decorationUnlinks) →
      (signals.Linked (q, name) ↔ s.signals.Linked (q, name))) :
    Attached { s with signals, decoration := Function.update s.decoration p decoration } := by
  refine ⟨fun q hq name hname => ?_, fun q name hname => ?_, fun q hq => ?_⟩
  · exact (hother q name fun _ => hname).mpr (h.toplevel q hq name hname)
  · show _ ↔ Function.update s.decoration p decoration q ≠ none
    by_cases hq : q = p
    · rw [hq, Function.update_self]
      exact hself name hname
    · rw [Function.update_of_ne hq, hother q name fun heq => absurd heq hq]
      exact h.decoration q name hname
  · change Function.update s.decoration p decoration q ≠ none at hq
    by_cases hq' : q = p
    · exact hq' ▸ hp
    · rw [Function.update_of_ne hq'] at hq
      exact h.known q hq

theorem Attached.newDecoration (h : Attached s)
    (hs : s.handleNewToplevelDecoration xdgSurface decoration = some s') : Attached s' := by
  obtain ⟨found, hfound, hs⟩ := Option.bind_eq_some_iff.mp hs
  cases found with
  | none =>
      cases hs
      exact h
  | some p =>
      have hp : s.compositor.viewObjects.Live p :=
        (Instance.findView_mem (toOption_eq_some.mp hfound)).2
      obtain ⟨signals, hsignals, hs⟩ := Option.bind_eq_some_iff.mp hs
      cases hs
      refine h.redecorate (s.compositor.viewObjects.fresh p hp) (fun name hname => ?_)
        fun q name hother => ?_
      · rw [Signals.linked_addAll hsignals, mem_decorationLinks]
        exact iff_of_true (.inl ⟨rfl, hname⟩) nofun
      · rw [Signals.linked_addAll hsignals, mem_decorationLinks]
        exact or_iff_right fun hnew => hother hnew.1 hnew.2

theorem Attached.decorationDestroy (h : Attached s) (hs : s.handleDecorationDestroy p = some s') :
    Attached s' := by
  unfold handleDecorationDestroy at hs
  split at hs
  next hp =>
    obtain ⟨signals, hsignals, hs⟩ := Option.bind_eq_some_iff.mp hs
    cases hs
    refine h.redecorate (s.compositor.viewObjects.fresh p hp) (fun name hname => ?_)
      fun q name hother => ?_
    · rw [Signals.linked_removeAll hsignals, mem_ofView]
      exact iff_of_false (fun hkept => hkept.1 ⟨rfl, hname⟩) (fun hne => hne rfl)
    · rw [Signals.linked_removeAll hsignals, mem_ofView]
      exact and_iff_right fun hgone => hother hgone.1 hgone.2
  next => cases hs

theorem requestMode_same (hs : s.handleDecorationRequestMode p = some s') : s' = s := by
  unfold handleDecorationRequestMode at hs
  split at hs
  next =>
    cases hs
    rfl
  next => cases hs

/-- What every call of a handler keeps is kept by the signal. -/
theorem emit_invariant {P : ListenerState → Prop}
    {handler : ListenerState → Ptr → Option ListenerState}
    (hkeeps : ∀ s p s', P s → handler s p = some s' → P s') :
    ∀ {ls : List (Ptr × ViewListener)} {s s' : ListenerState}, P s → emit handler ls s = some s' →
      P s'
  | [], s, s', hs, h => by
      cases h
      exact hs
  | l :: ls, s, s', hs, h => by
      rw [emit] at h
      split at h
      next s1 hcall => exact emit_invariant hkeeps (hkeeps s l.1 s1 hs hcall) h
      next => cases h

/-! ## §6. Steps. -/

/-- No view has been freed. -/
def NoneFreed (s : ListenerState) : Prop := ∀ p, ¬ s.Freed p

theorem noneFreed_init : NoneFreed init := fun p h => absurd h.1 (Nat.not_lt_zero p)

theorem NoneFreed.noneOutlives (h : NoneFreed s) : s.NoneOutlives := fun p hp => absurd hp (h p)

/-- What the compositor has done when its event is over. -/
theorem compositorEvent_ok {e : Event} (hs : s.compositorEvent e = some s') :
    ∃ compositor, s.compositor.handle e = .ok compositor ∧
      s.toplevelEvent compositor e = some s' := by
  obtain ⟨compositor, hcompositor, hs⟩ := Option.bind_eq_some_iff.mp hs
  exact ⟨compositor, toOption_eq_some.mp hcompositor, hs⟩

/-- What an event of the compositor does: a toplevel comes, a toplevel goes, or neither views nor
    listeners change. -/
theorem step_compositor {e : Event} (hs : listening.step s (.compositor e) = some s') :
    (∃ x compositor, e = .newToplevel x ∧ s.compositor.fwrNewXdgToplevel x = .ok compositor ∧
      s.fwrNewXdgToplevel compositor x = some s') ∨
    (∃ p compositor, e = .toplevelDestroy p ∧ s.compositor.viewObjects.Live p ∧
      s.compositor.xdgToplevelDestroy p = .ok compositor ∧
        s.xdgToplevelDestroy compositor p = some s') ∨
    (∀ p, e ≠ .toplevelDestroy p) ∧ ∃ compositor, s' = { s with compositor } ∧
      compositor.viewObjects.next = s.compositor.viewObjects.next ∧
        ∀ p, compositor.viewObjects.Live p ↔ s.compositor.viewObjects.Live p := by
  change (if s.compositor.Deliverable e then s.compositorEvent e else none) = some s' at hs
  split at hs
  next hdeliverable =>
    obtain ⟨compositor, hcompositor, hs⟩ := compositorEvent_ok hs
    by_cases hnew : ∃ x, e = .newToplevel x
    · obtain ⟨x, rfl⟩ := hnew
      exact .inl ⟨x, compositor, rfl, hcompositor, hs⟩
    · by_cases hgone : ∃ p, e = .toplevelDestroy p
      · obtain ⟨p, rfl⟩ := hgone
        exact .inr (.inl ⟨p, compositor, rfl, hdeliverable (.view p) rfl, hcompositor, hs⟩)
      · refine .inr (.inr ⟨not_exists.mp hgone, compositor, ?_,
          handle_views hcompositor (not_exists.mp hnew) (not_exists.mp hgone)⟩)
        cases e <;> first
          | exact absurd ⟨_, rfl⟩ hnew
          | exact absurd ⟨_, rfl⟩ hgone
          | exact (Option.some.inj hs).symm
  next => cases hs

/-- Decorations do not change which views there are. -/
theorem decoration_compositor {e : ListenerEvent} (he : ∀ e', e ≠ .compositor e')
    (hs : listening.step s e = some s') : s'.compositor = s.compositor := by
  cases e with
  | compositor e' => exact absurd rfl (he e')
  | newToplevelDecoration xdgSurface decoration =>
      obtain ⟨found, -, hs⟩ := Option.bind_eq_some_iff.mp hs
      cases found with
      | none =>
          cases hs
          rfl
      | some p =>
          obtain ⟨signals, -, hs⟩ := Option.bind_eq_some_iff.mp hs
          cases hs
          rfl
  | decorationRequestMode decoration =>
      refine emit_invariant (P := fun x => x.compositor = s.compositor) (fun x p x' hx hcall => ?_)
        rfl hs
      exact (congrArg ListenerState.compositor (requestMode_same hcall)).trans hx
  | decorationDestroy decoration =>
      refine emit_invariant (P := fun x => x.compositor = s.compositor) (fun x p x' hx hcall => ?_)
        rfl hs
      unfold handleDecorationDestroy at hcall
      split at hcall
      next =>
        obtain ⟨signals, -, hcall⟩ := Option.bind_eq_some_iff.mp hcall
        cases hcall
        exact hx
      next => cases hcall

/-- **One step.** -/
theorem Attached.step {e : ListenerEvent} (h : Attached s) (hs : listening.step s e = some s') :
    Attached s' := by
  cases e with
  | newToplevelDecoration xdgSurface decoration => exact h.newDecoration hs
  | decorationRequestMode decoration =>
      exact emit_invariant (fun x p x' hx hcall => requestMode_same hcall ▸ hx) h hs
  | decorationDestroy decoration =>
      exact emit_invariant (fun x p x' hx hcall => hx.decorationDestroy hcall) h hs
  | compositor e =>
      obtain ⟨x, compositor, rfl, hcompositor, hs⟩ | ⟨p, compositor, rfl, -, hcompositor, hs⟩ |
        ⟨-, compositor, rfl, hnext, hlive⟩ := step_compositor hs
      · exact h.newToplevel hcompositor hs
      · exact h.toplevelDestroy hcompositor hs
      · exact h.congr hnext hlive

/-- As long as no toplevel goes, no view is freed. -/
theorem NoneFreed.step {e : ListenerEvent} (h : NoneFreed s) (he : KeepsToplevels e)
    (hs : listening.step s e = some s') : NoneFreed s' := by
  by_cases hother : ∀ e', e ≠ .compositor e'
  · intro p hp
    unfold Freed at hp
    rw [decoration_compositor hother hs] at hp
    exact h p hp
  · obtain ⟨e, rfl⟩ := not_forall_not.mp hother
    obtain ⟨x, compositor, rfl, hcompositor, hs⟩ | ⟨p, compositor, rfl, -⟩ |
      ⟨-, compositor, rfl, hnext, hlive⟩ := step_compositor hs
    · -- the view that is new is there
      obtain ⟨hnext, hlive⟩ := fwrNewXdgToplevel_views hcompositor
      obtain ⟨signals, -, hs⟩ := Option.bind_eq_some_iff.mp hs
      cases hs
      rintro p ⟨hp, hfreed⟩
      rw [show compositor.viewObjects.next = _ from hnext] at hp
      obtain ⟨hne, hfreed⟩ := not_or.mp fun hor => hfreed ((hlive p).mpr hor)
      exact h p ⟨Nat.lt_of_le_of_ne (Nat.lt_succ_iff.mp hp) hne, hfreed⟩
    · exact he.elim
    · rintro p ⟨hp, hfreed⟩
      exact h p ⟨hnext ▸ hp, fun hp' => hfreed ((hlive p).mpr hp')⟩

/-- **What stays linked**: the requests to minimize and maximize, and both listeners for the
    decoration if there is one. -/
theorem toplevelDestroy_leaves (h : Attached s) (hp : s.compositor.viewObjects.Live p) :
    ∃ s', listening.step s (.compositor (.toplevelDestroy p)) = some s' ∧ s'.Freed p ∧
      ∀ name, s'.signals.Linked (p, name) ↔ name = .requestMinimize ∨ name = .requestMaximize ∨
        name ∈ decorationUnlinks ∧ s.decoration p ≠ none := by
  obtain ⟨view, hview⟩ := Instance.deref_of_live .freedView hp
  obtain ⟨compositor, hcompositor⟩ :
      ∃ compositor, s.compositor.xdgToplevelDestroy p = .ok compositor := by
    unfold Instance.xdgToplevelDestroy
    rw [show s.compositor.view p = .ok view from hview]
    exact ⟨_, rfl⟩
  obtain ⟨signals, hsignals⟩ : ∃ signals,
      s.signals.removeAll (toplevelUnlinks.map (p, ·)) = some signals := by
    refine Signals.exists_removeAll ((List.nodup_map_iff fun _ _ => congrArg Prod.snd).mpr
      (by decide)) fun l hl => ?_
    obtain ⟨hl', hname⟩ := mem_ofView.mp (show (l.1, l.2) ∈ _ from hl)
    have hlinked := h.toplevel p hp l.2 (by revert hname; cases l.2 <;> decide)
    rwa [← hl'] at hlinked
  obtain ⟨hnext, hlive⟩ := xdgToplevelDestroy_views hcompositor
  refine ⟨{ s with compositor, signals }, ?_, ⟨?_, fun hp' => ((hlive p).mp hp').1 rfl⟩,
    fun name => ?_⟩
  · have hdeliverable : s.compositor.Deliverable (.toplevelDestroy p) := by
      rintro x ⟨⟩
      exact hp
    show (if s.compositor.Deliverable (.toplevelDestroy p) then _ else none) = _
    rw [if_pos hdeliverable, compositorEvent, show s.compositor.handle (.toplevelDestroy p)
      = .ok compositor from hcompositor]
    show s.xdgToplevelDestroy compositor p = _
    rw [xdgToplevelDestroy, hsignals]
    rfl
  · show p < compositor.viewObjects.next
    rw [hnext]
    exact s.compositor.viewObjects.fresh p hp
  · rw [Signals.linked_removeAll hsignals, mem_ofView, and_iff_right rfl]
    by_cases hname : name ∈ decorationUnlinks
    · rw [h.decoration p name hname]
      revert hname
      cases name <;> simp [decorationUnlinks, toplevelUnlinks]
    · have hlinked := h.toplevel p hp name hname
      revert hname
      cases name <;> simp [decorationUnlinks, toplevelUnlinks, hlinked]

/-! ## §7. Runs. -/

theorem along_iff {es : List ListenerEvent} (hattached : Attached s) (hfreed : NoneFreed s)
    (hrun : (listening.exec s es).isSome) :
    listening.Along NoneOutlives s es ↔ ∀ e ∈ es, KeepsToplevels e := by
  induction es generalizing s with
  | nil => exact iff_of_true hfreed.noneOutlives fun _ he => absurd he List.not_mem_nil
  | cons e es ih =>
      rw [Machine.exec] at hrun
      split at hrun
      next s1 hstep =>
        have halong : listening.Along NoneOutlives s (e :: es) ↔
            listening.Along NoneOutlives s1 es := by
          refine ⟨fun h => h.2 s1 hstep, fun h => ⟨hfreed.noneOutlives, fun s' hs' => ?_⟩⟩
          exact Option.some.inj (hstep.symm.trans hs') ▸ h
        rw [halong, List.forall_mem_cons]
        by_cases he : KeepsToplevels e
        · rw [ih (hattached.step hstep) (hfreed.step he hstep) hrun, and_iff_right he]
        · -- a toplevel goes, and the state after that has listeners of its view
          refine iff_of_false (fun h => ?_) fun h => he h.1
          obtain ⟨p, rfl⟩ : ∃ p, e = .compositor (.toplevelDestroy p) := by
            unfold KeepsToplevels at he
            split at he
            next p => exact ⟨p, rfl⟩
            next => exact absurd trivial he
          have hp : s.compositor.viewObjects.Live p := by
            obtain ⟨x, -, heq, -⟩ | ⟨q, -, heq, hq, -⟩ | ⟨hother, -⟩ := step_compositor hstep
            · cases heq
            · cases heq
              exact hq
            · exact absurd rfl (hother p)
          obtain ⟨s', hs', hgone, hleft⟩ := toplevelDestroy_leaves hattached hp
          cases Option.some.inj (hstep.symm.trans hs')
          exact h.head p hgone .requestMinimize ((hleft _).mpr (.inl rfl))
      next => cases hrun

end ListenerState

/-- **No listener outlives its view exactly as long as no toplevel is destroyed.** -/
theorem along_noneOutlives_iff (es : List ListenerEvent)
    (h : (listening.exec listening.init es).isSome) :
    listening.Along ListenerState.NoneOutlives listening.init es ↔ ∀ e ∈ es, KeepsToplevels e :=
  ListenerState.along_iff ListenerState.attached_init ListenerState.noneFreed_init h

/-- A window whose client asks for a decoration, drops it, and closes the window. -/
def decoratedWindow : List ListenerEvent :=
  [.compositor (.newToplevel 7), .newToplevelDecoration 7 1, .decorationRequestMode 1,
   .decorationDestroy 1, .compositor (.toplevelDestroy 0)]

theorem along_noneOutlives_iff_decorated :
    listening.Along ListenerState.NoneOutlives listening.init decoratedWindow ↔
      ∀ e ∈ decoratedWindow, KeepsToplevels e :=
  along_noneOutlives_iff decoratedWindow (by decide +kernel)

/-- **Four listeners of a decorated window are linked after its toplevel has gone.** -/
theorem not_noneOutlives_decorated :
    ¬ ∀ es, listening.Along ListenerState.NoneOutlives listening.init es := by
  intro hall
  have hrun : (listening.exec listening.init [.compositor (.newToplevel 7),
      .newToplevelDecoration 7 1, .compositor (.toplevelDestroy 0)]).map
        (fun s => (decide (s.Freed 0), s.signals.linked.map Prod.snd))
      = some (true, [(0, .requestMinimize), (0, .requestMaximize), (0, .decorationRequestMode),
          (0, .decorationDestroy)]) := by decide +kernel
  obtain ⟨s, hs, hend⟩ := Option.map_eq_some_iff.mp hrun
  obtain ⟨hfreed, hlinked⟩ := Prod.mk.inj hend
  refine (hall _).exec hs 0 (of_decide_eq_true hfreed) .decorationDestroy ?_
  unfold Signals.Linked
  rw [hlinked]
  decide

end FlutterWlroots.Compositor
