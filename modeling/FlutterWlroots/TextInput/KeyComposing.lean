/-
  FlutterWlroots.TextInput.KeyComposing — keys and the composing range.

  No key touches `composing_base` and `composing_extent`; they go to Flutter as they are.  A key that
  takes something out of the text leaves them behind its end if the range reached into the last
  bytes: `KeepsRange` says how long the text has to be for each key.

    • `editsWithin_key`         — the text after each key, with nothing but its length,
    • `handleKey_composing_iff` — what is sent.
-/
import FlutterWlroots.TextInput.KeyEditing

namespace FlutterWlroots.TextInput.TextInputState

open Lib Lib.CInt

variable {s s' : TextInputState} {f f' : TextField UInt8} {str : List UInt8}

/-! ## §1. The range. -/

/-- Both are −1, or the range lies in the text. -/
def ComposingKept (s : TextInputState) : Prop :=
  (s.composingBase = -1 ∧ s.composingExtent = -1)
    ∨ (0 ≤ s.composingBase ∧ s.composingBase ≤ s.composingExtent
      ∧ s.composingExtent ≤ s.textLength)

/-- The number of selected bytes. -/
def selected (s : TextInputState) : Nat := (s.selectionBase - s.selectionExtent).natAbs

/-- The text does not become too short when the bytes replace the selection, if they fit in. -/
def InsertKeeps (s : TextInputState) (str : List UInt8) : Prop :=
  s.textLength + str.length < textInputMaxLength →
    s.composingExtent + s.selected ≤ s.textLength + str.length

/-- The text does not become too short by the key. -/
def KeepsRange (s : TextInputState) (keysym : Keysym) (unicode : UInt32) : Prop :=
  match keysym with
  | .backSpace =>
      if s.selectionBase ≠ s.selectionExtent then s.composingExtent + s.selected ≤ s.textLength
      else 0 < s.selectionBase → s.composingExtent < s.textLength
  | .delete =>
      if s.selectionBase ≠ s.selectionExtent then s.composingExtent + s.selected ≤ s.textLength
      else s.selectionBase < s.textLength → s.composingExtent < s.textLength
  | .left | .right | .home | .endKey | .tab => True
  | .returnKey | .kpEnter => s.multiline = true → s.InsertKeeps [10]
  | .other => unicode ≥ 0x20 ∧ unicode ≠ 0x7F → s.InsertKeeps (utf8 unicode)

/-! ## §2. The length of the text. -/

theorem Represents.selected_eq (h : s.Represents f) : s.selected = f.stop - f.start := by
  have hbase := h.base
  have hextent := h.extent
  unfold selected TextField.stop TextField.start
  omega

theorem length_replace (f : TextField UInt8) (str : List UInt8) :
    (f.replace str).text.length + (f.stop - f.start) = f.text.length + str.length := by
  have hle := f.start_le_stop
  have hstop := f.stop_le
  simp only [TextField.replace, TextField.caretAt, List.length_append, List.length_take,
    List.length_drop]
  omega

theorem length_remove (f : TextField UInt8) (pos : Nat) (h : pos < f.text.length) :
    (f.remove pos h).text.length + 1 = f.text.length := by
  simp only [TextField.remove, TextField.caretAt, List.length_append, List.length_take,
    List.length_drop]
  omega

/-- The edit has a result that leaves the range alone, and the text is long enough for the range, if
    it has changed, exactly under the condition. -/
def EditsWithin (s : TextInputState) (r : Option (TextInputState × Bool)) (q : Prop) : Prop :=
  ∃ s' changed, r = some (s', changed) ∧ s'.composingBase = s.composingBase
    ∧ s'.composingExtent = s.composingExtent
    ∧ ((changed = true → s.composingExtent ≤ s'.textLength) ↔ q)

theorem editsWithin_none (s : TextInputState) {q : Prop} (hq : q) : s.EditsWithin (some (s, false)) q :=
  ⟨s, false, rfl, rfl, rfl, iff_of_true nofun hq⟩

/-- An edit with a known field afterwards. -/
theorem Becomes.editsWithin (h : s.Becomes s' f') {q : Prop}
    (hq : s.composingExtent ≤ f'.text.length ↔ q) : s.EditsWithin (some (s', true)) q := by
  refine ⟨s', true, rfl, ?_, ?_, ?_⟩
  · rw [h.frame]
  · rw [h.frame]
  · rw [h.represents.length, ← hq]
    exact ⟨fun hle => hle rfl, fun hle _ => hle⟩

theorem Represents.editsWithin_delete (h : s.Represents f) : s.EditsWithin
    (s.deleteSelection.map (·, true)) (s.composingExtent + s.selected ≤ s.textLength) := by
  obtain ⟨s', hs', h'⟩ := h.deleteSelection
  rw [hs', Option.map_some]
  have hlength := length_replace f []
  rw [List.length_nil] at hlength
  refine h'.editsWithin ?_
  rw [h.selected_eq, h.length]
  omega

theorem Represents.editsWithin_insert (h : s.Represents f)
    (hkept : s.composingExtent ≤ s.textLength) (hstr : 0 ∉ str) (hshort : str.length ≤ 8) :
    s.EditsWithin ((s.insertText str).map (·, true)) (s.InsertKeeps str) := by
  obtain ⟨s', hs', h'⟩ := h.insertText hstr hshort
  rw [hs', Option.map_some]
  refine h'.editsWithin ?_
  rw [InsertKeeps, h.selected_eq, h.length, TextField.insert]
  rw [h.length] at hkept
  split
  next hfull => exact iff_of_true hkept fun hroom => absurd hfull (Nat.not_le.mpr hroom)
  next hroom =>
    have hlength := length_replace f str
    constructor
    · intro hle _
      omega
    · intro hle
      have hfits := hle (Nat.not_le.mp hroom)
      omega

/-- **Every key**, with the length of the text that it leaves. -/
theorem Represents.editsWithin_key (h : s.Represents f) (hkept : s.composingExtent ≤ s.textLength)
    (keysym : Keysym) (unicode : UInt32) :
    s.EditsWithin (s.editKey keysym unicode) (s.KeepsRange keysym unicode) := by
  have hbase := h.base
  have hextent := h.extent
  have hlength := h.length
  have hint := h.toInt32_length
  have hle := f.base_le
  have hcaret : ∀ {x : Int} (pos : Nat), x = pos → pos ≤ f.text.length →
      s.EditsWithin (some ({ s with selectionBase := x, selectionExtent := x }, true)) True :=
    fun pos hx hpos => (h.moveCaret hx hpos).editsWithin (iff_of_true (hlength ▸ hkept) trivial)
  have hreturn : s.EditsWithin (if s.multiline then (s.insertText [10]).map (·, true)
      else some (s, false)) (s.multiline = true → s.InsertKeeps [10]) := by
    split
    next hmulti =>
      rw [forall_prop_of_true hmulti]
      exact h.editsWithin_insert hkept (by decide) (by decide)
    next hmulti => exact s.editsWithin_none fun hline => absurd hline hmulti
  cases keysym with
  | backSpace =>
      unfold TextInputState.editKey KeepsRange
      dsimp only
      split
      next => exact h.editsWithin_delete
      next heq =>
        split
        next hpos =>
          have hx : s.selectionBase - 1 = ((f.base - 1 : Nat) : Int) := by omega
          obtain ⟨text, textLength, hs', h'⟩ := h.deleteByte (f.base - 1) (by omega)
          have hremove := length_remove f (f.base - 1) (by omega)
          rw [hx, hs', Option.map_some]
          exact (h' hx hx).editsWithin (by omega)
        next hpos => exact s.editsWithin_none fun hlt => absurd hlt hpos
  | delete =>
      unfold TextInputState.editKey KeepsRange
      dsimp only
      rw [hint]
      split
      next => exact h.editsWithin_delete
      next heq =>
        split
        next hlt =>
          obtain ⟨text, textLength, hs', h'⟩ := h.deleteByte f.base (by omega)
          have hremove := length_remove f f.base (by omega)
          rw [hbase, hs', Option.map_some]
          exact (h' hbase (by omega)).editsWithin (by omega)
        next hlt => exact s.editsWithin_none fun hcaret => absurd (hlength ▸ hcaret) hlt
  | left =>
      unfold TextInputState.editKey
      dsimp only
      split
      next hpos => exact hcaret (f.base - 1) (by omega) (by omega)
      next => exact s.editsWithin_none trivial
  | right =>
      unfold TextInputState.editKey
      dsimp only
      rw [hint]
      split
      next hlt => exact hcaret (f.base + 1) (by omega) (by omega)
      next => exact s.editsWithin_none trivial
  | home => exact hcaret 0 rfl (Nat.zero_le _)
  | endKey => exact hcaret f.text.length hint (Nat.le_refl _)
  | returnKey => exact hreturn
  | kpEnter => exact hreturn
  | tab => exact s.editsWithin_none trivial
  | other =>
      unfold TextInputState.editKey KeepsRange
      dsimp only
      split
      next hprintable =>
        obtain ⟨hnul, hfour⟩ := utf8_nulFree hprintable.1
        rw [forall_prop_of_true hprintable]
        exact h.editsWithin_insert hkept hnul hfour
      next hnot => exact s.editsWithin_none fun hprintable => absurd hprintable hnot

/-! ## §3. What is sent. -/

/-- **The composing range that Flutter gets** is none or lies in the new text, in every editing state
    that a key sends, if and only if there was none before or the key does not make the text too short
    for it. -/
theorem handleKey_composing_iff (s : TextInputState) (f : TextField UInt8) (keysym : Keysym)
    (unicode : UInt32) (pressed : Bool) (hactive : s.active = true) (h : s.Represents f)
    (hkept : s.ComposingKept) :
    ∃ s' sent, s.fwrTextInputHandleKey keysym unicode pressed = some (s', sent)
      ∧ ((∀ state, .updateEditingState state ∈ sent → state.ComposingKept)
        ↔ (pressed = true → (s.composingBase = -1 ∧ s.composingExtent = -1)
          ∨ s.KeepsRange keysym unicode)) := by
  cases pressed with
  | false => exact ⟨s, [], if_pos (.inr nofun), iff_of_true nofun nofun⟩
  | true =>
      have hlength : s.composingExtent ≤ s.textLength := by
        rcases hkept with ⟨-, hnone⟩ | ⟨-, -, hle⟩
        · omega
        · exact hle
      obtain ⟨s', changed, hs', hbase, hextent, hiff⟩ := h.editsWithin_key hlength keysym unicode
      refine ⟨s', s'.sent keysym changed, ?_, ?_⟩
      · rw [fwrTextInputHandleKey, if_neg (by simp [hactive]), hs', Option.map_some]
      · rw [← hiff, forall_prop_of_true rfl]
        cases changed with
        | false =>
            have hsent : ∀ state, ClientCall.updateEditingState state ∉ s'.sent keysym false := by
              cases keysym <;> simp [TextInputState.sent]
            exact iff_of_true (fun state hmem => absurd hmem (hsent state)) (.inr nofun)
        | true =>
            have hsent : ∀ state, ClientCall.updateEditingState state ∈ s'.sent keysym true
                ↔ state = s' := by
              cases keysym <;> simp [TextInputState.sent]
            simp only [hsent, forall_eq, ComposingKept, hbase, hextent,
              forall_prop_of_true]
            -- a range lies in the text if its end does
            rcases hkept with ⟨hb, hx⟩ | ⟨hb, hle, -⟩
            · exact iff_of_true (.inl ⟨hb, hx⟩) (.inl ⟨hb, hx⟩)
            · rw [and_iff_right hb, and_iff_right hle]

/-- "abc" with a composing range up to its end and the caret behind it. -/
def composingAtEnd : TextInputState :=
  { init with
    active := true
    text := ⟨[97, 98, 99, 0] ++ List.replicate 8188 0, by
      rw [List.length_append, List.length_replicate]
      rfl⟩
    textLength := 3
    selectionBase := 3
    selectionExtent := 3
    composingBase := 1
    composingExtent := 3 }

theorem composingAtEnd_represents :
    composingAtEnd.Represents ⟨[97, 98, 99], 3, 3, by decide, by decide⟩ :=
  ⟨⟨by decide, List.prefix_append ..⟩, rfl, rfl, rfl⟩

/-- A letter keeps the range. -/
theorem handleKey_composing_iff_letter :
    ∃ s' sent, composingAtEnd.fwrTextInputHandleKey .other 0x78 true = some (s', sent)
      ∧ ((∀ state, .updateEditingState state ∈ sent → state.ComposingKept)
        ↔ (true = true → (composingAtEnd.composingBase = -1 ∧ composingAtEnd.composingExtent = -1)
          ∨ composingAtEnd.KeepsRange .other 0x78)) :=
  handleKey_composing_iff composingAtEnd _ .other 0x78 true rfl composingAtEnd_represents
    (.inr ⟨by decide, by decide, by decide⟩)

/-- BackSpace leaves it behind the end. -/
theorem backSpace_composing_behind : ∃ s' sent state,
    composingAtEnd.fwrTextInputHandleKey .backSpace 0 true = some (s', sent)
      ∧ .updateEditingState state ∈ sent ∧ ¬ state.ComposingKept := by
  obtain ⟨text, textLength, hs', h'⟩ := composingAtEnd_represents.deleteByte 2 (by decide)
  have hlength : textLength = 2 := (h' (b := 2) (x := 2) rfl rfl).represents.length
  have ⟨s', hs'eq⟩ : ∃ s' : TextInputState,
      s' = { composingAtEnd with text, textLength, selectionBase := 2, selectionExtent := 2 } :=
    ⟨_, rfl⟩
  refine ⟨s', [.updateEditingState s'], s', ?_, List.mem_singleton_self _, ?_⟩
  · rw [fwrTextInputHandleKey, if_neg (by decide), editKey, if_neg (by decide), if_pos (by decide),
      show composingAtEnd.selectionBase - 1 = ((2 : Nat) : Int) from rfl, hs', hs'eq]
    rfl
  · rw [hs'eq, hlength]
    rintro (⟨hb, -⟩ | ⟨-, -, hle⟩)
    · exact absurd (show (1 : Int) = -1 from hb) (by decide)
    · exact absurd (show (3 : Int) ≤ 2 from hle) (by decide)

end FlutterWlroots.TextInput.TextInputState
