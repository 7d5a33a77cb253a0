/-
  FlutterWlroots.TextInput.KeyEditing — keys against a reference editor.

  `TextField.key` says what each key is for, in terms of a text with a selection (TextField): no
  buffer, no terminator, no copying.  The buffer of `text_input_state` with its noted length and its
  two offsets stands for such a field (`Represents`), and `fwr_text_input_handle_key` does in the
  buffer what the reference does (`handleKey_reference`):

    • `Represents.deleteSelection`, `Represents.insertText`, `Represents.deleteByte`
        — the three edits of the source, with their hand-computed counts,
    • `Becomes` — the field afterwards; everything else in the state is as before.
-/
import FlutterWlroots.Lib.TextField
import FlutterWlroots.TextInput.TextInput

namespace FlutterWlroots.TextInput

open Lib Lib.CInt FlutterWlroots.Codec

/-! ## §1. The reference. -/

/-- What a pressed key does to the field. -/
def TextField.key (f : TextField UInt8) (multiline : Bool) (unicode : UInt32) :
    TextInputState.Keysym → TextField UInt8
  | .backSpace => f.backspace
  | .delete => f.delete
  | .left => f.left
  | .right => f.right
  | .home => f.home
  | .endKey => f.fin
  | .returnKey | .kpEnter => if multiline then f.insert textInputMaxLength [10] else f
  | .tab => f
  -- printable characters
  | .other =>
      if unicode ≥ 0x20 ∧ unicode ≠ 0x7F then
        f.insert textInputMaxLength (TextInputState.utf8 unicode)
      else f

namespace TextInputState

variable {s s' s'' : TextInputState} {f f' f'' : TextField UInt8} {str : List UInt8}

/-- The state holds the text and the selection of the field. -/
structure Represents (s : TextInputState) (f : TextField UInt8) : Prop where
  starts : s.text.Starts f.text
  length : s.textLength = f.text.length
  base : s.selectionBase = f.base
  extent : s.selectionExtent = f.extent

/-- The state after an edit. -/
structure Becomes (s s' : TextInputState) (f' : TextField UInt8) : Prop where
  represents : s'.Represents f'
  frame : s' = { s with
    text := s'.text, textLength := s'.textLength, selectionBase := s'.selectionBase
    selectionExtent := s'.selectionExtent }
  endsNul : s.text.EndsNul → s'.text.EndsNul

theorem Represents.length_lt (h : s.Represents f) : f.text.length < 8192 := h.starts.length_lt

/-- The length as the `int32_t` that the selection is compared with. -/
theorem Represents.toInt32_length (h : s.Represents f) :
    toInt32 s.textLength = (f.text.length : Int) := by
  have hlt := h.length_lt
  rw [h.length]
  exact toInt32_of_lt (by omega)

theorem Represents.unchanged (h : s.Represents f) : s.Becomes s f := ⟨h, rfl, id⟩

theorem Becomes.trans (h : s.Becomes s' f') (h' : s'.Becomes s'' f'') : s.Becomes s'' f'' where
  represents := h'.represents
  frame := by rw [h'.frame, h.frame]
  endsNul := fun hnul => h'.endsNul (h.endsNul hnul)

/-! ## §2. Edits. -/

theorem toSizeT_eq {x : Int} {n : Nat} (hx : x = n) (hn : n < 2 ^ 64) : toSizeT x = n := by
  rw [hx, toSizeT_of_lt hn]

theorem moveText_natCast (s : TextInputState) (dst src n : Nat) :
    s.moveText dst src n = s.text.memmove dst src n :=
  if_pos ⟨Int.natCast_nonneg _, Int.natCast_nonneg _⟩

/-- The caret moved within the text. -/
theorem Represents.moveCaret {x : Int} {pos : Nat} (h : s.Represents f) (hx : x = pos)
    (hpos : pos ≤ f.text.length) :
    s.Becomes { s with selectionBase := x, selectionExtent := x } (.caretAt f.text pos hpos) where
  represents := ⟨h.starts, h.length, hx, hx⟩
  frame := rfl
  endsNul := id

/-- **`delete_selection`**. -/
theorem Represents.deleteSelection (h : s.Represents f) :
    ∃ s', s.deleteSelection = some s' ∧ s.Becomes s' (f.replace []) := by
  have hbase := h.base
  have hextent := h.extent
  by_cases heq : s.selectionBase = s.selectionExtent
  · refine ⟨s, if_pos heq, ?_⟩
    rw [f.replace_nil_of_eq (by omega)]
    exact h.unchanged
  · have hlt := h.length_lt
    have hlen := h.length
    have hstop := f.stop_le
    have hle := f.start_le_stop
    -- the ends of the selection in order
    have hmin : (if s.selectionBase < s.selectionExtent then s.selectionBase
        else s.selectionExtent) = (f.start : Int) := by
      unfold TextField.start
      split
      · omega
      · omega
    have hmax : (if s.selectionBase > s.selectionExtent then s.selectionBase
        else s.selectionExtent) = (f.stop : Int) := by
      unfold TextField.stop
      split
      · omega
      · omega
    obtain ⟨text, htext, hstarts, hnul⟩ := h.starts.delete hle hstop
    have hn : toSizeT (s.textLength - f.stop + 1) = f.text.length - f.stop + 1 :=
      toSizeT_eq (by omega) (by omega)
    have hlength : toSizeT (s.textLength - (f.stop - f.start))
        = (f.text.take f.start ++ f.text.drop f.stop).length := by
      rw [List.length_append, List.length_take, List.length_drop]
      exact toSizeT_eq (by omega) (by omega)
    refine ⟨{ s with
      text, textLength := toSizeT (s.textLength - (f.stop - f.start))
      selectionBase := f.start, selectionExtent := f.start }, ?_, ⟨?_, ?_, rfl, rfl⟩, rfl, hnul⟩
    · unfold TextInputState.deleteSelection
      rw [if_neg heq]
      simp only [hmin, hmax, hn, moveText_natCast, htext]
      rfl
    · rw [f.text_replace_nil]
      exact hstarts
    · rw [f.text_replace_nil]
      exact hlength

/-- **`insert_text`**. -/
theorem Represents.insertText (h : s.Represents f) (hstr : 0 ∉ str) (hshort : str.length ≤ 8) :
    ∃ s', s.insertText str = some s' ∧ s.Becomes s' (f.insert textInputMaxLength str) := by
  have hlt := h.length_lt
  have hlen := h.length
  have hsum : toSizeT (s.textLength + str.length) = f.text.length + str.length :=
    toSizeT_eq (by omega) (by omega)
  unfold TextInputState.insertText TextField.insert
  rw [hsum]
  split
  next => exact ⟨s, rfl, h.unchanged⟩
  next hroom =>
    replace hroom : f.text.length + str.length < 8192 := Nat.not_le.mp hroom
    obtain ⟨s1, hs1, h1⟩ := h.deleteSelection
    rw [← f.replace_replace str]
    -- from here on the selection is a caret
    have hcaret : (f.replace []).base = (f.replace []).extent := rfl
    have hshorter : (f.replace []).text.length ≤ f.text.length := by
      have hle := f.start_le_stop
      have hstop := f.stop_le
      simp only [TextField.replace, TextField.caretAt, List.length_append, List.length_take,
        List.length_drop, List.length_nil]
      omega
    generalize f.replace [] = g at h1 hcaret hshorter
    have hlen1 := h1.represents.length
    have hpos := g.base_le
    have hfit : g.text.length + str.length < textInputMaxLength :=
      Nat.lt_of_le_of_lt (Nat.add_le_add_right hshorter _) hroom
    obtain ⟨moved, text, hmoved, htext, hstarts, hnul⟩ :=
      h1.represents.starts.insert hpos hstr hfit
    have hdst : toSizeT (g.base + str.length) = g.base + str.length :=
      toSizeT_eq (by omega) (by omega)
    have hn : toSizeT (s1.textLength - g.base + 1) = g.text.length - g.base + 1 :=
      toSizeT_eq (by omega) (by omega)
    have hlength : toSizeT (s1.textLength + str.length)
        = (g.text.take g.base ++ str ++ g.text.drop g.base).length := by
      rw [List.length_append, List.length_append, List.length_take, List.length_drop]
      exact toSizeT_eq (by omega) (by omega)
    have hend : toInt32 (g.base + str.length) = ((g.base + str.length : Nat) : Int) := by
      rw [← Int.natCast_add]
      exact toInt32_of_lt (by omega)
    have hfield : g.replace str = .caretAt (g.text.take g.base ++ str ++ g.text.drop g.base)
        (g.base + str.length) (by
          rw [List.length_append, List.length_append, List.length_take]
          omega) := by
      refine TextField.caretAt_congr ?_ ?_
      · rw [TextField.start, TextField.stop, ← hcaret, Nat.min_self, Nat.max_self]
      · rw [TextField.start, ← hcaret, Nat.min_self]
    rw [hfield, hs1]
    refine ⟨{ s1 with
      text, textLength := (g.text.take g.base ++ str ++ g.text.drop g.base).length
      selectionBase := (g.base + str.length : Nat)
      selectionExtent := (g.base + str.length : Nat) }, ?_,
      h1.trans ⟨⟨hstarts, rfl, rfl, rfl⟩, rfl, hnul⟩⟩
    show (s1.moveText (toSizeT (s1.selectionBase + str.length) : Nat) s1.selectionBase
      (toSizeT (s1.textLength - s1.selectionBase + 1))).bind _ = _
    simp only [h1.represents.base, hn, hdst, moveText_natCast, hmoved]
    show (moved.write g.base str).bind _ = _
    rw [htext]
    show some _ = some _
    rw [hlength, hend]

/-- **The byte at `pos` taken out**; what is then done with the selection is up to the key. -/
theorem Represents.deleteByte (h : s.Represents f) (pos : Nat) (hpos : pos < f.text.length) :
    ∃ text textLength, s.deleteByte pos = some { s with text, textLength } ∧
      ∀ {b x : Int}, b = pos → x = pos →
        s.Becomes { s with text, textLength, selectionBase := b, selectionExtent := x }
          (f.remove pos hpos) := by
  have hlt := h.length_lt
  have hlen := h.length
  obtain ⟨text, htext, hstarts, hnul⟩ := h.starts.delete (Nat.le_succ pos) hpos
  have hn : toSizeT (s.textLength - pos) = f.text.length - (pos + 1) + 1 :=
    toSizeT_eq (by omega) (by omega)
  have hlength : toSizeT (s.textLength - 1)
      = (f.text.take pos ++ f.text.drop (pos + 1)).length := by
    rw [List.length_append, List.length_take, List.length_drop]
    exact toSizeT_eq (by omega) (by omega)
  refine ⟨text, toSizeT (s.textLength - 1), ?_, fun hb hx =>
    ⟨⟨hstarts, hlength, hb, hx⟩, rfl, hnul⟩⟩
  have hmove : s.moveText pos (pos + 1) (f.text.length - (pos + 1) + 1) = some text :=
    (s.moveText_natCast ..).trans htext
  unfold TextInputState.deleteByte
  rw [hn, hmove]
  rfl

/-! ## §3. Keys. -/

theorem marked_ne_zero {mark bits : UInt32} (h : mark.toUInt8 ≠ 0) : marked mark bits ≠ 0 := by
  unfold marked
  rw [UInt32.toUInt8_or]
  exact fun h0 => h (UInt8.or_eq_zero_iff.mp h0).1

/-- The encoder makes no NUL, and four bytes at most. -/
theorem utf8_nulFree {unicode : UInt32} (h : 0x20 ≤ unicode) :
    0 ∉ utf8 unicode ∧ (utf8 unicode).length ≤ 8 := by
  have hmark : ∀ (mark : UInt32) (bits), mark.toUInt8 ≠ 0 → (0 : UInt8) ≠ marked mark bits :=
    fun _ _ hmark => (marked_ne_zero hmark).symm
  have h80 := fun bits => hmark 0x80 bits (by decide)
  have hC0 := fun bits => hmark 0xC0 bits (by decide)
  have hE0 := fun bits => hmark 0xE0 bits (by decide)
  have hF0 := fun bits => hmark 0xF0 bits (by decide)
  unfold utf8
  split
  next hlt =>
    refine ⟨fun hmem => ?_, Nat.le_add_left 1 7⟩
    have h0 := congrArg UInt8.toNat (List.mem_singleton.mp hmem)
    rw [UInt32.toNat_toUInt8] at h0
    have hlo := UInt32.le_iff_toNat_le.mp h
    have hhi := UInt32.lt_iff_toNat_lt.mp hlt
    have hzero : (0 : UInt8).toNat = 0 := rfl
    have h20 : (0x20 : UInt32).toNat = 32 := rfl
    have h128 : (0x80 : UInt32).toNat = 128 := rfl
    omega
  next =>
    split
    · simp [h80, hC0]
    · split <;> simp [h80, hE0, hF0]

/-- The key has a result, and the field becomes `f'`. -/
def EditsTo (s : TextInputState) (r : Option (TextInputState × Bool)) (f' : TextField UInt8) : Prop :=
  ∃ s' changed, r = some (s', changed) ∧ s.Becomes s' f'

theorem EditsTo.ite {p q : Prop} [Decidable p] [Decidable q] {r r' : Option (TextInputState × Bool)}
    (hpq : p ↔ q) (h : q → s.EditsTo r f) (h' : ¬ q → s.EditsTo r' f') :
    s.EditsTo (if p then r else r') (if q then f else f') := by
  by_cases hq : q
  · rw [if_pos (hpq.mpr hq), if_pos hq]
    exact h hq
  · rw [if_neg (mt hpq.mp hq), if_neg hq]
    exact h' hq

theorem Represents.edits_none (h : s.Represents f) : s.EditsTo (some (s, false)) f :=
  ⟨s, false, rfl, h.unchanged⟩

theorem Represents.edits_caret {x : Int} {pos : Nat} (h : s.Represents f) (hx : x = pos)
    (hpos : pos ≤ f.text.length) :
    s.EditsTo (some ({ s with selectionBase := x, selectionExtent := x }, true))
      (.caretAt f.text pos hpos) :=
  ⟨_, true, rfl, h.moveCaret hx hpos⟩

theorem Represents.edits_delete (h : s.Represents f) :
    s.EditsTo (s.deleteSelection.map (·, true)) (f.replace []) := by
  obtain ⟨s', hs', h'⟩ := h.deleteSelection
  exact ⟨s', true, by rw [hs', Option.map_some], h'⟩

theorem Represents.edits_insert (h : s.Represents f) (hstr : 0 ∉ str) (hshort : str.length ≤ 8) :
    s.EditsTo ((s.insertText str).map (·, true)) (f.insert textInputMaxLength str) := by
  obtain ⟨s', hs', h'⟩ := h.insertText hstr hshort
  exact ⟨s', true, by rw [hs', Option.map_some], h'⟩

theorem Represents.edits_backSpace (h : s.Represents f) (unicode : UInt32) :
    s.EditsTo (s.editKey .backSpace unicode) f.backspace := by
  have hbase := h.base
  have hextent := h.extent
  have hle := f.base_le
  unfold TextInputState.editKey TextField.backspace
  refine .ite (by omega) (fun _ => h.edits_delete) fun heq => ?_
  split
  next hpos =>
    have hcaret : s.selectionBase - 1 = ((f.base - 1 : Nat) : Int) := by omega
    obtain ⟨text, textLength, hs', h'⟩ := h.deleteByte (f.base - 1) (by omega)
    rw [dif_pos (by omega), hcaret, hs', Option.map_some]
    exact ⟨_, true, rfl, h' hcaret hcaret⟩
  next hpos =>
    rw [dif_neg (by omega)]
    exact h.edits_none

theorem Represents.edits_deleteKey (h : s.Represents f) (unicode : UInt32) :
    s.EditsTo (s.editKey .delete unicode) f.delete := by
  have hbase := h.base
  have hextent := h.extent
  have hint := h.toInt32_length
  unfold TextInputState.editKey TextField.delete
  rw [hint]
  refine .ite (by omega) (fun _ => h.edits_delete) fun heq => ?_
  split
  next hlt =>
    obtain ⟨text, textLength, hs', h'⟩ := h.deleteByte f.base (by omega)
    rw [dif_pos (by omega), hbase, hs', Option.map_some]
    exact ⟨_, true, rfl, h' hbase (by omega)⟩
  next hlt =>
    rw [dif_neg (by omega)]
    exact h.edits_none

/-- **Every key does what the reference does.** -/
theorem Represents.edits_key (h : s.Represents f) (keysym : Keysym) (unicode : UInt32) :
    s.EditsTo (s.editKey keysym unicode) (TextField.key f s.multiline unicode keysym) := by
  have hbase := h.base
  have hint := h.toInt32_length
  have hreturn : s.EditsTo (if s.multiline then (s.insertText [10]).map (·, true)
      else some (s, false)) (if s.multiline then f.insert textInputMaxLength [10] else f) :=
    .ite Iff.rfl (fun _ => h.edits_insert (by decide) (by decide)) fun _ => h.edits_none
  cases keysym with
  | backSpace => exact h.edits_backSpace unicode
  | delete => exact h.edits_deleteKey unicode
  | left =>
      unfold TextInputState.editKey TextField.key TextField.left
      refine .ite (by omega) (fun hpos => ?_) fun _ => h.edits_none
      exact h.edits_caret (by omega) _
  | right =>
      unfold TextInputState.editKey TextField.key TextField.right
      rw [hint]
      dsimp only
      split
      next hlt =>
        rw [dif_pos (by omega)]
        exact h.edits_caret (by omega) _
      next hlt =>
        rw [dif_neg (by omega)]
        exact h.edits_none
  | home => exact h.edits_caret rfl _
  | endKey => exact h.edits_caret hint _
  | returnKey => exact hreturn
  | kpEnter => exact hreturn
  | tab => exact h.edits_none
  | other =>
      refine .ite Iff.rfl (fun hprintable => ?_) fun _ => h.edits_none
      obtain ⟨hnul, hfour⟩ := utf8_nulFree hprintable.1
      exact h.edits_insert hnul hfour

theorem Represents.handleKey (h : s.Represents f) (hactive : s.active = true) (keysym : Keysym)
    (unicode : UInt32) :
    ∃ s' sent, s.fwrTextInputHandleKey keysym unicode true = some (s', sent)
      ∧ s'.Represents (TextField.key f s.multiline unicode keysym)
      ∧ s.Becomes s' (TextField.key f s.multiline unicode keysym) := by
  obtain ⟨s', changed, hs', h'⟩ := h.edits_key keysym unicode
  refine ⟨s', s'.sent keysym changed, ?_, h'.represents, h'⟩
  rw [fwrTextInputHandleKey, if_neg (by simp [hactive]), hs', Option.map_some]

/-- **`fwr_text_input_handle_key`**, for a pressed key in an open field: the text, its length and the
    selection are those of the reference, and nothing else changes.  The new text is terminated, it
    has at most 8191 bytes, and the selection lies in it. -/
theorem handleKey_reference (s : TextInputState) (f : TextField UInt8) (keysym : Keysym)
    (unicode : UInt32) (hactive : s.active = true) (h : s.Represents f) :
    ∃ s' sent, s.fwrTextInputHandleKey keysym unicode true = some (s', sent)
      ∧ s'.Represents (TextField.key f s.multiline unicode keysym)
      ∧ s' = { s with
          text := s'.text, textLength := s'.textLength, selectionBase := s'.selectionBase
          selectionExtent := s'.selectionExtent }
      ∧ s'.text.strlen = some s'.textLength ∧ s'.textLength ≤ 8191
      ∧ (0 ≤ s'.selectionBase ∧ s'.selectionBase ≤ s'.textLength)
      ∧ 0 ≤ s'.selectionExtent ∧ s'.selectionExtent ≤ s'.textLength := by
  obtain ⟨s', sent, hrun, hf, h'⟩ := h.handleKey hactive keysym unicode
  generalize TextField.key f s.multiline unicode keysym = f' at hf h'
  have hlength := hf.length
  have hbase := hf.base
  have hextent := hf.extent
  have hlt := hf.length_lt
  have hbase' := f'.base_le
  have hextent' := f'.extent_le
  refine ⟨s', sent, hrun, hf, h'.frame, ?_, ?_, ⟨?_, ?_⟩, ?_, ?_⟩
  · rw [hf.starts.strlen, hlength]
  all_goals omega

/-- "ab", selected from its end to its start, in a buffer with other bytes behind the terminator. -/
def selectedBackwards : TextInputState :=
  { init with
    active := true
    text := ⟨[97, 98, 0] ++ List.replicate 8189 7, by
      rw [List.length_append, List.length_replicate]
      rfl⟩
    textLength := 2
    selectionBase := 2 }

/-- The letter x replaces the selection. -/
theorem handleKey_reference_replaces :
    ∃ s' sent, selectedBackwards.fwrTextInputHandleKey .other 0x78 true = some (s', sent)
      ∧ s'.text.Starts [0x78] ∧ s'.selectionBase = 1 ∧ s'.selectionExtent = 1 := by
  have hfield : selectedBackwards.Represents ⟨[97, 98], 2, 0, by decide, by decide⟩ :=
    ⟨⟨by decide, List.prefix_append ..⟩, rfl, rfl, rfl⟩
  obtain ⟨s', sent, hs', hrep, -⟩ :=
    handleKey_reference selectedBackwards _ .other 0x78 rfl hfield
  exact ⟨s', sent, hs', hrep.starts, hrep.base, hrep.extent⟩

end TextInputState

end FlutterWlroots.TextInput
