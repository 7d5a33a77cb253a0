/-
  FlutterWlroots.TextInput.TextInputState — text and selection stay consistent.

  The selection is written by messages and read as an offset by keys.  The text itself is always
  kept well (`TextKept`); the selection is, as long as Flutter does not set one outside the text and
  does not close a field that has one (`Sound`).

    • `Inv.handleKey`            — no key leaves the buffer or breaks the state (KeyEditing),
    • `TextKept.setEditingState` — what a message with several keys leaves,
    • `reach_wellFormed`         — text and selection over whole runs.
-/
import FlutterWlroots.TextInput.KeyEditing

namespace FlutterWlroots.TextInput.TextInputState

open Lib Lib.CInt FlutterWlroots.Codec

variable {c : Target} {s s' : TextInputState} {t : List UInt8}

/-! ## §1. The invariant. -/

/-- What keys rely on. -/
structure WellFormed (s : TextInputState) : Prop where
  length_lt : s.textLength < textInputMaxLength
  strlen : s.text.strlen = some s.textLength
  base : 0 ≤ s.selectionBase ∧ s.selectionBase ≤ s.textLength
  extent : 0 ≤ s.selectionExtent ∧ s.selectionExtent ≤ s.textLength

/-- The buffer holds the text `t`, of the length that is noted. -/
structure TextIs (s : TextInputState) (t : List UInt8) : Prop where
  holds : s.text.Holds t
  length : s.textLength = t.length

def TextKept (s : TextInputState) : Prop := ∃ t, s.TextIs t

/-- The selection lies in the text. -/
structure SelectionKept (s : TextInputState) : Prop where
  base : 0 ≤ s.selectionBase ∧ s.selectionBase ≤ s.textLength
  extent : 0 ≤ s.selectionExtent ∧ s.selectionExtent ≤ s.textLength

theorem TextIs.length_lt (h : s.TextIs t) : s.textLength < textInputMaxLength := by
  rw [h.length]
  exact h.holds.starts.length_lt

theorem TextKept.wellFormed_iff (h : s.TextKept) : s.WellFormed ↔ s.SelectionKept := by
  obtain ⟨t, ht⟩ := h
  refine ⟨fun hwf => ⟨hwf.base, hwf.extent⟩, fun hs => ⟨ht.length_lt, ?_, hs.base, hs.extent⟩⟩
  rw [ht.length]
  exact ht.holds.starts.strlen

/-- What holds between two events. -/
structure Inv (s : TextInputState) : Prop where
  text : s.TextKept
  selection : s.SelectionKept

theorem textKept_zeros {s : TextInputState} (htext : s.text = .zeros) (hlen : s.textLength = 0) :
    s.TextKept := by
  refine ⟨[], ?_, hlen⟩
  rw [htext]
  exact CBuffer.holds_zeros (by decide)

theorem inv_init : init.Inv where
  text := textKept_zeros rfl rfl
  selection := ⟨⟨le_refl _, le_refl _⟩, ⟨le_refl _, le_refl _⟩⟩

/-! ## §2. Keys. -/

/-- A consistent state is a text field in a buffer that ends with a NUL. -/
theorem Inv.represents (h : s.Inv) : ∃ f, s.Represents f ∧ s.text.EndsNul := by
  obtain ⟨t, ht⟩ := h.text
  obtain ⟨⟨hbase, hbase'⟩, ⟨hextent, hextent'⟩⟩ := h.selection
  obtain ⟨base, hb⟩ := Int.eq_ofNat_of_zero_le hbase
  obtain ⟨extent, hx⟩ := Int.eq_ofNat_of_zero_le hextent
  have hlen := ht.length
  exact ⟨⟨t, base, extent, by omega, by omega⟩, ⟨ht.holds.starts, hlen, hb, hx⟩,
    ht.holds.last⟩

theorem Represents.inv {f : TextField UInt8} (h : s.Represents f) (hnul : s.text.EndsNul) :
    s.Inv := by
  have hbase := h.base
  have hextent := h.extent
  have hlen := h.length
  have hbase' := f.base_le
  have hextent' := f.extent_le
  refine ⟨⟨f.text, h.starts.holds hnul, hlen⟩, ?_, ?_⟩
  · omega
  · omega

/-- **Every key stays within the buffer and keeps the state consistent.** -/
theorem Inv.handleKey (h : s.Inv) (keysym : Keysym) (unicode : UInt32) (pressed : Bool) :
    ∃ s' sent, s.fwrTextInputHandleKey keysym unicode pressed = some (s', sent) ∧ s'.Inv := by
  unfold fwrTextInputHandleKey
  split
  next => exact ⟨s, [], rfl, h⟩
  next =>
    obtain ⟨f, hf, hnul⟩ := h.represents
    obtain ⟨s', changed, hs', h'⟩ := hf.edits_key keysym unicode
    exact ⟨s', s'.sent keysym changed, by rw [hs', Option.map_some],
      h'.represents.inv (h'.endsNul hnul)⟩

/-! ## §3. Messages. -/

/-- A field that no key reads as an offset. -/
theorem Inv.setMultiline (h : s.Inv) (multiline : Bool) : { s with multiline }.Inv := by
  obtain ⟨t, ht⟩ := h.text
  exact ⟨⟨t, ht.holds, ht.length⟩, h.selection.base, h.selection.extent⟩

theorem Inv.setInputAction (h : s.Inv) (inputAction : CBuffer 64) : { s with inputAction }.Inv := by
  obtain ⟨t, ht⟩ := h.text
  exact ⟨⟨t, ht.holds, ht.length⟩, h.selection.base, h.selection.extent⟩

theorem Inv.setInputType (h : s.Inv) (entry : CString × JsonValue) : (s.setInputType entry).Inv := by
  unfold TextInputState.setInputType
  split
  next =>
    split
    · exact h.setMultiline true
    · exact h
  next => exact h

theorem Inv.foldl_setInputType (h : s.Inv) (entries : List (CString × JsonValue)) :
    (entries.foldl TextInputState.setInputType s).Inv := by
  induction entries generalizing s with
  | nil => exact h
  | cons entry entries ih => exact ih (h.setInputType entry)

theorem Inv.setConfig (h : s.Inv) (entry : CString × JsonValue) :
    ∃ s', s.setConfig entry = some s' ∧ s'.Inv := by
  unfold TextInputState.setConfig
  split
  next key string_value =>
    split
    next =>
      obtain ⟨inputAction, haction⟩ :=
        s.inputAction.exists_strncpy string_value.bytes (show 63 ≤ 64 by decide)
      exact ⟨_, by rw [haction, Option.map_some], h.setInputAction inputAction⟩
    next => exact ⟨s, rfl, h⟩
  next key entries =>
    split
    · exact ⟨_, rfl, h.foldl_setInputType entries⟩
    · exact ⟨s, rfl, h⟩
  next => exact ⟨s, rfl, h⟩

theorem Inv.foldlM_setConfig (entries : List (CString × JsonValue)) :
    ∀ {s : TextInputState}, s.Inv →
      ∃ s', entries.foldlM TextInputState.setConfig s = some s' ∧ s'.Inv := by
  induction entries with
  | nil => exact fun {s} h => ⟨s, rfl, h⟩
  | cons entry entries ih =>
      intro s h
      obtain ⟨s1, hs1, h1⟩ := h.setConfig entry
      obtain ⟨s', hs', h'⟩ := ih h1
      refine ⟨s', ?_, h'⟩
      rw [List.foldlM_cons, hs1]
      exact hs'

theorem inv_resetClient (connectionId : Int) : (resetClient connectionId).Inv where
  text := textKept_zeros rfl rfl
  selection := ⟨⟨le_refl _, le_refl _⟩, ⟨le_refl _, le_refl _⟩⟩

/-- `TextInput.setClient` starts with an empty text. -/
theorem Inv.setClient (h : s.Inv) (c : Target) (arg : JsonValue) :
    ∃ s', s.setClient c arg = some s' ∧ s'.Inv := by
  unfold TextInputState.setClient
  split
  next client config rest =>
    have hinv := inv_resetClient (Double.toInt 64 c.int64 (numberValue c client))
    dsimp only
    split
    next entries => exact Inv.foldlM_setConfig entries hinv
    next => exact ⟨_, rfl, hinv⟩
  next => exact ⟨s, rfl, h⟩

/-! The keys of `TextInput.setEditingState`. -/

/-- The value after the entries: that of the last one that sets it. -/
def lastOr {α β : Type} (pick : β → Option α) (entries : List β) (x : α) : α :=
  entries.foldl (fun x entry => (pick entry).getD x) x

/-- The length of the text that an entry sets. -/
def pickLength : CString × JsonValue → Option Nat
  | (key, .kJsonString string_value) =>
      if key = .ofLiteral "text" then some (min (textInputMaxLength - 1) string_value.strlen) else none
  | _ => none

/-- The number that an entry of the name sets. -/
def pickNumber (c : Target) (name : CString) : CString × JsonValue → Option Int
  | (key, .kJsonNumber number_value) =>
      if key = name then some (Double.toInt 32 c.int32 number_value) else none
  | _ => none

theorem TextKept.setText (h : s.TextKept) (string : CString) :
    ∃ s', s.setText string = some s' ∧ s'.TextKept ∧
      s'.textLength = min (textInputMaxLength - 1) string.strlen ∧
      s'.selectionBase = s.selectionBase ∧ s'.selectionExtent = s.selectionExtent := by
  obtain ⟨t, ht⟩ := h
  obtain ⟨text, htext, hholds⟩ := CBuffer.holds_strncpy (n := textInputMaxLength - 1) string.nulFree
    ht.holds.last (by decide)
  have hlen : (string.bytes.take (textInputMaxLength - 1)).length
      = min (textInputMaxLength - 1) string.strlen := List.length_take
  refine ⟨{ s with text, textLength := min (textInputMaxLength - 1) string.strlen }, ?_,
    ⟨_, hholds, hlen.symm⟩, rfl, rfl, rfl⟩
  unfold TextInputState.setText
  rw [htext]
  show (text.strlen).bind _ = _
  rw [hholds.starts.strlen, hlen]
  rfl

/-- What one entry of `TextInput.setEditingState` sets. -/
theorem TextKept.setEditingValue (h : s.TextKept) (entry : CString × JsonValue) :
    ∃ s', s.setEditingValue c entry = some s' ∧ s'.TextKept ∧
      s'.textLength = (pickLength entry).getD s.textLength ∧
      s'.selectionBase = (pickNumber c (.ofLiteral "selectionBase") entry).getD s.selectionBase ∧
      s'.selectionExtent
        = (pickNumber c (.ofLiteral "selectionExtent") entry).getD s.selectionExtent := by
  have hsame : ∃ s', some s = some s' ∧ s'.TextKept ∧ s'.textLength = s.textLength ∧
      s'.selectionBase = s.selectionBase ∧ s'.selectionExtent = s.selectionExtent :=
    ⟨s, rfl, h, rfl, rfl, rfl⟩
  obtain ⟨key, value⟩ := entry
  cases value with
  | kJsonString string_value =>
      unfold TextInputState.setEditingValue pickLength
      dsimp only
      split
      next => exact h.setText string_value
      next => exact hsame
  | kJsonNumber number_value =>
      unfold TextInputState.setEditingValue pickNumber
      dsimp only
      obtain ⟨t, ht⟩ := h
      split
      next hkey =>
        subst hkey
        rw [if_neg (by decide)]
        exact ⟨_, rfl, ⟨t, ht.holds, ht.length⟩, rfl, rfl, rfl⟩
      next hbase =>
        split
        next hkey => exact ⟨_, rfl, ⟨t, ht.holds, ht.length⟩, rfl, rfl, rfl⟩
        next hextent =>
          split
          next => exact ⟨_, rfl, ⟨t, ht.holds, ht.length⟩, rfl, rfl, rfl⟩
          next =>
            split
            next => exact ⟨_, rfl, ⟨t, ht.holds, ht.length⟩, rfl, rfl, rfl⟩
            next => exact hsame
  | kJsonNull => exact hsame
  | kJsonTrue => exact hsame
  | kJsonFalse => exact hsame
  | kJsonArray array => exact hsame
  | kJsonObject entries => exact hsame

/-- **`TextInput.setEditingState`**: the text always fits, the selection is what Flutter says. -/
theorem TextKept.setEditingState (entries : List (CString × JsonValue)) :
    ∀ {s : TextInputState}, s.TextKept → ∃ s',
      s.setEditingState c (.kJsonObject entries) = some s' ∧ s'.TextKept ∧
      s'.textLength = lastOr pickLength entries s.textLength ∧
      s'.selectionBase
        = lastOr (pickNumber c (.ofLiteral "selectionBase")) entries s.selectionBase ∧
      s'.selectionExtent
        = lastOr (pickNumber c (.ofLiteral "selectionExtent")) entries s.selectionExtent := by
  induction entries with
  | nil => exact fun {s} h => ⟨s, rfl, h, rfl, rfl, rfl⟩
  | cons entry entries ih =>
      intro s h
      obtain ⟨s1, hs1, h1, hlen1, hb1, hx1⟩ := h.setEditingValue (c := c) entry
      obtain ⟨s', hs', h', hlen', hb', hx'⟩ := ih h1
      refine ⟨s', ?_, h', ?_, ?_, ?_⟩
      · show (entry :: entries).foldlM (TextInputState.setEditingValue c) s = some s'
        rw [List.foldlM_cons, hs1]
        exact hs'
      · rw [hlen', hlen1]
        rfl
      · rw [hb', hb1]
        rfl
      · rw [hx', hx1]
        rfl

/-! ## §4. Runs. -/

/-- The selection that a `TextInput.setEditingState` leaves lies in the text that it leaves. -/
def EditingStateFits (c : Target) (s : TextInputState) : JsonValue → Prop
  | .kJsonObject entries =>
      let length := lastOr pickLength entries s.textLength
      let base := lastOr (pickNumber c (.ofLiteral "selectionBase")) entries s.selectionBase
      let extent := lastOr (pickNumber c (.ofLiteral "selectionExtent")) entries s.selectionExtent
      (0 ≤ base ∧ base ≤ length) ∧ (0 ≤ extent ∧ extent ≤ length)
  | _ => True

/-- What Flutter has to keep to. -/
def Sound (c : Target) (s : TextInputState) : Event → Prop
  | .message call =>
      (call.method = .ofLiteral "TextInput.setEditingState" → s.EditingStateFits c call.json_arg) ∧
        (call.method = .ofLiteral "TextInput.clearClient" →
          s.selectionBase = 0 ∧ s.selectionExtent = 0)
  | .key .. => True

theorem Inv.setEditingState (h : s.Inv) (arg : JsonValue) :
    ∃ s', s.setEditingState c arg = some s' ∧ s'.TextKept ∧
      (s'.SelectionKept ↔ s.EditingStateFits c arg) := by
  cases arg with
  | kJsonObject entries =>
      obtain ⟨s', hs', hkept, hlen, hb, hx⟩ := h.text.setEditingState (c := c) entries
      refine ⟨s', hs', hkept, ?_⟩
      unfold EditingStateFits
      dsimp only
      rw [← hlen, ← hb, ← hx]
      exact ⟨fun hsel => ⟨hsel.base, hsel.extent⟩, fun hfits => ⟨hfits.1, hfits.2⟩⟩
  | kJsonNull => exact ⟨s, rfl, h.text, fun _ => trivial, fun _ => h.selection⟩
  | kJsonTrue => exact ⟨s, rfl, h.text, fun _ => trivial, fun _ => h.selection⟩
  | kJsonFalse => exact ⟨s, rfl, h.text, fun _ => trivial, fun _ => h.selection⟩
  | kJsonNumber number_value => exact ⟨s, rfl, h.text, fun _ => trivial, fun _ => h.selection⟩
  | kJsonString string_value => exact ⟨s, rfl, h.text, fun _ => trivial, fun _ => h.selection⟩
  | kJsonArray array => exact ⟨s, rfl, h.text, fun _ => trivial, fun _ => h.selection⟩

/-- `text_input_handle_message` always has a result. -/
theorem Inv.message (h : s.Inv) (call : JsonMethodCall) :
    ∃ s' answer, s.textInputHandleMessage c call = some (s', answer) ∧ s'.TextKept ∧
      (s'.SelectionKept ↔ s.Sound c (.message call)) := by
  have hmethods : CString.ofLiteral "TextInput.setClient" ≠ .ofLiteral "TextInput.setEditingState" ∧
      CString.ofLiteral "TextInput.setClient" ≠ .ofLiteral "TextInput.clearClient" ∧
      CString.ofLiteral "TextInput.setEditingState" ≠ .ofLiteral "TextInput.clearClient" := by
    decide
  obtain ⟨hclient, hclient', hstate⟩ := hmethods
  obtain ⟨method, json_arg⟩ := call
  unfold textInputHandleMessage
  dsimp only
  split
  next hm =>
    subst hm
    obtain ⟨s', hs', hinv⟩ := h.setClient c json_arg
    refine ⟨s', _, by rw [hs', Option.map_some], hinv.text, fun _ => ?_, fun _ => hinv.selection⟩
    exact ⟨fun heq => absurd heq hclient, fun heq => absurd heq hclient'⟩
  next hm1 =>
    split
    next hm =>
      subst hm
      obtain ⟨s', hs', hkept, hselection⟩ := h.setEditingState (c := c) json_arg
      refine ⟨s', _, by rw [hs', Option.map_some], hkept, hselection.trans ?_⟩
      exact ⟨fun hfits => ⟨fun _ => hfits, fun heq => absurd heq hstate⟩, fun hs => hs.1 rfl⟩
    next hm2 =>
      split
      next hm =>
        subst hm
        refine ⟨s.clearClient, _, rfl, textKept_zeros rfl rfl, ?_⟩
        -- the text is empty, the selection has stayed
        constructor
        · rintro ⟨⟨hb, hb'⟩, ⟨hx, hx'⟩⟩
          exact ⟨fun heq => absurd heq.symm hstate, fun _ => ⟨le_antisymm hb' hb, le_antisymm hx' hx⟩⟩
        · intro hs
          obtain ⟨hb, hx⟩ := hs.2 rfl
          exact ⟨⟨hb.ge, hb.le⟩, ⟨hx.ge, hx.le⟩⟩
      next hm3 =>
        have hsound : s.Sound c (.message ⟨method, json_arg⟩) :=
          ⟨fun heq => absurd heq hm2, fun heq => absurd heq hm3⟩
        split
        · exact ⟨s, _, rfl, h.text, fun _ => hsound, fun _ => h.selection⟩
        · exact ⟨s, _, rfl, h.text, fun _ => hsound, fun _ => h.selection⟩

/-- **One event**: it has a result, which is consistent if and only if the event is sound. -/
theorem Inv.step (h : s.Inv) (e : Event) :
    ∃ s', s.step c e = some s' ∧ s'.TextKept ∧ (s'.SelectionKept ↔ s.Sound c e) := by
  cases e with
  | message call =>
      obtain ⟨s', answer, hs', hkept, hselection⟩ := h.message (c := c) call
      refine ⟨s', ?_, hkept, hselection⟩
      show (s.textInputHandleMessage c call).map _ = _
      rw [hs', Option.map_some]
  | key keysym unicode pressed =>
      obtain ⟨s', sent, hs', hinv⟩ := h.handleKey keysym unicode pressed
      refine ⟨s', ?_, hinv.text, fun _ => trivial, fun _ => hinv.selection⟩
      show (s.fwrTextInputHandleKey keysym unicode pressed).map _ = _
      rw [hs', Option.map_some]

/-- **Text and selection are consistent in every state**, and no key leaves the buffer, as long as
    Flutter keeps to texts and selections that fit; an event for which it does not breaks them. -/
theorem reach_wellFormed (h : (textInput c).Reach (Sound c) s) :
    s.WellFormed ∧
      ∀ e, ∃ s', (textInput c).step s e = some s' ∧ (s'.WellFormed ↔ s.Sound c e) := by
  have hinv : s.Inv := by
    refine h.invariant inv_init fun s e s' hs hsound hstep => ?_
    obtain ⟨s1, hs1, hkept, hselection⟩ := hs.step (c := c) e
    cases hs1.symm.trans hstep
    exact ⟨hkept, hselection.mpr hsound⟩
  refine ⟨hinv.text.wellFormed_iff.mpr hinv.selection, fun e => ?_⟩
  obtain ⟨s', hs', hkept, hselection⟩ := hinv.step (c := c) e
  exact ⟨s', hs', hkept.wellFormed_iff.trans hselection⟩

instance (c : Target) (s : TextInputState) :
    (arg : JsonValue) → Decidable (s.EditingStateFits c arg)
  | .kJsonObject _ => inferInstanceAs (Decidable ((_ ∧ _) ∧ (_ ∧ _)))
  | .kJsonNull => isTrue trivial
  | .kJsonTrue => isTrue trivial
  | .kJsonFalse => isTrue trivial
  | .kJsonNumber _ => isTrue trivial
  | .kJsonString _ => isTrue trivial
  | .kJsonArray _ => isTrue trivial

instance (c : Target) (s : TextInputState) : (e : Event) → Decidable (s.Sound c e)
  | .message _ => inferInstanceAs (Decidable ((_ → _) ∧ (_ → _ ∧ _)))
  | .key .. => isTrue trivial

/-- Numbers out of range become the smallest integer. -/
def smallest : Target where
  int32 := fun _ => BitVec.intMin 32
  int64 := fun _ => BitVec.intMin 64
  numberValue := fun _ => 0

/-- `TextInput.setEditingState` with a text and a caret; the numbers are doubles. -/
def setCaret (text : String) (caret : BitVec 64) : Event :=
  .message ⟨.ofLiteral "TextInput.setEditingState", .kJsonObject
    [(.ofLiteral "text", .kJsonString (.ofLiteral text)),
      (.ofLiteral "selectionBase", .kJsonNumber caret),
      (.ofLiteral "selectionExtent", .kJsonNumber caret)]⟩

/-- `TextInput.setClient` of a field with many lines. -/
def openField : Event :=
  .message ⟨.ofLiteral "TextInput.setClient", .kJsonArray
    [.kJsonNumber 0x3FF0000000000000#64, .kJsonObject
      [(.ofLiteral "inputType", .kJsonObject
        [(.ofLiteral "name", .kJsonString (.ofLiteral "TextInputType.multiline"))])]]⟩

/-- A field is opened, its text is set with the caret behind the first two bytes, and edited. -/
theorem reach_wellFormed_edited :
    ∃ s, (textInput smallest).Reach (Sound smallest) s ∧ (s.textLength, s.selectionBase) = (6, 5) ∧
      s.WellFormed ∧
        ∀ e, ∃ s', (textInput smallest).step s e = some s' ∧ (s'.WellFormed ↔ s.Sound smallest e) := by
  let es : List Event :=
    [openField, setCaret "abc" 0x4000000000000000#64, .key .other 0xE9 true, .key .backSpace 0 true,
      .key .returnKey 0 true, .key .other 0x78 true]
  have hrun : ((textInput smallest).execIf (Sound smallest) .init es).map
      (fun s => (s.textLength, s.selectionBase)) = some (6, 5) := by
    decide +kernel
  obtain ⟨s, hs, hend⟩ := Option.map_eq_some_iff.mp hrun
  have hreach := Machine.reach_execIf es .init hs
  exact ⟨s, hreach, hend, reach_wellFormed hreach⟩

/-- **A caret behind the end**: the text is "ab", the selection is at 5. -/
theorem not_wellFormed_caretBehindEnd :
    ∃ s, (textInput smallest).exec .init [openField, setCaret "ab" 0x4014000000000000#64] = some s ∧
      ¬ s.WellFormed := by
  have hrun : ((textInput smallest).exec .init [openField, setCaret "ab" 0x4014000000000000#64]).map
      (fun s => (s.textLength, s.selectionBase)) = some (2, 5) := by
    decide +kernel
  obtain ⟨s, hs, hend⟩ := Option.map_eq_some_iff.mp hrun
  obtain ⟨hlen, hbase⟩ := Prod.mk.inj hend
  refine ⟨s, hs, fun hwf => ?_⟩
  have hle := hwf.base.2
  rw [hlen, hbase] at hle
  exact absurd hle (by decide)

end FlutterWlroots.TextInput.TextInputState
