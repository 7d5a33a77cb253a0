/-
  FlutterWlroots.TextInput.UnterminatedText — a text without a NUL.

  `strncpy` leaves the last byte of the buffer as it is.  As long as that byte is NUL the text is
  terminated, however long the string is; keys with a selection behind the text can write another
  byte there.  Then a string of 8191 bytes or more leaves a text without an end, and `strlen` and the
  log message of `TextInput.setEditingState` read on behind the buffer.

    • `setEditingState_ends_iff` — when they do not.
-/
import FlutterWlroots.Lib.CBuffer
import FlutterWlroots.TextInput.TextInputState

namespace FlutterWlroots.TextInput.TextInputState

open Lib FlutterWlroots.Codec

variable {c : Target} {s : TextInputState}

/-! ## §1. What becomes the text. -/

/-- The string that an entry sets the text to. -/
def pickText : CString × JsonValue → Option CString
  | (key, .kJsonString string_value) => if key = .ofLiteral "text" then some string_value else none
  | _ => none

/-- The strings that a `TextInput.setEditingState` sets the text to, one after the other. -/
def textsSet : JsonValue → List CString
  | .kJsonObject entries => entries.filterMap pickText
  | _ => []

/-- The text is terminated whenever it is read: the last byte of the buffer is NUL, or all strings
    are shorter than what is copied of them, and there is one unless the text is terminated
    before. -/
def TextEnds (s : TextInputState) (texts : List CString) : Prop :=
  s.text.EndsNul
    ∨ ((∀ t ∈ texts, t.strlen < textInputMaxLength - 1) ∧ (texts = [] → s.text.strlen ≠ none))

theorem textEnds_nil : s.TextEnds [] ↔ s.text.strlen ≠ none := by
  constructor
  · rintro (hlast | ⟨-, hnil⟩)
    · exact hlast.strlen_ne_none
    · exact hnil rfl
  · intro h
    exact .inr ⟨nofun, fun _ => h⟩

/-! ## §2. The entries. -/

/-- One string. -/
theorem setText_eq_some_iff (string : CString) : (∃ s', s.setText string = some s')
    ↔ s.text.EndsNul ∨ string.strlen < textInputMaxLength - 1 := by
  obtain ⟨text, htext⟩ := s.text.exists_strncpy string.bytes
    (show textInputMaxLength - 1 ≤ textInputMaxLength by decide)
  have hends := CBuffer.strlen_strncpy_ne_none (by decide) string.nulFree htext
  unfold setText
  rw [htext, ← show _ ↔ s.text.EndsNul ∨ string.strlen < _ from hends]
  cases hlen : text.strlen with
  | none =>
      refine iff_of_false (fun hsome => ?_) fun h => h rfl
      obtain ⟨s', h⟩ := hsome
      change (text.strlen).bind _ = _ at h
      rw [hlen] at h
      cases h
  | some textLength =>
      refine iff_of_true ⟨{ s with text, textLength }, ?_⟩ nofun
      show (text.strlen).bind _ = _
      rw [hlen]
      rfl

theorem setText_some {s' : TextInputState} {string : CString} (h : s.setText string = some s') :
    (s'.text.EndsNul ↔ s.text.EndsNul) ∧ s'.text.strlen ≠ none := by
  obtain ⟨text, htext, h⟩ := Option.bind_eq_some_iff.mp h
  obtain ⟨textLength, hlen, h⟩ := Option.bind_eq_some_iff.mp h
  cases h
  refine ⟨CBuffer.endsNul_strncpy (by decide) htext, ?_⟩
  rw [hlen]
  exact nofun

theorem setEditingValue_text {entry : CString × JsonValue} {string : CString}
    (h : pickText entry = some string) : s.setEditingValue c entry = s.setText string := by
  obtain ⟨key, value⟩ := entry
  cases value with
  | kJsonString string_value =>
      unfold pickText at h
      unfold setEditingValue
      dsimp only at h ⊢
      split at h
      next hkey =>
        cases h
        exact if_pos hkey
      next => cases h
  | _ => cases h

/-- Every other entry leaves the text alone. -/
theorem setEditingValue_other {entry : CString × JsonValue} (h : pickText entry = none) :
    ∃ s', s.setEditingValue c entry = some s' ∧ s'.text = s.text := by
  obtain ⟨key, value⟩ := entry
  cases value with
  | kJsonString string_value =>
      unfold pickText at h
      unfold setEditingValue
      dsimp only at h ⊢
      split at h
      next => cases h
      next hkey => exact ⟨s, if_neg hkey, rfl⟩
  | kJsonNumber number_value =>
      unfold setEditingValue
      dsimp only
      split_ifs
      all_goals exact ⟨_, rfl, rfl⟩
  | _ => exact ⟨s, rfl, rfl⟩

theorem foldlM_ends_iff (entries : List (CString × JsonValue)) : ∀ s : TextInputState,
    (∃ s', entries.foldlM (setEditingValue c) s = some s' ∧ s'.text.strlen ≠ none)
      ↔ s.TextEnds (entries.filterMap pickText) := by
  induction entries with
  | nil =>
      intro s
      rw [List.filterMap_nil, textEnds_nil]
      constructor
      · rintro ⟨s', hs', h⟩
        cases hs'
        exact h
      · intro h
        exact ⟨s, rfl, h⟩
  | cons entry entries ih =>
      intro s
      rw [List.foldlM_cons]
      cases hpick : pickText entry with
      | none =>
          obtain ⟨s₁, hs₁, htext⟩ := s.setEditingValue_other (c := c) hpick
          rw [hs₁, List.filterMap_cons_none hpick]
          refine (ih s₁).trans ?_
          unfold TextEnds
          rw [htext]
      | some string =>
          rw [setEditingValue_text hpick, List.filterMap_cons_some hpick]
          have hone := s.setText_eq_some_iff string
          cases hs₁ : s.setText string with
          | none =>
              -- the string is too long, and the last byte is no NUL
              rw [hs₁] at hone
              have hno : ¬ (s.text.EndsNul ∨ string.strlen < textInputMaxLength - 1) := fun h => by
                obtain ⟨s', hs'⟩ := hone.mpr h
                cases hs'
              refine iff_of_false (fun h => ?_) fun h => ?_
              · obtain ⟨s', hs', -⟩ := h
                cases hs'
              · rcases h with hlast | ⟨hall, -⟩
                · exact hno (.inl hlast)
                · exact hno (.inr (hall string List.mem_cons_self))
          | some s₁ =>
              obtain ⟨hlast, hends⟩ := setText_some hs₁
              have hfits := hone.mp ⟨s₁, hs₁⟩
              refine (ih s₁).trans ?_
              unfold TextEnds
              rw [hlast, List.forall_mem_cons]
              constructor
              · rintro (h | ⟨hall, -⟩)
                · exact .inl h
                · rcases hfits with h | hlt
                  · exact .inl h
                  · exact .inr ⟨⟨hlt, hall⟩, fun h => absurd h (List.cons_ne_nil _ _)⟩
              · rintro (h | ⟨⟨-, hall⟩, -⟩)
                · exact .inl h
                · exact .inr ⟨hall, fun _ => hends⟩

/-! ## §3. The message. -/

/-- **`TextInput.setEditingState`** stays inside the buffer, with the log message, if and only if
    the text is terminated. -/
theorem setEditingState_ends_iff (arg : JsonValue) :
    (∃ s', s.setEditingState c arg = some s' ∧ s'.text.strlen ≠ none)
      ↔ s.TextEnds (textsSet arg) := by
  have hsame : (∃ s', some s = some s' ∧ s'.text.strlen ≠ none) ↔ s.TextEnds [] := by
    rw [textEnds_nil]
    constructor
    · rintro ⟨s', hs', h⟩
      cases hs'
      exact h
    · intro h
      exact ⟨s, rfl, h⟩
  cases arg with
  | kJsonObject entries => exact foldlM_ends_iff entries s
  | kJsonNull | kJsonTrue | kJsonFalse => exact hsame
  | kJsonNumber | kJsonString | kJsonArray => exact hsame

/-- `TextInput.setClient` copies to a buffer that it has cleared. -/
theorem exists_setClient (arg : JsonValue) : ∃ s', s.setClient c arg = some s' := by
  unfold setClient
  split
  next client config rest =>
    dsimp only
    split
    next entries =>
      obtain ⟨s', hs', -⟩ := Inv.foldlM_setConfig entries (inv_resetClient _)
      exact ⟨s', hs'⟩
    next => exact ⟨_, rfl⟩
  next => exact ⟨s, rfl⟩

end FlutterWlroots.TextInput.TextInputState
