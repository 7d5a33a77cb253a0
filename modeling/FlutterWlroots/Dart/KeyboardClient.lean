/-
  FlutterWlroots.Dart.KeyboardClient — what the on-screen keyboard types (keyboard_client_controller.dart).

  The controller of a text field holds a text in UTF-16 and a selection whose ends may come in either
  order.  The text is cut at the first end of the selection, but the new caret is counted from the end
  at which the selection was begun; after a backspace it is moved back to a boundary of the new text.

    • `Represents.editsTo`   — what an edit leaves, and when the caret is right behind it,
    • `step_follows_iff`     — one edit,
    • `along_follows_iff`    — in which runs text and caret are right all the time.

  Where a grapheme cluster begins is known to the package `characters` only (`CharacterRanges`).
-/
import FlutterWlroots.Lib.Machine
import FlutterWlroots.Lib.TextField
import Mathlib.Data.Nat.Find

namespace FlutterWlroots.Dart

open Lib

/-! ## §1. Texts and ranges. -/

inductive TextAffinity where
  | upstream
  | downstream
deriving DecidableEq, Repr

/-- A selection, from where it was begun to where the caret is. -/
structure TextSelection where
  baseOffset : Int
  extentOffset : Int
  affinity : TextAffinity
  isDirectional : Bool
deriving DecidableEq, Repr

/-- `String.substring`; no result is a `RangeError`. -/
def substring (text : List UInt16) (first last : Int) : Option (List UInt16) :=
  if 0 ≤ first ∧ first ≤ last ∧ last ≤ text.length then
    some ((text.take last.toNat).drop first.toNat)
  else none

namespace TextSelection

variable (selection : TextSelection)

def start : Int := min selection.baseOffset selection.extentOffset

/-- The source's `end`. -/
def stop : Int := max selection.baseOffset selection.extentOffset

def textBefore (text : List UInt16) : Option (List UInt16) := substring text 0 selection.start

def textAfter (text : List UInt16) : Option (List UInt16) :=
  substring text selection.stop text.length

end TextSelection

structure TextRange where
  start : Int
  stop : Int
deriving DecidableEq, Repr

namespace TextRange

def empty : TextRange := ⟨-1, -1⟩

def isValid (range : TextRange) : Bool := range.start ≥ 0 && range.stop ≥ 0

def isNormalized (range : TextRange) : Bool := range.stop ≥ range.start

end TextRange

/-- The value of the controller. -/
structure TextEditingValue where
  text : List UInt16
  selection : TextSelection
  composing : TextRange
deriving DecidableEq, Repr

def TextEditingValue.isComposingRangeValid (value : TextEditingValue) : Bool :=
  value.composing.isValid && value.composing.isNormalized
    && decide (value.composing.stop ≤ value.text.length)

/-- The package `characters`: the boundaries of the grapheme clusters of a text, and the ranges that
    the controller works with, as they are documented. -/
structure CharacterRanges (Range : Type) where
  isBreak : List UInt16 → Nat → Bool
  isBreak_zero : ∀ text, isBreak text 0 = true
  source : Range → List UInt16
  stringBeforeLength : Range → Nat
  stringAfterLength : Range → Nat
  rangeAt : List UInt16 → Int → Option Range
  moveBack : Range → Range
  replaceRange : Range → List UInt16 → Range
  /-- A place inside of a cluster is moved to where the cluster begins. -/
  rangeAt_spec : ∀ text (offset : Nat), offset ≤ text.length → ∃ range,
    rangeAt text offset = some range ∧ source range = text
      ∧ stringBeforeLength range = Nat.findGreatest (isBreak text ·) offset
  source_moveBack : ∀ range, source (moveBack range) = source range
  /-- The range moves to the cluster in front of it. -/
  stringBeforeLength_moveBack : ∀ range, stringBeforeLength (moveBack range)
    = Nat.findGreatest (isBreak (source range) ·) (stringBeforeLength range - 1)
  stringAfterLength_moveBack : ∀ range, stringAfterLength (moveBack range)
    = (source range).length - stringBeforeLength range
  source_replaceRange : ∀ range text, source (replaceRange range text)
    = (source range).take (stringBeforeLength range) ++ text
      ++ (source range).drop ((source range).length - stringAfterLength range)
  /-- The new range, again, begins where a cluster does. -/
  stringBeforeLength_replaceRange : ∀ range text, stringBeforeLength (replaceRange range text)
    = Nat.findGreatest (isBreak (source (replaceRange range text)) ·) (stringBeforeLength range)

/-! ## §2. The controller. -/

namespace KeyboardClientController

variable {Range : Type} (characters : CharacterRanges Range) (value : TextEditingValue)

/-- The setter of `value`; no result if the assertion fails. -/
def setValue (newValue : TextEditingValue) : Option TextEditingValue :=
  if ¬ newValue.composing.isValid ∨ newValue.isComposingRangeValid then some newValue else none

/-- A new value with the caret somewhere; the composing range is none by default. -/
def setText (text : List UInt16) (baseOffset extentOffset : Int) : Option TextEditingValue :=
  setValue
    { text, selection := { value.selection with baseOffset, extentOffset }, composing := .empty }

def deleteSelection : Option TextEditingValue :=
  -- No selection, do nothing.
  if value.selection.baseOffset = value.selection.extentOffset then some value
  else do
    let newText := (← value.selection.textBefore value.text)
      ++ (← value.selection.textAfter value.text)
    setText value newText value.selection.baseOffset value.selection.baseOffset

def backspace : Option TextEditingValue :=
  -- Cursor at start, do nothing.
  if value.selection.baseOffset = 0 ∧ value.selection.extentOffset = 0 then some value
  else if value.selection.baseOffset = value.selection.extentOffset then do
    let chars ← characters.rangeAt value.text value.selection.baseOffset
    -- Delete a single grapheme cluster.
    let chars := characters.replaceRange (characters.moveBack chars) []
    setText value (characters.source chars) (characters.stringBeforeLength chars)
      (characters.stringBeforeLength chars)
  else deleteSelection value

def addText (insertText : List UInt16) : Option TextEditingValue := do
  let newText := (← value.selection.textBefore value.text) ++ insertText
    ++ (← value.selection.textAfter value.text)
  setText value newText (value.selection.baseOffset + insertText.length)
    (value.selection.baseOffset + insertText.length)

end KeyboardClientController

/-- What a keyboard can do to the text. -/
inductive KeyboardEdit where
  | addText (insertText : List UInt16)
  | backspace
  | deleteSelection
deriving DecidableEq, Repr

namespace KeyboardEdit

variable {Range : Type} (characters : CharacterRanges Range)

/-- The edit, by the controller. -/
def run (value : TextEditingValue) : KeyboardEdit → Option TextEditingValue
  | .addText insertText => KeyboardClientController.addText value insertText
  | .backspace => KeyboardClientController.backspace characters value
  | .deleteSelection => KeyboardClientController.deleteSelection value

/-! ## §3. What the edits are for. -/

/-- The place of the boundary at or in front of the caret, and that of the one before it: between
    them is the grapheme cluster that a backspace takes out. -/
def clusterStop (f : TextField UInt16) : Nat :=
  Nat.findGreatest (characters.isBreak f.text ·) f.base

@[inherit_doc clusterStop]
def clusterStart (f : TextField UInt16) : Nat :=
  Nat.findGreatest (characters.isBreak f.text ·) (clusterStop characters f - 1)

theorem clusterStop_le (f : TextField UInt16) : clusterStop characters f ≤ f.text.length :=
  Nat.le_trans (Nat.findGreatest_le _) f.base_le

theorem clusterStart_le (f : TextField UInt16) :
    clusterStart characters f ≤ clusterStop characters f :=
  Nat.le_trans (Nat.findGreatest_le _) (Nat.sub_le ..)

/-- The cluster in front of the caret, selected. -/
def cluster (f : TextField UInt16) : TextField UInt16 where
  text := f.text
  base := clusterStart characters f
  extent := clusterStop characters f
  base_le := Nat.le_trans (clusterStart_le characters f) (clusterStop_le characters f)
  extent_le := clusterStop_le characters f

/-- The selection gives way to the text; without one, a backspace takes out a cluster. -/
def reference (f : TextField UInt16) : KeyboardEdit → TextField UInt16
  | .addText insertText => f.replace insertText
  | .backspace =>
      if f.base ≠ f.extent then f.replace [] else (cluster characters f).replace []
  | .deleteSelection => f.replace []

/-- The selection runs forwards, and what is in front of a cluster that is taken out does not merge
    with what is behind it. -/
def Forwards (f : TextField UInt16) : KeyboardEdit → Prop
  | .addText _ | .deleteSelection => f.base ≤ f.extent
  | .backspace =>
      if f.base ≠ f.extent then f.base ≤ f.extent
      else characters.isBreak (f.text.take (clusterStart characters f)
        ++ f.text.drop (clusterStop characters f)) (clusterStart characters f) = true

end KeyboardEdit

/-! ## §4. Edits. -/

namespace TextEditingValue

variable {Range : Type} {characters : CharacterRanges Range} {value : TextEditingValue}
  {f : TextField UInt16} {text : List UInt16}

/-- The value is that of the field; both ends of the selection are in the text. -/
structure Represents (value : TextEditingValue) (f : TextField UInt16) : Prop where
  text : value.text = f.text
  base : value.selection.baseOffset = f.base
  extent : value.selection.extentOffset = f.extent

theorem exists_represents_iff : (∃ f, value.Represents f) ↔
    (0 ≤ value.selection.baseOffset ∧ value.selection.baseOffset ≤ value.text.length)
      ∧ 0 ≤ value.selection.extentOffset ∧ value.selection.extentOffset ≤ value.text.length := by
  constructor
  · rintro ⟨f, htext, hbase, hextent⟩
    have hbase' := f.base_le
    have hextent' := f.extent_le
    rw [htext, hbase, hextent]
    omega
  · rintro ⟨⟨hbase, hbase'⟩, hextent, hextent'⟩
    exact ⟨⟨value.text, value.selection.baseOffset.toNat, value.selection.extentOffset.toNat,
        by omega, by omega⟩,
      rfl, (Int.toNat_of_nonneg hbase).symm, (Int.toNat_of_nonneg hextent).symm⟩

theorem Represents.textBefore (h : value.Represents f) :
    value.selection.textBefore value.text = some (f.text.take f.start) := by
  have hle := f.start_le
  have hstart : value.selection.start = f.start := by
    rw [TextSelection.start, h.base, h.extent, TextField.start]
    omega
  rw [TextSelection.textBefore, hstart, h.text, substring, if_pos (by omega)]
  rfl

theorem Represents.textAfter (h : value.Represents f) :
    value.selection.textAfter value.text = some (f.text.drop f.stop) := by
  have hle := f.stop_le
  have hstop : value.selection.stop = f.stop := by
    rw [TextSelection.stop, h.base, h.extent, TextField.stop]
    omega
  rw [TextSelection.textAfter, hstop, h.text, substring, if_pos (by omega)]
  simp

/-- The new value has the text of the field, and the caret too under the condition. -/
def EditsTo (r : Option TextEditingValue) (f : TextField UInt16) (q : Prop) : Prop :=
  ∃ value, r = some value ∧ value.text = f.text ∧ (value.Represents f ↔ q)

/-- A new value with a caret. -/
theorem editsTo_setText (value : TextEditingValue) {caret : Int} {q : Prop} (htext : text = f.text)
    (hf : f.base = f.extent) (hq : caret = f.base ↔ q) :
    EditsTo (KeyboardClientController.setText value text caret caret) f q :=
  ⟨_, rfl, htext, fun h => hq.mp h.base, fun h => ⟨htext, hq.mpr h, hf ▸ hq.mpr h⟩⟩

theorem Represents.editsTo_addText (h : value.Represents f) (str : List UInt16) :
    EditsTo (KeyboardClientController.addText value str) (f.replace str) (f.base ≤ f.extent) := by
  unfold KeyboardClientController.addText
  rw [h.textBefore, h.textAfter]
  refine editsTo_setText value rfl rfl ?_
  show value.selection.baseOffset + str.length = ((f.start + str.length : Nat) : Int) ↔ _
  rw [h.base, TextField.start]
  omega

theorem Represents.editsTo_deleteSelection (h : value.Represents f) :
    EditsTo (KeyboardClientController.deleteSelection value) (f.replace [])
      (f.base ≤ f.extent) := by
  have hbase := h.base
  have hextent := h.extent
  unfold KeyboardClientController.deleteSelection
  split
  next heq =>
    rw [f.replace_nil_of_eq (by omega)]
    exact ⟨value, rfl, h.text, iff_of_true h (by omega)⟩
  next =>
    rw [h.textBefore, h.textAfter]
    refine editsTo_setText value f.text_replace_nil.symm rfl ?_
    show value.selection.baseOffset = ((f.start : Nat) : Int) ↔ _
    rw [hbase, TextField.start]
    omega

/-- The range whose cluster is taken out. -/
theorem replace_moveBack {range : Range} (hsource : characters.source range = f.text)
    (hstop : characters.stringBeforeLength range = KeyboardEdit.clusterStop characters f) :
    let chars := characters.replaceRange (characters.moveBack range) []
    characters.source chars = f.text.take (KeyboardEdit.clusterStart characters f)
        ++ f.text.drop (KeyboardEdit.clusterStop characters f)
      ∧ characters.stringBeforeLength chars = Nat.findGreatest
        (characters.isBreak (characters.source chars) ·) (KeyboardEdit.clusterStart characters f) := by
  have hle := KeyboardEdit.clusterStop_le characters f
  have hstart : characters.stringBeforeLength (characters.moveBack range)
      = KeyboardEdit.clusterStart characters f := by
    rw [characters.stringBeforeLength_moveBack, hsource, hstop, KeyboardEdit.clusterStart]
  refine ⟨?_, ?_⟩
  · rw [characters.source_replaceRange, characters.source_moveBack, hsource, hstart,
      characters.stringAfterLength_moveBack, hsource, hstop, Nat.sub_sub_self hle, List.append_nil]
  · rw [characters.stringBeforeLength_replaceRange, hstart]

theorem start_cluster (f : TextField UInt16) :
    (KeyboardEdit.cluster characters f).start = KeyboardEdit.clusterStart characters f :=
  Nat.min_eq_left (KeyboardEdit.clusterStart_le characters f)

theorem stop_cluster (f : TextField UInt16) :
    (KeyboardEdit.cluster characters f).stop = KeyboardEdit.clusterStop characters f :=
  Nat.max_eq_right (KeyboardEdit.clusterStart_le characters f)

/-- The caret after a backspace is where the cluster was, if that is a boundary still. -/
theorem findGreatest_eq_iff (text : List UInt16) (pos : Nat) :
    Nat.findGreatest (characters.isBreak text ·) pos = pos ↔ characters.isBreak text pos = true := by
  constructor
  · intro h
    cases pos with
    | zero => exact characters.isBreak_zero text
    | succ pos => exact Nat.findGreatest_of_ne_zero h (Nat.succ_ne_zero pos)
  · exact Nat.findGreatest_eq (P := (characters.isBreak text · = true))

theorem Represents.editsTo_backspace (h : value.Represents f) :
    EditsTo (KeyboardClientController.backspace characters value)
      (KeyboardEdit.reference characters f .backspace)
      (KeyboardEdit.Forwards characters f .backspace) := by
  have hbase := h.base
  have hextent := h.extent
  unfold KeyboardClientController.backspace KeyboardEdit.reference KeyboardEdit.Forwards
  dsimp only
  split
  next hstart =>
    -- there is no cluster in front of the caret
    have hstop : KeyboardEdit.clusterStop characters f = 0 := by
      rw [KeyboardEdit.clusterStop, show f.base = 0 by omega, Nat.findGreatest_zero]
    have hfirst : KeyboardEdit.clusterStart characters f = 0 :=
      Nat.le_zero.mp (hstop ▸ KeyboardEdit.clusterStart_le characters f)
    have hcluster : (KeyboardEdit.cluster characters f).replace []
        = KeyboardEdit.cluster characters f :=
      TextField.replace_nil_of_eq _ (hfirst.trans hstop.symm)
    rw [if_neg (by omega), if_neg (by omega), hcluster, hfirst]
    refine ⟨value, rfl, h.text, iff_of_true ⟨h.text, ?_, ?_⟩ (characters.isBreak_zero _)⟩
    · exact hstart.1.trans (congrArg Nat.cast hfirst.symm)
    · exact hstart.2.trans (congrArg Nat.cast hstop.symm)
  next =>
    split
    next heq =>
      obtain ⟨range, hrange, hsource, hbefore⟩ := characters.rangeAt_spec f.text f.base f.base_le
      obtain ⟨htext, hcaret⟩ := replace_moveBack hsource hbefore
      rw [if_neg (by omega), if_neg (by omega), h.text, hbase, hrange]
      refine editsTo_setText value ?_ rfl ?_
      · rw [htext, TextField.text_replace_nil, start_cluster, stop_cluster]
        rfl
      · show ((_ : Nat) : Int) = (((KeyboardEdit.cluster characters f).start : Nat) : Int) ↔ _
        rw [Int.natCast_inj, start_cluster, hcaret, findGreatest_eq_iff, htext]
    next hne =>
      rw [if_pos (by omega), if_pos (by omega)]
      exact h.editsTo_deleteSelection

/-- **Every edit**: the text is right, and the caret exactly under the condition. -/
theorem Represents.editsTo (h : value.Represents f) (e : KeyboardEdit) :
    EditsTo (e.run characters value) (e.reference characters f) (e.Forwards characters f) := by
  cases e with
  | addText insertText => exact h.editsTo_addText insertText
  | backspace => exact h.editsTo_backspace
  | deleteSelection => exact h.editsTo_deleteSelection

end TextEditingValue

/-! ## §5. Runs. -/

section Runs

variable {Range : Type} (characters : CharacterRanges Range)

/-- The controller, until an edit throws, next to the reference. -/
def keyboardClient (value : TextEditingValue) (f : TextField UInt16) :
    Machine (Option TextEditingValue × TextField UInt16) KeyboardEdit where
  init := (some value, f)
  step := fun (value, f) e => some (value.bind (e.run characters), e.reference characters f)

/-- The controller has the text of the reference, and a caret where the reference has it. -/
def Follows (s : Option TextEditingValue × TextField UInt16) : Prop :=
  ∃ value, s.1 = some value ∧ value.Represents s.2

theorem step_follows_iff {s s' : Option TextEditingValue × TextField UInt16} {e : KeyboardEdit}
    {value : TextEditingValue} {f : TextField UInt16} (hs : Follows s)
    (hstep : (keyboardClient characters value f).step s e = some s') :
    Follows s' ↔ e.Forwards characters s.2 := by
  obtain ⟨_, f⟩ := s
  obtain ⟨value, rfl, h⟩ := hs
  have hedits : TextEditingValue.EditsTo (e.run characters value) (e.reference characters f)
      (e.Forwards characters f) := h.editsTo e
  obtain ⟨value', hrun, -, hiff⟩ := hedits
  cases hstep
  rw [← hiff]
  constructor
  · rintro ⟨_, hsome, hrep⟩
    cases hrun.symm.trans hsome
    exact hrep
  · exact fun hrep => ⟨value', hrun, hrep⟩

theorem exec_isSome {value : TextEditingValue} {f : TextField UInt16} (es : List KeyboardEdit)
    (s : Option TextEditingValue × TextField UInt16) :
    ((keyboardClient characters value f).exec s es).isSome := by
  induction es generalizing s with
  | nil => rfl
  | cons e es ih => exact ih _

/-- **In which runs text and caret are right all the time**: from any selection in the text, all edits
    have to go forwards. -/
theorem along_follows_iff (value : TextEditingValue) (f : TextField UInt16) (es : List KeyboardEdit)
    (h : value.Represents f) :
    (keyboardClient characters value f).Along Follows (some value, f) es ↔
      (keyboardClient characters value f).Meets (fun s e => e.Forwards characters s.2)
        (some value, f) es :=
  Machine.along_iff_meets (fun _ _ _ => step_follows_iff characters) ⟨value, rfl, h⟩
    (exec_isSome characters es _)

end Runs

theorem findGreatest_true (n : Nat) : Nat.findGreatest (fun _ => true = true) n = n :=
  Nat.findGreatest_eq (P := fun _ => true = true) rfl

/-- Ranges for texts in which every code unit is a cluster of its own, such as letters. -/
def letterRanges : CharacterRanges (List UInt16 × Nat × Nat) where
  isBreak := fun _ _ => true
  isBreak_zero := fun _ => rfl
  source := fun range => range.1
  stringBeforeLength := fun range => range.2.1
  stringAfterLength := fun range => range.2.2
  rangeAt := fun text offset =>
    if 0 ≤ offset ∧ offset ≤ text.length then
      some (text, offset.toNat, text.length - offset.toNat)
    else none
  moveBack := fun (text, before, _) => (text, before - 1, text.length - before)
  replaceRange := fun (text, before, after) str =>
    (text.take before ++ str ++ text.drop (text.length - after), before, after)
  rangeAt_spec := fun text offset h =>
    ⟨(text, offset, text.length - offset), if_pos (by omega), rfl, (findGreatest_true _).symm⟩
  source_moveBack := fun _ => rfl
  stringBeforeLength_moveBack := fun _ => (findGreatest_true _).symm
  stringAfterLength_moveBack := fun _ => rfl
  source_replaceRange := fun _ _ => rfl
  stringBeforeLength_replaceRange := fun _ _ => (findGreatest_true _).symm

/-- "abc" with a selection. -/
def lettersSelected (baseOffset extentOffset : Int) : TextEditingValue where
  text := [97, 98, 99]
  selection := { baseOffset, extentOffset, affinity := .downstream, isDirectional := false }
  composing := .empty

/-- A letter over a forward selection, and a backspace. -/
theorem along_follows_iff_letters :
    (keyboardClient letterRanges (lettersSelected 1 2) ⟨[97, 98, 99], 1, 2, by decide, by decide⟩).Along
        Follows (some (lettersSelected 1 2), ⟨[97, 98, 99], 1, 2, by decide, by decide⟩)
        [.addText [120], .backspace] ↔
      (keyboardClient letterRanges (lettersSelected 1 2)
          ⟨[97, 98, 99], 1, 2, by decide, by decide⟩).Meets
        (fun s e => e.Forwards letterRanges s.2)
        (some (lettersSelected 1 2), ⟨[97, 98, 99], 1, 2, by decide, by decide⟩)
        [.addText [120], .backspace] :=
  along_follows_iff letterRanges _ _ _ ⟨rfl, rfl, rfl⟩

/-- **A letter over a reversed selection** leaves the caret behind the text, and the next one throws. -/
theorem addText_reversed : ∃ value,
    KeyboardEdit.run letterRanges (lettersSelected 3 0) (.addText [120]) = some value
      ∧ value.text = [120] ∧ value.selection.baseOffset = 4 ∧ value.selection.extentOffset = 4
      ∧ KeyboardEdit.run letterRanges value (.addText [121]) = none :=
  ⟨_, rfl, rfl, rfl, rfl, rfl⟩

end FlutterWlroots.Dart
