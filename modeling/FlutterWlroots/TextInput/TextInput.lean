/-
  FlutterWlroots.TextInput.TextInput — the text that the keyboard edits (text_input.c).

  Flutter opens and closes a text field and sets its text and selection with messages on
  `flutter/textinput`; in between, keys edit the text in a buffer of 8192 bytes.  The selection is
  used as an offset into the buffer as it is: an access outside the buffer has no result here.

    • `textInputHandleMessage`  — the messages,
    • `deleteSelection`, `insertText`, `fwrTextInputHandleKey` — the keys,
    • `textInput`               — the runs from `fwr_text_input_init` on.
-/
import FlutterWlroots.Codec.JsonValue
import FlutterWlroots.Lib.CBuffer
import FlutterWlroots.Lib.CInt
import FlutterWlroots.Lib.Double
import FlutterWlroots.Lib.Machine
import Mathlib.Data.List.Infix

namespace FlutterWlroots.TextInput

open Lib Lib.CInt FlutterWlroots.Codec

/-! ## §1. State. -/

/-- `TEXT_INPUT_MAX_LENGTH`. -/
abbrev textInputMaxLength : Nat := 8192

/-- `text_input_state`.  The selection and the composing range are `int32_t`. -/
structure TextInputState where
  active : Bool
  connectionId : Int
  text : CBuffer textInputMaxLength
  textLength : Nat
  selectionBase : Int
  selectionExtent : Int
  composingBase : Int
  composingExtent : Int
  inputAction : CBuffer 64
  multiline : Bool

/-- What C leaves to the target: a number that its integer type does not have, and `number_value`
    of a value that is not a number. -/
structure Target where
  int32 : BitVec 64 → BitVec 32
  int64 : BitVec 64 → BitVec 64
  numberValue : JsonValue → BitVec 64

/-- A message to Flutter: `send_editing_state` or `perform_action`. -/
inductive ClientCall where
  | updateEditingState (s : TextInputState)
  | performAction (connectionId : Int) (action : List UInt8)

namespace TextInputState

variable (c : Target) (s : TextInputState)

/-- `fwr_text_input_init`. -/
def init : TextInputState where
  active := false
  connectionId := 0
  text := .zeros
  textLength := 0
  selectionBase := 0
  selectionExtent := 0
  composingBase := -1
  composingExtent := -1
  inputAction := .zeros
  multiline := false

/-! ## §2. Messages. -/

/-- `number_value`. -/
def numberValue : JsonValue → BitVec 64
  | .kJsonNumber number_value => number_value
  | v => c.numberValue v

/-- `strstr(string, "multiline")`. -/
def namesMultiline (string : CString) : Bool :=
  string.bytes.tails.any (CString.ofLiteral "multiline").bytes.isPrefixOf

/-- One key of `inputType`. -/
def setInputType (entry : CString × JsonValue) : TextInputState :=
  match entry with
  | (key, .kJsonString string_value) =>
      if key = .ofLiteral "name" ∧ namesMultiline string_value then { s with multiline := true }
      else s
  | _ => s

/-- One key of the configuration in `TextInput.setClient`. -/
def setConfig (entry : CString × JsonValue) : Option TextInputState :=
  match entry with
  | (key, .kJsonString string_value) =>
      if key = .ofLiteral "inputAction" then
        (s.inputAction.strncpy string_value.bytes 63).map fun inputAction =>
          { s with inputAction }
      else some s
  | (key, .kJsonObject entries) =>
      if key = .ofLiteral "inputType" then some (entries.foldl setInputType s) else some s
  | _ => some s

/-- The start of `TextInput.setClient`: every field is set. -/
def resetClient (connectionId : Int) : TextInputState where
  active := true
  connectionId
  text := .zeros
  textLength := 0
  selectionBase := 0
  selectionExtent := 0
  composingBase := -1
  composingExtent := -1
  multiline := false
  inputAction := .zeros

/-- `TextInput.setClient`. -/
def setClient : JsonValue → Option TextInputState
  | .kJsonArray (client :: config :: _) =>
      let s := resetClient (Double.toInt 64 c.int64 (numberValue c client))
      match config with
      | .kJsonObject entries => entries.foldlM setConfig s
      | _ => some s
  | _ => some s

/-- The text of `TextInput.setEditingState`. -/
def setText (string : CString) : Option TextInputState := do
  let text ← s.text.strncpy string.bytes (textInputMaxLength - 1)
  let textLength ← text.strlen
  return { s with text, textLength }

/-- One key of `TextInput.setEditingState`. -/
def setEditingValue (entry : CString × JsonValue) : Option TextInputState :=
  match entry with
  | (key, .kJsonString string_value) =>
      if key = .ofLiteral "text" then s.setText string_value else some s
  | (key, .kJsonNumber number_value) =>
      let value := Double.toInt 32 c.int32 number_value
      if key = .ofLiteral "selectionBase" then some { s with selectionBase := value }
      else if key = .ofLiteral "selectionExtent" then some { s with selectionExtent := value }
      else if key = .ofLiteral "composingBase" then some { s with composingBase := value }
      else if key = .ofLiteral "composingExtent" then some { s with composingExtent := value }
      else some s
  | _ => some s

/-- `TextInput.setEditingState`. -/
def setEditingState : JsonValue → Option TextInputState
  | .kJsonObject entries => entries.foldlM (setEditingValue c) s
  | _ => some s

/-- `TextInput.clearClient`. -/
def clearClient : TextInputState :=
  { s with active := false, connectionId := 0, text := .zeros, textLength := 0 }

/-- The methods that are answered and nothing else. -/
def ignoredMethods : List CString :=
  [.ofLiteral "TextInput.show", .ofLiteral "TextInput.hide",
    .ofLiteral "TextInput.setEditableSizeAndTransform", .ofLiteral "TextInput.setMarkedTextRect",
    .ofLiteral "TextInput.setStyle", .ofLiteral "TextInput.setCaretRect",
    .ofLiteral "TextInput.requestAutofill", .ofLiteral "TextInput.finishAutofillContext"]

/-- `text_input_handle_message` of a message that has been decoded: the state, whether the message
    was handled, and the responses with the values of their results. -/
def textInputHandleMessage (call : JsonMethodCall) :
    Option (TextInputState × Bool × List (Option JsonValue)) :=
  if call.method = .ofLiteral "TextInput.setClient" then
    (s.setClient c call.json_arg).map fun s => (s, true, [none])
  else if call.method = .ofLiteral "TextInput.setEditingState" then
    (s.setEditingState c call.json_arg).map fun s => (s, true, [none])
  else if call.method = .ofLiteral "TextInput.clearClient" then
    some (s.clearClient, true, [none])
  else if call.method ∈ ignoredMethods then some (s, true, [none])
  else some (s, false, [])

/-! ## §3. Keys. -/

/-- `memmove` between two places of the text. -/
def moveText (dst src : Int) (n : Nat) : Option (CBuffer textInputMaxLength) :=
  if 0 ≤ dst ∧ 0 ≤ src then s.text.memmove dst.toNat src.toNat n else none

/-- `delete_selection`. -/
def deleteSelection : Option TextInputState :=
  if s.selectionBase = s.selectionExtent then some s
  else do
    let start := if s.selectionBase < s.selectionExtent then s.selectionBase else s.selectionExtent
    let stop := if s.selectionBase > s.selectionExtent then s.selectionBase else s.selectionExtent
    let text ← s.moveText start stop (toSizeT (s.textLength - stop + 1))
    return { s with
      text
      textLength := toSizeT (s.textLength - (stop - start))
      selectionBase := start
      selectionExtent := start }

/-- `insert_text`. -/
def insertText (str : List UInt8) : Option TextInputState :=
  if toSizeT (s.textLength + str.length) ≥ textInputMaxLength then some s
  else do
    let s ← s.deleteSelection
    let pos := s.selectionBase
    let text ← s.moveText (toSizeT (pos + str.length)) pos (toSizeT (s.textLength - pos + 1))
    let text ← text.write pos.toNat str
    return { s with
      text
      textLength := toSizeT (s.textLength + str.length)
      selectionBase := toInt32 (pos + str.length)
      selectionExtent := toInt32 (pos + str.length) }

/-- The byte at `pos` taken out: the tail of `BackSpace` and `Delete` without a selection. -/
def deleteByte (pos : Int) : Option TextInputState := do
  let text ← s.moveText pos (pos + 1) (toSizeT (s.textLength - pos))
  return { s with text, textLength := toSizeT (s.textLength - 1) }

/-- A byte of `utf8` with the bits of `mark` set. -/
def marked (mark bits : UInt32) : UInt8 := (mark ||| bits).toUInt8

/-- The UTF-8 encoder of `fwr_text_input_handle_key`. -/
def utf8 (unicode : UInt32) : List UInt8 :=
  if unicode < 0x80 then [unicode.toUInt8]
  else if unicode < 0x800 then
    [marked 0xC0 (unicode >>> 6), marked 0x80 (unicode &&& 0x3F)]
  else if unicode < 0x10000 then
    [marked 0xE0 (unicode >>> 12), marked 0x80 ((unicode >>> 6) &&& 0x3F),
      marked 0x80 (unicode &&& 0x3F)]
  else
    [marked 0xF0 (unicode >>> 18), marked 0x80 ((unicode >>> 12) &&& 0x3F),
      marked 0x80 ((unicode >>> 6) &&& 0x3F), marked 0x80 (unicode &&& 0x3F)]

/-- The keysyms that are told apart. -/
inductive Keysym where
  | backSpace
  | delete
  | left
  | right
  | home
  | endKey
  | returnKey
  | kpEnter
  | tab
  | other

/-- The state and `changed`. -/
def editKey (keysym : Keysym) (unicode : UInt32) : Option (TextInputState × Bool) :=
  match keysym with
  | .backSpace =>
      if s.selectionBase ≠ s.selectionExtent then s.deleteSelection.map (·, true)
      else if s.selectionBase > 0 then
        (s.deleteByte (s.selectionBase - 1)).map fun s =>
          ({ s with
            selectionBase := s.selectionBase - 1
            selectionExtent := s.selectionBase - 1 }, true)
      else some (s, false)
  | .delete =>
      if s.selectionBase ≠ s.selectionExtent then s.deleteSelection.map (·, true)
      else if s.selectionBase < toInt32 s.textLength then
        (s.deleteByte s.selectionBase).map (·, true)
      else some (s, false)
  | .left =>
      if s.selectionBase > 0 then
        some ({ s with
          selectionBase := s.selectionBase - 1
          selectionExtent := s.selectionBase - 1 }, true)
      else some (s, false)
  | .right =>
      if s.selectionBase < toInt32 s.textLength then
        some ({ s with
          selectionBase := s.selectionBase + 1
          selectionExtent := s.selectionBase + 1 }, true)
      else some (s, false)
  | .home => some ({ s with selectionBase := 0, selectionExtent := 0 }, true)
  | .endKey =>
      some ({ s with
        selectionBase := toInt32 s.textLength
        selectionExtent := toInt32 s.textLength }, true)
  | .returnKey | .kpEnter =>
      if s.multiline then (s.insertText [10]).map (·, true) else some (s, false)
  | .tab => some (s, false)
  | .other =>
      if unicode ≥ 0x20 ∧ unicode ≠ 0x7F then (s.insertText (utf8 unicode)).map (·, true)
      else some (s, false)

/-- `perform_action` for the Return key of a field with one line. -/
def action : List UInt8 :=
  match s.inputAction.bytes.takeWhile (· ≠ 0) with
  | [] => (CString.ofLiteral "TextInputAction.done").bytes
  | action => action

/-- What a key sends to Flutter. -/
def sent (keysym : Keysym) (changed : Bool) : List ClientCall :=
  if changed then [.updateEditingState s]
  else
    match keysym with
    | .returnKey | .kpEnter => [.performAction s.connectionId s.action]
    | _ => []

/-- `fwr_text_input_handle_key`. -/
def fwrTextInputHandleKey (keysym : Keysym) (unicode : UInt32) (pressed : Bool) :
    Option (TextInputState × List ClientCall) :=
  if ¬ s.active ∨ ¬ pressed then some (s, [])
  else (s.editKey keysym unicode).map fun (s, changed) => (s, s.sent keysym changed)

/-! ## §4. Runs. -/

/-- A message on `flutter/textinput`, decoded, or a key. -/
inductive Event where
  | message (call : JsonMethodCall)
  | key (keysym : Keysym) (unicode : UInt32) (pressed : Bool)

def step (s : TextInputState) : Event → Option TextInputState
  | .message call => (s.textInputHandleMessage c call).map (·.1)
  | .key keysym unicode pressed => (s.fwrTextInputHandleKey keysym unicode pressed).map (·.1)

end TextInputState

/-- Text input from `fwr_text_input_init` on. -/
def textInput (c : Target) : Machine TextInputState TextInputState.Event where
  init := .init
  step := TextInputState.step c

end FlutterWlroots.TextInput
