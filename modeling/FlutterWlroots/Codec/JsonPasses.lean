/-
  FlutterWlroots.Codec.JsonPasses — the two passes over a JSON value.

  `jsonText` is the text as a function of the value.  The size pass counts it and the write pass
  prints it (`Prints`): the text is stored from the cursor on, the cursor comes to its end, and no
  byte is touched except those of the text and one behind it, where a NUL may have been left.

    • `Prints.append`                       — what follows is printed over that NUL,
    • `platchCalcValueSizeJson_eq_length`   — the size pass,
    • `platchWriteValueToBufferJson_prints` — the write pass,
    • `json_passes_agree`                   — both together, and what `platch_encode` allocates.
-/
import FlutterWlroots.Codec.JsonEncode
import FlutterWlroots.Lib.StateRun

namespace FlutterWlroots.PlatformChannel

open Lib.Mem Lib.StateRun
open FlutterWlroots.Codec

variable (percentG : BitVec 64 → CString)

/-! ## §1. The text. -/

/-- A string without the quotation marks. -/
def escapeText (string_value : List UInt8) : List UInt8 := string_value.flatMap escape

mutual
/-- The text of a value. -/
def jsonText : JsonValue → List UInt8
  | .kJsonNull => [0x6E, 0x75, 0x6C, 0x6C]
  | .kJsonTrue => [0x74, 0x72, 0x75, 0x65]
  | .kJsonFalse => [0x66, 0x61, 0x6C, 0x73, 0x65]
  | .kJsonNumber number_value => (percentG number_value).bytes
  | .kJsonString string_value => 0x22 :: escapeText string_value.bytes ++ [0x22]
  | .kJsonArray array => 0x5B :: arrayText array ++ [0x5D]
  | .kJsonObject entries => 0x7B :: membersText entries ++ [0x7D]
/-- The values of an array, with commas between them. -/
def arrayText : List JsonValue → List UInt8
  | [] => []
  | [v] => jsonText v
  | v :: array => jsonText v ++ 0x2C :: arrayText array
/-- The entries of an object. -/
def membersText : List (CString × JsonValue) → List UInt8
  | [] => []
  | [(key, v)] => (keyText key).bytes ++ jsonText v
  | (key, v) :: entries => (keyText key).bytes ++ (jsonText v ++ 0x2C :: membersText entries)
end

/-! ## §2. The size pass. -/

theorem length_escape (s : UInt8) : (escape s).length = if isEscaped s then 2 else 1 := by
  simp only [escape, isEscaped]
  split_ifs <;> simp_all

theorem calcString_eq : ∀ (size : Nat) (string_value : List UInt8),
    calcString size string_value = size + (escapeText string_value).length
  | size, [] => rfl
  | size, s :: string_value => by
      have hcons : escapeText (s :: string_value) = escape s ++ escapeText string_value :=
        List.flatMap_cons
      rw [calcString, calcString_eq, hcons, List.length_append, length_escape]
      split
      · omega
      · omega

theorem length_keyText (key : CString) : (keyText key).bytes.length = key.strlen + 3 := by
  simp [keyText, CString.strlen]

variable {percentG}

theorem calcArray_eq {array : List JsonValue}
    (h : ∀ v ∈ array, platchCalcValueSizeJson percentG v = (jsonText percentG v).length) :
    ∀ size, calcArray percentG size array = size + (arrayText percentG array).length := by
  induction array with
  | nil => exact fun size => rfl
  | cons v array ih =>
      obtain ⟨hv, hrest⟩ := List.forall_mem_cons.mp h
      intro size
      cases array with
      | nil => rw [calcArray, arrayText, hv]
      | cons v' array =>
          rw [calcArray, arrayText, ih hrest, hv, List.length_append, List.length_cons]
          · omega
          all_goals exact List.cons_ne_nil _ _

theorem calcMembers_eq {entries : List (CString × JsonValue)}
    (h : ∀ e ∈ entries, platchCalcValueSizeJson percentG e.2 = (jsonText percentG e.2).length) :
    ∀ size, calcMembers percentG size entries = size + (membersText percentG entries).length := by
  induction entries with
  | nil => exact fun size => rfl
  | cons e entries ih =>
      obtain ⟨key, v⟩ := e
      obtain ⟨hv, hrest⟩ := List.forall_mem_cons.mp h
      dsimp only at hv
      intro size
      cases entries with
      | nil => rw [calcMembers, membersText, hv, List.length_append, length_keyText]
      | cons e' entries =>
          rw [calcMembers, membersText, ih hrest, hv, List.length_append, List.length_append,
            List.length_cons, length_keyText]
          · omega
          all_goals exact List.cons_ne_nil _ _

/-- **The size pass counts the text.** -/
theorem platchCalcValueSizeJson_eq_length (v : JsonValue) :
    platchCalcValueSizeJson percentG v = (jsonText percentG v).length := by
  induction v with
  | kJsonNull | kJsonTrue | kJsonFalse => rfl
  | kJsonNumber x => rfl
  | kJsonString s =>
      rw [platchCalcValueSizeJson, calcString_eq, jsonText, List.length_append, List.length_cons,
        List.length_singleton]
      omega
  | kJsonArray vs ih =>
      rw [platchCalcValueSizeJson, calcArray_eq ih, jsonText, List.length_append, List.length_cons,
        List.length_singleton]
      omega
  | kJsonObject es ih =>
      rw [platchCalcValueSizeJson, calcMembers_eq ih, jsonText, List.length_append,
        List.length_cons, List.length_singleton]
      omega

/-! ## §3. The write pass. -/

/-- `after` is `before` with the text from `pos` on; the byte behind the text is left open. -/
structure Printed (before : Block) (pos : Nat) (text : List UInt8) (after : Block) : Prop where
  size : after.size = before.size
  inside : ∀ j < text.length, after.cells[pos + j]? = some text[j]?
  outside : ∀ j, j < pos ∨ pos + text.length < j → after.cells[j]? = before.cells[j]?

/-- The pass prints the text wherever there is room for it and one byte more. -/
def Prints (m : WriteM Unit) (text : List UInt8) : Prop :=
  ∀ w : Writer, w.pos + text.length < w.block.size →
    ∃ block, m.run w = .ok () ⟨block, w.pos + text.length⟩ ∧ Printed w.block w.pos text block

variable {m m' : WriteM Unit} {s t : List UInt8}

/-- **Sequencing**: the second text begins where the first one has left its NUL. -/
theorem Prints.append (h : Prints m s) (h' : Prints m' t) : Prints (m >>= fun _ => m') (s ++ t) := by
  intro w hroom
  rw [List.length_append] at hroom
  obtain ⟨block, hrun, hprinted⟩ := h w (by omega)
  have hsize := hprinted.size
  obtain ⟨block', hrun', hprinted'⟩ := h' ⟨block, w.pos + s.length⟩ (by dsimp only; omega)
  dsimp only at hrun' hprinted'
  refine ⟨block', ?_, hprinted'.size.trans hsize, fun j hj => ?_, fun j hj => ?_⟩
  · rw [run_bind_ok hrun, hrun', List.length_append, Nat.add_assoc]
  · -- the first text is in front of the second pass
    rcases Nat.lt_or_ge j s.length with hlt | hge
    · rw [hprinted'.outside _ (.inl (by omega)), hprinted.inside j hlt,
        List.getElem?_append_left hlt]
    · rw [List.length_append] at hj
      have hin := hprinted'.inside (j - s.length) (by omega)
      rw [show w.pos + s.length + (j - s.length) = w.pos + j by omega] at hin
      rw [hin, List.getElem?_append_right hge]
  · rw [List.length_append] at hj
    rw [hprinted'.outside j (by omega), hprinted.outside j (by omega)]

theorem prints_nil : Prints (pure ()) [] := by
  intro w _
  exact ⟨w.block, rfl, rfl, fun j hj => absurd hj (Nat.not_lt_zero j), fun j _ => rfl⟩

/-- Plain stores. -/
theorem prints_write (text : List UInt8) : Prints (write text) text := by
  intro w hroom
  obtain ⟨block, hstore⟩ := Block.exists_store (show w.pos + text.length ≤ w.block.size by omega)
  refine ⟨block, ?_, Block.size_store hstore, fun j hj => ?_, fun j hj => ?_⟩
  · rw [write, run_get_bind, hstore]
    rfl
  · rw [Block.getElem?_store hstore, if_pos (by omega), Nat.add_sub_cancel_left]
  · rw [Block.getElem?_store hstore, if_neg (by omega)]

/-- **`sprintf`**: the NUL is the byte behind the text. -/
theorem prints_sprintf (text : CString) : Prints (sprintf text) text.bytes := by
  intro w hroom
  have hfit : w.pos + (text.bytes ++ [0]).length ≤ w.block.size := by
    rw [List.length_append, List.length_singleton]
    omega
  obtain ⟨block, hstore⟩ := Block.exists_store hfit
  refine ⟨block, ?_, Block.size_store hstore, fun j hj => ?_, fun j hj => ?_⟩
  · have hrun : (write (text.bytes ++ [0])).run w
        = .ok () ⟨block, w.pos + (text.bytes ++ [0]).length⟩ := by
      rw [write, run_get_bind, hstore]
      rfl
    rw [sprintf, run_bind_ok hrun, List.length_append, List.length_singleton, ← Nat.add_assoc]
    rfl
  · rw [Block.getElem?_store hstore, List.length_append, if_pos (by omega),
      Nat.add_sub_cancel_left, List.getElem?_append_left hj]
  · rw [Block.getElem?_store hstore, List.length_append, List.length_singleton, if_neg (by omega)]

theorem prints_writeEscaped : ∀ string_value : List UInt8,
    Prints (writeEscaped string_value) (escapeText string_value)
  | [] => prints_nil
  | s :: string_value => (prints_write (escape s)).append (prints_writeEscaped string_value)

theorem prints_printArray {array : List JsonValue}
    (h : ∀ v ∈ array, Prints (platchWriteValueToBufferJson percentG v) (jsonText percentG v)) :
    Prints (printArray percentG array) (arrayText percentG array) := by
  induction array with
  | nil => exact prints_nil
  | cons v array ih =>
      obtain ⟨hv, hrest⟩ := List.forall_mem_cons.mp h
      cases array with
      | nil => exact hv
      | cons v' array => exact hv.append ((prints_sprintf (.ofLiteral ",")).append (ih hrest))

theorem prints_printMembers {entries : List (CString × JsonValue)}
    (h : ∀ e ∈ entries, Prints (platchWriteValueToBufferJson percentG e.2) (jsonText percentG e.2)) :
    Prints (printMembers percentG entries) (membersText percentG entries) := by
  induction entries with
  | nil => exact prints_nil
  | cons e entries ih =>
      obtain ⟨hv, hrest⟩ := List.forall_mem_cons.mp h
      obtain ⟨key, v⟩ := e
      have hkey : Prints (sprintf (keyText key)) (keyText key).bytes := prints_sprintf _
      cases entries with
      | nil => exact hkey.append hv
      | cons e' entries =>
          exact hkey.append (hv.append ((prints_sprintf (.ofLiteral ",")).append (ih hrest)))

/-- **The write pass prints the text.** -/
theorem platchWriteValueToBufferJson_prints (v : JsonValue) :
    Prints (platchWriteValueToBufferJson percentG v) (jsonText percentG v) := by
  induction v with
  | kJsonNull => exact prints_sprintf (.ofLiteral "null")
  | kJsonTrue => exact prints_sprintf (.ofLiteral "true")
  | kJsonFalse => exact prints_sprintf (.ofLiteral "false")
  | kJsonNumber x => exact prints_sprintf _
  | kJsonString s =>
      have hend := (prints_writeEscaped s.bytes).append (prints_write [0x22])
      exact (prints_write [0x22]).append hend
  | kJsonArray vs ih =>
      have hend := (prints_printArray ih).append (prints_sprintf (.ofLiteral "]"))
      exact (prints_sprintf (.ofLiteral "[")).append hend
  | kJsonObject es ih =>
      have hend := (prints_printMembers ih).append (prints_sprintf (.ofLiteral "\x7d"))
      exact (prints_sprintf (.ofLiteral "\x7b")).append hend

/-! ## §4. Both passes. -/

/-- The block of a message: the text, and a byte behind it. -/
theorem platchEncodeJson_eq (percentG : BitVec 64 → CString) (object : JsonObj) :
    ∃ block, platchEncodeJson percentG object
        = .ok (some block, (jsonText percentG object.value).length)
      ∧ Printed (Block.alloc ((jsonText percentG object.value).length + 1)) 0
          (jsonText percentG object.value) block := by
  have hroom : 0 + (jsonText percentG object.value).length
      < (Block.alloc ((jsonText percentG object.value).length + 1)).size := by
    simp [Block.alloc, Block.size]
  obtain ⟨block, hrun, hprinted⟩ := platchWriteValueToBufferJson_prints object.value
    ⟨Block.alloc ((jsonText percentG object.value).length + 1), 0⟩ hroom
  refine ⟨block, ?_, hprinted⟩
  have halloc : allocAndWrite (.ok ((jsonText percentG object.value).length + 1))
      (platchWriteValueToBufferJson percentG object.value) = .ok (some block) := by
    rw [allocAndWrite, hrun]
  rw [platchEncodeJson, platchCalcValueSizeJson_eq_length, halloc]
  rfl

/-- **The passes agree**: the cursor goes as far as the size pass has counted, and nothing is stored
    in front of it, or behind it by more than one byte; so the block of `platch_encode`, one byte
    longer than what it reports, is not left. -/
theorem json_passes_agree (percentG : BitVec 64 → CString) (v : JsonValue) :
    (∀ w : Writer, w.pos + platchCalcValueSizeJson percentG v + 1 ≤ w.block.size →
      ∃ block, (platchWriteValueToBufferJson percentG v).run w
          = .ok () ⟨block, w.pos + platchCalcValueSizeJson percentG v⟩
        ∧ block.size = w.block.size
        ∧ ∀ j, j < w.pos ∨ w.pos + platchCalcValueSizeJson percentG v + 1 ≤ j →
            block.cells[j]? = w.block.cells[j]?)
      ∧ ∀ object : JsonObj, object.value = v →
          ∃ block, platchEncodeJson percentG object
              = .ok (some block, platchCalcValueSizeJson percentG v)
            ∧ block.size = platchCalcValueSizeJson percentG v + 1 := by
  rw [platchCalcValueSizeJson_eq_length]
  constructor
  · intro w hroom
    obtain ⟨block, hrun, hprinted⟩ := platchWriteValueToBufferJson_prints v w hroom
    exact ⟨block, hrun, hprinted.size, fun j hj => hprinted.outside j (by omega)⟩
  · rintro object rfl
    obtain ⟨block, hencode, hprinted⟩ := platchEncodeJson_eq percentG object
    refine ⟨block, hencode, ?_⟩
    rw [hprinted.size]
    simp [Block.alloc, Block.size]

/-- The two passes over an array of a number and a line break, in an object. -/
theorem json_passes_agree_nested :
    ∃ block, (platchWriteValueToBufferJson (fun x => .ofLiteral (if x = 0 then "0" else "1"))
        (.kJsonObject [(.ofLiteral "a",
          .kJsonArray [.kJsonNumber 0, .kJsonString (.ofLiteral "\n")])])).run ⟨Block.alloc 15, 0⟩
      = .ok () ⟨block, 14⟩ ∧ block.size = 15 := by
  obtain ⟨block, hrun, hsize, -⟩ := (json_passes_agree
    (fun x => .ofLiteral (if x = 0 then "0" else "1"))
    (.kJsonObject [(.ofLiteral "a",
      .kJsonArray [.kJsonNumber 0, .kJsonString (.ofLiteral "\n")])])).1
    ⟨Block.alloc 15, 0⟩ (by decide)
  exact ⟨block, hrun, hsize⟩

end FlutterWlroots.PlatformChannel
