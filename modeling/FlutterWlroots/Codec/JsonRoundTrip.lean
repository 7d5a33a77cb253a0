/-
  FlutterWlroots.Codec.JsonRoundTrip — what comes back of a message in JSON.

  The writer puts backslashes into strings, and the reader leaves them where they are: a string
  comes back as it was written.  A key is written and read as it is.  A number comes back as what
  `strtod` makes of the text of `%g`.  `returned` is a value with these changes; the text of an
  object with one of the three codecs is decoded to the object with them, if its numbers are printed
  as numbers, its strings and keys can stand between quotation marks and there are tokens enough.

    • `exists_spelling`      — the text of a value is one of the grammar,
    • `decode_jsonText`      — and what it is decoded to,
    • `returned_eq_iff`      — which values come back as they were,
    • `survives_of_sixDigit` — as do integers of six digits,
    • `json_round_trip`      — encoding and decoding.
-/
import FlutterWlroots.Codec.JsonMethodCall
import FlutterWlroots.Codec.JsonReader
import FlutterWlroots.Codec.JsonWriter

namespace FlutterWlroots.PlatformChannel

open Lib.StateRun Lib.Mem Lib.Rfc8259 Lib.Double Lib.PrintfG
open FlutterWlroots.Codec FlutterWlroots.Jsmn

/-! ## §1. What comes back. -/

theorem nul_not_mem_escape {b : UInt8} (h : b ≠ 0) : 0 ∉ escape b := by
  unfold escape
  split_ifs
  all_goals simp [h.symm]

/-- A string as it is written. -/
def CString.escaped (s : CString) : CString where
  bytes := escapeText s.bytes
  nulFree := by
    intro hmem
    obtain ⟨b, hb, h⟩ := List.mem_flatMap.mp hmem
    refine nul_not_mem_escape ?_ h
    rintro rfl
    exact s.nulFree hb

section Values

variable (strtod : CString → BitVec 64) (percentG : BitVec 64 → CString)

mutual
/-- A value that was written and read. -/
def returned : JsonValue → JsonValue
  | .kJsonNull => .kJsonNull
  | .kJsonTrue => .kJsonTrue
  | .kJsonFalse => .kJsonFalse
  | .kJsonNumber number_value => .kJsonNumber (strtod (percentG number_value))
  | .kJsonString string_value => .kJsonString (CString.escaped string_value)
  | .kJsonArray array => .kJsonArray (returnedArray array)
  | .kJsonObject entries => .kJsonObject (returnedMembers entries)
def returnedArray : List JsonValue → List JsonValue
  | [] => []
  | v :: array => returned v :: returnedArray array
def returnedMembers : List (CString × JsonValue) → List (CString × JsonValue)
  | [] => []
  | (key, v) :: entries => (key, returned v) :: returnedMembers entries
end

/-- An object of the channel that was encoded and decoded. -/
def JsonObj.returned : JsonObj → JsonObj
  | .kJSONMessageCodec json_value =>
      .kJSONMessageCodec (PlatformChannel.returned strtod percentG json_value)
  | .kJSONMethodCall call =>
      .kJSONMethodCall
        ⟨CString.escaped call.method, PlatformChannel.returned strtod percentG call.json_arg⟩
  | .kJSONMethodCallSuccess json_result =>
      .kJSONMethodCallSuccess (PlatformChannel.returned strtod percentG json_result)
  | .kJSONMethodCallError error_code error_msg json_error_details =>
      .kJSONMethodCallError (CString.escaped error_code) (error_msg.map CString.escaped)
        (PlatformChannel.returned strtod percentG json_error_details)

end Values

mutual
/-- The tokens of a value. -/
def tokenCount : JsonValue → Nat
  | .kJsonArray array => 1 + tokenCountArray array
  | .kJsonObject entries => 1 + tokenCountMembers entries
  | _ => 1
def tokenCountArray : List JsonValue → Nat
  | [] => 0
  | v :: array => tokenCount v + tokenCountArray array
def tokenCountMembers : List (CString × JsonValue) → Nat
  | [] => 0
  | (_, v) :: entries => 1 + tokenCount v + tokenCountMembers entries
end

/-- The codec that `platch_decode` is asked for. -/
def JsonObj.codec : JsonObj → JsonCodec
  | .kJSONMessageCodec _ => .kJSONMessageCodec
  | .kJSONMethodCall _ => .kJSONMethodCall
  | .kJSONMethodCallSuccess _ | .kJSONMethodCallError _ _ _ => .kJSONMethodCallResponse

/-- A decoded object, with the strings that stand in the message now. -/
def JsonPlatchObj.load (message : List UInt8) (object : JsonPlatchObj) : Option JsonObj :=
  match object.codec with
  | .kNotImplemented => none
  | .kJSONMessageCodec =>
      object.json_value.map fun v => .kJSONMessageCodec (v.load message)
  | .kJSONMethodCall => do
      let method ← object.method
      let json_arg ← object.json_arg
      return .kJSONMethodCall ⟨cString message method, json_arg.load message⟩
  | .kJSONMethodCallResponse => do
      if ← object.success then
        let json_result ← object.json_result
        return .kJSONMethodCallSuccess (json_result.load message)
      else
        let error_code ← object.error_code
        let error_msg ← object.error_msg
        let json_error_details ← object.json_error_details
        return .kJSONMethodCallError (cString message error_code)
          (error_msg.map (cString message)) (json_error_details.load message)

/-! ## §2. The text. -/

variable {strtod : CString → BitVec 64} {percentG : BitVec 64 → CString}

variable (percentG) in
/-- `%g` prints a number, and no `inf` or `nan`. -/
def PrintsNumber (x : BitVec 64) : Prop := ∃ num : Number, num.render = (percentG x).bytes

/-- Below the space there is only what has a letter of its own. -/
def Spellable (s : CString) : Prop :=
  ∀ b ∈ s.bytes, 0x20 ≤ b ∨ b ∈ ([0x08, 0x0C, 0x0A, 0x0D, 0x09] : List UInt8)

/-- The key can stand between quotation marks. -/
def Quotable (key : CString) : Prop := ∃ ps : List Piece, bodyText ps = key.bytes

theorem quotable_of_plainKey {key : CString} (h : PlainKey key) : Quotable key := by
  obtain ⟨ps, hbody, -⟩ := exists_raw h
  exact ⟨ps, hbody⟩

variable (percentG) in
/-- The numbers are printed as numbers, the strings and keys can be written. -/
def Sendable (v : JsonValue) : Prop := Every (PrintsNumber percentG) Spellable Quotable v

/-- A byte is written as a piece; a quotation mark as the one of a tab. -/
theorem exists_written {b : UInt8}
    (h : 0x20 ≤ b ∨ b ∈ ([0x08, 0x0C, 0x0A, 0x0D, 0x09] : List UInt8)) :
    ∃ p : Piece, p.render = escape b := by
  by_cases hquote : b = 0x22
  · subst hquote
    exact ⟨.escape 0x74 0x09 rfl, rfl⟩
  · have hprintable : printable b = true := by
      show decide _ = true
      exact decide_eq_true ⟨hquote, h⟩
    obtain ⟨p, hrender, -⟩ := exists_piece hprintable
    exact ⟨p, hrender⟩

theorem exists_body {s : List UInt8}
    (h : ∀ b ∈ s, 0x20 ≤ b ∨ b ∈ ([0x08, 0x0C, 0x0A, 0x0D, 0x09] : List UInt8)) :
    ∃ ps : List Piece, bodyText ps = escapeText s := by
  induction s with
  | nil => exact ⟨[], rfl⟩
  | cons b s ih =>
      obtain ⟨hb, hs⟩ := List.forall_mem_cons.mp h
      obtain ⟨p, hp⟩ := exists_written hb
      obtain ⟨ps, hps⟩ := ih hs
      refine ⟨p :: ps, ?_⟩
      rw [bodyText_cons, hp, hps, escapeText_cons]

variable (strtod percentG) in
/-- A text of the grammar is what is written, and the walk through its tokens gives what comes
    back. -/
def Spelled (v : JsonValue) : Prop :=
  ∃ t : Text, t.render = jsonText percentG v ∧ raw strtod t = returned strtod percentG v
    ∧ (documentTokens t).length = tokenCount v

theorem spelled_values {array : List JsonValue} (h : ∀ v ∈ array, Spelled strtod percentG v) :
    ∃ ts : List Text, Text.moreElements ts = moreValues percentG array
      ∧ rawElements strtod ts = returnedArray strtod percentG array
      ∧ (elementTokens ts).length = tokenCountArray array := by
  induction array with
  | nil => exact ⟨[], rfl, rfl, rfl⟩
  | cons v array ih =>
      obtain ⟨⟨t, htext, hraw, hcount⟩, hrest⟩ := List.forall_mem_cons.mp h
      obtain ⟨ts, hmore, hraws, hcounts⟩ := ih hrest
      refine ⟨t :: ts, ?_, ?_, ?_⟩
      · rw [Text.moreElements, moreValues, ← htext, ← hmore, Text.render_append]
      · rw [rawElements, returnedArray, hraw, hraws]
      · rw [elementTokens, tokenCountArray, List.length_append, hcount, hcounts]

/-- **An array.** -/
theorem spelled_array {array : List JsonValue} (h : ∀ v ∈ array, Spelled strtod percentG v) :
    Spelled strtod percentG (.kJsonArray array) := by
  have htexts : ∃ ts : List Text, Text.elementsText Ws.none ts = arrayText percentG array
      ∧ rawElements strtod ts = returnedArray strtod percentG array
      ∧ (elementTokens ts).length = tokenCountArray array := by
    cases array with
    | nil => exact ⟨[], rfl, rfl, rfl⟩
    | cons v array =>
        obtain ⟨ts, hmore, hraws, hcounts⟩ := spelled_values h
        cases ts with
        | nil =>
            rw [Text.moreElements, moreValues] at hmore
            cases hmore
        | cons t ts =>
            refine ⟨t :: ts, ?_, hraws, hcounts⟩
            rw [Text.moreElements, moreValues, List.cons.injEq] at hmore
            rw [Text.elementsText, arrayText_cons]
            exact hmore.2
  obtain ⟨ts, htext, hraw, hcount⟩ := htexts
  refine ⟨.array Ws.none Ws.none ts Ws.none, ?_, ?_, ?_⟩
  · rw [jsonText, ← htext]
    exact List.append_nil _
  · rw [raw, returned, hraw]
  · rw [documentTokens, tokenCount, List.length_cons, hcount, Nat.add_comm]

theorem spelled_entries {entries : List (CString × JsonValue)} (hkeys : ∀ e ∈ entries, Quotable e.1)
    (h : ∀ e ∈ entries, Spelled strtod percentG e.2) :
    ∃ ms : List (Key × Text), Text.moreMembers ms = moreEntries percentG entries
      ∧ rawMembers strtod ms = returnedMembers strtod percentG entries
      ∧ (memberTokens ms).length = tokenCountMembers entries := by
  induction entries with
  | nil => exact ⟨[], rfl, rfl, rfl⟩
  | cons e entries ih =>
      obtain ⟨key, v⟩ := e
      obtain ⟨⟨ps, hps⟩, hquotable⟩ := List.forall_mem_cons.mp hkeys
      obtain ⟨⟨t, htext, hraw, hcount⟩, hrest⟩ := List.forall_mem_cons.mp h
      obtain ⟨ms, hmore, hraws, hcounts⟩ := ih hquotable hrest
      dsimp only at hps htext hraw hcount
      have hname : CString.ofMemory (bodyText ps) = key := by
        rw [hps, CString.ofMemory_bytes]
      have hkey : ∀ x, Text.keyText ⟨Ws.none, ps, Ws.none⟩ ++ 0x3A :: x
          = (keyText key).bytes ++ x := by
        intro x
        rw [keyText_append, Text.keyText, stringText, hps]
        simp [Ws.none]
      refine ⟨(⟨Ws.none, ps, Ws.none⟩, t) :: ms, ?_, ?_, ?_⟩
      · rw [Text.moreMembers, moreEntries, ← htext, ← hmore, Text.render_append, hkey]
      · rw [rawMembers, returnedMembers, hname, hraw, hraws]
      · rw [memberTokens, tokenCountMembers, List.length_cons, List.length_append, hcount, hcounts]
        omega

/-- **An object.** -/
theorem spelled_object {entries : List (CString × JsonValue)} (hkeys : ∀ e ∈ entries, Quotable e.1)
    (h : ∀ e ∈ entries, Spelled strtod percentG e.2) :
    Spelled strtod percentG (.kJsonObject entries) := by
  have htexts : ∃ ms : List (Key × Text), Text.membersText Ws.none ms = membersText percentG entries
      ∧ rawMembers strtod ms = returnedMembers strtod percentG entries
      ∧ (memberTokens ms).length = tokenCountMembers entries := by
    cases entries with
    | nil => exact ⟨[], rfl, rfl, rfl⟩
    | cons e entries =>
        obtain ⟨ms, hmore, hraws, hcounts⟩ := spelled_entries hkeys h
        cases ms with
        | nil =>
            rw [Text.moreMembers, moreEntries] at hmore
            cases hmore
        | cons m ms =>
            refine ⟨m :: ms, ?_, hraws, hcounts⟩
            rw [Text.moreMembers, moreEntries, List.cons.injEq] at hmore
            rw [Text.membersText, membersText_cons]
            exact hmore.2
  obtain ⟨ms, htext, hraw, hcount⟩ := htexts
  refine ⟨.object Ws.none Ws.none ms Ws.none, ?_, ?_, ?_⟩
  · rw [jsonText, ← htext]
    exact List.append_nil _
  · rw [raw, returned, hraw]
  · rw [documentTokens, tokenCount, List.length_cons, hcount, Nat.add_comm]

variable (strtod) in
/-- **The text of a value** is one of the grammar. -/
theorem exists_spelling {v : JsonValue} (h : Sendable percentG v) : Spelled strtod percentG v := by
  induction v with
  | kJsonNull => exact ⟨.null Ws.none Ws.none, rfl, rfl, rfl⟩
  | kJsonTrue => exact ⟨.bool Ws.none true Ws.none, rfl, rfl, rfl⟩
  | kJsonFalse => exact ⟨.bool Ws.none false Ws.none, rfl, rfl, rfl⟩
  | kJsonNumber x =>
      cases h with
      | kJsonNumber hx =>
      obtain ⟨num, hnum⟩ := hx
      refine ⟨.number Ws.none num Ws.none, ?_, ?_, rfl⟩
      · rw [jsonText, ← hnum]
        exact List.append_nil _
      · rw [raw, returned, hnum, CString.ofMemory_bytes]
  | kJsonString s =>
      cases h with
      | kJsonString hs =>
      obtain ⟨ps, hps⟩ := exists_body hs
      refine ⟨.string Ws.none ps Ws.none, ?_, ?_, rfl⟩
      · rw [jsonText, ← hps]
        exact List.append_nil _
      · rw [raw, returned, hps]
        exact congrArg JsonValue.kJsonString (CString.ofMemory_bytes (CString.escaped s))
  | kJsonArray array ih =>
      cases h with
      | kJsonArray h => exact spelled_array fun v hv => ih v hv (h v hv)
  | kJsonObject entries ih =>
      cases h with
      | kJsonObject hkeys h => exact spelled_object hkeys fun e he => ih e he (h e he)

/-! ## §3. Decoding. -/

variable (strtod) in
/-- **The text of a value** is decoded to what comes back of it. -/
theorem decode_jsonText {v : JsonValue} (h : Sendable percentG v)
    (hroom : tokenCount v ≤ tokenlistSize) (behind : List UInt8) (b : UInt8) (i : Nat) :
    ∃ d c, (platchDecodeValueJson strtod (jsonText percentG v).length).run
        ⟨jsonText percentG v ++ b :: behind, i⟩ = .ok d c
      ∧ d.load c.message = returned strtod percentG v := by
  obtain ⟨t, htext, hraw, hcount⟩ := exists_spelling strtod h
  rw [← htext, ← hraw]
  exact decodeValue_render strtod t behind b i (by rw [hcount]; exact hroom)

section Loaded

variable {message : List UInt8} {d : DecodedJson}

theorem load_eq_string {s : CString} (h : d.load message = .kJsonString s) :
    ∃ p, d = .kJsonString p ∧ cString message p = s := by
  cases d with
  | kJsonString p =>
      rw [DecodedJson.load, JsonValue.kJsonString.injEq] at h
      exact ⟨p, rfl, h⟩
  | _ =>
      rw [DecodedJson.load] at h
      cases h

theorem load_eq_null (h : d.load message = .kJsonNull) : d = .kJsonNull := by
  cases d with
  | kJsonNull => rfl
  | _ =>
      rw [DecodedJson.load] at h
      cases h

theorem load_eq_array {vs : List JsonValue} (h : d.load message = .kJsonArray vs) :
    ∃ array, d = .kJsonArray array ∧ DecodedJson.loadList message array = vs := by
  cases d with
  | kJsonArray array =>
      rw [DecodedJson.load, JsonValue.kJsonArray.injEq] at h
      exact ⟨array, rfl, h⟩
  | _ =>
      rw [DecodedJson.load] at h
      cases h

theorem load_eq_object {es : List (CString × JsonValue)} (h : d.load message = .kJsonObject es) :
    ∃ entries, d = .kJsonObject entries ∧ DecodedJson.loadEntries message entries = es := by
  cases d with
  | kJsonObject entries =>
      rw [DecodedJson.load, JsonValue.kJsonObject.injEq] at h
      exact ⟨entries, rfl, h⟩
  | _ =>
      rw [DecodedJson.load] at h
      cases h

theorem loadList_eq_nil {array : List DecodedJson}
    (h : DecodedJson.loadList message array = []) : array = [] := by
  cases array with
  | nil => rfl
  | cons d array =>
      rw [DecodedJson.loadList] at h
      cases h

theorem loadList_eq_cons {array : List DecodedJson} {v : JsonValue} {vs : List JsonValue}
    (h : DecodedJson.loadList message array = v :: vs) :
    ∃ d rest, array = d :: rest ∧ d.load message = v ∧ DecodedJson.loadList message rest = vs := by
  cases array with
  | nil =>
      rw [DecodedJson.loadList] at h
      cases h
  | cons d rest =>
      rw [DecodedJson.loadList, List.cons.injEq] at h
      exact ⟨d, rest, rfl, h.1, h.2⟩

theorem loadEntries_eq_nil {entries : List (Nat × DecodedJson)}
    (h : DecodedJson.loadEntries message entries = []) : entries = [] := by
  cases entries with
  | nil => rfl
  | cons e entries =>
      rw [DecodedJson.loadEntries] at h
      cases h

theorem loadEntries_eq_cons {entries : List (Nat × DecodedJson)} {key : CString} {v : JsonValue}
    {es : List (CString × JsonValue)}
    (h : DecodedJson.loadEntries message entries = (key, v) :: es) :
    ∃ k d rest, entries = (k, d) :: rest ∧ cString message k = key ∧ d.load message = v
      ∧ DecodedJson.loadEntries message rest = es := by
  cases entries with
  | nil =>
      rw [DecodedJson.loadEntries] at h
      cases h
  | cons e rest =>
      rw [DecodedJson.loadEntries, List.cons.injEq, Prod.mk.injEq] at h
      exact ⟨e.1, e.2, rest, rfl, h.1.1, h.1.2, h.2⟩

end Loaded

variable (strtod) in
/-- **The text of an object** is decoded to what comes back of the object. -/
theorem decode_object (object : JsonObj) (h : Sendable percentG object.value)
    (hroom : tokenCount object.value ≤ tokenlistSize) (behind : List UInt8) (b : UInt8) (i : Nat) :
    ∃ out c, (platchDecodeJson strtod false (jsonText percentG object.value).length
        object.codec).run ⟨jsonText percentG object.value ++ b :: behind, i⟩ = .ok out c
      ∧ out.load c.message = some (object.returned strtod percentG) := by
  obtain ⟨d, c, hrun, hload⟩ := decode_jsonText strtod h hroom behind b i
  unfold platchDecodeJson
  rw [if_neg (by simp), if_neg (by simp)]
  cases object with
  | kJSONMessageCodec json_value =>
      refine ⟨{ codec := .kJSONMessageCodec, json_value := some d }, c, ?_, ?_⟩
      · exact run_bind_ok hrun
      · exact congrArg (fun v => some (JsonObj.kJSONMessageCodec v)) hload
  | kJSONMethodCall call =>
      obtain ⟨entries, rfl, hentries⟩ := load_eq_object hload
      obtain ⟨k, m, rest, rfl, hmethodKey, hmethod, hrest⟩ := loadEntries_eq_cons hentries
      obtain ⟨k', a, rest', rfl, hargsKey, hargs, hnil⟩ := loadEntries_eq_cons hrest
      obtain rfl := loadEntries_eq_nil hnil
      obtain ⟨p, rfl, hp⟩ := load_eq_string hmethod
      refine ⟨{ codec := .kJSONMethodCall, method := some p, json_arg := some a }, c, ?_, ?_⟩
      · show (platchDecodeValueJson strtod _ >>= _).run _ = _
        rw [run_bind_ok hrun]
        dsimp only
        rw [run_get_bind, assignEntries_method hmethodKey rfl,
          assignEntries_args (show IsArgs c.message (k', a) from hargsKey)]
        rfl
      · show some (JsonObj.kJSONMethodCall ⟨cString c.message p, a.load c.message⟩) = _
        rw [hp, hargs]
        rfl
  | kJSONMethodCallSuccess json_result =>
      obtain ⟨array, rfl, harray⟩ := load_eq_array hload
      obtain ⟨r, rest, rfl, hresult, hnil⟩ := loadList_eq_cons harray
      obtain rfl := loadList_eq_nil hnil
      refine ⟨{ codec := .kJSONMethodCallResponse, success := some true, json_result := some r }, c,
        run_bind_ok hrun, ?_⟩
      exact congrArg (fun v => some (JsonObj.kJSONMethodCallSuccess v)) hresult
  | kJSONMethodCallError error_code error_msg json_error_details =>
      obtain ⟨array, rfl, harray⟩ := load_eq_array hload
      obtain ⟨code, rest, rfl, hcode, hrest⟩ := loadList_eq_cons harray
      obtain ⟨msg, rest', rfl, hmsg, hrest'⟩ := loadList_eq_cons hrest
      obtain ⟨details, rest'', rfl, hdetails, hnil⟩ := loadList_eq_cons hrest'
      obtain rfl := loadList_eq_nil hnil
      obtain ⟨p, rfl, hp⟩ := load_eq_string hcode
      cases error_msg with
      | none =>
          obtain rfl := load_eq_null hmsg
          refine ⟨_, c, run_bind_ok hrun, ?_⟩
          show some (JsonObj.kJSONMethodCallError (cString c.message p) none
            (details.load c.message)) = _
          rw [hp, hdetails]
          rfl
      | some error_msg =>
          obtain ⟨q, rfl, hq⟩ := load_eq_string hmsg
          refine ⟨_, c, run_bind_ok hrun, ?_⟩
          show some (JsonObj.kJSONMethodCallError (cString c.message p)
            (some (cString c.message q)) (details.load c.message)) = _
          rw [hp, hq, hdetails]
          rfl

/-! ## §4. What comes back as it was. -/

/-- Nothing that is written with a backslash. -/
def Unescaped (s : CString) : Prop := ∀ b ∈ s.bytes, isEscaped b = false

variable (strtod percentG) in
/-- No string has an escape, and each number is read as it was. -/
def Survives (v : JsonValue) : Prop :=
  Every (fun x => strtod (percentG x) = x) Unescaped (fun _ => True) v

theorem length_escapeText_le (s : List UInt8) : s.length ≤ (escapeText s).length := by
  induction s with
  | nil => exact Nat.le_refl 0
  | cons b s ih =>
      rw [escapeText_cons, List.length_append, List.length_cons, length_escape]
      split
      · omega
      · omega

theorem escape_of_not_isEscaped {b : UInt8} (h : isEscaped b = false) : escape b = [b] := by
  simp only [isEscaped, decide_eq_false_iff_not, List.mem_cons, List.not_mem_nil, or_false,
    not_or] at h
  simp only [escape, h, if_false]

/-- A string without escapes is written as it is; with one it is longer. -/
theorem escapeText_eq_iff (s : List UInt8) :
    escapeText s = s ↔ ∀ b ∈ s, isEscaped b = false := by
  induction s with
  | nil => exact iff_of_true rfl (List.forall_mem_nil _)
  | cons b s ih =>
      rw [escapeText_cons, List.forall_mem_cons, ← ih]
      cases hb : isEscaped b with
      | false =>
          rw [escape_of_not_isEscaped hb]
          simp
      | true =>
          refine iff_of_false (fun heq => ?_) (fun h => Bool.noConfusion h.1)
          have hlength := congrArg List.length heq
          have hle := length_escapeText_le s
          rw [List.length_append, length_escape, hb, if_pos rfl, List.length_cons] at hlength
          omega

theorem escaped_eq_iff (s : CString) : CString.escaped s = s ↔ Unescaped s := by
  unfold Unescaped
  rw [← escapeText_eq_iff]
  constructor
  · intro h
    exact congrArg CString.bytes h
  · intro h
    cases s
    exact CString.mk.injEq .. ▸ h

theorem returnedArray_eq_iff {array : List JsonValue}
    (h : ∀ v ∈ array, returned strtod percentG v = v ↔ Survives strtod percentG v) :
    returnedArray strtod percentG array = array ↔ ∀ v ∈ array, Survives strtod percentG v := by
  induction array with
  | nil => exact iff_of_true rfl (List.forall_mem_nil _)
  | cons v array ih =>
      obtain ⟨hv, hrest⟩ := List.forall_mem_cons.mp h
      rw [returnedArray, List.cons.injEq, hv, ih hrest, List.forall_mem_cons]

theorem returnedMembers_eq_iff {entries : List (CString × JsonValue)}
    (h : ∀ e ∈ entries, returned strtod percentG e.2 = e.2 ↔ Survives strtod percentG e.2) :
    returnedMembers strtod percentG entries = entries
      ↔ ∀ e ∈ entries, Survives strtod percentG e.2 := by
  induction entries with
  | nil => exact iff_of_true rfl (List.forall_mem_nil _)
  | cons e entries ih =>
      obtain ⟨hv, hrest⟩ := List.forall_mem_cons.mp h
      rw [returnedMembers, List.cons.injEq, ih hrest, List.forall_mem_cons, ← hv]
      constructor
      · intro hsame
        exact ⟨congrArg Prod.snd hsame.1, hsame.2⟩
      · intro hsame
        exact ⟨congrArg (Prod.mk e.1) hsame.1, hsame.2⟩

/-- **What comes back as it was.** -/
theorem returned_eq_iff (v : JsonValue) :
    returned strtod percentG v = v ↔ Survives strtod percentG v := by
  unfold Survives
  induction v with
  | kJsonNull => exact iff_of_true rfl .kJsonNull
  | kJsonTrue => exact iff_of_true rfl .kJsonTrue
  | kJsonFalse => exact iff_of_true rfl .kJsonFalse
  | kJsonNumber x =>
      rw [returned, JsonValue.kJsonNumber.injEq]
      constructor
      · intro h
        exact .kJsonNumber h
      · intro h
        cases h with
        | kJsonNumber h => exact h
  | kJsonString s =>
      rw [returned, JsonValue.kJsonString.injEq, escaped_eq_iff]
      constructor
      · intro h
        exact .kJsonString h
      · intro h
        cases h with
        | kJsonString h => exact h
  | kJsonArray array ih =>
      rw [returned, JsonValue.kJsonArray.injEq, returnedArray_eq_iff ih]
      constructor
      · intro h
        exact .kJsonArray h
      · intro h
        cases h with
        | kJsonArray h => exact h
  | kJsonObject entries ih =>
      rw [returned, JsonValue.kJsonObject.injEq, returnedMembers_eq_iff ih]
      constructor
      · intro h
        exact .kJsonObject (fun _ _ => trivial) h
      · intro h
        cases h with
        | kJsonObject _ h => exact h

/-- An object comes back as it was if its value does. -/
theorem returned_object_eq_iff (object : JsonObj) :
    object.returned strtod percentG = object ↔ Survives strtod percentG object.value := by
  rw [← returned_eq_iff]
  cases object with
  | kJSONMessageCodec json_value =>
      rw [JsonObj.returned, JsonObj.kJSONMessageCodec.injEq]
      rfl
  | kJSONMethodCall call =>
      cases call
      simp [JsonObj.returned, JsonObj.value, returned, returnedMembers]
  | kJSONMethodCallSuccess json_result =>
      simp [JsonObj.returned, JsonObj.value, returned, returnedArray]
  | kJSONMethodCallError error_code error_msg json_error_details =>
      cases error_msg with
      | none => simp [JsonObj.returned, JsonObj.value, returned, returnedArray]
      | some error_msg => simp [JsonObj.returned, JsonObj.value, returned, returnedArray]

/-! ## §5. Integers of six digits. -/

/-- `strtod` gives the double of a number, if there is one. -/
def Exact (strtod : CString → BitVec 64) : Prop :=
  ∀ (num : Number) (text : CString) (x : BitVec 64), num.render = text.bytes → isFinite x = true →
    num.negative = negative x → num.value = value x → strtod text = x

/-- **Integers of six digits come back**, if no string has an escape. -/
theorem survives_of_sixDigit (hstrtod : Exact strtod) (other : BitVec 64 → CString) {v : JsonValue}
    (h : Every (fun x => IsInteger x ∧ SixDigit x) Unescaped (fun _ => True) v) :
    Survives strtod (PlatformChannel.percentG other) v := by
  unfold Survives
  induction v with
  | kJsonNull => exact .kJsonNull
  | kJsonTrue => exact .kJsonTrue
  | kJsonFalse => exact .kJsonFalse
  | kJsonNumber x =>
      cases h with
      | kJsonNumber hx =>
      obtain ⟨num, hsign, hrender, hvalue⟩ := percentG_number other hx.1
      apply Every.kJsonNumber
      exact hstrtod num _ x hrender hx.1.1 hsign (hvalue.mpr hx.2)
  | kJsonString s =>
      cases h with
      | kJsonString hs => exact .kJsonString hs
  | kJsonArray array ih =>
      cases h with
      | kJsonArray h => exact .kJsonArray fun v hv => ih v hv (h v hv)
  | kJsonObject entries ih =>
      cases h with
      | kJsonObject hkeys h => exact .kJsonObject hkeys fun e he => ih e he (h e he)

/-! ## §6. Round trips. -/

/-- The bytes of a message are its text. -/
theorem take_printed {block : Block} {text : List UInt8}
    (h : Printed (Block.alloc (text.length + 1)) 0 text block) :
    block.cells.take text.length = text.map some := by
  apply List.ext_getElem?
  intro j
  rw [List.getElem?_map]
  by_cases hj : j < text.length
  · have hcell := h.inside j hj
    rw [Nat.zero_add] at hcell
    rw [List.getElem?_take_of_lt hj, hcell, List.getElem?_eq_getElem hj]
    rfl
  · have hnone : text[j]? = none := List.getElem?_eq_none (by omega)
    rw [hnone, List.getElem?_take_eq_none (by omega)]
    rfl

/-- **A message that is encoded and decoded** has its strings as they were written, and of each
    number what is read of its text; so the object is that of before if and only if it survives
    this. -/
theorem json_round_trip (strtod : CString → BitVec 64) (percentG : BitVec 64 → CString)
    (object : JsonObj) (h : Sendable percentG object.value)
    (hroom : tokenCount object.value ≤ tokenlistSize) :
    ∃ block size, platchEncodeJson percentG object = .ok (some block, size) ∧
      ∀ text, Agrees (block.cells.take size) text → ∀ (behind : List UInt8) (b : UInt8) (i : Nat),
        ∃ out c, (platchDecodeJson strtod false size object.codec).run ⟨text ++ b :: behind, i⟩
            = .ok out c
          ∧ out.load c.message = some (object.returned strtod percentG)
          ∧ (out.load c.message = some object ↔ Survives strtod percentG object.value) := by
  obtain ⟨block, hencode, hprinted⟩ := platchEncodeJson_eq percentG object
  refine ⟨block, _, hencode, fun text htext behind b i => ?_⟩
  rw [take_printed hprinted, agrees_map_some] at htext
  subst htext
  obtain ⟨out, c, hrun, hload⟩ := decode_object strtod object h hroom behind b i
  refine ⟨out, c, hrun, hload, ?_⟩
  rw [hload, Option.some.injEq]
  exact returned_object_eq_iff object

/-- A number of one digit and a line break, in a call; of the line break a backslash and a letter
    come back. -/
theorem json_round_trip_setText :
    ∃ block size, platchEncodeJson (PlatformChannel.percentG fun _ => .ofLiteral "inf")
        (.kJSONMethodCall ⟨.ofLiteral "setText",
          .kJsonArray [.kJsonNumber 0x3FF0000000000000, .kJsonString (.ofLiteral "a\n")]⟩)
        = .ok (some block, size) ∧
      ∀ text, Agrees (block.cells.take size) text →
        ∃ out c, (platchDecodeJson strtodOne false size .kJSONMethodCall).run ⟨text ++ [0], 0⟩
            = .ok out c
          ∧ out.load c.message = some (.kJSONMethodCall ⟨.ofLiteral "setText",
            .kJsonArray [.kJsonNumber 0x3FF0000000000000, .kJsonString (.ofLiteral "a\\n")]⟩) := by
  have hone : PrintsNumber (PlatformChannel.percentG fun _ => .ofLiteral "inf")
      0x3FF0000000000000 := by
    obtain ⟨num, -, hrender, -⟩ := percentG_number (fun _ => .ofLiteral "inf")
      (isInteger_of_integer? (x := 0x3FF0000000000000) (z := 1) (by decide))
    exact ⟨num, hrender⟩
  have hsendable : Sendable (PlatformChannel.percentG fun _ => .ofLiteral "inf")
      (JsonObj.value (.kJSONMethodCall ⟨.ofLiteral "setText",
        .kJsonArray [.kJsonNumber 0x3FF0000000000000, .kJsonString (.ofLiteral "a\n")]⟩)) := by
    apply Every.kJsonObject
    · exact List.forall_mem_cons.mpr ⟨quotable_of_plainKey (by unfold PlainKey; decide +kernel),
        List.forall_mem_singleton.mpr (quotable_of_plainKey (by unfold PlainKey; decide +kernel))⟩
    · refine List.forall_mem_cons.mpr ⟨.kJsonString (by unfold Spellable; decide +kernel),
        List.forall_mem_singleton.mpr (.kJsonArray ?_)⟩
      exact List.forall_mem_cons.mpr ⟨.kJsonNumber hone,
        List.forall_mem_singleton.mpr (.kJsonString (by unfold Spellable; decide +kernel))⟩
  obtain ⟨block, size, hencode, hdecode⟩ := json_round_trip strtodOne _ _ hsendable (by decide)
  refine ⟨block, size, hencode, fun text htext => ?_⟩
  obtain ⟨out, c, hrun, hload, -⟩ := hdecode text htext [] 0 0
  refine ⟨out, c, hrun, hload.trans ?_⟩
  have hback : strtodOne (PlatformChannel.percentG (fun _ => .ofLiteral "inf") 0x3FF0000000000000)
      = 0x3FF0000000000000 := by decide +kernel
  simp only [JsonObj.returned, returned, returnedArray, hback]
  rfl

end FlutterWlroots.PlatformChannel
