/-
  FlutterWlroots.Codec.JsonReader — what the decoder makes of a JSON document.

  The decoder does not look into strings: what it hands out for a string or a key is what stands
  between the quotation marks (`raw`).  That is what the literal denotes if and only if there is no
  backslash in it (`body_eq_denote_iff`), so the strings of a document are right if and only if the
  document has none (`reader_unescapes_iff`).
-/
import FlutterWlroots.Codec.JsmnDocument
import FlutterWlroots.Codec.JsonInPlace
import FlutterWlroots.Lib.Rfc8259Raw

namespace FlutterWlroots.PlatformChannel

open Lib.StateRun Lib.Rfc8259
open FlutterWlroots.Codec FlutterWlroots.Jsmn

/-! ## §1. Strings. -/

mutual
/-- The strings and keys of the decoded value are those of the other one, in the same places. -/
def SameStrings : JsonValue → Json → Prop
  | .kJsonNull, .null => True
  | .kJsonTrue, .bool b => b = true
  | .kJsonFalse, .bool b => b = false
  | .kJsonNumber _, .number _ => True
  | .kJsonString string_value, .string s => string_value.bytes = s
  | .kJsonArray array, .array vs => SameElements array vs
  | .kJsonObject entries, .object members => SameMembers entries members
  | _, _ => False
def SameElements : List JsonValue → List Json → Prop
  | [], [] => True
  | v :: array, j :: vs => SameStrings v j ∧ SameElements array vs
  | _, _ => False
def SameMembers : List (CString × JsonValue) → List (List UInt8 × Json) → Prop
  | [], [] => True
  | (key, v) :: entries, (name, j) :: members =>
      key.bytes = name ∧ SameStrings v j ∧ SameMembers entries members
  | _, _ => False
end

variable (strtod : CString → BitVec 64)

mutual
/-- What is handed out for a text. -/
def raw : Text → JsonValue
  | .null _ _ => .kJsonNull
  | .bool _ true _ => .kJsonTrue
  | .bool _ false _ => .kJsonFalse
  | .number _ n _ => .kJsonNumber (strtod (CString.ofMemory n.render))
  | .string _ s _ => .kJsonString (CString.ofMemory (bodyText s))
  | .array _ _ elements _ => .kJsonArray (rawElements elements)
  | .object _ _ members _ => .kJsonObject (rawMembers members)
def rawElements : List Text → List JsonValue
  | [] => []
  | t :: ts => raw t :: rawElements ts
def rawMembers : List (Key × Text) → List (CString × JsonValue)
  | [] => []
  | (key, t) :: ms => (CString.ofMemory (bodyText key.literal), raw t) :: rawMembers ms
end

/-! ## §2. The walk through the tokens of a document. -/

variable {strtod} {js : List UInt8} {list : List Token}

theorem textOf_eq_view (js : List UInt8) (t : Token) : textOf js t = (t.view js).2.1 := by
  unfold textOf Token.view
  cases t.leaf with
  | none => rfl
  | some l => rfl

/-- The next token. -/
theorem exists_token {k : Nat} {v : View} {views : List View}
    (h : (list.map (·.view js)).drop k = v :: views) :
    (∃ t, list[k]? = some t ∧ t.view js = v) ∧ (list.map (·.view js)).drop (k + 1) = views := by
  have hk : (list.map (·.view js))[k]? = some v := by
    rw [← List.head?_drop, h, List.head?_cons]
  rw [List.getElem?_map, Option.map_eq_some_iff] at hk
  exact ⟨hk, by rw [← List.drop_drop, h]; rfl⟩

variable (strtod js list) in
/-- From the tokens of the text on, the walk comes to its value. -/
def WalksText (t : Text) : Prop := ∀ (fuel k : Nat) (more : List View),
  (list.map (·.view js)).drop k = documentTokens t ++ more → (documentTokens t).length ≤ fuel →
    (copyToken strtod js list fuel).run k = .ok (raw strtod t) (k + (documentTokens t).length)

/-- A value of one token. -/
theorem walksText_leaf {t : Text} {v : View} (hview : documentTokens t = [v])
    (hrun : ∀ token : Token, token.view js = v →
      (match token.type with
        | .JSMN_PRIMITIVE => copyPrimitive strtod (textOf js token)
        | _ => .kJsonString (CString.ofMemory (textOf js token))) = raw strtod t)
    (htype : v.1 = .JSMN_PRIMITIVE ∨ v.1 = .JSMN_STRING) : WalksText strtod js list t := by
  intro fuel k more hdrop hfuel
  rw [hview] at hdrop hfuel ⊢
  obtain ⟨fuel, rfl⟩ := Nat.exists_eq_add_of_le hfuel
  obtain ⟨⟨token, hk, hv⟩, -⟩ := exists_token hdrop
  have hvalue := hrun token hv
  have htoken : token.type = v.1 := congrArg Prod.fst hv
  rw [List.length_singleton, Nat.add_comm 1, copyToken, run_get_bind, run_set_bind, hk]
  dsimp only
  rw [htoken] at hvalue ⊢
  rcases htype with htype | htype
  · rw [htype] at hvalue ⊢
    rw [← hvalue]
    rfl
  · rw [htype] at hvalue ⊢
    rw [← hvalue]
    rfl

theorem walksText_elements (fuel : Nat) : ∀ {ts : List Text} {k : Nat} {more : List View},
    (∀ t ∈ ts, WalksText strtod js list t) →
    (list.map (·.view js)).drop k = elementTokens ts ++ more → (elementTokens ts).length ≤ fuel →
    (decodeElements (copyToken strtod js list fuel) ts.length).run k
      = .ok (rawElements strtod ts) (k + (elementTokens ts).length)
  | [], _, _, _, _, _ => rfl
  | t :: ts, k, more, hall, hdrop, hfuel => by
      obtain ⟨ht, hts⟩ := List.forall_mem_cons.mp hall
      rw [elementTokens, List.append_assoc] at hdrop
      rw [elementTokens, List.length_append] at hfuel ⊢
      have hfirst := ht fuel k _ hdrop (by omega)
      have hrest := walksText_elements fuel hts (drop_of_append hdrop) (show _ ≤ fuel by omega)
      rw [List.length_cons, decodeElements, run_bind_ok hfirst, run_bind_ok hrest, rawElements,
        Nat.add_assoc]
      rfl

variable (strtod) in
/-- A key is a value of one token. -/
theorem run_key {fuel k : Nat} {s : List Piece} {size : Nat} {views : List View}
    (hdrop : (list.map (·.view js)).drop k = (.JSMN_STRING, bodyText s, size) :: views)
    (hfuel : 1 ≤ fuel) : (copyToken strtod js list fuel).run k
      = .ok (.kJsonString (CString.ofMemory (bodyText s))) (k + 1) := by
  obtain ⟨fuel, rfl⟩ := Nat.exists_eq_add_of_le hfuel
  obtain ⟨⟨token, hk, hv⟩, -⟩ := exists_token hdrop
  have htoken : token.type = .JSMN_STRING := congrArg Prod.fst hv
  rw [Nat.add_comm 1, copyToken, run_get_bind, run_set_bind, hk]
  dsimp only
  rw [htoken]
  dsimp only
  rw [textOf_eq_view, hv]
  rfl

theorem walksText_members (fuel : Nat) : ∀ {ms : List (Key × Text)} {k : Nat} {more : List View},
    (∀ m ∈ ms, WalksText strtod js list m.2) →
    (list.map (·.view js)).drop k = memberTokens ms ++ more → (memberTokens ms).length ≤ fuel →
    (decodeMembers string? (copyToken strtod js list fuel) ms.length).run k
      = .ok (rawMembers strtod ms) (k + (memberTokens ms).length)
  | [], _, _, _, _, _ => rfl
  | (key, t) :: ms, k, more, hall, hdrop, hfuel => by
      obtain ⟨ht, hms⟩ := List.forall_mem_cons.mp hall
      dsimp only at ht
      rw [memberTokens, List.cons_append, List.append_assoc] at hdrop
      rw [memberTokens] at hfuel ⊢
      simp only [List.length_cons, List.length_append] at hfuel ⊢
      obtain ⟨-, hvalue⟩ := exists_token hdrop
      have hkey := run_key strtod hdrop (show 1 ≤ fuel by omega)
      have hfirst := ht fuel (k + 1) _ hvalue (by omega)
      have hrest := walksText_members fuel hms (drop_of_append hvalue) (show _ ≤ fuel by omega)
      rw [decodeMembers, run_bind_ok hkey]
      show (copyToken strtod js list fuel >>= _).run _ = _
      rw [run_bind_ok hfirst, run_bind_ok hrest, rawMembers]
      show EStateM.Result.ok _ _ = _
      congr 1
      omega

variable (strtod) in
/-- **The walk through the tokens of a text.** -/
theorem walksText (t : Text) : WalksText strtod js list t := by
  have hprimitive : ∀ {token : Token} {a : List UInt8} {w : JsonValue},
      token.view js = (.JSMN_PRIMITIVE, a, 0) → copyPrimitive strtod a = w →
      (match token.type with
        | .JSMN_PRIMITIVE => copyPrimitive strtod (textOf js token)
        | _ => .kJsonString (CString.ofMemory (textOf js token))) = w := by
    intro token a w hv hw
    rw [show token.type = .JSMN_PRIMITIVE from congrArg Prod.fst hv, textOf_eq_view, hv]
    exact hw
  induction t using Text.induct with
  | null l r => exact walksText_leaf rfl (fun token hv => hprimitive hv rfl) (.inl rfl)
  | bool l b r =>
      cases b
      · exact walksText_leaf rfl (fun token hv => hprimitive hv rfl) (.inl rfl)
      · exact walksText_leaf rfl (fun token hv => hprimitive hv rfl) (.inl rfl)
  | number l n r =>
      refine walksText_leaf rfl (fun token hv => hprimitive hv ?_) (.inl rfl)
      -- the first byte is none of the three letters
      obtain ⟨b, y, hcore, hkind⟩ := Text.core_head (.number l n r)
      have hhead : n.render.head? = some b := congrArg List.head? hcore
      have hne : ∀ c, kindOf c ≠ some 6 → n.render.head? ≠ some c := by
        rintro c hc heq
        cases hhead.symm.trans heq
        exact hc hkind
      rw [copyPrimitive, if_neg (hne _ (by decide)), if_neg (hne _ (by decide)),
        if_neg (hne _ (by decide)), raw]
  | string l s r =>
      refine walksText_leaf rfl (fun token hv => ?_) (.inr rfl)
      rw [show token.type = .JSMN_STRING from congrArg Prod.fst hv, textOf_eq_view, hv]
      rfl
  | array l w ts r ih =>
      intro fuel k more hdrop hfuel
      rw [documentTokens, List.cons_append] at hdrop
      rw [documentTokens, List.length_cons] at hfuel ⊢
      obtain ⟨fuel, rfl⟩ := Nat.exists_eq_add_of_le hfuel
      obtain ⟨⟨token, hk, hv⟩, hrest⟩ := exists_token hdrop
      have htype : token.type = .JSMN_ARRAY := congrArg Prod.fst hv
      have hsize : token.size = ts.length := congrArg (·.2.2) hv
      have helements := walksText_elements ((elementTokens ts).length + fuel) ih hrest
        (Nat.le_add_right _ _)
      rw [Nat.add_right_comm, copyToken, run_get_bind, run_set_bind, hk]
      dsimp only
      rw [htype]
      dsimp only
      rw [hsize, run_bind_ok helements, raw, Nat.add_assoc, Nat.add_comm 1]
      rfl
  | object l w ms r ih =>
      intro fuel k more hdrop hfuel
      rw [documentTokens, List.cons_append] at hdrop
      rw [documentTokens, List.length_cons] at hfuel ⊢
      obtain ⟨fuel, rfl⟩ := Nat.exists_eq_add_of_le hfuel
      obtain ⟨⟨token, hk, hv⟩, hrest⟩ := exists_token hdrop
      have htype : token.type = .JSMN_OBJECT := congrArg Prod.fst hv
      have hsize : token.size = ms.length := congrArg (·.2.2) hv
      have hmembers := walksText_members ((memberTokens ms).length + fuel) ih hrest
        (Nat.le_add_right _ _)
      rw [Nat.add_right_comm, copyToken, run_get_bind, run_set_bind, hk]
      dsimp only
      rw [htype]
      dsimp only
      rw [hsize, run_bind_ok hmembers, raw, Nat.add_assoc, Nat.add_comm 1]
      rfl

/-! ## §3. Backslashes. -/

/-- Between quotation marks there is no NUL, so the C string is all of it. -/
theorem ofMemory_bodyText (s : List Piece) : (CString.ofMemory (bodyText s)).bytes = bodyText s := by
  have hpiece : ∀ p : Piece, ∀ b ∈ p.render, b ≠ 0 := by
    have hhex : ∀ x : Hex4, ∀ b ∈ x.bytes, b ≠ 0 := by
      rintro x b hb rfl
      exact absurd (x.digits 0 hb) (by decide)
    intro p
    cases p with
    | plain b hb =>
        refine List.forall_mem_singleton.mpr ?_
        rintro rfl
        exact absurd hb (by decide)
    | escape letter meaning hm =>
        refine List.forall_mem_cons.mpr ⟨by decide, List.forall_mem_singleton.mpr ?_⟩
        rintro rfl
        rw [show escapeOf 0 = none by decide] at hm
        cases hm
    | unicode x hx =>
        exact List.forall_mem_cons.mpr ⟨by decide, List.forall_mem_cons.mpr ⟨by decide, hhex x⟩⟩
    | pair high low h =>
        refine List.forall_mem_cons.mpr ⟨by decide, List.forall_mem_cons.mpr ⟨by decide, ?_⟩⟩
        refine List.forall_mem_append.mpr ⟨hhex high, ?_⟩
        exact List.forall_mem_cons.mpr ⟨by decide, List.forall_mem_cons.mpr ⟨by decide, hhex low⟩⟩
  refine List.takeWhile_eq_self_iff.mpr fun b hb => ?_
  obtain ⟨p, -, hmem⟩ := List.mem_flatMap.mp hb
  exact decide_eq_true (hpiece p b hmem)

theorem string_same_iff (s : List Piece) :
    (CString.ofMemory (bodyText s)).bytes = stringDenote s ↔ 0x5C ∉ stringText s := by
  rw [ofMemory_bodyText, body_eq_denote_iff]
  simp [stringText]

theorem ws_no_backslash (w : Ws) : 0x5C ∉ w.bytes := fun h => absurd (w.blank _ h) (by decide)

/-- The white space around a value does not matter. -/
theorem mem_render_iff {t : Text} : 0x5C ∈ t.render ↔ 0x5C ∈ Text.core t := by
  simp [Text.render, ws_no_backslash]

variable (strtod)

theorem sameElements_iff : ∀ {ts : List Text},
    (∀ t ∈ ts, SameStrings (raw strtod t) t.denote ↔ 0x5C ∉ t.render) →
    (SameElements (rawElements strtod ts) (Text.denoteList ts) ↔ 0x5C ∉ Text.moreElements ts)
  | [], _ => iff_of_true trivial List.not_mem_nil
  | t :: ts, h => by
      obtain ⟨ht, hts⟩ := List.forall_mem_cons.mp h
      rw [rawElements, Text.denoteList, SameElements, ht, sameElements_iff hts, Text.moreElements,
        ← Text.render_append]
      simp

theorem sameMembers_iff : ∀ {ms : List (Key × Text)},
    (∀ m ∈ ms, SameStrings (raw strtod m.2) m.2.denote ↔ 0x5C ∉ m.2.render) →
    (SameMembers (rawMembers strtod ms) (Text.denoteMembers ms) ↔ 0x5C ∉ Text.moreMembers ms)
  | [], _ => iff_of_true trivial List.not_mem_nil
  | (key, t) :: ms, h => by
      obtain ⟨ht, hms⟩ := List.forall_mem_cons.mp h
      rw [rawMembers, Text.denoteMembers, SameMembers, ht, sameMembers_iff hms, string_same_iff,
        Text.moreMembers, ← Text.render_append, Text.keyText]
      simp [ws_no_backslash]

/-- **The strings of a document are right** if and only if there is no backslash in it. -/
theorem sameStrings_iff (t : Text) :
    SameStrings (raw strtod t) t.denote ↔ 0x5C ∉ t.render := by
  induction t using Text.induct with
  | null l r =>
      rw [mem_render_iff]
      exact iff_of_true trivial (by rw [Text.core]; decide)
  | bool l b r =>
      rw [mem_render_iff]
      cases b
      · exact iff_of_true rfl (by rw [Text.core]; decide)
      · exact iff_of_true rfl (by rw [Text.core]; decide)
  | number l n r =>
      rw [mem_render_iff]
      exact iff_of_true trivial fun h => absurd (n.render_numberBytes _ h) (by decide)
  | string l s r =>
      rw [mem_render_iff, Text.core, raw, Text.denote, SameStrings]
      exact string_same_iff s
  | array l w ts r ih =>
      rw [mem_render_iff, raw, Text.denote, SameStrings, sameElements_iff strtod ih, Text.core]
      cases ts with
      | nil => simp [Text.moreElements, Text.elementsText, ws_no_backslash]
      | cons t ts => simp [Text.moreElements, Text.elementsText]
  | object l w ms r ih =>
      rw [mem_render_iff, raw, Text.denote, SameStrings, sameMembers_iff strtod ih, Text.core]
      cases ms with
      | nil => simp [Text.moreMembers, Text.membersText, ws_no_backslash]
      | cons m ms => simp [Text.moreMembers, Text.membersText]

/-! ## §4. The reader. -/

/-- The walk through the tokens of a document ends, and hands out the pieces between them. -/
theorem decodeValue_render (strtod : CString → BitVec 64) (t : Text) (behind : List UInt8)
    (b : UInt8) (i : Nat) (hroom : (documentTokens t).length ≤ tokenlistSize) :
    ∃ v c, (platchDecodeValueJson strtod t.render.length).run ⟨t.render ++ b :: behind, i⟩ = .ok v c
      ∧ v.load c.message = raw strtod t := by
  obtain ⟨tokens, hparse, hviews⟩ := jsmnParse_render hroom
  -- the tokens, with zeros behind them
  obtain ⟨zeros, hzeros⟩ : ∃ zeros, tokenArray tokens = tokens ++ zeros := ⟨_, rfl⟩
  have hdrop : ((tokenArray tokens).map (·.view t.render)).drop 0
      = documentTokens t ++ zeros.map (·.view t.render) := by
    rw [List.drop_zero, hzeros, List.map_append, hviews]
  have hwalk := walksText strtod t (tokenlistSize + 1) 0 _ hdrop (Nat.le_succ_of_le hroom)
  have hsame : SameRun (platchDecodeValueJson strtod t.render.length) _
      ⟨t.render ++ b :: behind, i⟩ 0 SameToken _ := platchDecodeValueJson_sameRun strtod hparse
  obtain ⟨v, c, hrun, -, rfl, hload⟩ := hsame.of_ok_right hwalk
  exact ⟨v, _, hrun, hload _ (Nat.le_refl _)⟩

/-- **The decoder on a document**: it succeeds, and the strings and keys that can be read of its result
    are the ones that the document denotes if and only if there is no backslash in the document. -/
theorem reader_unescapes_iff (strtod : CString → BitVec 64) (t : Text) (behind : List UInt8)
    (b : UInt8) (i : Nat) (hroom : (documentTokens t).length ≤ tokenlistSize) :
    ∃ v c, (platchDecodeValueJson strtod t.render.length).run ⟨t.render ++ b :: behind, i⟩ = .ok v c
      ∧ (SameStrings (v.load c.message) t.denote ↔ 0x5C ∉ t.render) := by
  obtain ⟨v, c, hrun, hload⟩ := decodeValue_render strtod t behind b i hroom
  refine ⟨v, c, hrun, ?_⟩
  rw [hload]
  exact sameStrings_iff strtod t

/-- `{"a":"b"}`. -/
theorem reader_unescapes_iff_object :
    ∃ v c, (platchDecodeValueJson strtodOne 9).run
        ⟨[0x7B, 0x22, 0x61, 0x22, 0x3A, 0x22, 0x62, 0x22, 0x7D, 0], 0⟩ = .ok v c
      ∧ (SameStrings (v.load c.message) (.object [([0x61], .string [0x62])])
        ↔ 0x5C ∉ ([0x7B, 0x22, 0x61, 0x22, 0x3A, 0x22, 0x62, 0x22, 0x7D] : List UInt8)) :=
  reader_unescapes_iff strtodOne (.object Ws.none Ws.none
    [(⟨Ws.none, [.plain 0x61 rfl], Ws.none⟩, .string Ws.none [.plain 0x62 rfl] Ws.none)] Ws.none) [] 0 0
    (by decide)

/-- Of `"\n"` a backslash and a letter are handed out. -/
theorem escape_handed_out : ∃ v c,
    (platchDecodeValueJson strtodOne 4).run ⟨[0x22, 0x5C, 0x6E, 0x22, 0], 0⟩ = .ok v c
      ∧ v.load c.message = .kJsonString (.ofLiteral "\\n")
      ∧ Parses [0x22, 0x5C, 0x6E, 0x22] (.string [0x0A])
      ∧ ¬ SameStrings (v.load c.message) (.string [0x0A]) := by
  refine ⟨_, _, rfl, rfl, ⟨Lib.utf8_of_all rfl, ?_⟩, ?_⟩
  · exact ⟨.string Ws.none [.escape 0x6E 0x0A rfl] Ws.none, rfl, rfl⟩
  · rw [show DecodedJson.load _ _ = .kJsonString (.ofLiteral "\\n") from rfl, SameStrings]
    decide

end FlutterWlroots.PlatformChannel
