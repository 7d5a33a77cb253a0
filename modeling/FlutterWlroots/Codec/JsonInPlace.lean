/-
  FlutterWlroots.Codec.JsonInPlace — decoding in the message against decoding from a copy.

  `decodeCopy` takes every text from the message as it came.  The walk in place runs in step with it:
  after `k` tokens the message is the one that came, with a NUL at the end of each string among them
  (`mark`).  Such an end is a closing quote, which belongs to no other token, and a number is left as
  it was; so every text that is still to be read is there, and every string that was handed out.

    • `text_mark`           — what a token covers is never changed,
    • `decodeToken_sameRun`  — the two walks,
    • `decode_in_place`     — the result, read at the end, and the byte behind the message.
-/
import FlutterWlroots.Codec.JsmnTokens
import FlutterWlroots.Codec.JsonDecode
import FlutterWlroots.Lib.SameRun

namespace FlutterWlroots.PlatformChannel

open Lib.StateRun
open FlutterWlroots.Codec FlutterWlroots.Jsmn

/-! ## §1. Decoding from a copy. -/

variable (strtod : CString → BitVec 64)

/-- A primitive, from its text. -/
def copyPrimitive (text : List UInt8) : JsonValue :=
  if text.head? = some 0x6E then .kJsonNull
  else if text.head? = some 0x74 then .kJsonTrue
  else if text.head? = some 0x66 then .kJsonFalse
  else .kJsonNumber (strtod (CString.ofMemory text))

def textOf (js : List UInt8) (t : Token) : List UInt8 :=
  match t.leaf with
  | some l => l.text js
  | none => []

def string? : JsonValue → Option CString
  | .kJsonString string_value => some string_value
  | _ => none

/-- The walk, for which only the index of the next token changes. -/
def copyToken (js : List UInt8) (tokens : List Token) : Nat → EStateM DecodeStop Nat JsonValue
  | 0 => throw .outOfFuel
  | fuel + 1 => do
      let k ← get
      set (k + 1)
      match tokens[k]? with
      | none => throw .outOfBounds
      | some t =>
          match t.type with
          | .JSMN_UNDEFINED => throw (.errno .EBADMSG)
          | .JSMN_PRIMITIVE => return copyPrimitive strtod (textOf js t)
          | .JSMN_STRING => return .kJsonString (CString.ofMemory (textOf js t))
          | .JSMN_ARRAY => do
              let array ← decodeElements (copyToken js tokens fuel) t.size
              return .kJsonArray array
          | .JSMN_OBJECT => do
              let entries ← decodeMembers string? (copyToken js tokens fuel) t.size
              return .kJsonObject entries

/-- The value of a text, and how many tokens were looked at. -/
def decodeCopy (js : List UInt8) : EStateM.Result DecodeStop Nat JsonValue :=
  match jsmnParse js tokenlistSize with
  | .error _ => .error (.errno .EBADMSG) 0
  | .ok tokens => (copyToken strtod js (tokenArray tokens) (tokenlistSize + 1)).run 0

variable {strtod}

/-! ## §2. The message after some tokens. -/

/-- A NUL behind a string. -/
def nulBehind (message : List UInt8) (t : Token) : List UInt8 :=
  match t.leaf with
  | some l => if l.quoted then message.set l.stop 0 else message
  | none => message

/-- The message after these tokens. -/
def mark (message : List UInt8) (tokens : List Token) : List UInt8 := tokens.foldl nulBehind message

theorem length_nulBehind (message : List UInt8) (t : Token) :
    (nulBehind message t).length = message.length := by
  unfold nulBehind
  split
  next =>
    split
    · exact List.length_set
    · rfl
  next => rfl

theorem length_mark (message : List UInt8) (tokens : List Token) :
    (mark message tokens).length = message.length := by
  induction tokens generalizing message with
  | nil => rfl
  | cons t tokens ih => rw [mark, List.foldl_cons, ← mark, ih, length_nulBehind]

theorem nulBehind_quoted {message : List UInt8} {t : Token} {l : Leaf} (hl : t.leaf = some l)
    (hq : l.quoted = true) : nulBehind message t = message.set l.stop 0 := by
  simp only [nulBehind, hl, hq, if_true]

theorem nulBehind_of_not_quoted {message : List UInt8} {t : Token}
    (h : ∀ l, t.leaf = some l → l.quoted = false) : nulBehind message t = message := by
  unfold nulBehind
  split
  next l hl =>
    rw [h l hl]
    rfl
  next => rfl

theorem nulBehind_getElem? {message : List UInt8} {t : Token} {i : Nat}
    (h : ∀ l, t.leaf = some l → l.quoted = true → l.stop ≠ i) :
    (nulBehind message t)[i]? = message[i]? := by
  unfold nulBehind
  split
  next l hl =>
    split
    next hq => exact List.getElem?_set_ne (h l hl hq)
    next => rfl
  next => rfl

/-- Only the ends of strings are changed. -/
theorem mark_getElem? {tokens : List Token} {i : Nat} : ∀ {message : List UInt8},
    (∀ t ∈ tokens, ∀ l, t.leaf = some l → l.quoted = true → l.stop ≠ i) →
      (mark message tokens)[i]? = message[i]? := by
  induction tokens with
  | nil => exact fun _ => rfl
  | cons t tokens ih =>
      intro message h
      obtain ⟨ht, hrest⟩ := List.forall_mem_cons.mp h
      rw [mark, List.foldl_cons, ← mark, ih hrest, nulBehind_getElem? ht]

/-- A NUL stays. -/
theorem mark_nul {tokens : List Token} {i : Nat} : ∀ {message : List UInt8},
    message[i]? = some 0 → (mark message tokens)[i]? = some 0 := by
  induction tokens with
  | nil => exact fun h => h
  | cons t tokens ih =>
      intro message h
      refine ih ?_
      unfold nulBehind
      split
      next l _ =>
        split
        · obtain ⟨hlt, -⟩ := List.getElem?_eq_some_iff.mp h
          rcases eq_or_ne l.stop i with rfl | hne
          · exact List.getElem?_set_self hlt
          · rw [List.getElem?_set_ne hne, h]
        · exact h
      next => exact h

/-- Behind every string among the tokens there is a NUL. -/
theorem mark_stop {tokens : List Token} {t : Token} {l : Leaf} : ∀ {message : List UInt8}, t ∈ tokens →
    t.leaf = some l → l.quoted = true → l.stop < message.length →
      (mark message tokens)[l.stop]? = some 0 := by
  induction tokens with
  | nil => exact fun h => absurd h List.not_mem_nil
  | cons u tokens ih =>
      intro message hmem hl hq hlt
      rcases List.mem_cons.mp hmem with rfl | hmem
      · rw [mark, List.foldl_cons, ← mark]
        refine mark_nul ?_
        rw [nulBehind_quoted hl hq, List.getElem?_set_self hlt]
      · exact ih hmem hl hq (by rwa [length_nulBehind])

theorem mark_take_succ {message : List UInt8} {tokens : List Token} {k : Nat} {t : Token}
    (h : tokens[k]? = some t) :
    mark message (tokens.take (k + 1)) = nulBehind (mark message (tokens.take k)) t := by
  rw [List.take_add_one, h, mark, mark, List.foldl_append]
  rfl

/-! ## §3. Texts. -/

theorem Leaf.text_congr {l : Leaf} {m m' : List UInt8}
    (h : ∀ i, l.start ≤ i → i < l.stop → m[i]? = m'[i]?) : l.text m = l.text m' := by
  refine List.ext_getElem? fun i => ?_
  rw [Leaf.text, Leaf.text, List.getElem?_take, List.getElem?_take, List.getElem?_drop,
    List.getElem?_drop]
  split
  · exact h _ (Nat.le_add_right ..) (by omega)
  · rfl

/-- A text up to a NUL is a C string. -/
theorem cString_eq {m : List UInt8} {l : Leaf} (hle : l.start ≤ l.stop) (hnul : m[l.stop]? = some 0) :
    cString m l.start = CString.ofMemory (l.text m) := by
  obtain ⟨hlt, hget⟩ := List.getElem?_eq_some_iff.mp hnul
  have hbehind : m.drop l.stop = 0 :: m.drop (l.stop + 1) := by
    rw [List.drop_eq_getElem_cons hlt, hget]
  have hsplit : m.drop l.start = l.text m ++ 0 :: m.drop (l.stop + 1) := by
    rw [← hbehind, Leaf.text, ← Nat.add_sub_cancel' hle, Nat.add_sub_cancel_left, ← List.drop_drop,
      List.take_append_drop]
  have htake : ∀ x y : List UInt8, CString.ofMemory (x ++ 0 :: y) = CString.ofMemory x := by
    intro x y
    have hbytes : (x ++ 0 :: y).takeWhile (· ≠ 0) = x.takeWhile (· ≠ 0) := by
      induction x with
      | nil => rfl
      | cons b x ih => rw [List.cons_append, List.takeWhile_cons, List.takeWhile_cons, ih]
    simp only [CString.ofMemory, hbytes]
  rw [cString, hsplit, htake]

/-! ## §4. The walks in step. -/

section Walk

variable {js behind : List UInt8} {limit : Nat} {tokens : List Token}

/-- The message after `k` tokens, and the index of the next one. -/
def stateAt (message : List UInt8) (tokens : List Token) (k : Nat) : JsonCursor :=
  ⟨mark message (tokens.take k), k⟩

/-- The walk in place has come from token `k` on to a state of this kind, and what it has decoded can be
    read from then on as what the other one has decoded. -/
def Reads {α β : Type} (message : List UInt8) (tokens : List Token) (k : Nat)
    (view : List UInt8 → α → β) (a : α) (b : β) (c : JsonCursor) (k' : Nat) : Prop :=
  k ≤ k' ∧ c = stateAt message tokens k'
    ∧ ∀ k'', k' ≤ k'' → view (mark message (tokens.take k'')) a = b

/-- The walks stop at the same token. -/
def SameToken (c : JsonCursor) (k : Nat) : Prop := c.ptoken = k

/-- The leaves of two tokens do not touch. -/
theorem stop_ne (h : Tokenized js limit (skeleton tokens)) {i j : Nat} {t u : Token} {l l' : Leaf}
    (hi : tokens[i]? = some t) (hj : tokens[j]? = some u) (hl : t.leaf = some l)
    (hl' : u.leaf = some l') (hq : l'.quoted = true) {x : Nat} (hx : l.start ≤ x) (hx' : x < l.stop) :
    l'.stop ≠ x := by
  have hpair := List.pairwise_map.mp h.apart
  have hle : l'.stop + 1 = l'.behind := by rw [Leaf.behind, if_pos hq]
  have hordered : ∀ {t l}, t ∈ tokens → Token.leaf t = some l → l.start ≤ l.stop := fun ht hl =>
    (h.inside _ (List.mem_map_of_mem ht) _ hl).1.ordered
  obtain ⟨hilt, rfl⟩ := List.getElem?_eq_some_iff.mp hi
  obtain ⟨hjlt, rfl⟩ := List.getElem?_eq_some_iff.mp hj
  rcases Nat.lt_trichotomy i j with hlt | rfl | hlt
  · have hapart := List.pairwise_iff_getElem.mp hpair i j hilt hjlt hlt l l' hl hl'
    have hstop := hordered (List.getElem_mem hjlt) hl'
    have hbehind : l.stop ≤ l.behind := by
      unfold Leaf.behind
      split <;> omega
    omega
  · cases hl.symm.trans hl'
    exact Nat.ne_of_gt hx'
  · have hapart := List.pairwise_iff_getElem.mp hpair j i hjlt hilt hlt l' l hl' hl
    omega

/-- **What a token covers is never changed.** -/
theorem text_mark (h : Tokenized js limit (skeleton tokens)) {i k : Nat} {t : Token} {l : Leaf}
    (hi : tokens[i]? = some t) (hl : t.leaf = some l) :
    l.text (mark (js ++ behind) (tokens.take k)) = l.text js := by
  have ht := List.mem_of_getElem? hi
  have hin := (h.inside _ (List.mem_map_of_mem ht) _ hl).1
  have hinside : l.stop ≤ js.length := by
    refine Nat.le_trans ?_ hin.inside
    unfold Leaf.behind
    split <;> omega
  refine Leaf.text_congr fun x hx hx' => ?_
  rw [mark_getElem? fun u hu l' hl' hq => ?_, List.getElem?_append_left (by omega)]
  obtain ⟨j, hj⟩ := List.mem_iff_getElem?.mp (List.mem_of_mem_take hu)
  exact stop_ne h hi hj hl hl' hq hx hx'

theorem leaf_eq_some (h : Tokenized js limit (skeleton tokens)) {t : Token} (ht : t ∈ tokens)
    (htype : ¬ IsContainer t.type) : ∃ l, t.leaf = some l ∧ l.In js := by
  have hmem : (t.type, t.leaf) ∈ skeleton tokens := List.mem_map_of_mem ht
  cases hl : t.leaf with
  | none => exact absurd (h.known _ hmem hl) htype
  | some l => exact ⟨l, rfl, (h.inside _ hmem l hl).1⟩

theorem stop_eq_of_leaf {t : Token} {l : Leaf} (h : t.leaf = some l) :
    t.stop = some l.stop ∧ t.start = l.start ∧ (l.quoted = true ↔ t.type = .JSMN_STRING) := by
  obtain ⟨type, start, stop, size⟩ := t
  unfold Token.leaf at h
  split at h
  next htype hstop =>
    cases h
    exact ⟨hstop, rfl, iff_of_true rfl htype⟩
  next htype hstop =>
    cases h
    refine ⟨hstop, rfl, iff_of_false Bool.false_ne_true fun hs => ?_⟩
    exact absurd (htype.symm.trans hs) (by decide)
  next => cases h

theorem lt_of_stop {l : Leaf} (hin : l.In js) (hq : l.quoted = true) : l.stop < js.length := by
  have hinside := hin.inside
  rwa [Leaf.behind, if_pos hq] at hinside

theorem le_of_stop {l : Leaf} (hin : l.In js) : l.stop ≤ js.length := by
  refine Nat.le_trans ?_ hin.inside
  unfold Leaf.behind
  split <;> omega

/-! A single store or load. -/

theorem run_load {i k : Nat} {b : UInt8} {m : List UInt8} (h : m[i]? = some b) :
    (load i).run ⟨m, k⟩ = .ok b ⟨m, k⟩ := by
  unfold load
  rw [run_get_bind]
  dsimp only
  rw [h]
  rfl

theorem run_store {i k : Nat} {b : UInt8} {m : List UInt8} (h : i < m.length) :
    (store i b).run ⟨m, k⟩ = .ok () ⟨m.set i b, k⟩ := by
  unfold store
  rw [run_get_bind]
  dsimp only
  rw [if_pos h]
  rfl

theorem run_endOf {t : Token} {stop : Nat} {c : JsonCursor} (h : t.stop = some stop) :
    (endOf t).run c = .ok stop c := by
  unfold endOf
  rw [h]
  rfl

/-- **A string**: a NUL is stored behind it. -/
theorem run_decodeJsonString {t : Token} {l : Leaf} {m : List UInt8} {k : Nat} (hl : t.leaf = some l)
    (hq : l.quoted = true) (hlt : l.stop < m.length) :
    (decodeJsonString t).run ⟨m, k⟩ = .ok (.kJsonString l.start) ⟨nulBehind m t, k⟩ := by
  obtain ⟨hstop, hstart, -⟩ := stop_eq_of_leaf hl
  unfold decodeJsonString
  rw [run_bind_ok (run_endOf hstop), run_bind_ok (run_store hlt), hstart, nulBehind_quoted hl hq]
  rfl

variable (strtod) in
/-- **A primitive**: the byte behind it comes back. -/
theorem run_decodePrimitive {t : Token} {l : Leaf} {m : List UInt8} {k : Nat} (hl : t.leaf = some l)
    (hne : l.start < l.stop) (hlt : l.stop < m.length) :
    ∃ v, (decodePrimitive strtod t).run ⟨m, k⟩ = .ok v ⟨m, k⟩
      ∧ ∀ m', v.load m' = copyPrimitive strtod (l.text m) := by
  obtain ⟨hstop, hstart, -⟩ := stop_eq_of_leaf hl
  have hfirst := List.getElem?_eq_getElem (Nat.lt_trans hne hlt)
  have hhead : (l.text m).head? = some m[l.start] := by
    rw [List.head?_eq_getElem?, Leaf.text, List.getElem?_take_of_lt (by omega), List.getElem?_drop,
      Nat.add_zero, hfirst]
  have htext : cString (m.set l.stop 0) l.start = CString.ofMemory (l.text m) := by
    rw [cString_eq (Nat.le_of_lt hne) (List.getElem?_set_self hlt)]
    congr 1
    exact Leaf.text_congr fun i _ hi => List.getElem?_set_ne (Nat.ne_of_gt hi)
  have hback : (m.set l.stop 0).set l.stop m[l.stop] = m := by
    rw [List.set_set, List.set_getElem_self]
  unfold decodePrimitive copyPrimitive
  rw [hhead, hstart, run_bind_ok (run_load hfirst)]
  simp only [Option.some.injEq]
  split
  next => exact ⟨.kJsonNull, rfl, fun _ => rfl⟩
  next =>
    split
    next => exact ⟨.kJsonTrue, rfl, fun _ => rfl⟩
    next =>
      split
      next => exact ⟨.kJsonFalse, rfl, fun _ => rfl⟩
      next =>
        refine ⟨.kJsonNumber (strtod (CString.ofMemory (l.text m))), ?_, fun _ => rfl⟩
        rw [run_bind_ok (run_endOf hstop), run_bind_ok (run_load (List.getElem?_eq_getElem hlt)),
          run_bind_ok (run_store hlt), run_get_bind]
        dsimp only
        rw [htext, run_bind_ok (run_store (by rwa [List.length_set])), hback]
        rfl

/-! The containers. -/

variable {message : List UInt8}

theorem decodeElements_sameRun {x : JsonM DecodedJson} {y : EStateM DecodeStop Nat JsonValue}
    (h : ∀ k, SameRun x y (stateAt message tokens k) k SameToken
      (Reads message tokens k DecodedJson.load)) :
    ∀ size k, SameRun (decodeElements x size) (decodeElements y size) (stateAt message tokens k) k
      SameToken (Reads message tokens k DecodedJson.loadList)
  | 0, k => sameRun_pure ⟨Nat.le_refl k, rfl, fun _ _ => rfl⟩
  | size + 1, k => by
      refine (h k).bind ?_
      rintro v w _ k₁ ⟨hle, rfl, hv⟩
      refine (decodeElements_sameRun h size k₁).bind ?_
      rintro vs ws _ k₂ ⟨hle', rfl, hvs⟩
      refine sameRun_pure ⟨hle.trans hle', rfl, fun k₃ hk => ?_⟩
      rw [DecodedJson.loadList, hv k₃ (hle'.trans hk), hvs k₃ hk]

/-- A key that is a string is one for both walks. -/
theorem string?_eq {k : Nat} {v : DecodedJson} {w : JsonValue}
    (h : ∀ k', k ≤ k' → v.load (mark message (tokens.take k')) = w) :
    (v.string? = none ∧ string? w = none) ∨ ∃ i s, v.string? = some i ∧ string? w = some s
      ∧ ∀ k', k ≤ k' → cString (mark message (tokens.take k')) i = s := by
  obtain rfl := h k (Nat.le_refl k)
  cases v with
  | kJsonString i =>
      refine .inr ⟨i, _, rfl, rfl, fun k' hk => ?_⟩
      exact JsonValue.kJsonString.inj (h k' hk)
  | _ => exact .inl ⟨rfl, rfl⟩

theorem decodeMembers_sameRun {x : JsonM DecodedJson} {y : EStateM DecodeStop Nat JsonValue}
    (h : ∀ k, SameRun x y (stateAt message tokens k) k SameToken
      (Reads message tokens k DecodedJson.load)) :
    ∀ size k, SameRun (decodeMembers DecodedJson.string? x size) (decodeMembers string? y size)
      (stateAt message tokens k) k SameToken (Reads message tokens k DecodedJson.loadEntries)
  | 0, k => sameRun_pure ⟨Nat.le_refl k, rfl, fun _ _ => rfl⟩
  | size + 1, k => by
      refine (h k).bind ?_
      rintro key key' _ k₁ ⟨hle, rfl, hkey⟩
      rcases string?_eq hkey with ⟨hi, hs⟩ | ⟨i, s, hi, hs, hstring⟩
      · rw [hi, hs]
        exact sameRun_throw rfl
      · rw [hi, hs]
        refine (h k₁).bind ?_
        rintro v w _ k₂ ⟨hle', rfl, hv⟩
        refine (decodeMembers_sameRun h size k₂).bind ?_
        rintro vs ws _ k₃ ⟨hle'', rfl, hvs⟩
        refine sameRun_pure ⟨hle.trans (hle'.trans hle''), rfl, fun k₄ hk => ?_⟩
        rw [DecodedJson.loadEntries, hstring k₄ (hle'.trans (hle''.trans hk)), hv k₄ (hle''.trans hk),
          hvs k₄ hk]

/-! One token. -/

theorem tokenArray_cases (hlen : tokens.length ≤ tokenlistSize) (k : Nat) :
    (∃ t, tokens[k]? = some t ∧ (tokenArray tokens)[k]? = some t)
      ∨ (tokens.length ≤ k ∧ ∃ t : Token, t.type = .JSMN_UNDEFINED ∧ (tokenArray tokens)[k]? = some t)
      ∨ (tokenlistSize ≤ k ∧ (tokenArray tokens)[k]? = none) := by
  unfold tokenArray
  rcases Nat.lt_or_ge k tokens.length with hlt | hge
  · have hk := List.getElem?_eq_getElem hlt
    exact .inl ⟨_, hk, by rw [List.getElem?_append_left hlt, hk]⟩
  · refine .inr ?_
    rw [List.getElem?_append_right hge, List.getElem?_replicate]
    split
    next => exact .inl ⟨hge, _, rfl, rfl⟩
    next h => exact .inr ⟨by omega, rfl⟩

theorem run_nextToken {k : Nat} {m : List UInt8} {t : Token} {list : List Token}
    (h : list[k]? = some t) : (nextToken list).run ⟨m, k⟩ = .ok t ⟨m, k + 1⟩ := by
  unfold nextToken
  rw [run_get_bind, run_set_bind]
  dsimp only
  rw [h]
  rfl

theorem run_nextToken_none {k : Nat} {m : List UInt8} {list : List Token} (h : list[k]? = none) :
    (nextToken list).run ⟨m, k⟩ = .error .outOfBounds ⟨m, k + 1⟩ := by
  unfold nextToken
  rw [run_get_bind, run_set_bind]
  dsimp only
  rw [h]
  rfl

/-- A container changes nothing itself. -/
theorem stateAt_container {k : Nat} {t : Token} (hk : tokens[k]? = some t)
    (h : IsContainer t.type) : (⟨mark message (tokens.take k), k + 1⟩ : JsonCursor)
      = stateAt message tokens (k + 1) := by
  rw [stateAt, mark_take_succ hk, nulBehind_of_not_quoted fun l hl => ?_]
  rw [leaf_container h] at hl
  cases hl

/-- **The two walks**, from any token on. -/
theorem decodeToken_sameRun {b : UInt8} (h : Tokenized js limit (skeleton tokens))
    (hlen : tokens.length ≤ tokenlistSize) : ∀ fuel k,
      SameRun (decodeToken strtod (tokenArray tokens) fuel) (copyToken strtod js (tokenArray tokens) fuel)
        (stateAt (js ++ b :: behind) tokens k) k SameToken
        (Reads (js ++ b :: behind) tokens k DecodedJson.load)
  | 0, k => sameRun_throw rfl
  | fuel + 1, k => by
      have ih := decodeToken_sameRun h hlen fuel (b := b)
      have hsize : ∀ ts, (mark (js ++ b :: behind) ts).length = js.length + 1 + behind.length := by
        intro ts
        rw [length_mark, List.length_append, List.length_cons]
        omega
      unfold decodeToken copyToken
      rcases tokenArray_cases hlen k with ⟨t, hk, harray⟩ | ⟨-, t, htype, harray⟩ | ⟨-, harray⟩
      · have hmem := List.mem_of_getElem? hk
        refine SameRun.congr_run (run_bind_ok (run_nextToken harray)) (run_get_bind.trans run_set_bind) ?_
        rw [harray]
        dsimp only
        cases htype : t.type with
        | JSMN_UNDEFINED => exact sameRun_throw rfl
        | JSMN_PRIMITIVE =>
            obtain ⟨l, hl, hin⟩ := leaf_eq_some h hmem (by rw [htype]; decide)
            have hq : l.quoted = false := by
              rw [Bool.eq_false_iff, ne_eq, (stop_eq_of_leaf hl).2.2, htype]
              decide
            have hlt : l.stop < (mark (js ++ b :: behind) (tokens.take k)).length := by
              have hle := le_of_stop hin
              rw [hsize]
              omega
            obtain ⟨v, hrun, hload⟩ := run_decodePrimitive strtod (k := k + 1) hl
              (hin.nonempty hq) hlt
            refine sameRun_of_ok hrun (EStateM.run_pure _ _) ⟨Nat.le_succ k, ?_, fun _ _ => ?_⟩
            · rw [stateAt, mark_take_succ hk, nulBehind_of_not_quoted fun l' hl' => ?_]
              cases hl.symm.trans hl'
              exact hq
            · rw [hload, text_mark h hk hl, textOf, hl]
        | JSMN_STRING =>
            obtain ⟨l, hl, hin⟩ := leaf_eq_some h hmem (by rw [htype]; decide)
            have hq : l.quoted = true := (stop_eq_of_leaf hl).2.2.mpr htype
            have hlt := lt_of_stop hin hq
            have hstop : ∀ ts, l.stop < (mark (js ++ b :: behind) ts).length := by
              intro ts
              rw [hsize]
              omega
            refine sameRun_of_ok (run_decodeJsonString hl hq (hstop _)) (EStateM.run_pure _ _)
              ⟨Nat.le_succ k, ?_, fun k' hk' => ?_⟩
            · rw [stateAt, mark_take_succ hk]
            · -- the NUL behind the string is there from now on
              have hvisited : t ∈ tokens.take k' := by
                obtain ⟨hlt', rfl⟩ := List.getElem?_eq_some_iff.mp hk
                exact List.mem_take_iff_getElem.mpr ⟨k, by omega, rfl⟩
              have hnul := mark_stop hvisited hl hq (show l.stop < (js ++ b :: behind).length from hstop [])
              rw [DecodedJson.load, cString_eq hin.ordered hnul, text_mark h hk hl, textOf, hl]
        | JSMN_ARRAY =>
            rw [stateAt_container hk (.inr htype)]
            refine (decodeElements_sameRun ih t.size (k + 1)).bind ?_
            rintro vs ws _ k₁ ⟨hle, rfl, hvs⟩
            refine sameRun_pure ⟨(Nat.le_succ k).trans hle, rfl, fun k₂ hk₂ => ?_⟩
            rw [DecodedJson.load, hvs k₂ hk₂]
        | JSMN_OBJECT =>
            rw [stateAt_container hk (.inl htype)]
            refine (decodeMembers_sameRun ih t.size (k + 1)).bind ?_
            rintro vs ws _ k₁ ⟨hle, rfl, hvs⟩
            refine sameRun_pure ⟨(Nat.le_succ k).trans hle, rfl, fun k₂ hk₂ => ?_⟩
            rw [DecodedJson.load, hvs k₂ hk₂]
      · refine SameRun.congr_run (run_bind_ok (run_nextToken harray)) (run_get_bind.trans run_set_bind) ?_
        rw [harray]
        dsimp only
        rw [htype]
        exact sameRun_throw rfl
      · refine sameRun_of_error (run_bind_error (run_nextToken_none harray)) ?_ rfl
        rw [run_get_bind, run_set_bind, harray]
        exact run_throw _

end Walk

/-! ## §5. The whole decode. -/

variable (strtod) in
/-- With a token list the walk in place runs in step with the other one. -/
theorem platchDecodeValueJson_sameRun {js behind : List UInt8} {b : UInt8} {i : Nat}
    {tokens : List Token} (h : jsmnParse js tokenlistSize = .ok tokens) :
    SameRun (platchDecodeValueJson strtod js.length)
      (copyToken strtod js (tokenArray tokens) (tokenlistSize + 1)) ⟨js ++ b :: behind, i⟩ 0 SameToken
      (Reads (js ++ b :: behind) tokens 0 DecodedJson.load) := by
  obtain ⟨⟨limit, htokens⟩, hlen⟩ := jsmnParse_tokenized h
  refine SameRun.congr_run ?_ rfl (decodeToken_sameRun htokens hlen (tokenlistSize + 1) 0)
  unfold platchDecodeValueJson
  rw [run_get_bind]
  dsimp only
  rw [List.take_left, h]
  dsimp only
  rw [run_set_bind]
  rfl

/-- **Decoding in place**: what can be read of the result when all is done is what the decoder makes of
    a copy, and behind the message all is as it was. -/
theorem decode_in_place (strtod : CString → BitVec 64) (js behind : List UInt8) (b : UInt8) (i : Nat)
    (v : DecodedJson) (c : JsonCursor)
    (h : (platchDecodeValueJson strtod js.length).run ⟨js ++ b :: behind, i⟩ = .ok v c) :
    (∃ k, decodeCopy strtod js = .ok (v.load c.message) k)
      ∧ c.message.length = (js ++ b :: behind).length ∧ c.message.drop js.length = b :: behind := by
  cases hparse : jsmnParse js tokenlistSize with
  | error e =>
      unfold platchDecodeValueJson at h
      rw [run_get_bind] at h
      dsimp only at h
      rw [List.take_left, hparse] at h
      cases h
  | ok tokens =>
      obtain ⟨w, k, hcopy, -, rfl, hload⟩ := (platchDecodeValueJson_sameRun strtod hparse).of_ok h
      obtain ⟨⟨limit, htokens⟩, -⟩ := jsmnParse_tokenized hparse
      refine ⟨⟨k, ?_⟩, length_mark _ _, ?_⟩
      · have hview : v.load (stateAt (js ++ b :: behind) tokens k).message = w := hload k (Nat.le_refl k)
        unfold decodeCopy
        rw [hparse, hview]
        exact hcopy
      · -- every string ends in front of it
        have hbehind : ∀ j, js.length ≤ j →
            (mark (js ++ b :: behind) (tokens.take k))[j]? = (js ++ b :: behind)[j]? := by
          intro j hj
          refine mark_getElem? fun t ht l hl hq => ?_
          have hmem := List.mem_of_mem_take ht
          have hin := (htokens.inside _ (List.mem_map_of_mem hmem) l hl).1
          have hlt := lt_of_stop hin hq
          omega
        refine List.ext_getElem? fun j => ?_
        rw [List.getElem?_drop, stateAt, hbehind _ (Nat.le_add_right _ j),
          List.getElem?_append_right (Nat.le_add_right _ j), Nat.add_sub_cancel_left]

/-- `[1,"a"]`. -/
theorem decode_in_place_array : ∃ v c,
    (platchDecodeValueJson strtodOne 7).run ⟨[0x5B, 0x31, 0x2C, 0x22, 0x61, 0x22, 0x5D, 0], 0⟩
      = .ok v c
    ∧ (∃ k, decodeCopy strtodOne [0x5B, 0x31, 0x2C, 0x22, 0x61, 0x22, 0x5D]
      = .ok (v.load c.message) k)
    ∧ c.message.length = 8 ∧ c.message.drop 7 = [0] :=
  ⟨_, _, rfl, decode_in_place strtodOne [0x5B, 0x31, 0x2C, 0x22, 0x61, 0x22, 0x5D] [] 0 0 _ _ rfl⟩

end FlutterWlroots.PlatformChannel
