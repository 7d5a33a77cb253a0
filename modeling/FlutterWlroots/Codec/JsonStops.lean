/-
  FlutterWlroots.Codec.JsonStops — how the decoder of the JSON codecs stops.

  Behind the tokens of a text the token array has places that were zeroed; a walk that leaves the
  tokens finds such a place and returns `EBADMSG`.  Only 128 tokens leave no place, and there the
  walk reads behind the array unless the tokens cover it.  A token nests no deeper than there are
  tokens in front of it, and the fuel is enough.

    • `decodeCopy_cases`            — how a decode ends,
    • `platchDecodeValueJson_cases` — the same in the message,
    • `platchDecodeJson_methodCall` — method calls, with the fields that are assigned.
-/
import FlutterWlroots.Lib.StateRun
import FlutterWlroots.Codec.JsonWalk
import FlutterWlroots.Codec.JsonMethodCall

namespace FlutterWlroots.PlatformChannel

open Lib.StateRun
open FlutterWlroots.Codec FlutterWlroots.Jsmn

/-! ## §1. The walk. -/

/-- Why a walk from token `k` on may stop: with an `errno`, in the array, or behind a full array. -/
def WalkStops (tokens : List Token) (stop : DecodeStop) (k : Nat) : Prop :=
  ((∃ e, stop = .errno e) ∧ k ≤ tokenlistSize)
    ∨ (stop = .outOfBounds ∧ tokens.length = tokenlistSize ∧ tokenlistSize < k)

/-- From token `k` on, as far as there are tokens. -/
abbrev WalksOn {α : Type} (tokens : List Token) (k : Nat) (m : EStateM DecodeStop Nat α) : Prop :=
  Stays (fun k' => k ≤ k' ∧ k' ≤ tokens.length) (WalkStops tokens) m

section Walk

variable {strtod : CString → BitVec 64} {js : List UInt8} {tokens : List Token} {k : Nat}
  {α κ : Type} {x : EStateM DecodeStop Nat α}

theorem walksOn_elements (h : WalksOn tokens k x) (size : Nat) :
    WalksOn tokens k (decodeElements x size) := by
  induction size with
  | zero => exact stays_pure []
  | succ size ih =>
      unfold decodeElements
      exact h.bind fun v => ih.bind fun array => stays_pure _

theorem walksOn_members {string? : α → Option κ} (hlen : tokens.length ≤ tokenlistSize)
    (h : WalksOn tokens k x) (size : Nat) : WalksOn tokens k (decodeMembers string? x size) := by
  induction size with
  | zero => exact stays_pure []
  | succ size ih =>
      unfold decodeMembers
      refine h.bind fun key => ?_
      cases string? key with
      | none => exact stays_throw fun k' hk' => .inl ⟨⟨_, rfl⟩, hk'.2.trans hlen⟩
      | some string_value => exact h.bind fun v => ih.bind fun entries => stays_pure _

variable (strtod js) in
/-- **The walk**, while there is fuel for each token left. -/
theorem walksOn_copyToken (hlen : tokens.length ≤ tokenlistSize) (fuel : Nat) :
    ∀ k, tokenlistSize < fuel + k →
      WalksOn tokens k (copyToken strtod js (tokenArray tokens) fuel) := by
  induction fuel with
  | zero =>
      intro k hfuel k' hk'
      omega
  | succ fuel ih =>
      intro k hfuel k' hk'
      have hon : ∀ {β : Type} {m : EStateM DecodeStop Nat β}, WalksOn tokens (k' + 1) m →
          k' < tokens.length → EndsIn (fun i => k ≤ i ∧ i ≤ tokens.length) (WalkStops tokens)
            (m.run (k' + 1)) := fun hm hlt =>
        (hm (k' + 1) ⟨Nat.le_refl _, hlt⟩).mono fun i hi => ⟨by omega, hi.2⟩
      have ih := ih (k' + 1) (by omega)
      unfold copyToken
      rw [run_get_bind, run_set_bind]
      rcases tokenArray_cases hlen k' with
        ⟨t, hk, harray⟩ | ⟨hend, t, htype, harray⟩ | ⟨hend, harray⟩
      · obtain ⟨hlt, -⟩ := List.getElem?_eq_some_iff.mp hk
        rw [harray]
        dsimp only
        cases t.type with
        | JSMN_UNDEFINED => exact .error (.inl ⟨⟨_, rfl⟩, Nat.le_trans hlt hlen⟩)
        | JSMN_PRIMITIVE => exact hon (stays_pure _) hlt
        | JSMN_STRING => exact hon (stays_pure _) hlt
        | JSMN_ARRAY => exact hon ((walksOn_elements ih t.size).bind fun _ => stays_pure _) hlt
        | JSMN_OBJECT => exact hon ((walksOn_members hlen ih t.size).bind fun _ => stays_pure _) hlt
      · -- a place of the array without a token
        obtain ⟨hplace, -⟩ := List.getElem?_eq_some_iff.mp harray
        have hsize : (tokenArray tokens).length = tokenlistSize := by
          rw [tokenArray, List.length_append, List.length_replicate]
          omega
        rw [harray]
        dsimp only
        rw [htype]
        exact .error (.inl ⟨⟨_, rfl⟩, by omega⟩)
      · rw [harray]
        exact .error (.inr ⟨rfl, by omega, by omega⟩)

end Walk

/-! ## §2. A whole text. -/

/-- A full token array covers the walk. -/
def TokensSuffice (js : List UInt8) : Prop :=
  ∀ tokens, jsmnParse js tokenlistSize = .ok tokens → tokens.length = tokenlistSize →
    covers [.value] tokens = true

variable (strtod : CString → BitVec 64) (js : List UInt8)

/-- **How a decode ends**: with a value, with an `errno`, or behind a full token array that does not
    cover the walk. -/
theorem decodeCopy_cases :
    (TokensSuffice js ∧ ((∃ v k, decodeCopy strtod js = .ok v k)
        ∨ ∃ e k, decodeCopy strtod js = .error (.errno e) k))
      ∨ (¬ TokensSuffice js ∧ ∃ k, decodeCopy strtod js = .error .outOfBounds k) := by
  unfold decodeCopy
  cases hparse : jsmnParse js tokenlistSize with
  | error e =>
      refine .inl ⟨fun tokens htokens => ?_, .inr ⟨_, _, rfl⟩⟩
      cases hparse.symm.trans htokens
  | ok tokens =>
      have hlen := (jsmnParse_tokenized hparse).2
      have hfuel : tokenlistSize < tokenlistSize + 1 + 0 := Nat.lt_succ_self _
      have hmeets := (copyToken_meets strtod js hlen (tokenlistSize + 1) 0 hfuel (Nat.zero_le _)).1
      have hsuffice : TokensSuffice js
          ↔ (tokens.length = tokenlistSize → covers [.value] tokens = true) := by
        constructor
        · intro h
          exact h tokens hparse
        · intro h tokens' htokens
          cases hparse.symm.trans htokens
          exact h
      rw [hsuffice]
      dsimp only
      rcases (walksOn_copyToken strtod js hlen (tokenlistSize + 1) 0 hfuel 0
          ⟨Nat.le_refl 0, Nat.zero_le _⟩).cases with ⟨v, k, hrun, -⟩ | ⟨stop, k, hrun, hstop⟩
      · rw [hrun] at hmeets ⊢
        obtain ⟨-, -, hcovers⟩ := hmeets
        have hall := hcovers []
        rw [covers_nil] at hall
        exact .inl ⟨fun _ => hall, .inl ⟨v, k, rfl⟩⟩
      · rw [hrun] at hmeets ⊢
        have hcovers : covers [.value] tokens = decide (k ≤ tokens.length) := hmeets []
        rw [hcovers]
        rcases hstop with ⟨⟨e, rfl⟩, hk⟩ | ⟨rfl, hfull, hk⟩
        · exact .inl ⟨fun hfull => decide_eq_true (by omega), .inr ⟨e, k, rfl⟩⟩
        · refine .inr ⟨fun h => ?_, k, rfl⟩
          have hinside := of_decide_eq_true (h hfull)
          omega

variable (behind : List UInt8) (b : UInt8) (i : Nat)

/-- **In the message** a decode ends as from a copy, and the value reads the same. -/
theorem platchDecodeValueJson_cases :
    (∃ v c k, (platchDecodeValueJson strtod js.length).run ⟨js ++ b :: behind, i⟩ = .ok v c
        ∧ decodeCopy strtod js = .ok (v.load c.message) k)
      ∨ ∃ stop c k,
        (platchDecodeValueJson strtod js.length).run ⟨js ++ b :: behind, i⟩ = .error stop c
        ∧ decodeCopy strtod js = .error stop k := by
  unfold decodeCopy
  cases hparse : jsmnParse js tokenlistSize with
  | error e =>
      refine .inr ⟨.errno .EBADMSG, ⟨js ++ b :: behind, i⟩, 0, ?_, rfl⟩
      unfold platchDecodeValueJson
      rw [run_get_bind]
      dsimp only
      rw [List.take_left, hparse]
      rfl
  | ok tokens =>
      have hsame : SameRun _ _ ⟨js ++ b :: behind, i⟩ 0 SameToken
          (Reads (js ++ b :: behind) tokens 0 DecodedJson.load) :=
        platchDecodeValueJson_sameRun strtod hparse
      cases hrun : (platchDecodeValueJson strtod js.length).run ⟨js ++ b :: behind, i⟩ with
      | ok v c =>
          obtain ⟨w, k, hcopy, -, rfl, hload⟩ := hsame.of_ok hrun
          refine .inl ⟨v, _, k, rfl, ?_⟩
          rw [stateAt, hload k (Nat.le_refl k)]
          exact hcopy
      | error stop c =>
          obtain ⟨k, hcopy, -⟩ := hsame.of_error hrun
          exact .inr ⟨stop, c, k, rfl, hcopy⟩

/-! ## §3. Method calls. -/

/-- The method that an entry sets. -/
def methodOf (e : CString × JsonValue) : Option CString :=
  if e.1 = .ofLiteral "method" then string? e.2 else none

/-- The argument that an entry sets. -/
def argsOf (e : CString × JsonValue) : Option JsonValue :=
  if e.1 = .ofLiteral "args" then some e.2 else none

/-- A `"method"` entry with a string, or an `"args"` entry. -/
def IsField (e : CString × JsonValue) : Prop := (methodOf e).isSome ∨ (argsOf e).isSome

/-- What the last entry that sets it sets it to. -/
def lastSet {α β : Type} (pick : β → Option α) (entries : List β) (x : Option α) : Option α :=
  entries.foldl (fun x e => (pick e).or x) x

section Fields

variable {message : List UInt8} {entries : List (Nat × DecodedJson)} {e : Nat × DecodedJson}
  {o : JsonPlatchObj}

/-- An entry as it stands in the message. -/
def loadEntry (message : List UInt8) (e : Nat × DecodedJson) : CString × JsonValue :=
  (cString message e.1, e.2.load message)

theorem loadEntries_cons : DecodedJson.loadEntries message (e :: entries)
    = loadEntry message e :: DecodedJson.loadEntries message entries := rfl

theorem fields_method {i : Nat} (hkey : cString message e.1 = .ofLiteral "method")
    (hs : e.2 = .kJsonString i) : methodOf (loadEntry message e) = some (cString message i)
      ∧ argsOf (loadEntry message e) = none := by
  refine ⟨?_, ?_⟩
  · refine (if_pos hkey).trans ?_
    rw [loadEntry, hs]
    rfl
  · refine if_neg fun hargs => ?_
    exact not_isArgs_of_isMethod ⟨hkey, i, hs⟩ hargs

theorem fields_args (h : IsArgs message e) : methodOf (loadEntry message e) = none
    ∧ argsOf (loadEntry message e) = some (e.2.load message) := by
  refine ⟨if_neg fun hkey => ?_, if_pos h⟩
  exact absurd (hkey.symm.trans h) (by decide)

theorem fields_other (h : ¬ IsMethod message e) (h' : ¬ IsArgs message e) :
    ¬ IsField (loadEntry message e) := by
  rintro (hm | ha)
  · unfold methodOf at hm
    split at hm
    next hkey =>
      obtain ⟨text, htext⟩ := Option.isSome_iff_exists.mp hm
      have hstring : ∃ i, e.2 = .kJsonString i := by
        cases hv : e.2 with
        | kJsonString i => exact ⟨i, rfl⟩
        | _ =>
            rw [loadEntry, hv] at htext
            cases htext
      exact h ⟨hkey, hstring⟩
    next => cases hm
  · unfold argsOf at ha
    split at ha
    next hkey => exact h' hkey
    next => cases ha

variable (message) in
/-- **The loop over the entries**: another entry is an error, and the last entry of each kind is
    what is assigned. -/
theorem assignEntries_cases : ∀ (entries : List (Nat × DecodedJson)) (o : JsonPlatchObj),
    ((∀ e ∈ DecodedJson.loadEntries message entries, IsField e)
      ∧ ∃ o', assignEntries message entries o = .ok o'
        ∧ o'.method.map (cString message) = lastSet methodOf
          (DecodedJson.loadEntries message entries) (o.method.map (cString message))
        ∧ o'.json_arg.map (·.load message) = lastSet argsOf
          (DecodedJson.loadEntries message entries) (o.json_arg.map (·.load message)))
      ∨ ((¬ ∀ e ∈ DecodedJson.loadEntries message entries, IsField e)
        ∧ assignEntries message entries o = .error (.errno .EBADMSG))
  | [], o => .inl ⟨nofun, o, rfl, rfl, rfl⟩
  | e :: entries, o => by
      have hcons : (∀ e' ∈ DecodedJson.loadEntries message (e :: entries), IsField e')
          ↔ IsField (loadEntry message e)
            ∧ ∀ e' ∈ DecodedJson.loadEntries message entries, IsField e' :=
        List.forall_mem_cons
      rw [hcons, loadEntries_cons]
      unfold lastSet
      rw [List.foldl_cons, List.foldl_cons]
      by_cases hmethod : IsMethod message e
      · obtain ⟨hkey, i, hs⟩ := hmethod
        obtain ⟨hm, ha⟩ := fields_method hkey hs
        have hfield : IsField (loadEntry message e) := .inl (by rw [hm]; rfl)
        rw [assignEntries_method hkey hs, hm, ha, and_iff_right hfield]
        exact assignEntries_cases entries _
      · by_cases hargs : IsArgs message e
        · obtain ⟨hm, ha⟩ := fields_args hargs
          have hfield : IsField (loadEntry message e) := .inr (by rw [ha]; rfl)
          rw [assignEntries_args hargs, hm, ha, and_iff_right hfield]
          exact assignEntries_cases entries _
        · have hother := fields_other hmethod hargs
          exact .inr ⟨fun h => hother h.1, assignEntries_other hmethod hargs⟩

end Fields

/-- The text is an object of these entries, and all of them are fields of a method call. -/
def MethodCallText (strtod : CString → BitVec 64) (js : List UInt8)
    (entries : List (CString × JsonValue)) : Prop :=
  (∃ k, decodeCopy strtod js = .ok (.kJsonObject entries) k) ∧ ∀ e ∈ entries, IsField e

/-- How the decode of a method call ends. -/
inductive MethodCallEnds (strtod : CString → BitVec 64) (js : List UInt8) :
    EStateM.Result DecodeStop JsonCursor JsonPlatchObj → Prop where
  | assigned {obj : JsonPlatchObj} {c : JsonCursor} {entries : List (CString × JsonValue)}
      (hsuffice : TokensSuffice js) (htext : MethodCallText strtod js entries)
      (hmethod : obj.method.map (cString c.message) = lastSet methodOf entries none)
      (hargs : obj.json_arg.map (·.load c.message) = lastSet argsOf entries none) :
      MethodCallEnds strtod js (.ok obj c)
  | errno {e : Errno} {c : JsonCursor} (hsuffice : TokensSuffice js)
      (htext : ∀ entries, ¬ MethodCallText strtod js entries) :
      MethodCallEnds strtod js (.error (.errno e) c)
  | outside {c : JsonCursor} (hsuffice : ¬ TokensSuffice js) :
      MethodCallEnds strtod js (.error .outOfBounds c)

variable {strtod js} in
/-- A text that is no object. -/
theorem not_methodCallText {r : EStateM.Result DecodeStop Nat JsonValue}
    (h : decodeCopy strtod js = r) (hr : ∀ entries k, r ≠ .ok (.kJsonObject entries) k)
    (entries : List (CString × JsonValue)) :
    ¬ MethodCallText strtod js entries := by
  rintro ⟨⟨k, hcopy⟩, -⟩
  exact hr entries k (h.symm.trans hcopy)

/-- **The decode of a method call.** -/
theorem platchDecodeJson_methodCall : MethodCallEnds strtod js
    ((platchDecodeJson strtod false js.length .kJSONMethodCall).run ⟨js ++ b :: behind, i⟩) := by
  have hcopy := decodeCopy_cases strtod js
  unfold platchDecodeJson
  simp only [Bool.false_eq_true, and_false, if_false]
  rcases platchDecodeValueJson_cases strtod js behind b i with
    ⟨v, c, k, hrun, hload⟩ | ⟨stop, c, k, hrun, hstop⟩
  · have hsuffice : TokensSuffice js := by
      rcases hcopy with ⟨hsuffice, -⟩ | ⟨-, k', hother⟩
      · exact hsuffice
      · cases hload.symm.trans hother
    rw [run_bind_ok hrun]
    cases v with
    | kJsonObject entries =>
        dsimp only
        rw [run_get_bind]
        rcases assignEntries_cases c.message entries { codec := .kJSONMethodCall } with
          ⟨hall, o', hassign, hmethod, hargs⟩ | ⟨hother, hassign⟩
        · rw [hassign]
          exact .assigned hsuffice ⟨⟨k, hload⟩, hall⟩ hmethod hargs
        · rw [hassign]
          refine .errno hsuffice fun entries' => ?_
          rintro ⟨⟨k', hcopy'⟩, hall⟩
          cases hload.symm.trans hcopy'
          exact hother hall
    | _ => exact .errno hsuffice (not_methodCallText hload nofun)
  · rw [run_bind_error hrun]
    rcases hcopy with ⟨hsuffice, ⟨v, k', hother⟩ | ⟨e, k', hother⟩⟩ | ⟨hsuffice, k', hother⟩
    · cases hstop.symm.trans hother
    · cases hstop.symm.trans hother
      exact .errno hsuffice (not_methodCallText hother nofun)
    · cases hstop.symm.trans hother
      exact .outside hsuffice

end FlutterWlroots.PlatformChannel
