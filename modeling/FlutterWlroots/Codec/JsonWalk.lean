/-
  FlutterWlroots.Codec.JsonWalk — how far the walk through the tokens goes.

  Nothing stops the walk at the last token; it goes as far as the sizes in the tokens tell it to.
  `covers` reads the tokens once, from left to right, and keeps what is still owed: a value at first,
  `size` values for an array, `size` keys and values for an object.  The tokens cover the walk if
  nothing is owed any more before they end, or if a key that is no string ends it.

  That is when only tokens of the list are looked at (`walk_inside_iff`).  The text `{"a"}` owes a value
  for its key.
-/
import FlutterWlroots.Codec.JsonInPlace

namespace FlutterWlroots.PlatformChannel

open Lib.StateRun
open FlutterWlroots.Codec FlutterWlroots.Jsmn

/-! ## §1. What is owed. -/

inductive Demand where
  | value
  | key
  deriving DecidableEq, Repr

/-- `size` keys, each with a value. -/
def entryDemands : Nat → List Demand
  | 0 => []
  | size + 1 => .key :: .value :: entryDemands size

/-- What is inside a token. -/
def Token.demands (t : Token) : List Demand :=
  match t.type with
  | .JSMN_ARRAY => List.replicate t.size .value
  | .JSMN_OBJECT => entryDemands t.size
  | _ => []

/-- The tokens give all that is owed, or the walk ends with an error before they do. -/
def covers : List Demand → List Token → Bool
  | [], _ => true
  | _ :: _, [] => false
  | .value :: owed, t :: tokens =>
      if t.type = .JSMN_UNDEFINED then true else covers (Token.demands t ++ owed) tokens
  | .key :: owed, t :: tokens =>
      if t.type = .JSMN_STRING then covers owed tokens
      -- no string: the walk ends with this key
      else if t.type = .JSMN_UNDEFINED then true else covers (Token.demands t) tokens

example : covers [.value] [⟨.JSMN_ARRAY, 0, some 2, 1⟩, ⟨.JSMN_PRIMITIVE, 1, some 2, 0⟩] = true := by
  decide

/-! ## §2. The walk and what is owed. -/

section Walk

variable {strtod : CString → BitVec 64} {js : List UInt8} {tokens : List Token} {k : Nat}

/-- A run from token `k` on that is owed `demands`: what it takes is what they ask for, and if it stops
    with an error it has stayed inside exactly if the tokens cover it. -/
def Meets {α : Type} (tokens : List Token) (k : Nat) (demands : List Demand)
    (r : EStateM.Result DecodeStop Nat α) : Prop :=
  match r with
  | .ok _ k' => k ≤ k' ∧ k' ≤ tokens.length
      ∧ ∀ owed, covers (demands ++ owed) (tokens.drop k) = covers owed (tokens.drop k')
  | .error _ k' => ∀ owed, covers (demands ++ owed) (tokens.drop k) = decide (k' ≤ tokens.length)

/-- The same for a key. -/
def MeetsKey (tokens : List Token) (k : Nat) (r : EStateM.Result DecodeStop Nat JsonValue) : Prop :=
  match r with
  | .ok w k' => ∀ owed, covers (.key :: owed) (tokens.drop k)
      = if (string? w).isSome then covers owed (tokens.drop k') else true
  | .error _ k' => ∀ owed, covers (.key :: owed) (tokens.drop k) = decide (k' ≤ tokens.length)

theorem meets_ok {α : Type} {demands : List Demand} {a : α} {k' : Nat} (hle : k ≤ k')
    (hlen : k' ≤ tokens.length)
    (h : ∀ owed, covers (demands ++ owed) (tokens.drop k) = covers owed (tokens.drop k')) :
    Meets tokens k demands (.ok a k') := ⟨hle, hlen, h⟩

theorem decodeElements_meets {x : EStateM DecodeStop Nat JsonValue}
    (h : ∀ k', k ≤ k' → k' ≤ tokens.length → Meets tokens k' [.value] (x.run k')) :
    ∀ size k', k ≤ k' → k' ≤ tokens.length →
      Meets tokens k' (List.replicate size .value) ((decodeElements x size).run k')
  | 0, k', _, hlen => ⟨Nat.le_refl k', hlen, fun _ => rfl⟩
  | size + 1, k', hle, hlen => by
      have hone := h k' hle hlen
      unfold decodeElements
      rw [List.replicate_succ]
      cases hx : x.run k' with
      | error e k₁ =>
          rw [hx] at hone
          rw [run_bind_error hx]
          exact fun owed => hone (List.replicate size .value ++ owed)
      | ok w k₁ =>
          rw [hx] at hone
          obtain ⟨hle₁, hlen₁, hcovers⟩ := hone
          have hrest := decodeElements_meets h size k₁ (hle.trans hle₁) hlen₁
          rw [run_bind_ok hx]
          cases hxs : (decodeElements x size).run k₁ with
          | error e k₂ =>
              rw [hxs] at hrest
              rw [run_bind_error hxs]
              exact fun owed => (hcovers (List.replicate size .value ++ owed)).trans (hrest owed)
          | ok ws k₂ =>
              rw [hxs] at hrest
              obtain ⟨hle₂, hlen₂, hcovers₂⟩ := hrest
              rw [run_bind_ok hxs]
              exact meets_ok (hle₁.trans hle₂) hlen₂ fun owed =>
                (hcovers (List.replicate size .value ++ owed)).trans (hcovers₂ owed)

theorem decodeMembers_meets {x : EStateM DecodeStop Nat JsonValue}
    (h : ∀ k', k ≤ k' → k' ≤ tokens.length →
      Meets tokens k' [.value] (x.run k') ∧ MeetsKey tokens k' (x.run k')) :
    ∀ size k', k ≤ k' → k' ≤ tokens.length →
      Meets tokens k' (entryDemands size) ((decodeMembers string? x size).run k')
  | 0, k', _, hlen => ⟨Nat.le_refl k', hlen, fun _ => rfl⟩
  | size + 1, k', hle, hlen => by
      obtain ⟨hone, hkey⟩ := h k' hle hlen
      unfold decodeMembers
      rw [entryDemands]
      cases hx : x.run k' with
      | error e k₁ =>
          rw [hx] at hkey
          rw [run_bind_error hx]
          exact fun owed => hkey (.value :: entryDemands size ++ owed)
      | ok w k₁ =>
          rw [hx] at hone hkey
          obtain ⟨hle₁, hlen₁, -⟩ := hone
          rw [run_bind_ok hx]
          cases hs : string? w with
          | none =>
              -- the walk ends here, inside
              intro owed
              have hstop := hkey (.value :: entryDemands size ++ owed)
              rw [hs] at hstop
              exact hstop.trans (decide_eq_true hlen₁).symm
          | some s =>
              rw [MeetsKey, hs] at hkey
              have hvalue := (h k₁ (hle.trans hle₁) hlen₁).1
              dsimp only
              cases hv : x.run k₁ with
              | error e k₂ =>
                  rw [hv] at hvalue
                  rw [run_bind_error hv]
                  exact fun owed => (hkey (.value :: entryDemands size ++ owed)).trans
                    (hvalue (entryDemands size ++ owed))
              | ok v k₂ =>
                  rw [hv] at hvalue
                  obtain ⟨hle₂, hlen₂, hcovers⟩ := hvalue
                  have hrest := decodeMembers_meets h size k₂ (hle.trans (hle₁.trans hle₂)) hlen₂
                  rw [run_bind_ok hv]
                  cases hxs : (decodeMembers string? x size).run k₂ with
                  | error e k₃ =>
                      rw [hxs] at hrest
                      rw [run_bind_error hxs]
                      exact fun owed => ((hkey (.value :: entryDemands size ++ owed)).trans
                        (hcovers (entryDemands size ++ owed))).trans (hrest owed)
                  | ok es k₃ =>
                      rw [hxs] at hrest
                      obtain ⟨hle₃, hlen₃, hcovers₃⟩ := hrest
                      rw [run_bind_ok hxs]
                      exact meets_ok (hle₁.trans (hle₂.trans hle₃)) hlen₃ fun owed =>
                        ((hkey (.value :: entryDemands size ++ owed)).trans
                          (hcovers (entryDemands size ++ owed))).trans (hcovers₃ owed)

theorem string?_copyPrimitive (text : List UInt8) : string? (copyPrimitive strtod text) = none := by
  unfold copyPrimitive
  split_ifs <;> rfl

theorem covers_nil (tokens : List Token) : covers [] tokens = true := by rw [covers]

/-- Where the tokens have come to their end, nothing is covered. -/
theorem covers_end {d : Demand} {owed : List Demand} (h : tokens.length ≤ k) :
    covers (d :: owed) (tokens.drop k) = false := by
  rw [List.drop_eq_nil_of_le h]
  cases d <;> rfl

theorem covers_value {t : Token} {owed : List Demand} (hk : tokens[k]? = some t)
    (h : t.type ≠ .JSMN_UNDEFINED) : covers (.value :: owed) (tokens.drop k)
      = covers (Token.demands t ++ owed) (tokens.drop (k + 1)) := by
  obtain ⟨hlt, rfl⟩ := List.getElem?_eq_some_iff.mp hk
  rw [List.drop_eq_getElem_cons hlt, covers, if_neg h]

theorem covers_undefined {t : Token} {d : Demand} {owed : List Demand} (hk : tokens[k]? = some t)
    (h : t.type = .JSMN_UNDEFINED) : covers (d :: owed) (tokens.drop k) = true := by
  obtain ⟨hlt, rfl⟩ := List.getElem?_eq_some_iff.mp hk
  rw [List.drop_eq_getElem_cons hlt]
  cases d with
  | value => rw [covers, if_pos h]
  | key => rw [covers, if_neg (by rw [h]; decide), if_pos h]

theorem covers_key {t : Token} {owed : List Demand} (hk : tokens[k]? = some t)
    (h : t.type ≠ .JSMN_UNDEFINED) : covers (.key :: owed) (tokens.drop k)
      = if t.type = .JSMN_STRING then covers owed (tokens.drop (k + 1))
        else covers (Token.demands t) (tokens.drop (k + 1)) := by
  obtain ⟨hlt, rfl⟩ := List.getElem?_eq_some_iff.mp hk
  rw [List.drop_eq_getElem_cons hlt, covers, if_neg h]

/-- A token whose inside has been walked through, as a value and as a key; only strings are keys. -/
theorem meets_of_inside {α : Type} {t : Token} {f : α → JsonValue} {y : EStateM DecodeStop Nat α}
    (hk : tokens[k]? = some t) (h : t.type ≠ .JSMN_UNDEFINED) (hstring : t.type ≠ .JSMN_STRING)
    (hf : ∀ a, string? (f a) = none) (hy : Meets tokens (k + 1) (Token.demands t) (y.run (k + 1))) :
    Meets tokens k [.value] ((y >>= fun a => pure (f a)).run (k + 1))
      ∧ MeetsKey tokens k ((y >>= fun a => pure (f a)).run (k + 1)) := by
  cases hrun : y.run (k + 1) with
  | error e k' =>
      rw [hrun] at hy
      rw [run_bind_error hrun]
      refine ⟨fun owed => (covers_value hk h).trans (hy owed), fun owed => ?_⟩
      have hinside := hy []
      rw [List.append_nil] at hinside
      rw [covers_key hk h, if_neg hstring, hinside]
  | ok a k' =>
      rw [hrun] at hy
      obtain ⟨hle, hlen, hcovers⟩ := hy
      rw [run_bind_ok hrun, EStateM.run_pure]
      refine ⟨⟨(Nat.le_succ k).trans hle, hlen, fun owed => (covers_value hk h).trans (hcovers owed)⟩,
        fun owed => ?_⟩
      have hinside := hcovers []
      rw [List.append_nil] at hinside
      rw [covers_key hk h, if_neg hstring, hinside, hf, covers_nil]
      rfl

variable (strtod js) in
/-- **The walk**, while there is fuel for each token left. -/
theorem copyToken_meets (hlen : tokens.length ≤ tokenlistSize) : ∀ fuel k, tokenlistSize < fuel + k →
    k ≤ tokens.length →
      Meets tokens k [.value] ((copyToken strtod js (tokenArray tokens) fuel).run k)
        ∧ MeetsKey tokens k ((copyToken strtod js (tokenArray tokens) fuel).run k)
  | 0, k, hfuel, hk => by omega
  | fuel + 1, k, hfuel, hle => by
      have ih : ∀ k', k + 1 ≤ k' → k' ≤ tokens.length → _ := fun k' hk' hle' =>
        copyToken_meets hlen fuel k' (by omega) hle'
      unfold copyToken
      rw [run_get_bind, run_set_bind]
      rcases tokenArray_cases hlen k with ⟨t, hk, harray⟩ | ⟨hend, t, htype, harray⟩ | ⟨hend, harray⟩
      · rw [harray]
        dsimp only
        obtain ⟨hlt, -⟩ := List.getElem?_eq_some_iff.mp hk
        cases htype : t.type with
        | JSMN_UNDEFINED =>
            have hinside : decide (k + 1 ≤ tokens.length) = true := decide_eq_true hlt
            rw [run_throw]
            refine ⟨fun owed => ?_, fun owed => ?_⟩
            · rw [List.singleton_append, covers_undefined hk htype, hinside]
            · rw [covers_undefined hk htype, hinside]
        | JSMN_PRIMITIVE =>
            have hdemands : Token.demands t = [] := by rw [Token.demands, htype]
            refine meets_of_inside (f := fun _ => copyPrimitive strtod (textOf js t)) (y := pure ()) hk
              (by rw [htype]; decide) (by rw [htype]; decide) (fun _ => string?_copyPrimitive _) ?_
            rw [hdemands]
            exact meets_ok (Nat.le_refl _) hlt fun _ => rfl
        | JSMN_STRING =>
            have hdemands : Token.demands t = [] := by rw [Token.demands, htype]
            rw [EStateM.run_pure]
            refine ⟨meets_ok (Nat.le_succ k) hlt fun owed => ?_, fun owed => ?_⟩
            · rw [List.singleton_append, covers_value hk (by rw [htype]; decide), hdemands,
                List.nil_append]
            · rw [covers_key hk (by rw [htype]; decide), if_pos htype]
              rfl
        | JSMN_ARRAY =>
            have hdemands : Token.demands t = List.replicate t.size .value := by
              rw [Token.demands, htype]
            refine meets_of_inside hk (by rw [htype]; decide) (by rw [htype]; decide) (fun _ => rfl) ?_
            rw [hdemands]
            exact decodeElements_meets (fun k' hk' hle' => (ih k' hk' hle').1) t.size (k + 1)
              (Nat.le_refl _) hlt
        | JSMN_OBJECT =>
            have hdemands : Token.demands t = entryDemands t.size := by rw [Token.demands, htype]
            refine meets_of_inside hk (by rw [htype]; decide) (by rw [htype]; decide) (fun _ => rfl) ?_
            rw [hdemands]
            exact decodeMembers_meets ih t.size (k + 1) (Nat.le_refl _) hlt
      · have houtside : decide (k + 1 ≤ tokens.length) = false := decide_eq_false (by omega)
        rw [harray]
        dsimp only
        rw [htype, run_throw]
        refine ⟨fun owed => ?_, fun owed => ?_⟩
        · rw [List.singleton_append, covers_end hend, houtside]
        · rw [covers_end hend, houtside]
      · have houtside : decide (k + 1 ≤ tokens.length) = false := decide_eq_false (by omega)
        rw [harray]
        dsimp only
        rw [run_throw]
        refine ⟨fun owed => ?_, fun owed => ?_⟩
        · rw [List.singleton_append, covers_end (hlen.trans hend), houtside]
        · rw [covers_end (hlen.trans hend), houtside]

end Walk

/-! ## §3. The tokens that are looked at. -/

/-- How many tokens have been looked at: those in front of `*pptoken`, one after the other. -/
def inspected {α : Type} : EStateM.Result DecodeStop JsonCursor α → Nat
  | .ok _ c => c.ptoken
  | .error _ c => c.ptoken

/-- **The walk stays inside the token list** if and only if the tokens cover it. -/
theorem walk_inside_iff (strtod : CString → BitVec 64) (js behind : List UInt8) (b : UInt8) (i : Nat)
    (tokens : List Token) (h : jsmnParse js tokenlistSize = .ok tokens) :
    inspected ((platchDecodeValueJson strtod js.length).run ⟨js ++ b :: behind, i⟩) ≤ tokens.length
      ↔ covers [.value] tokens = true := by
  have hlen := (jsmnParse_tokenized h).2
  have hwalk := (copyToken_meets strtod js hlen (tokenlistSize + 1) 0 (Nat.lt_succ_self _)
    (Nat.zero_le _)).1
  cases hrun : (platchDecodeValueJson strtod js.length).run ⟨js ++ b :: behind, i⟩ with
  | ok v c =>
      obtain ⟨w, k, hcopy, -, rfl, -⟩ := (platchDecodeValueJson_sameRun strtod h).of_ok hrun
      rw [hcopy] at hwalk
      obtain ⟨-, hk, hcovers⟩ := hwalk
      exact iff_of_true hk ((hcovers []).trans (covers_nil _))
  | error e c =>
      obtain ⟨k, hcopy, rfl⟩ := (platchDecodeValueJson_sameRun strtod h).of_error hrun
      rw [hcopy] at hwalk
      have hcovers := hwalk []
      rw [List.append_nil, List.drop_zero] at hcovers
      rw [hcovers, decide_eq_true_iff]
      rfl

/-- `[1,"a"]` has three tokens. -/
theorem walk_inside_iff_array :
    inspected ((platchDecodeValueJson strtodOne 7).run
        ⟨[0x5B, 0x31, 0x2C, 0x22, 0x61, 0x22, 0x5D, 0], 0⟩) ≤ 3
      ↔ covers [.value] [⟨.JSMN_ARRAY, 0, some 7, 2⟩, ⟨.JSMN_PRIMITIVE, 1, some 2, 0⟩,
          ⟨.JSMN_STRING, 4, some 5, 0⟩] = true :=
  walk_inside_iff strtodOne [0x5B, 0x31, 0x2C, 0x22, 0x61, 0x22, 0x5D] [] 0 0 _ rfl

/-- `{"a"}` has two tokens, and a third one is looked at. -/
theorem walk_leaves_tokens :
    jsmnParse [0x7B, 0x22, 0x61, 0x22, 0x7D] tokenlistSize
        = .ok [⟨.JSMN_OBJECT, 0, some 5, 1⟩, ⟨.JSMN_STRING, 2, some 3, 0⟩]
      ∧ inspected ((platchDecodeValueJson strtodOne 5).run
        ⟨[0x7B, 0x22, 0x61, 0x22, 0x7D, 0], 0⟩) = 3 := ⟨rfl, rfl⟩

end FlutterWlroots.PlatformChannel
