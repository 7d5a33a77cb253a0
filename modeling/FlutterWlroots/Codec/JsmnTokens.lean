/-
  FlutterWlroots.Codec.JsmnTokens — where the tokens of jsmn lie.

  What a string or primitive token covers (`Leaf`) is text without a NUL, and no two of them touch:
  each one begins behind the previous one, behind its closing quote if it is a string.  Objects and
  arrays come between them and may be closed later; that changes nothing here (`skeleton`).

    • `Adds`                  — what one round of the loop adds to the skeleton,
    • `Tokenized`             — the invariant of the loop,
    • `jsmnParse_tokenized`   — all tokens of an accepted text.
-/
import Mathlib.Data.List.Basic
import Mathlib.Tactic.SplitIfs
import FlutterWlroots.Codec.Jsmn
import FlutterWlroots.Lib.StateRun

namespace FlutterWlroots.Jsmn

open Lib.StateRun

/-! ## §1. Leaves. -/

/-- A string (without its quotes) or a primitive, from `start` up to `stop`. -/
structure Leaf where
  start : Nat
  stop : Nat
  quoted : Bool
  deriving DecidableEq, Repr

/-- The first byte that may belong to another token. -/
def Leaf.behind (l : Leaf) : Nat := if l.quoted then l.stop + 1 else l.stop

/-- What is read. -/
def Leaf.text (l : Leaf) (js : List UInt8) : List UInt8 := (js.drop l.start).take (l.stop - l.start)

def Token.leaf (t : Token) : Option Leaf :=
  match t.type, t.stop with
  | .JSMN_STRING, some stop => some ⟨t.start, stop, true⟩
  | .JSMN_PRIMITIVE, some stop => some ⟨t.start, stop, false⟩
  | _, _ => none

/-- The leaf lies in the text. -/
structure Leaf.In (l : Leaf) (js : List UInt8) : Prop where
  ordered : l.start ≤ l.stop
  inside : l.behind ≤ js.length
  nulFree : 0 ∉ l.text js
  /-- A primitive has a first byte. -/
  nonempty : l.quoted = false → l.start < l.stop

/-- What stays of a token, whatever happens to it later. -/
abbrev Kind := TokenType × Option Leaf

def skeleton (tokens : List Token) : List Kind := tokens.map fun t => (t.type, t.leaf)

def IsContainer (type : TokenType) : Prop := type = .JSMN_OBJECT ∨ type = .JSMN_ARRAY

instance (type : TokenType) : Decidable (IsContainer type) := inferInstanceAs (Decidable (_ ∨ _))

theorem leaf_container {t : Token} (h : IsContainer t.type) : t.leaf = none := by
  obtain ⟨type, start, stop, size⟩ := t
  rcases h with rfl | rfl <;> rfl

@[simp] theorem skeleton_countIn (toksuper : Option Nat) (tokens : List Token) :
    skeleton (countIn toksuper tokens) = skeleton tokens := by
  cases toksuper with
  | none => rfl
  | some i =>
      refine List.ext_getElem? fun j => ?_
      rw [countIn, skeleton, skeleton, List.getElem?_map, List.getElem?_map, List.getElem?_modify]
      cases tokens[j]? with
      | none => rfl
      | some t =>
          show some _ = some _
          dsimp only
          split <;> rfl

theorem skeleton_set {tokens : List Token} {i : Nat} {t : Token} {stop : Option Nat}
    (hi : tokens[i]? = some t) (h : IsContainer t.type) :
    skeleton (tokens.set i { t with stop := stop }) = skeleton tokens := by
  refine List.ext_getElem? fun j => ?_
  rw [skeleton, skeleton, List.getElem?_map, List.getElem?_map]
  rcases eq_or_ne i j with rfl | hne
  · obtain ⟨hlt, -⟩ := List.getElem?_eq_some_iff.mp hi
    rw [List.getElem?_set_self hlt, hi]
    show some (t.type, _) = some (t.type, t.leaf)
    rw [leaf_container h, leaf_container (t := { t with stop := stop }) h]
  · rw [List.getElem?_set_ne hne]

/-! ## §2. Scanning. -/

/-- The bytes in front of `n` are text. -/
def Plain (js : List UInt8) (n : Nat) : Prop := n ≤ js.length ∧ 0 ∉ js.take n

theorem plain_zero (js : List UInt8) : Plain js 0 := ⟨Nat.zero_le _, List.not_mem_nil⟩

theorem Plain.cons {js : List UInt8} {c : UInt8} {n : Nat} (h : Plain js n) (hc : c ≠ 0) :
    Plain (c :: js) (n + 1) := by
  refine ⟨Nat.succ_le_succ h.1, ?_⟩
  rw [List.take_succ_cons]
  exact List.not_mem_cons_of_ne_of_not_mem hc.symm h.2

theorem map_eq_ok {ε α β : Type} {x : Except ε α} {f : α → β} {b : β} (h : x.map f = .ok b) :
    ∃ a, x = .ok a ∧ f a = b := by
  cases x with
  | error e => cases h
  | ok a => exact ⟨a, rfl, Except.ok.inj h⟩

theorem scanPrimitive_plain : ∀ {js : List UInt8} {n : Nat}, scanPrimitive js = .ok n → Plain js n
  | [], n, h => by
      cases h
      exact plain_zero _
  | c :: js, n, h => by
      rw [scanPrimitive] at h
      split_ifs at h with hnul hdelim hrange
      · cases h
        exact plain_zero _
      · cases h
        exact plain_zero _
      · obtain ⟨m, hm, rfl⟩ := map_eq_ok h
        exact (scanPrimitive_plain hm).cons hnul

/-- A primitive that does not begin with a delimiter has a byte. -/
theorem scanPrimitive_pos {c : UInt8} {js : List UInt8} {n : Nat} (hnul : c ≠ 0)
    (hc : isDelimiter c = false) (h : scanPrimitive (c :: js) = .ok n) : 0 < n := by
  rw [scanPrimitive, if_neg hnul, if_neg (by rw [hc]; decide)] at h
  split at h
  next => cases h
  next =>
    obtain ⟨m, -, rfl⟩ := map_eq_ok h
    exact Nat.succ_pos m

/-- The string ends with a quote. -/
theorem scanString_plain : ∀ {js : List UInt8} {hex n : Nat}, scanString hex js = .ok n →
    Plain js n ∧ js[n]? = some 0x22
  | [], hex, n, h => by
      rw [scanString] at h
      cases h
  | c :: js, hex + 1, n, h => by
      rw [scanString] at h
      split_ifs at h with hnul hdigit
      obtain ⟨m, hm, rfl⟩ := map_eq_ok h
      obtain ⟨hplain, hquote⟩ := scanString_plain hm
      exact ⟨hplain.cons hnul, hquote⟩
  | [c], 0, n, h => by
      rw [scanString] at h
      split_ifs at h with hnul hquote hback
      · cases h
        exact ⟨plain_zero _, by rw [hquote]; rfl⟩
      · obtain ⟨m, hm, rfl⟩ := map_eq_ok h
        rw [scanString] at hm
        cases hm
  | c :: e :: js, 0, n, h => by
      -- an escape is two bytes, and neither is a NUL
      have hescape : c ≠ 0 → ∀ {hex m}, scanString hex js = .ok m → e ≠ 0 →
          Plain (c :: e :: js) (m + 2) ∧ (c :: e :: js)[m + 2]? = some 0x22 := by
        intro hc hex m hm he
        obtain ⟨hplain, hquote⟩ := scanString_plain hm
        exact ⟨(hplain.cons he).cons hc, hquote⟩
      rw [scanString] at h
      split_ifs at h with hnul hquote hback hsimple hu
      · cases h
        exact ⟨plain_zero _, by rw [hquote]; rfl⟩
      · obtain ⟨m, hm, rfl⟩ := map_eq_ok h
        refine hescape hnul hm ?_
        rintro rfl
        exact absurd hsimple (by decide)
      · obtain ⟨m, hm, rfl⟩ := map_eq_ok h
        exact hescape hnul hm (by rw [hu]; decide)
      · obtain ⟨m, hm, rfl⟩ := map_eq_ok h
        obtain ⟨hplain, hquote⟩ := scanString_plain hm
        exact ⟨hplain.cons hnul, hquote⟩

/-! ## §3. One round. -/

/-- What a round at `pos` adds, for the text `js` from there on: nothing, an object or array, or a
    leaf that ends where the loop goes on. -/
inductive Adds (js : List UInt8) (pos : Nat) : Nat → List Kind → Prop
  | nothing : Adds js pos 0 []
  | container {type} : IsContainer type → Adds js pos 0 [(type, none)]
  | leaf {type} {l : Leaf} {skip : Nat} : pos ≤ l.start → l.start ≤ l.stop →
      (l.quoted = false → l.start < l.stop) → l.behind = pos + 1 + skip → l.behind ≤ pos + js.length →
      0 ∉ (js.drop (l.start - pos)).take (l.stop - l.start) → Adds js pos skip [(type, some l)]

theorem skeleton_append_singleton (tokens : List Token) (t : Token) :
    skeleton (tokens ++ [t]) = skeleton tokens ++ [(t.type, t.leaf)] := by
  rw [skeleton, List.map_append]
  rfl

theorem allocToken_eq_ok {num_tokens : Nat} {p p' : Parser} {t : Token}
    (h : allocToken num_tokens p t = .ok p') :
    p.tokens.length < num_tokens ∧ p' = { p with tokens := p.tokens ++ [t] } := by
  unfold allocToken at h
  split at h
  next => cases h
  next hlt => exact ⟨Nat.lt_of_not_le hlt, (Except.ok.inj h).symm⟩

theorem openToken_eq_ok {num_tokens pos : Nat} {type : TokenType} {p p' : Parser}
    (h : openToken num_tokens type pos p = .ok p') :
    p.tokens.length < num_tokens
      ∧ p' = ⟨countIn p.toksuper (p.tokens ++ [⟨type, pos, none, 0⟩]), some p.tokens.length⟩ := by
  obtain ⟨p₁, halloc, h⟩ := except_bind_eq_ok.mp h
  obtain ⟨hlt, rfl⟩ := allocToken_eq_ok halloc
  exact ⟨hlt, (Except.ok.inj h).symm⟩

theorem addLeaf_eq_ok {num_tokens start stop : Nat} {type : TokenType} {p p' : Parser}
    (h : addLeaf num_tokens type start stop p = .ok p') :
    p.tokens.length < num_tokens
      ∧ p' = { p with tokens := countIn p.toksuper (p.tokens ++ [⟨type, start, some stop, 0⟩]) } := by
  obtain ⟨p₁, halloc, h⟩ := except_bind_eq_ok.mp h
  obtain ⟨hlt, rfl⟩ := allocToken_eq_ok halloc
  exact ⟨hlt, (Except.ok.inj h).symm⟩

theorem closeToken_skeleton {pos : Nat} {type : TokenType} {p p' : Parser} (htype : IsContainer type)
    (h : closeToken type pos p = .ok p') : skeleton p'.tokens = skeleton p.tokens := by
  unfold closeToken at h
  split at h
  next => cases h
  next i _ =>
    split at h
    next => cases h
    next t hi =>
      split at h
      next => cases h
      next hsame =>
        cases h
        exact skeleton_set hi (not_not.mp hsame ▸ htype)

theorem comma_tokens (p : Parser) : (comma p).tokens = p.tokens := by
  unfold comma
  split
  next => rfl
  next =>
    split
    next => rfl
    next =>
      split
      next =>
        split <;> rfl
      next => rfl

/-- **One round.** -/
theorem parseByte_adds {num_tokens pos skip : Nat} {c : UInt8} {js : List UInt8} {p p' : Parser}
    (hnul : c ≠ 0) (h : parseByte num_tokens c js pos p = .ok (p', skip)) :
    ∃ new, Adds (c :: js) pos skip new ∧ skeleton p'.tokens = skeleton p.tokens ++ new
      ∧ (new ≠ [] → p.tokens.length < num_tokens) := by
  unfold parseByte at h
  split_ifs at h with hbrace hbracket hbrace' hbracket' hquote hspace hcolon hcomma
  · obtain ⟨q, hq, heq⟩ := map_eq_ok h
    cases heq
    obtain ⟨hlt, rfl⟩ := openToken_eq_ok hq
    refine ⟨_, .container (.inl rfl), ?_, fun _ => hlt⟩
    rw [skeleton_countIn, skeleton_append_singleton]
    rfl
  · obtain ⟨q, hq, heq⟩ := map_eq_ok h
    cases heq
    obtain ⟨hlt, rfl⟩ := openToken_eq_ok hq
    refine ⟨_, .container (.inr rfl), ?_, fun _ => hlt⟩
    rw [skeleton_countIn, skeleton_append_singleton]
    rfl
  · obtain ⟨q, hq, heq⟩ := map_eq_ok h
    cases heq
    exact ⟨_, .nothing, by rw [closeToken_skeleton (.inl rfl) hq, List.append_nil], fun hne => absurd rfl hne⟩
  · obtain ⟨q, hq, heq⟩ := map_eq_ok h
    cases heq
    exact ⟨_, .nothing, by rw [closeToken_skeleton (.inr rfl) hq, List.append_nil], fun hne => absurd rfl hne⟩
  · -- a string: `n` bytes between two quotes
    obtain ⟨n, hn, h⟩ := except_bind_eq_ok.mp h
    obtain ⟨q, hq, h⟩ := except_bind_eq_ok.mp h
    cases h
    obtain ⟨hroom, rfl⟩ := addLeaf_eq_ok hq
    obtain ⟨⟨hle, htext⟩, hend⟩ := scanString_plain hn
    obtain ⟨hlt, -⟩ := List.getElem?_eq_some_iff.mp hend
    refine ⟨[(.JSMN_STRING, some ⟨pos + 1, pos + 1 + n, true⟩)], .leaf (Nat.le_succ pos)
      (Nat.le_add_right ..) nofun rfl ?_ ?_, ?_, fun _ => hroom⟩
    · show pos + 1 + n + 1 ≤ pos + (js.length + 1)
      omega
    · have hstart : pos + 1 - pos = 1 := by omega
      have hlen : pos + 1 + n - (pos + 1) = n := by omega
      show 0 ∉ ((c :: js).drop (pos + 1 - pos)).take (pos + 1 + n - (pos + 1))
      rwa [hstart, hlen, List.drop_one]
    · rw [skeleton_countIn, skeleton_append_singleton]
      rfl
  · cases h
    exact ⟨_, .nothing, (List.append_nil _).symm, fun hne => absurd rfl hne⟩
  · cases h
    exact ⟨_, .nothing, (List.append_nil _).symm, fun hne => absurd rfl hne⟩
  · cases h
    exact ⟨_, .nothing, by rw [comma_tokens, List.append_nil], fun hne => absurd rfl hne⟩
  · -- a primitive of `n` bytes, the first of which is `c`
    obtain ⟨n, hn, h⟩ := except_bind_eq_ok.mp h
    obtain ⟨q, hq, h⟩ := except_bind_eq_ok.mp h
    cases h
    obtain ⟨hroom, rfl⟩ := addLeaf_eq_ok hq
    obtain ⟨hle, htext⟩ := scanPrimitive_plain hn
    have hdelim : isDelimiter c = false := by
      simp only [List.mem_cons, List.not_mem_nil, or_false, not_or] at hspace
      simp [isDelimiter, hspace, hbrace', hbracket', hcolon, hcomma]
    have hpos := scanPrimitive_pos hnul hdelim hn
    refine ⟨[(.JSMN_PRIMITIVE, some ⟨pos, pos + n, false⟩)], .leaf (Nat.le_refl pos)
      (Nat.le_add_right ..) (fun _ => Nat.lt_add_of_pos_right hpos) ?_ (Nat.add_le_add_left hle pos) ?_, ?_,
      fun _ => hroom⟩
    · show pos + n = pos + 1 + (n - 1)
      omega
    · have hlen : pos + n - pos = n := by omega
      show 0 ∉ ((c :: js).drop (pos - pos)).take (pos + n - pos)
      rwa [Nat.sub_self, hlen]
    · rw [skeleton_countIn, skeleton_append_singleton]
      rfl

/-! ## §4. The loop. -/

/-- **The invariant**: the leaves lie in the text, in order, and none reaches beyond `limit`. -/
structure Tokenized (js : List UInt8) (limit : Nat) (kinds : List Kind) : Prop where
  inside : ∀ k ∈ kinds, ∀ l, k.2 = some l → l.In js ∧ l.behind ≤ limit
  apart : kinds.Pairwise fun k k' => ∀ l l', k.2 = some l → k'.2 = some l' → l.behind ≤ l'.start
  known : ∀ k ∈ kinds, k.2 = none → IsContainer k.1

theorem tokenized_nil (js : List UInt8) : Tokenized js 0 [] :=
  ⟨nofun, List.Pairwise.nil, nofun⟩

/-- The step of the invariant. -/
theorem Tokenized.adds {whole js : List UInt8} {pos skip : Nat} {kinds new : List Kind}
    (h : Tokenized whole pos kinds) (hjs : whole.drop pos = js) (hnew : Adds js pos skip new) :
    Tokenized whole (pos + 1 + skip) (kinds ++ new) := by
  have hgrow : ∀ k ∈ kinds, ∀ l, k.2 = some l → l.In whole ∧ l.behind ≤ pos + 1 + skip :=
    fun k hk l hl => ⟨(h.inside k hk l hl).1, Nat.le_trans (h.inside k hk l hl).2 (by omega)⟩
  cases hnew with
  | nothing =>
      rw [List.append_nil]
      exact ⟨hgrow, h.apart, h.known⟩
  | container htype =>
      refine ⟨?_, ?_, ?_⟩
      · intro k hk l hl
        rcases List.mem_append.mp hk with hk | hk
        · exact hgrow k hk l hl
        · rw [List.mem_singleton.mp hk] at hl
          cases hl
      · refine List.pairwise_append.mpr ⟨h.apart, List.pairwise_singleton _ _, ?_⟩
        intro k _ k' hk' l l' _ hl'
        rw [List.mem_singleton.mp hk'] at hl'
        cases hl'
      · intro k hk hl
        rcases List.mem_append.mp hk with hk | hk
        · exact h.known k hk hl
        · rw [List.mem_singleton.mp hk]
          exact htype
  | @leaf type l _ hstart hordered hnonempty hbehind hinside htext =>
      have hlen : js.length = whole.length - pos := by rw [← hjs, List.length_drop]
      have hin : l.In whole := by
        refine ⟨hordered, by omega, ?_, hnonempty⟩
        rw [Leaf.text]
        rwa [← hjs, List.drop_drop, Nat.add_sub_cancel' hstart] at htext
      refine ⟨?_, ?_, ?_⟩
      · intro k hk l' hl'
        rcases List.mem_append.mp hk with hk | hk
        · exact hgrow k hk l' hl'
        · rw [List.mem_singleton.mp hk] at hl'
          cases hl'
          exact ⟨hin, Nat.le_of_eq hbehind⟩
      · refine List.pairwise_append.mpr ⟨h.apart, List.pairwise_singleton _ _, ?_⟩
        intro k hk k' hk' l₁ l' hl₁ hl'
        rw [List.mem_singleton.mp hk'] at hl'
        cases hl'
        exact Nat.le_trans (h.inside k hk l₁ hl₁).2 hstart
      · intro k hk hl
        rcases List.mem_append.mp hk with hk | hk
        · exact h.known k hk hl
        · rw [List.mem_singleton.mp hk] at hl
          cases hl

theorem Adds.length_le {js : List UInt8} {pos skip : Nat} {new : List Kind}
    (h : Adds js pos skip new) : new.length ≤ 1 := by
  cases h <;> simp

/-- The run of the invariant. -/
theorem parseFrom_tokenized {num_tokens : Nat} {whole : List UInt8} {p' : Parser} :
    ∀ {js : List UInt8} {skip pos : Nat} {p : Parser}, parseFrom num_tokens js skip pos p = .ok p' →
      whole.drop pos = js → Tokenized whole (pos + skip) (skeleton p.tokens) →
      p.tokens.length ≤ num_tokens →
      (∃ limit, Tokenized whole limit (skeleton p'.tokens)) ∧ p'.tokens.length ≤ num_tokens
  | [], skip, pos, p, h, _, hp, hlen => by
      rw [parseFrom] at h
      cases h
      exact ⟨⟨_, hp⟩, hlen⟩
  | c :: js, skip + 1, pos, p, h, hjs, hp, hlen => by
      rw [parseFrom] at h
      refine parseFrom_tokenized h ?_ ?_ hlen
      · rw [← List.drop_drop, hjs, List.drop_one, List.tail_cons]
      · rwa [Nat.add_assoc, Nat.add_comm 1 skip]
  | c :: js, 0, pos, p, h, hjs, hp, hlen => by
      rw [parseFrom] at h
      split at h
      next =>
        cases h
        exact ⟨⟨_, hp⟩, hlen⟩
      next hnul =>
        obtain ⟨⟨q, skip⟩, hq, h⟩ := except_bind_eq_ok.mp h
        obtain ⟨new, hadds, hskel, hroom⟩ := parseByte_adds hnul hq
        have hcount := congrArg List.length hskel
        rw [List.length_append, skeleton, skeleton, List.length_map, List.length_map] at hcount
        refine parseFrom_tokenized h ?_ ?_ ?_
        · rw [← List.drop_drop, hjs, List.drop_one, List.tail_cons]
        · rw [hskel]
          exact hp.adds hjs hadds
        · have hnew := hadds.length_le
          cases new with
          | nil => exact hcount ▸ hlen
          | cons k new =>
              have hlt := hroom (List.cons_ne_nil _ _)
              omega

/-- **The tokens of an accepted text.** -/
theorem jsmnParse_tokenized {js : List UInt8} {num_tokens : Nat} {tokens : List Token}
    (h : jsmnParse js num_tokens = .ok tokens) :
    (∃ limit, Tokenized js limit (skeleton tokens)) ∧ tokens.length ≤ num_tokens := by
  obtain ⟨p, hp, h⟩ := except_bind_eq_ok.mp h
  split at h
  next => cases h
  next =>
    cases h
    exact parseFrom_tokenized hp rfl (tokenized_nil js) (Nat.zero_le _)

end FlutterWlroots.Jsmn
