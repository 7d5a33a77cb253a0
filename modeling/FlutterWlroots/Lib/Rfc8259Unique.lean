/-
  FlutterWlroots.Lib.Rfc8259Unique — a JSON text stands for one value.

  A text is read from the left.  White space, digits and the bytes of a number go as far as they can
  (`span_inj`), every piece of a string tells its own length, and the first byte of a value tells which
  kind of value it is.  So two syntax trees of the same bytes denote the same (`Parses.unique`).
-/
import FlutterWlroots.Lib.Rfc8259

namespace Lib.Rfc8259

/-! ## §1. Spans. -/

/-- The text does not go on with such a byte. -/
def Stops (p : UInt8 → Bool) (x : List UInt8) : Prop := ∀ b, x.head? = some b → p b = false

theorem stops_nil (p : UInt8 → Bool) : Stops p [] := nofun

theorem stops_cons {p : UInt8 → Bool} {b : UInt8} (h : p b = false) (x : List UInt8) :
    Stops p (b :: x) := by
  rintro b' hb
  cases hb
  exact h

/-- **The longest span of such bytes.** -/
theorem span_inj {p : UInt8 → Bool} {a a' x x' : List UInt8} (ha : ∀ b ∈ a, p b = true)
    (ha' : ∀ b ∈ a', p b = true) (hx : Stops p x) (hx' : Stops p x') (h : a ++ x = a' ++ x') :
    a = a' ∧ x = x' := by
  induction a generalizing a' with
  | nil =>
      cases a' with
      | nil => exact ⟨rfl, h⟩
      | cons b a' =>
          have hstop := hx b (by rw [show x = b :: (a' ++ x') from h]; rfl)
          rw [ha' b List.mem_cons_self] at hstop
          cases hstop
  | cons b a ih =>
      cases a' with
      | nil =>
          have hstop := hx' b (by rw [← show b :: (a ++ x) = x' from h]; rfl)
          rw [ha b List.mem_cons_self] at hstop
          cases hstop
      | cons b' a' =>
          rw [List.cons_append, List.cons_append, List.cons.injEq] at h
          obtain ⟨rfl, h⟩ := h
          obtain ⟨rfl, hrest⟩ := ih (fun c hc => ha c (List.mem_cons_of_mem _ hc))
            (fun c hc => ha' c (List.mem_cons_of_mem _ hc)) h
          exact ⟨rfl, hrest⟩

theorem Ws.inj {w w' : Ws} {x x' : List UInt8} (hx : Stops isWs x) (hx' : Stops isWs x')
    (h : w.bytes ++ x = w'.bytes ++ x') : x = x' := (span_inj w.blank w'.blank hx hx' h).2

/-- White space in front of a text that begins with none. -/
theorem Ws.eq_of_append {w : Ws} {x x' : List UInt8} (hx : Stops isWs x) (hx' : Stops isWs x')
    (h : w.bytes ++ x = x') : x = x' :=
  (span_inj w.blank Ws.none.blank hx hx' h).2

/-! ## §2. Strings. -/

theorem Hex4.eq_of_bytes {x y : Hex4} (h : x.bytes = y.bytes) : x = y := by
  obtain ⟨a, b, c, d, hx⟩ := x
  obtain ⟨a', b', c', d', hy⟩ := y
  simp only [Hex4.bytes, List.cons.injEq, and_true] at h
  obtain ⟨rfl, rfl, rfl, rfl⟩ := h
  rfl

theorem Hex4.append_inj {x y : Hex4} {z z' : List UInt8} (h : x.bytes ++ z = y.bytes ++ z') :
    x = y ∧ z = z' := by
  obtain ⟨hbytes, hrest⟩ := List.append_inj h rfl
  exact ⟨Hex4.eq_of_bytes hbytes, hrest⟩

theorem escapeOf_u : escapeOf 0x75 = none := by decide

theorem Piece.pair_append {high low : Hex4} {h : isHigh high.value = true ∧ isLow low.value = true}
    {x : List UInt8} : (Piece.pair high low h).render ++ x
      = 0x5C :: 0x75 :: (high.bytes ++ 0x5C :: 0x75 :: (low.bytes ++ x)) := by
  simp only [Piece.render, List.cons_append, List.append_assoc]

/-- A piece tells its own length. -/
theorem Piece.append_inj {p p' : Piece} {x x' : List UInt8} (h : p.render ++ x = p'.render ++ x') :
    p = p' ∧ x = x' := by
  have hplain : ∀ {b : UInt8} {y z : List UInt8}, isPlain b = true → b :: y ≠ 0x5C :: z := by
    intro b y z hb heq
    rw [(List.cons.inj heq).1] at hb
    exact absurd hb (by decide)
  have hescape : ∀ {l m : UInt8} {y z : List UInt8}, escapeOf l = some m →
      0x5C :: l :: y ≠ 0x5C :: 0x75 :: z := by
    intro l m y z hm heq
    rw [(List.cons.inj (List.cons.inj heq).2).1, escapeOf_u] at hm
    cases hm
  cases p with
  | plain b hb =>
      cases p' with
      | plain b' hb' =>
          obtain ⟨rfl, rfl⟩ := List.cons.inj h
          exact ⟨rfl, rfl⟩
      | escape | unicode | pair => exact absurd h (hplain hb)
  | escape letter meaning hm =>
      cases p' with
      | plain b' hb' => exact absurd h.symm (hplain hb')
      | escape letter' meaning' hm' =>
          obtain ⟨rfl, rfl⟩ := List.cons.inj (List.cons.inj h).2
          cases hm.symm.trans hm'
          exact ⟨rfl, rfl⟩
      | unicode | pair => exact absurd h (hescape hm)
  | unicode y hy =>
      cases p' with
      | plain b' hb' => exact absurd h.symm (hplain hb')
      | escape letter' meaning' hm' => exact absurd h.symm (hescape hm')
      | unicode y' hy' =>
          obtain ⟨rfl, rfl⟩ := Hex4.append_inj (List.cons.inj (List.cons.inj h).2).2
          exact ⟨rfl, rfl⟩
      | pair high low hpair =>
          rw [Piece.pair_append] at h
          obtain ⟨rfl, -⟩ := Hex4.append_inj (List.cons.inj (List.cons.inj h).2).2
          exact absurd (hy.1.symm.trans hpair.1) (by decide)
  | pair high low hpair =>
      rw [Piece.pair_append] at h
      cases p' with
      | plain b' hb' => exact absurd h.symm (hplain hb')
      | escape letter' meaning' hm' => exact absurd h.symm (hescape hm')
      | unicode y' hy' =>
          obtain ⟨rfl, -⟩ := Hex4.append_inj (List.cons.inj (List.cons.inj h).2).2
          exact absurd (hpair.1.symm.trans hy'.1) (by decide)
      | pair high' low' hpair' =>
          rw [Piece.pair_append] at h
          obtain ⟨rfl, hlow⟩ := Hex4.append_inj (List.cons.inj (List.cons.inj h).2).2
          obtain ⟨rfl, rfl⟩ := Hex4.append_inj (List.cons.inj (List.cons.inj hlow).2).2
          exact ⟨rfl, rfl⟩

/-- No piece begins with a quotation mark. -/
theorem Piece.render_ne_quote (p : Piece) {x y : List UInt8} : p.render ++ x ≠ 0x22 :: y := by
  intro h
  cases p with
  | plain b hb =>
      rw [(List.cons.inj h).1] at hb
      exact absurd hb (by decide)
  | escape | unicode | pair => exact absurd (List.cons.inj h).1 (by decide)

/-- **A string** ends with the first quotation mark that is no escape. -/
theorem body_inj : ∀ {s s' : List Piece} {x x' : List UInt8},
    bodyText s ++ 0x22 :: x = bodyText s' ++ 0x22 :: x' → s = s' ∧ x = x'
  | [], [], x, x', h => ⟨rfl, (List.cons.inj h).2⟩
  | [], p :: s, x, x', h => by
      rw [bodyText, bodyText, List.flatMap_cons, List.append_assoc] at h
      exact absurd h.symm p.render_ne_quote
  | p :: s, [], x, x', h => by
      rw [bodyText, bodyText, List.flatMap_cons, List.append_assoc] at h
      exact absurd h p.render_ne_quote
  | p :: s, p' :: s', x, x', h => by
      rw [bodyText, bodyText, List.flatMap_cons, List.flatMap_cons, List.append_assoc,
        List.append_assoc] at h
      obtain ⟨rfl, hrest⟩ := Piece.append_inj h
      obtain ⟨rfl, rfl⟩ := body_inj hrest
      exact ⟨rfl, rfl⟩

theorem string_inj {s s' : List Piece} {x x' : List UInt8}
    (h : stringText s ++ x = stringText s' ++ x') : s = s' ∧ x = x' := by
  rw [stringText, stringText, List.cons_append, List.cons_append, List.append_assoc,
    List.append_assoc] at h
  exact body_inj (List.cons.inj h).2

/-! ## §3. Numbers. -/

/-- The bytes of a number. -/
def isNumberByte (b : UInt8) : Bool := isDigit b ∨ b ∈ [0x2B, 0x2D, 0x2E, 0x45, 0x65]

theorem Digits.append_inj {d d' : Digits} {x x' : List UInt8} (hx : Stops isDigit x)
    (hx' : Stops isDigit x') (h : d.bytes ++ x = d'.bytes ++ x') : d.bytes = d'.bytes ∧ x = x' :=
  span_inj d.digits d'.digits hx hx' h

/-- Digits begin with a digit. -/
theorem Digits.exists_cons (d : Digits) : ∃ b y, d.bytes = b :: y ∧ isDigit b = true := by
  obtain ⟨b, y, h⟩ := List.exists_cons_of_ne_nil d.nonempty
  exact ⟨b, y, h, d.digits b (h ▸ List.mem_cons_self)⟩

theorem Digits.ne_cons {d : Digits} {c : UInt8} (hc : isDigit c = false) {x y : List UInt8} :
    d.bytes ++ x ≠ c :: y := by
  obtain ⟨b, z, hd, hb⟩ := d.exists_cons
  rw [hd]
  intro h
  rw [(List.cons.inj h).1, hc] at hb
  cases hb

theorem Exponent.render_stops (e : Exponent) : Stops isDigit e.render := by
  refine stops_cons ?_ _
  cases e.upper <;> decide

theorem Exponent.value_eq {e e' : Exponent} (h : e.render = e'.render) : e.value = e'.value := by
  have hdigits : ∀ {d d' : Digits}, d.bytes = d'.bytes → natOf d.bytes = natOf d'.bytes :=
    fun h => congrArg natOf h
  obtain ⟨upper, sign, d⟩ := e
  obtain ⟨upper', sign', d'⟩ := e'
  have htail := (List.cons.inj h).2
  dsimp only at htail
  have happ : ∀ d : Digits, d.bytes = d.bytes ++ [] := fun d => (List.append_nil _).symm
  rcases sign with - | - | - <;> rcases sign' with - | - | -
  · rw [Exponent.value, Exponent.value, hdigits htail]
  · exact absurd ((happ d).symm.trans htail) (Digits.ne_cons (by decide))
  · exact absurd ((happ d).symm.trans htail) (Digits.ne_cons (by decide))
  · exact absurd ((happ d').symm.trans htail.symm) (Digits.ne_cons (by decide))
  · rw [Exponent.value, Exponent.value, hdigits (List.cons.inj htail).2]
  · exact absurd (List.cons.inj htail).1 (by decide)
  · exact absurd ((happ d').symm.trans htail.symm) (Digits.ne_cons (by decide))
  · exact absurd (List.cons.inj htail).1 (by decide)
  · rw [Exponent.value, Exponent.value, hdigits (List.cons.inj htail).2]

/-- The fraction and the exponent. -/
def Number.tail (n : Number) : List UInt8 :=
  (match n.frac with
    | none => []
    | some f => 0x2E :: f.bytes)
  ++ (match n.exp with
    | none => []
    | some e => e.render)

theorem Exponent.render_eq_cons (e : Exponent) :
    ∃ b y, e.render = b :: y ∧ (b = 0x45 ∨ b = 0x65) := by
  refine ⟨_, _, rfl, ?_⟩
  cases e.upper
  · exact .inr rfl
  · exact .inl rfl

theorem Exponent.value_eq_of_option {e e' : Option Exponent}
    (h : (match e with
      | none => []
      | some e => e.render) = match e' with
      | none => []
      | some e => e.render) : (e.map (·.value)).getD 0 = (e'.map (·.value)).getD 0 := by
  cases e with
  | none =>
      cases e' with
      | none => rfl
      | some e' => exact absurd h.symm (List.cons_ne_nil _ _)
  | some e =>
      cases e' with
      | none => exact absurd h (List.cons_ne_nil _ _)
      | some e' => exact Exponent.value_eq h

theorem expText_stops (e : Option Exponent) : Stops isDigit (match e with
    | none => []
    | some e => e.render) := by
  cases e with
  | none => exact stops_nil _
  | some e => exact e.render_stops

theorem Number.tail_stops (n : Number) : Stops isDigit n.tail := by
  unfold Number.tail
  cases n.frac with
  | none => exact expText_stops n.exp
  | some f => exact stops_cons (by decide) _

/-- **The text of a number** determines its value. -/
theorem Number.value_eq {n n' : Number} (h : n.render = n'.render) : n.value = n'.value := by
  -- the sign
  have hsign : n.negative = n'.negative ∧ n.int.bytes ++ n.tail = n'.int.bytes ++ n'.tail := by
    change (if n.negative then [0x2D] else []) ++ (n.int.bytes ++ n.tail)
      = (if n'.negative then [0x2D] else []) ++ (n'.int.bytes ++ n'.tail) at h
    cases hn : n.negative <;> cases hn' : n'.negative <;> rw [hn, hn'] at h
    · exact ⟨rfl, h⟩
    · exact absurd h (Digits.ne_cons (by decide))
    · exact absurd h.symm (Digits.ne_cons (by decide))
    · exact ⟨rfl, (List.cons.inj h).2⟩
  obtain ⟨hint, htail⟩ := Digits.append_inj n.tail_stops n'.tail_stops hsign.2
  -- the fraction
  have hfrac : n.fracBytes = n'.fracBytes
      ∧ (n.exp.map (·.value)).getD 0 = (n'.exp.map (·.value)).getD 0 := by
    have hpoint : ∀ (e : Option Exponent) (y : List UInt8), (match e with
        | none => []
        | some e => e.render) ≠ 0x2E :: y := by
      intro e y heq
      cases e with
      | none => cases heq
      | some e =>
          obtain ⟨b, z, hrender, hb⟩ := e.render_eq_cons
          have hcons := hrender.symm.trans heq
          rw [(List.cons.inj hcons).1] at hb
          exact absurd hb (by decide)
    unfold Number.tail at htail
    unfold Number.fracBytes
    cases hf : n.frac <;> cases hf' : n'.frac <;> rw [hf, hf'] at htail
    · exact ⟨rfl, Exponent.value_eq_of_option htail⟩
    · exact absurd htail (hpoint _ _)
    · exact absurd htail.symm (hpoint _ _)
    · obtain ⟨hbytes, hexp⟩ := Digits.append_inj (expText_stops _) (expText_stops _)
        (List.cons.inj htail).2
      exact ⟨hbytes, Exponent.value_eq_of_option hexp⟩
  rw [Number.value, Number.value, hsign.1, hint, hfrac.1, hfrac.2]

theorem Number.render_numberBytes (n : Number) : ∀ b ∈ n.render, isNumberByte b = true := by
  have hdigits : ∀ d : Digits, ∀ b ∈ d.bytes, isNumberByte b = true := fun d b hb => by
    simp [isNumberByte, d.digits b hb]
  have hexp : ∀ e : Exponent, ∀ b ∈ e.render, isNumberByte b = true := by
    intro e
    refine List.forall_mem_cons.mpr ⟨?_, List.forall_mem_append.mpr ⟨?_, hdigits _⟩⟩
    · cases e.upper <;> decide
    · rcases e.sign with - | - | - <;> exact List.all_eq_true.mp rfl
  refine List.forall_mem_append.mpr ⟨?_, List.forall_mem_append.mpr ⟨hdigits _,
    List.forall_mem_append.mpr ⟨?_, ?_⟩⟩⟩
  · cases n.negative <;> exact List.all_eq_true.mp rfl
  · cases n.frac with
    | none => exact nofun
    | some f => exact List.forall_mem_cons.mpr ⟨by decide, hdigits f⟩
  · cases n.exp with
    | none => exact nofun
    | some e => exact hexp e

/-- Numbers end where no byte of a number follows. -/
theorem Number.append_inj {n n' : Number} {x x' : List UInt8} (hx : Stops isNumberByte x)
    (hx' : Stops isNumberByte x') (h : n.render ++ x = n'.render ++ x') :
    n.value = n'.value ∧ x = x' := by
  obtain ⟨hrender, hrest⟩ := span_inj n.render_numberBytes n'.render_numberBytes hx hx' h
  exact ⟨Number.value_eq hrender, hrest⟩

/-! ## §4. Texts. -/

/-- The kind of value that begins with the byte. -/
def kindOf (b : UInt8) : Option Nat :=
  if b = 0x6E then some 0
  else if b = 0x74 then some 1
  else if b = 0x66 then some 2
  else if b = 0x22 then some 3
  else if b = 0x5B then some 4
  else if b = 0x7B then some 5
  else if isDigit b ∨ b = 0x2D then some 6
  else none

namespace Text

def kind : Text → Nat
  | null _ _ => 0
  | bool _ true _ => 1
  | bool _ false _ => 2
  | string _ _ _ => 3
  | array _ _ _ _ => 4
  | object _ _ _ _ => 5
  | number _ _ _ => 6

theorem kindOf_digit {b : UInt8} (h : isDigit b = true ∨ b = 0x2D) : kindOf b = some 6 := by
  have hne : ∀ c : UInt8, isDigit c = false → c ≠ 0x2D → b ≠ c := by
    rintro c hc hc' rfl
    rcases h with h | h
    · rw [hc] at h
      cases h
    · exact hc' h
  unfold kindOf
  rw [if_neg (hne _ (by decide) (by decide)), if_neg (hne _ (by decide) (by decide)),
    if_neg (hne _ (by decide) (by decide)), if_neg (hne _ (by decide) (by decide)),
    if_neg (hne _ (by decide) (by decide)), if_neg (hne _ (by decide) (by decide)), if_pos h]

/-- **The first byte tells the kind.** -/
theorem core_head (t : Text) : ∃ b y, core t = b :: y ∧ kindOf b = some t.kind := by
  cases t with
  | null => exact ⟨_, _, rfl, rfl⟩
  | bool l b r => cases b <;> exact ⟨_, _, rfl, rfl⟩
  | string l s r => exact ⟨_, _, rfl, rfl⟩
  | array l w ts r => exact ⟨_, _, by rw [core], rfl⟩
  | object l w ms r => exact ⟨_, _, by rw [core], rfl⟩
  | number l n r =>
      rw [core, Number.render]
      cases n.negative with
      | true => exact ⟨_, _, rfl, rfl⟩
      | false =>
          obtain ⟨b, y, hd, hb⟩ := n.int.exists_cons
          rw [hd]
          exact ⟨b, _, rfl, kindOf_digit (.inl hb)⟩

/-- A value is followed by the end, a comma or a closing bracket or brace. -/
def Ends (x : List UInt8) : Prop := ∀ b, x.head? = some b → b ∈ [0x2C, 0x5D, 0x7D]

theorem ends_nil : Ends [] := nofun

theorem ends_cons {b : UInt8} (h : b ∈ [0x2C, 0x5D, 0x7D]) (x : List UInt8) : Ends (b :: x) := by
  rintro b' hb
  cases hb
  exact h

theorem Ends.stops {x : List UInt8} (h : Ends x) {p : UInt8 → Bool}
    (hp : ([0x2C, 0x5D, 0x7D] : List UInt8).all (fun b => !p b) = true) : Stops p x := by
  intro b hb
  have hnot := List.all_eq_true.mp hp b (h b hb)
  rwa [Bool.not_eq_true'] at hnot

theorem Ends.stops_ws {x : List UInt8} (h : Ends x) : Stops isWs x := h.stops (by decide)

theorem core_stops_ws (t : Text) (x : List UInt8) : Stops isWs (core t ++ x) := by
  obtain ⟨b, y, hcore, hkind⟩ := core_head t
  rw [hcore]
  refine stops_cons ?_ _
  rw [Bool.eq_false_iff]
  intro hws
  simp only [isWs, List.mem_cons, List.not_mem_nil, or_false, decide_eq_true_eq] at hws
  rcases hws with rfl | rfl | rfl | rfl <;> exact absurd hkind nofun

/-- A value does not begin with a byte of no kind. -/
theorem core_ne {t : Text} {b : UInt8} (hb : kindOf b = none) {x y : List UInt8} :
    core t ++ x ≠ b :: y := by
  obtain ⟨c, z, hcore, hkind⟩ := core_head t
  rw [hcore]
  intro h
  rw [(List.cons.inj h).1, hb] at hkind
  cases hkind

/-- The text determines what it denotes, and where it ends. -/
def Determined (t : Text) : Prop := ∀ (t' : Text) (x x' : List UInt8), Ends x → Ends x' →
  t.render ++ x = t'.render ++ x' → t.denote = t'.denote ∧ x = x'

theorem render_append (t : Text) (x : List UInt8) :
    t.render ++ x = t.before.bytes ++ (core t ++ (t.after.bytes ++ x)) := by
  rw [render, List.append_assoc, List.append_assoc]

theorem ws_stops_number (w : Ws) {x : List UInt8} (h : Ends x) : Stops isNumberByte (w.bytes ++ x) := by
  have hws : ∀ b, isWs b = true → isNumberByte b = false := by
    intro b hb
    simp only [isWs, List.mem_cons, List.not_mem_nil, or_false, decide_eq_true_eq] at hb
    rcases hb with rfl | rfl | rfl | rfl <;> decide
  obtain ⟨bytes, hblank⟩ := w
  cases bytes with
  | nil => exact h.stops (by decide)
  | cons b bytes => exact stops_cons (hws b (hblank b List.mem_cons_self)) _

theorem moreElements_ends (ts : List Text) (y : List UInt8) :
    Ends (moreElements ts ++ 0x5D :: y) := by
  cases ts with
  | nil => exact ends_cons (by decide) _
  | cons t ts =>
      rw [moreElements, List.cons_append]
      exact ends_cons (by decide) _

theorem moreElements_inj : ∀ {ts ts' : List Text} {y y' : List UInt8}, (∀ t ∈ ts, Determined t) →
    moreElements ts ++ 0x5D :: y = moreElements ts' ++ 0x5D :: y' →
      denoteList ts = denoteList ts' ∧ y = y'
  | [], [], y, y', _, h => ⟨rfl, (List.cons.inj h).2⟩
  | [], t' :: ts', y, y', _, h => by
      rw [moreElements, moreElements] at h
      exact absurd (List.cons.inj h).1 (by decide)
  | t :: ts, [], y, y', _, h => by
      rw [moreElements, moreElements] at h
      exact absurd (List.cons.inj h).1 (by decide)
  | t :: ts, t' :: ts', y, y', hall, h => by
      obtain ⟨ht, hts⟩ := List.forall_mem_cons.mp hall
      rw [moreElements, moreElements, List.cons_append, List.cons_append, List.cons.injEq] at h
      obtain ⟨-, hrest⟩ := h
      simp only [List.append_assoc] at hrest
      rw [← render_append, ← render_append] at hrest
      obtain ⟨hdenote, hmore⟩ := ht _ _ _ (moreElements_ends ts y) (moreElements_ends ts' y') hrest
      obtain ⟨hlist, rfl⟩ := moreElements_inj hts hmore
      exact ⟨by rw [denoteList, denoteList, hdenote, hlist], rfl⟩

/-- **The elements of an array.** -/
theorem elementsText_inj {w w' : Ws} {ts ts' : List Text} {y y' : List UInt8}
    (hall : ∀ t ∈ ts, Determined t)
    (h : elementsText w ts ++ 0x5D :: y = elementsText w' ts' ++ 0x5D :: y') :
    denoteList ts = denoteList ts' ∧ y = y' := by
  have hclose : ∀ z, Stops isWs (0x5D :: z) := stops_cons (by decide)
  cases ts with
  | nil =>
      cases ts' with
      | nil =>
          rw [elementsText, elementsText] at h
          exact ⟨rfl, (List.cons.inj (Ws.inj (hclose y) (hclose y') h)).2⟩
      | cons t' ts' =>
          rw [elementsText, elementsText] at h
          simp only [List.append_assoc] at h
          exact absurd (Ws.inj (hclose y) (core_stops_ws t' _) h).symm (core_ne (by decide))
  | cons t ts =>
      cases ts' with
      | nil =>
          rw [elementsText, elementsText] at h
          simp only [List.append_assoc] at h
          exact absurd (Ws.inj (core_stops_ws t _) (hclose y') h) (core_ne (by decide))
      | cons t' ts' =>
          obtain ⟨ht, hts⟩ := List.forall_mem_cons.mp hall
          rw [elementsText, elementsText] at h
          simp only [List.append_assoc] at h
          rw [← render_append, ← render_append] at h
          obtain ⟨hdenote, hmore⟩ := ht _ _ _ (moreElements_ends ts y) (moreElements_ends ts' y') h
          obtain ⟨hlist, rfl⟩ := moreElements_inj hts hmore
          exact ⟨by rw [denoteList, denoteList, hdenote, hlist], rfl⟩

/-- **A key**, up to its colon. -/
theorem key_inj {k k' : Key} {x x' : List UInt8}
    (h : keyText k ++ 0x3A :: x = keyText k' ++ 0x3A :: x') :
    stringDenote k.literal = stringDenote k'.literal ∧ x = x' := by
  rw [keyText, keyText, List.append_assoc, List.append_assoc, List.append_assoc,
    List.append_assoc] at h
  have hstring := Ws.inj (stops_cons (by decide) _) (stops_cons (by decide) _) h
  obtain ⟨hlit, hafter⟩ := string_inj hstring
  have hcolon : ∀ z, Stops isWs (0x3A :: z) := stops_cons (by decide)
  exact ⟨congrArg stringDenote hlit, (List.cons.inj (Ws.inj (hcolon x) (hcolon x') hafter)).2⟩

theorem moreMembers_ends (ms : List (Key × Text)) (y : List UInt8) :
    Ends (moreMembers ms ++ 0x7D :: y) := by
  cases ms with
  | nil => exact ends_cons (by decide) _
  | cons m ms =>
      rw [moreMembers, List.cons_append]
      exact ends_cons (by decide) _

theorem moreMembers_inj : ∀ {ms ms' : List (Key × Text)} {y y' : List UInt8},
    (∀ m ∈ ms, Determined m.2) → moreMembers ms ++ 0x7D :: y = moreMembers ms' ++ 0x7D :: y' →
      denoteMembers ms = denoteMembers ms' ∧ y = y'
  | [], [], y, y', _, h => ⟨rfl, (List.cons.inj h).2⟩
  | [], m' :: ms', y, y', _, h => by
      rw [moreMembers, moreMembers] at h
      exact absurd (List.cons.inj h).1 (by decide)
  | m :: ms, [], y, y', _, h => by
      rw [moreMembers, moreMembers] at h
      exact absurd (List.cons.inj h).1 (by decide)
  | (k, t) :: ms, (k', t') :: ms', y, y', hall, h => by
      obtain ⟨ht, hms⟩ := List.forall_mem_cons.mp hall
      rw [moreMembers, moreMembers, List.cons_append, List.cons_append, List.cons.injEq] at h
      obtain ⟨-, hrest⟩ := h
      simp only [List.append_assoc, List.cons_append] at hrest
      obtain ⟨hkey, hvalue⟩ := key_inj hrest
      rw [← render_append, ← render_append] at hvalue
      obtain ⟨hdenote, hmore⟩ := ht _ _ _ (moreMembers_ends ms y) (moreMembers_ends ms' y') hvalue
      obtain ⟨hlist, rfl⟩ := moreMembers_inj hms hmore
      dsimp only at hdenote
      exact ⟨by rw [denoteMembers, denoteMembers, hkey, hdenote, hlist], rfl⟩

/-- **The members of an object.** -/
theorem membersText_inj {w w' : Ws} {ms ms' : List (Key × Text)} {y y' : List UInt8}
    (hall : ∀ m ∈ ms, Determined m.2)
    (h : membersText w ms ++ 0x7D :: y = membersText w' ms' ++ 0x7D :: y') :
    denoteMembers ms = denoteMembers ms' ∧ y = y' := by
  have hclose : ∀ z, Stops isWs (0x7D :: z) := stops_cons (by decide)
  -- a key begins with white space and a quotation mark
  have hkey : ∀ (k : Key) (x : List UInt8), ∃ z, keyText k ++ x = k.before.bytes ++ 0x22 :: z := by
    intro k x
    refine ⟨bodyText k.literal ++ [0x22] ++ k.after.bytes ++ x, ?_⟩
    simp only [keyText, stringText, List.append_assoc, List.cons_append]
  cases ms with
  | nil =>
      cases ms' with
      | nil =>
          rw [membersText, membersText] at h
          exact ⟨rfl, (List.cons.inj (Ws.inj (hclose y) (hclose y') h)).2⟩
      | cons m' ms' =>
          obtain ⟨k', t'⟩ := m'
          rw [membersText, membersText, List.append_assoc] at h
          obtain ⟨z, hz⟩ := hkey k' _
          rw [hz] at h
          exact absurd (List.cons.inj (Ws.inj (hclose y) (stops_cons (by decide) z) h)).1 (by decide)
  | cons m ms =>
      obtain ⟨k, t⟩ := m
      cases ms' with
      | nil =>
          rw [membersText, membersText, List.append_assoc] at h
          obtain ⟨z, hz⟩ := hkey k _
          rw [hz] at h
          exact absurd (List.cons.inj (Ws.inj (stops_cons (by decide) z) (hclose y') h)).1 (by decide)
      | cons m' ms' =>
          obtain ⟨k', t'⟩ := m'
          obtain ⟨ht, hms⟩ := List.forall_mem_cons.mp hall
          rw [membersText, membersText] at h
          simp only [List.append_assoc, List.cons_append] at h
          obtain ⟨hname, hvalue⟩ := key_inj h
          rw [← render_append, ← render_append] at hvalue
          obtain ⟨hdenote, hmore⟩ := ht _ _ _ (moreMembers_ends ms y) (moreMembers_ends ms' y') hvalue
          obtain ⟨hlist, rfl⟩ := moreMembers_inj hms hmore
          dsimp only at hdenote
          exact ⟨by rw [denoteMembers, denoteMembers, hname, hdenote, hlist], rfl⟩

theorem kind_eq {t t' : Text} {x x' : List UInt8} (h : core t ++ x = core t' ++ x') :
    t.kind = t'.kind := by
  obtain ⟨b, y, hcore, hkind⟩ := core_head t
  obtain ⟨b', y', hcore', hkind'⟩ := core_head t'
  rw [hcore, hcore'] at h
  rw [(List.cons.inj h).1] at hkind
  exact Option.some.inj (hkind.symm.trans hkind')

/-- The white space around a value: what is left is two values of one kind. -/
theorem determined_of_core {t : Text} (h : ∀ (t' : Text) (x x' : List UInt8), Ends x → Ends x' →
    t.kind = t'.kind → core t ++ (t.after.bytes ++ x) = core t' ++ (t'.after.bytes ++ x') →
      t.denote = t'.denote ∧ t.after.bytes ++ x = t'.after.bytes ++ x') : Determined t := by
  intro t' x x' hx hx' heq
  rw [render_append, render_append] at heq
  have hvalue := Ws.inj (core_stops_ws _ _) (core_stops_ws _ _) heq
  obtain ⟨hdenote, hafter⟩ := h t' x x' hx hx' (kind_eq hvalue) hvalue
  exact ⟨hdenote, Ws.inj hx.stops_ws hx'.stops_ws hafter⟩

/-- **Every text is determined.** -/
theorem determined (t : Text) : Determined t := by
  induction t using Text.induct with
  | null l r =>
      refine determined_of_core fun t' x x' _ _ hkind hvalue => ?_
      cases t' with
      | null l' r' =>
          rw [core, core] at hvalue
          exact ⟨rfl, List.append_cancel_left hvalue⟩
      | bool l' b' r' => cases b' <;> exact absurd hkind (by simp [kind])
      | _ => exact absurd hkind (by simp [kind])
  | bool l b r =>
      refine determined_of_core fun t' x x' _ _ hkind hvalue => ?_
      cases t' with
      | bool l' b' r' =>
          cases b <;> cases b' <;> rw [core, core] at hvalue
          · exact ⟨rfl, List.append_cancel_left hvalue⟩
          · exact absurd hkind (by simp [kind])
          · exact absurd hkind (by simp [kind])
          · exact ⟨rfl, List.append_cancel_left hvalue⟩
      | _ => cases b <;> exact absurd hkind (by simp [kind])
  | number l n r =>
      refine determined_of_core fun t' x x' hx hx' hkind hvalue => ?_
      cases t' with
      | number l' n' r' =>
          rw [core, core] at hvalue
          obtain ⟨hnumber, hrest⟩ := Number.append_inj (ws_stops_number r hx) (ws_stops_number r' hx')
            hvalue
          exact ⟨by rw [denote, denote, hnumber], hrest⟩
      | bool l' b' r' => cases b' <;> exact absurd hkind (by simp [kind])
      | _ => exact absurd hkind (by simp [kind])
  | string l s r =>
      refine determined_of_core fun t' x x' _ _ hkind hvalue => ?_
      cases t' with
      | string l' s' r' =>
          rw [core, core] at hvalue
          obtain ⟨rfl, hrest⟩ := string_inj hvalue
          exact ⟨rfl, hrest⟩
      | bool l' b' r' => cases b' <;> exact absurd hkind (by simp [kind])
      | _ => exact absurd hkind (by simp [kind])
  | array l w ts r ih =>
      refine determined_of_core fun t' x x' _ _ hkind hvalue => ?_
      cases t' with
      | array l' w' ts' r' =>
          rw [core, core, List.cons_append, List.cons_append, List.cons.injEq, List.append_assoc,
            List.append_assoc] at hvalue
          obtain ⟨hlist, hrest⟩ := elementsText_inj ih hvalue.2
          exact ⟨by rw [denote, denote, hlist], hrest⟩
      | bool l' b' r' => cases b' <;> exact absurd hkind (by simp [kind])
      | _ => exact absurd hkind (by simp [kind])
  | object l w ms r ih =>
      refine determined_of_core fun t' x x' _ _ hkind hvalue => ?_
      cases t' with
      | object l' w' ms' r' =>
          rw [core, core, List.cons_append, List.cons_append, List.cons.injEq, List.append_assoc,
            List.append_assoc] at hvalue
          obtain ⟨hlist, hrest⟩ := membersText_inj ih hvalue.2
          exact ⟨by rw [denote, denote, hlist], hrest⟩
      | bool l' b' r' => cases b' <;> exact absurd hkind (by simp [kind])
      | _ => exact absurd hkind (by simp [kind])

/-- A text stands for one value. -/
theorem denote_eq {t t' : Text} (h : t.render = t'.render) : t.denote = t'.denote :=
  (determined t t' [] [] ends_nil ends_nil (by rw [List.append_nil, List.append_nil, h])).1

end Text

theorem Parses.unique {bytes : List UInt8} {v v' : Json} (h : Parses bytes v) (h' : Parses bytes v') :
    v = v' := by
  obtain ⟨-, t, ht, rfl⟩ := h
  obtain ⟨-, t', ht', rfl⟩ := h'
  exact Text.denote_eq (ht.trans ht'.symm)

end Lib.Rfc8259
