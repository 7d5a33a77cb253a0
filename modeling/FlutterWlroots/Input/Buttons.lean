/-
  FlutterWlroots.Input.Buttons — button masks bit by bit.

  Flutter knows five buttons; its masks have one bit for each.  `changedButtons_eq` reads the loop of
  the pointer messages by bits: a button is told of if its bit differs, as pressed if the new bit is
  set.  Replaying what was told from the old mask on gives the new one (`replayFrom_changedButtons`).
-/
import FlutterWlroots.Input.Pointer

namespace FlutterWlroots.Input

/-! ## §1. Bits. -/

/-- The bits of Flutter's buttons. -/
def knownBits : List Nat := [0, 1, 2, 3, 4]

/-- The Linux button of a bit. -/
def linuxButton (bit : Nat) : UInt32 :=
  (flutterMouseButtonToLinux (BitVec.twoPow 64 bit)).getD 0

theorem flutterButtons_eq : flutterButtons = knownBits.map (BitVec.twoPow 64) := by decide

theorem flutterMouseButtonToLinux_twoPow : ∀ bit ∈ knownBits,
    flutterMouseButtonToLinux (BitVec.twoPow 64 bit) = some (linuxButton bit) := by decide

theorem flutterButtonMaskFromLinux_linuxButton : ∀ bit ∈ knownBits,
    flutterButtonMaskFromLinux (linuxButton bit) = BitVec.twoPow 64 bit := by decide

theorem linuxButton_injective : ∀ bit ∈ knownBits, ∀ bit' ∈ knownBits,
    linuxButton bit = linuxButton bit' → bit = bit' := by decide

/-- A button that has no bit has no mask. -/
theorem flutterButtonMaskFromLinux_unknown {button : UInt32}
    (h : ∀ bit ∈ knownBits, linuxButton bit ≠ button) : flutterButtonMaskFromLinux button = 0 := by
  have hleft : button ≠ btnLeft := (h 0 (by decide)).symm
  have hright : button ≠ 0x111 := (h 1 (by decide)).symm
  have hmiddle : button ≠ 0x112 := (h 2 (by decide)).symm
  have hback : button ≠ 0x116 := (h 3 (by decide)).symm
  have hforward : button ≠ 0x115 := (h 4 (by decide)).symm
  unfold flutterButtonMaskFromLinux
  rw [if_neg hleft, if_neg hright, if_neg hmiddle, if_neg hback, if_neg hforward]

/-- A button has its own bit only. -/
theorem getLsbD_flutterButtonMaskFromLinux (button : UInt32) {bit : Nat} (hbit : bit ∈ knownBits) :
    (flutterButtonMaskFromLinux button).getLsbD bit = decide (linuxButton bit = button) := by
  by_cases hknown : ∃ bit' ∈ knownBits, linuxButton bit' = button
  · obtain ⟨bit', hbit', rfl⟩ := hknown
    rw [flutterButtonMaskFromLinux_linuxButton bit' hbit']
    revert bit
    revert bit'
    decide
  · have hunknown : ∀ bit' ∈ knownBits, linuxButton bit' ≠ button :=
      fun bit' hbit' heq => hknown ⟨bit', hbit', heq⟩
    rw [flutterButtonMaskFromLinux_unknown hunknown, decide_eq_false (hunknown bit hbit)]
    exact BitVec.getLsbD_zero

theorem and_twoPow_eq_zero {x : BitVec 64} {bit : Nat} (hbit : bit < 64) :
    x &&& BitVec.twoPow 64 bit = 0 ↔ x.getLsbD bit = false := by
  rw [BitVec.and_twoPow]
  cases x.getLsbD bit with
  | false => simp
  | true =>
      have hne : BitVec.twoPow 64 bit ≠ 0 := by
        intro heq
        have hset := congrArg (BitVec.getLsbD · bit) heq
        simp [hbit] at hset
      simp only [if_true, reduceCtorEq, iff_false]
      exact hne

/-- What is told of one bit. -/
def changedBit (prevButtons nextButtons : BitVec 64) (bit : Nat) : Option (UInt32 × Bool) :=
  if prevButtons.getLsbD bit = nextButtons.getLsbD bit then none
  else some (linuxButton bit, nextButtons.getLsbD bit)

/-- **The loop by bits.** -/
theorem changedButtons_eq (prevButtons nextButtons : BitVec 64) :
    changedButtons prevButtons nextButtons
      = knownBits.filterMap (changedBit prevButtons nextButtons) := by
  unfold changedButtons
  rw [flutterButtons_eq, List.filterMap_map]
  refine List.filterMap_congr fun bit hbit => ?_
  have hlt : bit < 64 := by
    revert hbit
    revert bit
    decide
  show (if (prevButtons ^^^ nextButtons) &&& BitVec.twoPow 64 bit = 0 then none else _) = _
  unfold changedBit
  rw [flutterMouseButtonToLinux_twoPow bit hbit, Option.map_some]
  simp only [and_twoPow_eq_zero hlt, BitVec.getLsbD_xor, bne_eq_false_iff_eq, ne_eq,
    Bool.not_eq_false, Bool.decide_eq_true]

/-! ## §2. Replay. -/

/-- A mask after the notification of one button. -/
def notified (held : BitVec 64) (told : UInt32 × Bool) : BitVec 64 :=
  if told.2 then held ||| flutterButtonMaskFromLinux told.1
  else held &&& ~~~flutterButtonMaskFromLinux told.1

/-- A mask after the notifications of a list. -/
def replayFrom (held : BitVec 64) (told : List (UInt32 × Bool)) : BitVec 64 :=
  told.foldl notified held

/-- The buttons that are held after the notifications of a list. -/
def replay (told : List (UInt32 × Bool)) : BitVec 64 := replayFrom 0 told

/-- The five known bits. -/
def knownMask : BitVec 64 := 31

theorem replay_append (told told' : List (UInt32 × Bool)) :
    replay (told ++ told') = replayFrom (replay told) told' := List.foldl_append

theorem getLsbD_notified {bit : Nat} (hbit : bit ∈ knownBits) (held : BitVec 64) (pressed : Bool)
    (i : Nat) (hi : i < 64) :
    (notified held (linuxButton bit, pressed)).getLsbD i
      = if i = bit then pressed else held.getLsbD i := by
  unfold notified
  rw [flutterButtonMaskFromLinux_linuxButton bit hbit]
  by_cases heq : i = bit
  · subst heq
    cases pressed <;> simp [hi]
  · have hclear : (BitVec.twoPow 64 bit).getLsbD i = false := by
      simp [BitVec.getLsbD_twoPow, Ne.symm heq]
    cases pressed with
    | false => simp [hi, heq]
    | true => simp [heq, hclear]

/-- Replaying the changes of some bits moves exactly these to the new mask. -/
theorem getLsbD_replayFrom {prevButtons nextButtons : BitVec 64} {i : Nat} (hi : i < 64)
    {bits : List Nat} (hbits : ∀ bit ∈ bits, bit ∈ knownBits) (hnodup : bits.Nodup) :
    ∀ held : BitVec 64, (i ∈ bits → held.getLsbD i = prevButtons.getLsbD i) →
      (replayFrom held (bits.filterMap (changedBit prevButtons nextButtons))).getLsbD i
        = if i ∈ bits then nextButtons.getLsbD i else held.getLsbD i := by
  induction bits with
  | nil => exact fun held _ => rfl
  | cons bit bits ih =>
      intro held hheld
      obtain ⟨hnotMem, hnodup⟩ := List.nodup_cons.mp hnodup
      have ih := ih (fun b hb => hbits b (List.mem_cons_of_mem _ hb)) hnodup
      by_cases hsame : prevButtons.getLsbD bit = nextButtons.getLsbD bit
      · rw [List.filterMap_cons_none (by unfold changedBit; rw [if_pos hsame]),
          ih held fun hmem => hheld (List.mem_cons_of_mem _ hmem)]
        by_cases heq : i = bit
        · subst heq
          rw [if_neg hnotMem, if_pos List.mem_cons_self, hheld List.mem_cons_self, hsame]
        · simp [heq]
      · have hset := getLsbD_notified (hbits bit List.mem_cons_self) held
          (nextButtons.getLsbD bit) i hi
        rw [List.filterMap_cons_some (by unfold changedBit; rw [if_neg hsame])]
        show (replayFrom (notified held _) _).getLsbD i = _
        by_cases heq : i = bit
        · subst heq
          rw [if_pos rfl] at hset
          rw [ih _ fun hmem => absurd hmem hnotMem, if_neg hnotMem, if_pos List.mem_cons_self, hset]
        · rw [if_neg heq] at hset
          rw [ih _ fun hmem => hset.trans (hheld (List.mem_cons_of_mem _ hmem)), hset]
          simp [heq]

theorem mem_knownBits {i : Nat} : i ∈ knownBits ↔ i < 5 := by
  unfold knownBits
  simp only [List.mem_cons, List.not_mem_nil, or_false]
  omega

theorem getLsbD_knownMask (x : BitVec 64) (i : Nat) :
    (x &&& knownMask).getLsbD i = (x.getLsbD i && decide (i ∈ knownBits)) := by
  have hmask : knownMask.getLsbD i = decide (i ∈ knownBits) := by
    show (31#64).getLsbD i = _
    rw [BitVec.getLsbD_ofNat, show 31 = 2 ^ 5 - 1 from rfl, Nat.testBit_two_pow_sub_one]
    simp only [mem_knownBits]
    by_cases hi : i < 5
    · simp [hi, Nat.lt_trans hi (show 5 < 64 by decide)]
    · simp [hi]
  rw [BitVec.getLsbD_and, hmask]

/-- Masks with the same known bits: there is nothing to tell. -/
theorem changedButtons_eq_nil {prevButtons nextButtons : BitVec 64}
    (h : prevButtons &&& knownMask = nextButtons &&& knownMask) :
    changedButtons prevButtons nextButtons = [] := by
  rw [changedButtons_eq]
  apply List.filterMap_eq_nil_iff.mpr
  intro bit hbit
  have hsame := congrArg (BitVec.getLsbD · bit) h
  simp only [getLsbD_knownMask, hbit, decide_true, Bool.and_true] at hsame
  unfold changedBit
  rw [if_pos hsame]

/-- **What is told leads from the known bits of the old mask to those of the new one.** -/
theorem replayFrom_changedButtons (prevButtons nextButtons : BitVec 64) :
    replayFrom (prevButtons &&& knownMask) (changedButtons prevButtons nextButtons)
      = nextButtons &&& knownMask := by
  refine BitVec.eq_of_getLsbD_eq fun i hi => ?_
  rw [changedButtons_eq, getLsbD_replayFrom hi (fun _ h => h) (by decide), getLsbD_knownMask,
    getLsbD_knownMask]
  · by_cases hmem : i ∈ knownBits
    · simp [hmem]
    · simp [hmem]
  · intro hmem
    rw [getLsbD_knownMask]
    simp [hmem]

end FlutterWlroots.Input
