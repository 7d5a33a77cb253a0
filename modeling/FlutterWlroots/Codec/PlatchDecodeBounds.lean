/-
  FlutterWlroots.Codec.PlatchDecodeBounds — the standard decoder stays inside the message.

  The count of the bytes that are left goes down with the pointer, and every read asks it first; so
  a message that ends too early, or is no message at all, is an `errno` and never a read behind its
  end.
  A value nests no deeper than it has bytes, and the fuel is enough.

    • `staysInside_value` — values,
    • `runDecode_ends`    — method calls.
-/
import FlutterWlroots.Lib.StateRun
import FlutterWlroots.Codec.DecodedArrays

namespace FlutterWlroots.PlatformChannel

open Lib.LittleEndian Lib.CInt Lib.StateRun
open FlutterWlroots.Codec

/-! ## §1. Steps. -/

/-- The cursor is in the message, with less than `budget` bytes left. -/
def Within (buffer : List UInt8) (budget : Nat) (c : Cursor) : Prop :=
  InStep buffer c ∧ c.remaining < budget

/-- `EBADMSG` and its like. -/
def IsErrno (stop : DecodeStop) : Prop := ∃ e, stop = .errno e

/-- Every run from a cursor in the message ends in the message, or with an `errno`. -/
abbrev StaysInside {α : Type} (buffer : List UInt8) (budget : Nat) (m : DecodeM α) : Prop :=
  Stays (Within buffer budget) (fun stop _ => IsErrno stop) m

section Steps

variable {buffer : List UInt8} {budget : Nat} {α β : Type} {m : DecodeM α}

theorem staysInside_errno (e : Errno) : StaysInside buffer budget (throw (.errno e) : DecodeM α) :=
  stays_throw fun _ _ => ⟨e, rfl⟩

/-- A step that moves on by `n` bytes if they are left. -/
theorem staysInside_skip (n : Nat) (run : Cursor → α)
    (hfits : ∀ c, InStep buffer c → n ≤ c.remaining → m.run c = .ok (run c) (c.skip n))
    (hends : ∀ c, c.remaining < n → ∃ e, m.run c = .error (.errno e) c) :
    StaysInside buffer budget m := by
  rintro c ⟨hin, hbudget⟩
  rcases Nat.lt_or_ge c.remaining n with hlt | hle
  · obtain ⟨e, hrun⟩ := hends c hlt
    rw [hrun]
    exact .error ⟨e, rfl⟩
  · rw [hfits c hin hle]
    exact .ok ⟨hin.skip hle, Nat.lt_of_le_of_lt (Nat.sub_le _ _) hbudget⟩

theorem run_checkRemaining_error {n : Int} {c : Cursor} (h : c.remaining < toSizeT n) :
    (checkRemaining n).run c = .error (.errno .EBADMSG) c := by
  rw [checkRemaining, run_get_bind, if_pos h]
  rfl

theorem run_checkRemaining_ok {n : Int} {c : Cursor} (h : toSizeT n ≤ c.remaining) :
    (checkRemaining n).run c = .ok () c := by
  rw [checkRemaining, run_get_bind, if_neg (Nat.not_lt.mpr h)]
  rfl

theorem run_read_ok {n : Int} {c : Cursor} (hin : InStep buffer c) (h : toSizeT n ≤ c.remaining) :
    (read buffer n).run c = .ok ((buffer.drop c.pos).take (toSizeT n)) (c.skip (toSizeT n)) := by
  have hfits : c.pos + toSizeT n ≤ buffer.length := by
    unfold InStep at hin
    omega
  unfold read
  rw [run_bind_ok (run_checkRemaining_ok h), run_get_bind]
  dsimp only
  rw [if_pos hfits, run_set_bind]
  rfl

theorem staysInside_read (n : Int) : StaysInside buffer budget (read buffer n) := by
  apply staysInside_skip (toSizeT n) fun c => (buffer.drop c.pos).take (toSizeT n)
  · intro c hin hle
    exact run_read_ok hin hle
  · intro c hlt
    exact ⟨.EBADMSG, run_bind_error (run_checkRemaining_error hlt)⟩

theorem staysInside_advance (n : Int) : StaysInside buffer budget (advance n) := by
  unfold advance
  apply staysInside_skip (toSizeT n) fun _ => ()
  · intro c _ hle
    rw [run_bind_ok (run_checkRemaining_ok hle), EStateM.run_modify]
    rfl
  · intro c hlt
    exact ⟨.EBADMSG, run_bind_error (run_checkRemaining_error hlt)⟩

theorem staysInside_readUInt (n : Nat) : StaysInside buffer budget (readUInt buffer n) := by
  unfold readUInt
  exact (staysInside_read n).bind fun bs => stays_pure (leNat bs)

theorem staysInside_align (base n : Nat) : StaysInside buffer budget (align base n) := by
  unfold align
  exact stays_get fun _ => staysInside_advance _

theorem staysInside_readSize : StaysInside buffer budget (readSize buffer) := by
  unfold readSize
  refine (staysInside_readUInt 1).bind fun size8 => ?_
  split
  · exact stays_pure _
  · split
    · exact staysInside_readUInt 2
    · exact staysInside_readUInt 4

/-- The type byte pays for the value. -/
theorem staysInside_typeByte {f : Nat → DecodeM β} (hf : ∀ n, StaysInside buffer budget (f n)) :
    StaysInside buffer (budget + 1) (readUInt buffer 1 >>= f) := by
  rintro c ⟨hin, hbudget⟩
  rcases (staysInside_readUInt 1 c ⟨hin, hbudget⟩).cases with ⟨n, c', hrun, -⟩ | ⟨e, c', hrun, he⟩
  · obtain ⟨hle, rfl, -⟩ := readUInt_eq_ok (by decide) hrun
    have hless : (c.skip 1).remaining < budget := by
      show c.remaining - 1 < budget
      omega
    rw [run_bind_ok hrun]
    exact (hf n (c.skip 1) ⟨hin.skip hle, hless⟩).mono fun _ h => ⟨h.1, Nat.lt_succ_of_lt h.2⟩
  · rw [run_bind_error hrun]
    exact .error he

end Steps

/-! ## §2. Values. -/

section Values

variable {buffer : List UInt8} {budget : Nat} {α : Type} {decode : DecodeM α}

/-- The end of the array cases: an array that is not there, or one that is skipped. -/
theorem staysInside_array {p : Prop} [Decidable p] (n : Int) (a : α) :
    StaysInside buffer budget (do
      if p then throw (.errno .EBADMSG)
      advance n
      return a) := by
  split
  · exact (staysInside_errno .EBADMSG).bind fun _ =>
      (staysInside_advance n).bind fun _ => stays_pure a
  · exact (staysInside_advance n).bind fun _ => stays_pure a

theorem staysInside_decodeArray (base w : Nat) :
    StaysInside buffer budget (decodeArray base buffer w) := by
  unfold decodeArray
  refine staysInside_readSize.bind fun size => ?_
  refine (staysInside_align base w).bind fun _ => ?_
  exact stays_get fun c => staysInside_array _ _

theorem staysInside_decodeUInt8Array : StaysInside buffer budget (decodeUInt8Array buffer) := by
  unfold decodeUInt8Array
  refine staysInside_readSize.bind fun size => ?_
  exact stays_get fun c => staysInside_array _ _

theorem staysInside_decodeString : StaysInside buffer budget (decodeString buffer) := by
  unfold decodeString
  refine staysInside_readSize.bind fun size => ?_
  exact (staysInside_read _).bind fun bytes => stays_pure _

theorem staysInside_decodeTimes (h : StaysInside buffer budget decode) (n : Nat) :
    StaysInside buffer budget (decodeTimes decode n) := by
  induction n with
  | zero => exact stays_pure []
  | succ n ih =>
      unfold decodeTimes
      exact h.bind fun x => ih.bind fun xs => stays_pure _

theorem staysInside_decodePairs (h : StaysInside buffer budget decode) (n : Nat) :
    StaysInside buffer budget (decodePairs decode n) := by
  induction n with
  | zero => exact stays_pure []
  | succ n ih =>
      unfold decodePairs
      exact h.bind fun k => h.bind fun v => ih.bind fun es => stays_pure _

/-- **A value**, with fuel for every byte that is left. -/
theorem staysInside_value (base : Nat) (buffer : List UInt8) (fuel : Nat) :
    StaysInside buffer fuel (platchDecodeValueStd base buffer fuel) := by
  induction fuel with
  | zero =>
      intro c h
      exact absurd h.2 (Nat.not_lt_zero _)
  | succ fuel ih =>
      unfold platchDecodeValueStd
      refine staysInside_typeByte fun type_byte => ?_
      split
      -- `kStdNull`, `kStdTrue` and `kStdFalse`
      case h_1 | h_2 | h_3 => exact stays_pure _
      -- `kStdInt32` and `kStdInt64`
      case h_4 => exact (staysInside_readUInt 4).bind fun _ => stays_pure _
      case h_5 => exact (staysInside_readUInt 8).bind fun _ => stays_pure _
      -- `kStdLargeInt` and `kStdString`
      case h_6 | h_8 => exact staysInside_decodeString.bind fun _ => stays_pure _
      case h_7 =>
        refine (staysInside_align base 8).bind fun _ => ?_
        exact (staysInside_readUInt 8).bind fun _ => stays_pure _
      -- the arrays of numbers
      case h_9 => exact staysInside_decodeUInt8Array.bind fun _ => stays_pure _
      case h_10 => exact (staysInside_decodeArray base 4).bind fun _ => stays_pure _
      case h_11 | h_12 => exact (staysInside_decodeArray base 8).bind fun _ => stays_pure _
      -- `kStdList` and `kStdMap`
      case h_13 =>
        refine staysInside_readSize.bind fun size => ?_
        exact (staysInside_decodeTimes ih size).bind fun _ => stays_pure _
      case h_14 =>
        refine staysInside_readSize.bind fun size => ?_
        exact (staysInside_decodePairs ih size).bind fun _ => stays_pure _
      case h_15 => exact staysInside_errno .EBADMSG

end Values

/-- **A method call is decoded, or refused with an `errno`.** -/
theorem runDecode_ends (base : Nat) (message : List UInt8) :
    (∃ method std_arg c, runDecode base message .kStandardMethodCall
        = .ok (.kStandardMethodCall method std_arg) c)
      ∨ ∃ e c, runDecode base message .kStandardMethodCall = .error (.errno e) c := by
  have hvalue := staysInside_value base message (message.length + 1)
  unfold runDecode platchDecode
  rcases (hvalue ⟨0, message.length⟩ ⟨Nat.zero_add _, Nat.lt_succ_self _⟩).cases with
    ⟨methodname, c, hname, hc⟩ | ⟨stop, c, hname, e, rfl⟩
  · dsimp only
    rw [run_bind_ok hname]
    cases methodname with
    | kStdString method =>
        rcases (hvalue c hc).cases with ⟨std_arg, c', harg, -⟩ | ⟨stop, c', harg, e, rfl⟩
        · exact .inl ⟨method, std_arg, c', run_bind_ok harg⟩
        · exact .inr ⟨e, c', run_bind_error harg⟩
    | _ => exact .inr ⟨.EBADMSG, c, rfl⟩
  · exact .inr ⟨e, c, run_bind_error hname⟩

end FlutterWlroots.PlatformChannel
