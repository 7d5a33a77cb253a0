/-
  FlutterWlroots.Codec.PlatchRoundTrip — what `platch_encode` sends, `platch_decode` receives.

  `platchDecode_platchEncode` is the round trip of the message and method call codecs: whatever the
  padding bytes of the block hold, the decoded object loads as the encoded one and the whole block
  is consumed.

  The method call response codec does not round trip at all.  `platch_encode` writes 0x00 in front
  of a result and 0x01 in front of an error, `platch_decode` takes a nonzero byte for success
  (`decodeResponse_isSuccess`), so every response that can be encoded comes back as the other kind.
-/
import FlutterWlroots.Codec.PlatchDecodeWire
import FlutterWlroots.Codec.PlatchEncodeWire

namespace FlutterWlroots.PlatformChannel

open Lib.LittleEndian Lib.Mem Lib.StateRun
open FlutterWlroots.Codec

/-! ## §1. Decoded objects. -/

namespace MethodCallResponse

/-- `success`. -/
def isSuccess {A : Type → Type} : MethodCallResponse A → Bool
  | success _ => true
  | failure _ _ _ => false

/-- The response that a decoded one shows while the message is alive. -/
def load (buffer : List UInt8) : MethodCallResponse Borrowed → Option (MethodCallResponse List)
  | success v => (v.load buffer).map success
  | failure code msg v => (v.load buffer).map (failure code msg)

end MethodCallResponse

namespace PlatchObj

/-- `object->codec`. -/
def codec {A : Type → Type} : PlatchObj A → PlatchCodec
  | kNotImplemented => .kNotImplemented
  | kStringCodec _ => .kStringCodec
  | kBinaryCodec _ => .kBinaryCodec
  | kStandardMessageCodec _ => .kStandardMessageCodec
  | kStandardMethodCall _ _ => .kStandardMethodCall
  | kStandardMethodCallResponse _ => .kStandardMethodCallResponse

/-- The object that a decoded one shows while the message is alive. -/
def load (buffer : List UInt8) : PlatchObj Borrowed → Option (PlatchObj List)
  | kNotImplemented => some kNotImplemented
  | kStringCodec s => some (kStringCodec s)
  | kBinaryCodec bytes => some (kBinaryCodec bytes)
  | kStandardMessageCodec v => (v.load buffer).map kStandardMessageCodec
  | kStandardMethodCall method arg => (arg.load buffer).map (kStandardMethodCall method)
  | kStandardMethodCallResponse response =>
      (response.load buffer).map kStandardMethodCallResponse

/-- The values that make up the message of an object without an envelope byte. -/
def values : PlatchObj List → Option (List StdValue)
  | kStandardMessageCodec v => some [v]
  | kStandardMethodCall method arg => some [.kStdString method, arg]
  | _ => none

end PlatchObj

/-! ## §2. Messages and method calls. -/

/-- The block of an encoded message or method call is the format of its values. -/
theorem platchEncode_values {base : Nat} (hb : base % 8 = 0) {object : PlatchObj List}
    {vs : List StdValue} (hvs : object.values = some vs) (hknown : ∀ v ∈ vs, v.Known)
    (hsize : (wireList 0 vs).length < 2 ^ 31) :
    platchEncode base object = .ok (some ⟨wireList 0 vs⟩) := by
  cases object with
  | kStandardMessageCodec v =>
      cases hvs
      have hv := hknown v List.mem_cons_self
      simp only [wireList, List.append_nil] at hsize ⊢
      have hfits := fits_of_length_wire v hv 0 hsize
      refine allocAndWrite_emits ?_ (platchWriteValueToBufferStd_emits hb v hfits 0)
      rw [platchCalcValueSizeStd_wire v hv 0 (by rwa [Nat.zero_add]), Nat.zero_add]
  | kStandardMethodCall method arg =>
      cases hvs
      have harg := hknown arg (List.mem_cons_of_mem _ List.mem_cons_self)
      simp only [wireList, List.append_nil, Nat.zero_add, List.length_append] at hsize ⊢
      have hfitsName := fits_of_length_wire (.kStdString method) rfl 0 (by omega)
      have hfitsArg := fits_of_length_wire arg harg _ (Nat.lt_of_add_left_lt hsize)
      refine allocAndWrite_emits ?_
        ((platchWriteValueToBufferStd_emits hb (.kStdString method) hfitsName 0).bind
          (by
            rw [Nat.zero_add]
            exact platchWriteValueToBufferStd_emits hb arg hfitsArg _))
      have hname : platchCalcValueSizeStd 0 (.kStdString method)
          = .ok (wire 0 (.kStdString method)).length := by
        rw [platchCalcValueSizeStd_wire (.kStdString method) rfl 0 (by omega), Nat.zero_add]
      rw [hname]
      show platchCalcValueSizeStd _ arg = _
      rw [platchCalcValueSizeStd_wire arg harg _ hsize, List.length_append]
  | _ => cases hvs

/-- **Standard codec round trip.**  An object whose values are known and whose format is shorter
than `2^31` bytes is encoded, and decoding any content of the block returns it, nothing left. -/
theorem platchDecode_platchEncode (base : Nat) (hb : base % 8 = 0) (object : PlatchObj List)
    (vs : List StdValue) (hvs : object.values = some vs) (hknown : ∀ v ∈ vs, v.Known)
    (hsize : (wireList 0 vs).length < 2 ^ 31) :
    ∃ block, platchEncode base object = .ok (some block) ∧
      ∀ (base' : Nat) (bytes : List UInt8), base' % 8 = 0 → Agrees block.cells bytes →
        ∃ d, runDecode base' bytes object.codec = .ok d ⟨block.size, 0⟩
          ∧ d.load bytes = some object := by
  refine ⟨⟨wireList 0 vs⟩, platchEncode_values hb hvs hknown hsize, ?_⟩
  intro base' bytes hb' hbytes
  rw [Block.size, hbytes.length]
  cases object with
  | kStandardMessageCodec v =>
      cases hvs
      simp only [wireList, List.append_nil] at hbytes hsize
      obtain ⟨d, hrun, hload⟩ := runDecode_message hb'
        (fits_of_length_wire v (hknown v List.mem_cons_self) 0 hsize) hbytes
      exact ⟨_, hrun, by rw [PlatchObj.load, hload, Option.map_some]⟩
  | kStandardMethodCall method arg =>
      cases hvs
      have harg := hknown arg (List.mem_cons_of_mem _ List.mem_cons_self)
      simp only [wireList, List.append_nil, List.length_append] at hsize
      have hfitsName := fits_of_length_wire (.kStdString method) rfl 0 (by omega)
      obtain ⟨d, hrun, hload⟩ := runDecode_methodCall hb' (of_decide_eq_true hfitsName)
        (fits_of_length_wire arg harg _ (Nat.lt_of_add_left_lt hsize)) hbytes
      exact ⟨_, hrun, by rw [PlatchObj.load, hload, Option.map_some]⟩
  | _ => cases hvs

/-- A call with padding, a typed array and nested containers. -/
theorem platchDecode_platchEncode_moveTo :
    ∃ block, platchEncode 16 (.kStandardMethodCall ⟨[109, 111, 118, 101], by decide⟩
        (.kStdList [.kStdFloat64 7, .kStdMap [(.kStdNull, .kStdInt32Array [1, 2])]]))
        = .ok (some block) ∧
      ∀ (base' : Nat) (bytes : List UInt8), base' % 8 = 0 → Agrees block.cells bytes →
        ∃ d, runDecode base' bytes .kStandardMethodCall = .ok d ⟨block.size, 0⟩
          ∧ d.load bytes = some (.kStandardMethodCall ⟨[109, 111, 118, 101], by decide⟩
              (.kStdList [.kStdFloat64 7, .kStdMap [(.kStdNull, .kStdInt32Array [1, 2])]])) :=
  platchDecode_platchEncode 16 (by decide) _ _ rfl (by decide) (by decide)

/-! ## §3. Method call responses. -/

/-- Encoded and decoded again, the response is the same. -/
def SurvivesWire (base : Nat) (response : MethodCallResponse List) : Prop :=
  ∃ block, platchEncode base (.kStandardMethodCallResponse response) = .ok (some block) ∧
    ∀ bytes, Agrees block.cells bytes →
      ∃ d c, runDecode base bytes .kStandardMethodCallResponse = .ok d c
        ∧ d.load bytes = some (.kStandardMethodCallResponse response)

/-- The byte that `platch_encode` writes in front of a response. -/
def envelope : MethodCallResponse List → UInt8
  | .success _ => 0x00
  | .failure _ _ _ => 0x01

/-- A first byte stays what it is while the rest of the message is appended. -/
theorem allocAndWrite_head {size : Except Errno Nat} {b : Nat} {pass : WriteM Unit}
    (hpass : Appends pass) {block : Block}
    (h : allocAndWrite size (writeUInt 1 b >>= fun _ => pass) = .ok (some block)) :
    block.cells[0]? = some (some (UInt8.ofNat b)) := by
  unfold allocAndWrite at h
  cases size with
  | error e => cases h
  | ok n =>
      simp only at h
      cases hrun : (writeUInt 1 b >>= fun _ => pass).run ⟨Block.alloc n, 0⟩ with
      | error e w =>
          rw [hrun] at h
          cases h
      | ok u w =>
          rw [hrun] at h
          cases h
          obtain ⟨_, w1, hfirst, hrest⟩ := run_bind_eq_ok.mp hrun
          obtain ⟨block1, hstore, rfl⟩ := write_eq_ok hfirst
          rw [(hpass _ _ hrest).cells_eq 0 (Nat.succ_pos _)]
          show block1.cells[0]? = _
          rw [Block.getElem?_store hstore, if_pos ⟨Nat.le_refl 0, Nat.succ_pos _⟩]
          rfl

/-- Every encoded response starts with its envelope byte. -/
theorem platchEncode_envelope {base : Nat} {response : MethodCallResponse List} {block : Block}
    (h : platchEncode base (.kStandardMethodCallResponse response) = .ok (some block)) :
    block.cells[0]? = some (some (envelope response)) := by
  cases response with
  | success result =>
      exact allocAndWrite_head (platchWriteValueToBufferStd_appends base result) h
  | failure code msg details =>
      cases msg with
      | none => cases h
      | some msg =>
          exact allocAndWrite_head (appends.bind (platchWriteValueToBufferStd_appends base _)
            (appends.bind (platchWriteValueToBufferStd_appends base _)
              (platchWriteValueToBufferStd_appends base details))) h

/-- A decoded response is a success exactly when its first byte is not zero. -/
theorem decodeResponse_isSuccess {b : UInt8} {rest : List UInt8} {value : DecodeM DecodedValue}
    {r : MethodCallResponse Borrowed} {c : Cursor}
    (h : (decodeResponse (b :: rest) value).run ⟨0, (b :: rest).length⟩ = .ok r c) :
    r.isSuccess = true ↔ b ≠ 0 := by
  rw [decodeResponse, run_bind_ok (run_tryCatch_ok (readByte_run (At.start (b :: rest))))] at h
  have hb : b.toNat ≠ 0 ↔ b ≠ 0 := not_congr (UInt8.toNat_inj (b := 0))
  split at h
  next hne =>
    obtain ⟨v, _, -, hpure⟩ := run_bind_eq_ok.mp h
    obtain ⟨rfl, -⟩ := run_pure_eq_ok.mp hpure
    simp only [MethodCallResponse.isSuccess, true_iff]
    exact hb.mp hne
  next hzero =>
    obtain ⟨code, _, -, h⟩ := run_bind_eq_ok.mp h
    obtain ⟨msg, _, -, h⟩ := run_bind_eq_ok.mp h
    obtain ⟨details, _, -, h⟩ := run_bind_eq_ok.mp h
    have hfailure : r.isSuccess = false := by
      split at h
      · obtain ⟨rfl, -⟩ := run_pure_eq_ok.mp h
        rfl
      · obtain ⟨rfl, -⟩ := run_pure_eq_ok.mp h
        rfl
      · exact (run_throw_eq_ok.mp h).elim
    rw [hfailure, ← hb]
    exact ⟨Bool.noConfusion, fun hne => (hzero hne).elim⟩

/-- **No method call response survives the wire.**  Encoder and decoder disagree about the
envelope byte, so what comes back, if anything, is of the other kind. -/
theorem not_survivesWire (base : Nat) (response : MethodCallResponse List) :
    ¬ SurvivesWire base response := by
  rintro ⟨block, hencode, hdecode⟩
  have hagrees := agrees_filled 0 block.cells
  obtain ⟨d, c, hrun, hload⟩ := hdecode (filled 0 block.cells) hagrees
  have hhead := hagrees.getElem? (platchEncode_envelope hencode)
  revert hrun hload hhead
  generalize filled 0 block.cells = bytes
  intro hrun hload hhead
  obtain ⟨rest, rfl⟩ : ∃ rest, bytes = envelope response :: rest := by
    cases bytes with
    | nil => cases hhead
    | cons b rest =>
        rw [List.getElem?_cons_zero, Option.some.injEq] at hhead
        exact ⟨rest, by rw [hhead]⟩
  obtain ⟨r, _, hr, hpure⟩ := run_bind_eq_ok.mp hrun
  obtain ⟨rfl, -⟩ := run_pure_eq_ok.mp hpure
  have hflag := decodeResponse_isSuccess hr
  cases response with
  | success result =>
      cases r with
      | success v => exact absurd rfl (hflag.mp rfl)
      | failure code msg v => simp [PlatchObj.load, MethodCallResponse.load] at hload
  | failure code msg details =>
      cases r with
      | success v => simp [PlatchObj.load, MethodCallResponse.load] at hload
      | failure code' msg' v =>
          have hne : (0x01 : UInt8) ≠ 0 := by decide
          cases hflag.mpr hne

/-- Success with a null result is sent as two zero bytes, which are no response. -/
theorem not_survivesWire_null : ¬ ∀ response, SurvivesWire 16 response := by
  intro h
  obtain ⟨block, hencode, hdecode⟩ := h (.success .kStdNull)
  have hblock : block = ⟨fixed [0, 0]⟩ := by
    have hcompute : platchEncode 16 (.kStandardMethodCallResponse (.success .kStdNull))
        = .ok (some ⟨fixed [0, 0]⟩) := rfl
    rw [hcompute] at hencode
    cases hencode
    rfl
  subst hblock
  obtain ⟨d, c, hrun, -⟩ := hdecode [0, 0] (agrees_fixed.mpr rfl)
  have hcompute : runDecode 16 [0, 0] .kStandardMethodCallResponse
      = .error (.errno .EBADMSG) ⟨2, 0⟩ := rfl
  rw [hcompute] at hrun
  cases hrun

end FlutterWlroots.PlatformChannel
