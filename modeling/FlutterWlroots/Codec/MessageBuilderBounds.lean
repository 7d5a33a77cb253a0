/-
  FlutterWlroots.Codec.MessageBuilderBounds — the builder writes inside its buffer.

  `reserve` makes room for what a push is going to write, and the padding of most pushes is counted
  in.  The float32 push pads first: where the buffer ends before the padding does, it writes behind the
  buffer, and its fill is then larger than the capacity, so that `reserve` takes what is left for
  almost 2^64 bytes.

    • `staysInBuffer_iff`         — a list of calls stays in the buffer exactly when the padding of each
                                    float32 push in it does,
    • `not_staysInBuffer_float32` — a string of 63 bytes leaves no room for it.
-/
import FlutterWlroots.Codec.MessageBuilderRun

namespace FlutterWlroots.StandardMessageCodec

open Lib Lib.Mem Lib.CInt Lib.StateRun
open FlutterWlroots.Codec

/-! ## §1. Lists of calls. -/

/-- Every store of the calls lies in the buffer, and so does the fill in front of and behind each of
    them. -/
def StaysInBuffer (s : MessageBuilderState) : List BuilderEvent → Prop
  | [] => s.WF
  | e :: es => s.WF ∧ ∃ s', e.exec.run s = .ok () s' ∧ StaysInBuffer s' es

/-- The padding of every float32 push among the calls ends in the buffer. -/
def PadsInside (s : MessageBuilderState) : List BuilderEvent → Prop
  | [] => True
  | e :: es => e.PadsInside s ∧ ∀ s', e.exec.run s = .ok () s' → PadsInside s' es

theorem StaysInBuffer.padsInside : ∀ {es : List BuilderEvent} {s : MessageBuilderState}, s.Inv →
    StaysInBuffer s es → PadsInside s es
  | [], _, _, _ => trivial
  | e :: es, s, hinv, ⟨_, s', hrun, hrest⟩ => by
      refine ⟨event_pads e hinv hrun, fun s'' hrun' => ?_⟩
      rw [hrun] at hrun'
      cases hrun'
      exact hrest.padsInside (event_inv e hinv hrun)

theorem PadsInside.staysInBuffer : ∀ {es : List BuilderEvent} {s : MessageBuilderState}, s.Inv →
    PadsInside s es → StaysInBuffer s es
  | [], _, hinv, _ => hinv.wf
  | e :: es, s, hinv, ⟨hpad, hrest⟩ => by
      obtain ⟨s', hrun, hinv'⟩ := event_runs e hinv hpad
      exact ⟨hinv.wf, s', hrun, (hrest s' hrun).staysInBuffer hinv'⟩

/-- **The builder stays in its buffer exactly as long as the float32 push can pad there.** -/
theorem staysInBuffer_iff (es : List BuilderEvent) :
    StaysInBuffer messageBuilderNew es ↔ PadsInside messageBuilderNew es :=
  ⟨fun h => h.padsInside MessageBuilderState.inv_new,
    fun h => h.staysInBuffer MessageBuilderState.inv_new⟩

/-! ## §2. A buffer without room for the padding. -/

/-- A segment of the first level. -/
def firstSegment : MessageBuilderSegment := ⟨1, 0, 1⟩

/-- A string of 63 bytes. -/
def longString : CString := ⟨List.replicate 63 97, by decide⟩

/-- A string that needs more than twice the capacity, and then a list of one float. -/
def paddedRun : List BuilderEvent :=
  [.push firstSegment (.sized (.string longString)), .push firstSegment (.float32List [0])]

/-- The buffer has 65 bytes then, all of them filled: the padding goes to the bytes behind it. -/
theorem not_staysInBuffer_float32 : ¬ ∀ es, StaysInBuffer messageBuilderNew es := by
  intro h
  obtain ⟨-, hrest⟩ := (staysInBuffer_iff paddedRun).mp (h paddedRun)
  obtain ⟨s', hrun, hpad⟩ : ∃ s',
      (BuilderEvent.push firstSegment (.sized (.string longString))).exec.run messageBuilderNew
        = .ok () s' ∧ ¬ s'.bufferLen + padding s'.bufferLen 4 ≤ s'.buffer.size :=
    ⟨_, rfl, by decide⟩
  exact hpad (hrest s' hrun).1

end FlutterWlroots.StandardMessageCodec
