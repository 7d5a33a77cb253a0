/-
  FlutterWlroots.Codec.SegmentAccounting — the counters of the message builder.

  Every push counts in the segment it writes to, a record of the caller, and the level of the segment
  that may be written to is in the shared state.  In a properly nested construction the values go into
  the segment that was opened last, until it is finished.  `push_bool` does not count.

    • `push_ok`            — what each of the pushes does to segment, level and log,
    • `accounted_step_iff` — one event of a construction,
    • `along_accounted_iff` — the constructions in which every count is right and only the segments with
                              a wrong number of children are reported.
-/
import FlutterWlroots.Codec.MessageBuilderRun

namespace FlutterWlroots.StandardMessageCodec

open Lib Lib.StateRun Lib.CInt
open FlutterWlroots.Codec

/-! ## §1. Constructions. -/

namespace PushCall

/-- The push into a segment: the segment after it, and the one for the members. -/
def push (segment : MessageBuilderSegment) :
    PushCall → BuilderM (MessageBuilderSegment × Option MessageBuilderSegment)
  | null => do return (← pushNull segment, none)
  | bool value => do return (← pushBool segment value, none)
  | int32 value => do return (← pushInt32 segment value, none)
  | int64 value => do return (← pushInt64 segment value, none)
  | float64 value => do return (← pushFloat64 segment value, none)
  | int32List vals => do return (← pushInt32List segment vals, none)
  | int64List vals => do return (← pushInt64List segment vals, none)
  | float64List vals => do return (← pushFloat64List segment vals, none)
  | float32List vals => do return (← pushFloat32List segment vals, none)
  | sized (.string string) => do return (← pushString segment string, none)
  | sized (.uint8List vals) => do return (← pushUInt8List segment vals, none)
  | sized (.list size) => do
      let (members, segment) ← pushList segment size
      return (segment, some members)
  | sized (.map size) => do
      let (members, segment) ← pushMap segment size
      return (segment, some members)

/-- How many values a container is to have. -/
def members : PushCall → Option Nat
  | sized (.list size) => some size
  | sized (.map size) => some (size * 2)
  | _ => none

/-- The push counts. -/
def counts : PushCall → Bool
  | bool _ => false
  | _ => true

end PushCall

/-- A segment that has not been finished, with its declared number of values and what has been pushed
    into it. -/
structure OpenSegment where
  segment : MessageBuilderSegment
  members : Nat
  children : List PushCall

/-- A finish: the segment, and `current_level` before it. -/
structure Finish where
  of : OpenSegment
  currentLevel : UInt32

/-- A construction under way: the segments that are open, from the inside, and those finished. -/
structure Construction where
  state : MessageBuilderState
  stack : List OpenSegment
  finished : List Finish

/-- What a construction goes on with. -/
inductive ConstructionEvent where
  | segment
  | push (call : PushCall)
  | finish

/-- The segment for the members of a container. -/
def openMembers (call : PushCall) (sub : Option MessageBuilderSegment) : List OpenSegment :=
  match call.members, sub with
  | some members, some segment => [⟨segment, members, []⟩]
  | _, _ => []

namespace Construction

/-- A construction starts with a segment; values go into the innermost one, which is the first to be
    finished. -/
def step (c : Construction) : ConstructionEvent → Option Construction
  | .segment =>
      match c.stack, messageBuilderSegment.run c.state with
      | [], .ok segment state => some { c with state, stack := [⟨segment, 1, []⟩] }
      | _, _ => none
  | .push call =>
      match c.stack with
      | [] => none
      | o :: os =>
          match (call.push o.segment).run c.state with
          | .ok (segment, sub) state =>
              some { c with
                state
                stack := openMembers call sub
                  ++ { o with segment, children := o.children ++ [call] } :: os }
          | .error _ _ => none
  | .finish =>
      match c.stack with
      | [] => none
      | o :: os =>
          match (segmentFinish o.segment).run c.state with
          | .ok _ state =>
              some { state, stack := os, finished := c.finished ++ [⟨o, c.state.currentLevel⟩] }
          | .error _ _ => none

end Construction

/-- Constructions, from a new builder; a store outside the buffer ends the run. -/
def constructing : Machine Construction ConstructionEvent where
  init := ⟨messageBuilderNew, [], []⟩
  step := Construction.step

/-- What is to be reported of a segment: that its number of values is not the declared one. -/
def Finish.report (f : Finish) : Option Diagnostic :=
  if f.of.children.length = f.of.members then none
  else some (.incompleteSegment f.of.segment.written f.of.segment.size)

/-- The count is right, and the level. -/
structure Finish.Right (f : Finish) : Prop where
  written : f.of.segment.written.toNat = f.of.children.length
  level : f.of.segment.level = f.currentLevel

/-- Every finish was right, and what is logged are their reports. -/
structure Construction.Accounted (c : Construction) : Prop where
  right : ∀ f ∈ c.finished, f.Right
  log : c.state.log = c.finished.filterMap Finish.report

/-- No value was a bool, there were less than 2^32, and the declared number is not another one with the
    same 32 bits. -/
structure OpenSegment.Countable (o : OpenSegment) : Prop where
  counts : ∀ call ∈ o.children, call.counts = true
  length : o.children.length < 2 ^ 32
  members : o.children.length = o.members % 2 ^ 32 → o.children.length = o.members

/-- The segment that is finished can be counted. -/
def Construction.Countable (c : Construction) : ConstructionEvent → Prop
  | .finish => ∀ o ∈ c.stack.head?, o.Countable
  | _ => True

/-! ## §2. Pushes. -/

/-- The part of the state that stores do not change. -/
def levelLog (s : MessageBuilderState) : UInt32 × List Diagnostic := (s.currentLevel, s.log)

theorem keeps_reserve (k : Nat) : Keeps levelLog (reserve k) :=
  keeps_modify fun s => by
    unfold MessageBuilderState.reserved
    split <;> rfl

theorem keeps_storeAt (offset : Nat) (bs : List UInt8) : Keeps levelLog (storeAt offset bs) :=
  keeps_get fun s b s' h => by
    split at h
    next buffer _ =>
      rw [EStateM.run_set] at h
      cases h
      rfl
    next => exact (run_throw_eq_ok.mp h).elim

theorem keeps_advanceLen (n : Nat) : Keeps levelLog (advanceLen n) := keeps_modify fun _ => rfl

theorem keeps_putBytes (bs : List UInt8) : Keeps levelLog (putBytes bs) :=
  keeps_get fun s b s' h =>
    ((keeps_storeAt s.bufferLen bs).bind fun _ => keeps_advanceLen bs.length) s b s' h

theorem keeps_putByte (b : UInt8) : Keeps levelLog (putByte b) := keeps_putBytes [b]

theorem keeps_writeSizeLen (size : Nat) : Keeps levelLog (writeSizeLen size) := by
  have hlong : ∀ marker k, Keeps levelLog (do
      putByte marker
      storeAt 0 (Lib.LittleEndian.leBytes k size)
      advanceLen k) := fun marker k =>
    (keeps_putByte marker).bind fun _ => (keeps_storeAt 0 _).bind fun _ => keeps_advanceLen k
  unfold writeSizeLen
  split
  · exact hlong 255 4
  · split
    · exact hlong 254 2
    · exact keeps_putByte _

theorem keeps_putZeros : ∀ n, Keeps levelLog (putZeros n)
  | 0 => keeps_pure ()
  | n + 1 => (keeps_putByte 0).bind fun _ => keeps_putZeros n

theorem keeps_writeAlignTo (n : Nat) : Keeps levelLog (writeAlignTo n) :=
  keeps_get fun s b s' h => by
    split at h
    · exact keeps_putZeros _ s b s' h
    · rw [(run_pure_eq_ok.mp h).2]

theorem keeps_putElems (w : Nat) (vals : List (BitVec (8 * w))) :
    Keeps levelLog (putElems w vals) :=
  keeps_get fun s b s' h =>
    ((keeps_storeAt s.bufferLen _).bind fun _ => keeps_advanceLen vals.length) s b s' h

section Pushes

variable {s s' : MessageBuilderState} {segment segment' : MessageBuilderSegment}

/-- The push checks the level, stores, and returns the segment `r`. -/
def Pushes (segment r : MessageBuilderSegment) (m : BuilderM MessageBuilderSegment) : Prop :=
  ∀ s a s', m.run s = .ok a s' → a = r ∧ levelLog s' = levelLog (s.asserted segment)

theorem pushes_assertLevel {r : MessageBuilderSegment} {rest : BuilderM MessageBuilderSegment}
    (h : KeepsReturning levelLog r rest) :
    Pushes segment r (assertLevel segment >>= fun _ => rest) := by
  intro s a s' hrun
  rw [run_bind_ok assertLevel_run] at hrun
  exact h _ a s' hrun

theorem pushes_null : Pushes segment segment.wrote (pushNull segment) :=
  pushes_assertLevel ((keeps_reserve 1).returning fun _ =>
    (keeps_putByte 0).returning fun _ => keepsReturning_pure _)

/-- A bool is stored, but not counted. -/
theorem pushes_bool (value : Bool) : Pushes segment segment (pushBool segment value) :=
  pushes_assertLevel ((keeps_reserve 1).returning fun _ =>
    (keeps_putByte _).returning fun _ => keepsReturning_pure _)

theorem pushes_int32 (value : BitVec 32) : Pushes segment segment.wrote (pushInt32 segment value) :=
  pushes_assertLevel ((keeps_reserve _).returning fun _ => (keeps_putByte 3).returning fun _ =>
    (keeps_putBytes _).returning fun _ => keepsReturning_pure _)

theorem pushes_int64 (value : BitVec 64) : Pushes segment segment.wrote (pushInt64 segment value) :=
  pushes_assertLevel ((keeps_reserve _).returning fun _ => (keeps_putByte 4).returning fun _ =>
    (keeps_putBytes _).returning fun _ => keepsReturning_pure _)

theorem pushes_float64 (value : BitVec 64) :
    Pushes segment segment.wrote (pushFloat64 segment value) :=
  pushes_assertLevel ((keeps_reserve _).returning fun _ => (keeps_putByte 6).returning fun _ =>
    (keeps_writeAlignTo 8).returning fun _ => (keeps_putBytes _).returning fun _ =>
    keepsReturning_pure _)

theorem pushes_sizedBytes (tag : UInt8) (bytes : List UInt8) :
    Pushes segment segment.wrote (pushSizedBytes tag bytes segment) :=
  pushes_assertLevel ((keeps_reserve _).returning fun _ => (keeps_putByte tag).returning fun _ =>
    (keeps_writeSizeLen _).returning fun _ => (keeps_putBytes bytes).returning fun _ =>
    keepsReturning_pure _)

theorem pushes_typedList (tag : UInt8) (w : Nat) (vals : List (BitVec (8 * w))) :
    Pushes segment segment.wrote (pushTypedList tag w vals segment) :=
  pushes_assertLevel ((keeps_reserve _).returning fun _ => (keeps_writeAlignTo w).returning fun _ =>
    (keeps_putByte tag).returning fun _ => (keeps_writeSizeLen _).returning fun _ =>
    (keeps_putElems w vals).returning fun _ => keepsReturning_pure _)

theorem pushes_float32List (vals : List (BitVec 32)) :
    Pushes segment segment.wrote (pushFloat32List segment vals) :=
  pushes_assertLevel ((keeps_writeAlignTo 4).returning fun _ => (keeps_reserve _).returning fun _ =>
    (keeps_putByte 14).returning fun _ => (keeps_writeSizeLen _).returning fun _ =>
    (keeps_putElems 4 vals).returning fun _ => keepsReturning_pure _)

theorem asserted_currentLevel : (s.asserted segment).currentLevel = s.currentLevel := by
  unfold MessageBuilderState.asserted
  split <;> rfl

/-- A container: its members are one level up. -/
theorem pushContainer_ok {tag : UInt8} {size members : Nat}
    {r : MessageBuilderSegment × MessageBuilderSegment}
    (h : (pushContainer tag size members segment).run s = .ok r s') :
    r = (⟨UInt32.ofNat members, 0, s.currentLevel + 1⟩, segment.wrote) ∧
      s'.currentLevel = s.currentLevel + 1 ∧ s'.log = (s.asserted segment).log := by
  rw [pushContainer, run_bind_ok assertLevel_run] at h
  obtain ⟨_, t1, h1, h⟩ := run_bind_eq_ok.mp h
  obtain ⟨_, t2, h2, h⟩ := run_bind_eq_ok.mp h
  obtain ⟨_, t3, h3, h⟩ := run_bind_eq_ok.mp h
  rw [run_modify_bind, run_get_bind] at h
  obtain ⟨rfl, rfl⟩ := run_pure_eq_ok.mp h
  have hkeep : levelLog t3 = levelLog (s.asserted segment) :=
    (keeps_writeSizeLen size _ _ _ h3).trans
      ((keeps_putByte tag _ _ _ h2).trans (keeps_reserve _ _ _ _ h1))
  obtain ⟨hlevel, hlog⟩ := Prod.mk.inj hkeep
  rw [asserted_currentLevel] at hlevel
  exact ⟨by rw [hlevel], by rw [hlevel], hlog⟩

/-- What a push has done. -/
structure PushedOk (s : MessageBuilderState) (segment : MessageBuilderSegment) (call : PushCall)
    (segment' : MessageBuilderSegment) (sub : Option MessageBuilderSegment)
    (s' : MessageBuilderState) : Prop where
  after : segment' = if call.counts then segment.wrote else segment
  sub : sub = call.members.map fun members => ⟨UInt32.ofNat members, 0, s.currentLevel + 1⟩
  level : s'.currentLevel = if call.members.isSome then s.currentLevel + 1 else s.currentLevel
  log : s'.log = (s.asserted segment).log

/-- A push that opens no segment. -/
theorem Pushes.ok {call : PushCall} {m : BuilderM MessageBuilderSegment}
    {r : MessageBuilderSegment} {sub : Option MessageBuilderSegment}
    (hpush : Pushes segment r m) (hr : r = if call.counts then segment.wrote else segment)
    (hmembers : call.members = none)
    (h : (m >>= fun a => pure (a, none)).run s = .ok (segment', sub) s') :
    PushedOk s segment call segment' sub s' := by
  obtain ⟨a, t, hrun, hrest⟩ := run_bind_eq_ok.mp h
  obtain ⟨hafter, hkeep⟩ := hpush s a t hrun
  obtain ⟨hlevel, hlog⟩ := Prod.mk.inj hkeep
  obtain ⟨heq, rfl⟩ := run_pure_eq_ok.mp hrest
  cases heq
  refine ⟨hafter.trans hr, by rw [hmembers]; rfl, ?_, hlog⟩
  rw [hlevel, asserted_currentLevel, hmembers]
  rfl

/-- A push that opens a segment. -/
theorem pushedOk_container {call : PushCall} {tag : UInt8} {size members : Nat}
    {sub : Option MessageBuilderSegment} (hcounts : call.counts = true)
    (hmembers : call.members = some members)
    (h : (pushContainer tag size members segment >>= fun r => pure (r.2, some r.1)).run s
      = .ok (segment', sub) s') : PushedOk s segment call segment' sub s' := by
  obtain ⟨r, t, hrun, hrest⟩ := run_bind_eq_ok.mp h
  obtain ⟨heq, rfl⟩ := run_pure_eq_ok.mp hrest
  obtain ⟨rfl, hlevel, hlog⟩ := pushContainer_ok hrun
  cases heq
  exact ⟨by rw [hcounts]; rfl, by rw [hmembers]; rfl, by rw [hmembers]; exact hlevel, hlog⟩

/-- **What each of the pushes does.** -/
theorem push_ok {call : PushCall} {sub : Option MessageBuilderSegment}
    (h : (call.push segment).run s = .ok (segment', sub) s') :
    PushedOk s segment call segment' sub s' := by
  cases call with
  | null => exact pushes_null.ok rfl rfl h
  | bool value => exact (pushes_bool value).ok rfl rfl h
  | int32 value => exact (pushes_int32 value).ok rfl rfl h
  | int64 value => exact (pushes_int64 value).ok rfl rfl h
  | float64 value => exact (pushes_float64 value).ok rfl rfl h
  | int32List vals => exact (pushes_typedList 9 4 vals).ok rfl rfl h
  | int64List vals => exact (pushes_typedList 10 8 vals).ok rfl rfl h
  | float64List vals => exact (pushes_typedList 11 8 vals).ok rfl rfl h
  | float32List vals => exact (pushes_float32List vals).ok rfl rfl h
  | sized push =>
      cases push with
      | string string => exact (pushes_sizedBytes 7 string.bytes).ok rfl rfl h
      | uint8List vals => exact (pushes_sizedBytes 8 vals).ok rfl rfl h
      | list size => exact pushedOk_container rfl rfl h
      | map size => exact pushedOk_container rfl rfl h

/-- The push of the builder's events, without what it returns. -/
theorem exec_of_push {call : PushCall} {r : MessageBuilderSegment × Option MessageBuilderSegment}
    (h : (call.push segment).run s = .ok r s') : (call.exec segment).run s = .ok () s' := by
  cases call with
  | sized push =>
      cases push with
      | string | uint8List => exact run_discard_of_pure h
      | list | map => exact run_discard_of_pure h
  | _ => exact run_discard_of_pure h

end Pushes

/-! ## §3. The counters. -/

/-- `size` and `written` are the declared number and the number of values that count, in 32 bits. -/
structure OpenSegment.Counted (o : OpenSegment) : Prop where
  size : o.segment.size = UInt32.ofNat o.members
  written : o.segment.written = UInt32.ofNat (o.children.countP PushCall.counts)

/-- From the inside to the outside, levels go down by one. -/
def LevelsFrom : UInt32 → List OpenSegment → Prop
  | _, [] => True
  | level, o :: os => o.segment.level = level ∧ LevelsFrom (level - 1) os

/-- What a construction keeps. -/
structure Construction.Tracked (c : Construction) : Prop where
  counted : ∀ o ∈ c.stack, o.Counted
  levels : LevelsFrom c.state.currentLevel c.stack

section Counters

variable {o : OpenSegment}

/-- **When the counter is the number of values.** -/
theorem OpenSegment.Counted.written_iff (h : o.Counted) :
    o.segment.written.toNat = o.children.length ↔
      (∀ call ∈ o.children, call.counts = true) ∧ o.children.length < 2 ^ 32 := by
  have hle : o.children.countP PushCall.counts ≤ o.children.length := List.countP_le_length
  rw [h.written, UInt32.toNat_ofNat', ← List.countP_eq_length]
  constructor
  · intro heq
    have hmod : o.children.countP PushCall.counts % 2 ^ 32 ≤ o.children.countP PushCall.counts :=
      Nat.mod_le ..
    have hlt : o.children.countP PushCall.counts % 2 ^ 32 < 2 ^ 32 := Nat.mod_lt _ (by decide)
    omega
  · rintro ⟨hall, hlt⟩
    rw [hall, Nat.mod_eq_of_lt hlt]

/-- When the counter is right, the check finds the declared number up to 32 bits. -/
theorem OpenSegment.Counted.written_eq_size_iff (h : o.Counted)
    (hwritten : o.segment.written.toNat = o.children.length) :
    o.segment.written = o.segment.size ↔ o.children.length = o.members % 2 ^ 32 := by
  rw [← UInt32.toNat_inj, hwritten, h.size, UInt32.toNat_ofNat']

/-- **When a finish is accounted for**: its count is right, and what it logs is its report. -/
theorem OpenSegment.Counted.finish_iff (h : o.Counted) {level : UInt32} (log : List Diagnostic)
    (hlevel : o.segment.level = level) :
    ((⟨o, level⟩ : Finish).Right ∧
      (if o.segment.written ≠ o.segment.size then
        log ++ [.incompleteSegment o.segment.written o.segment.size] else log)
        = log ++ (Finish.report ⟨o, level⟩).toList) ↔ o.Countable := by
  have hright : (⟨o, level⟩ : Finish).Right ↔
      (∀ call ∈ o.children, call.counts = true) ∧ o.children.length < 2 ^ 32 :=
    ⟨fun hr => h.written_iff.mp hr.written, fun hall => ⟨h.written_iff.mpr hall, hlevel⟩⟩
  have hlogs : o.segment.written.toNat = o.children.length → o.children.length < 2 ^ 32 →
      ((if o.segment.written ≠ o.segment.size then
        log ++ [.incompleteSegment o.segment.written o.segment.size] else log)
        = log ++ (Finish.report ⟨o, level⟩).toList ↔
      (o.children.length = o.members % 2 ^ 32 → o.children.length = o.members)) := by
    intro hwritten hlt
    have hsize := h.written_eq_size_iff hwritten
    unfold Finish.report
    by_cases hmembers : o.children.length = o.members
    · have heq : o.segment.written = o.segment.size :=
        hsize.mpr (by rw [hmembers, Nat.mod_eq_of_lt (hmembers ▸ hlt)])
      rw [if_neg (not_not.mpr heq), if_pos hmembers]
      exact iff_of_true (List.append_nil log).symm fun _ => hmembers
    · rw [if_neg hmembers]
      by_cases heq : o.segment.written = o.segment.size
      · rw [if_neg (not_not.mpr heq)]
        refine iff_of_false (fun hlog => ?_) fun hall => hmembers (hall (hsize.mp heq))
        exact absurd (List.self_eq_append_right.mp hlog) (List.cons_ne_nil _ _)
      · rw [if_pos heq]
        exact iff_of_true rfl fun hmod => absurd (hsize.mpr hmod) heq
  constructor
  · rintro ⟨hr, hlog⟩
    obtain ⟨hcounts, hlt⟩ := hright.mp hr
    exact ⟨hcounts, hlt, (hlogs hr.written hlt).mp hlog⟩
  · rintro ⟨hcounts, hlt, hmembers⟩
    have hr := hright.mpr ⟨hcounts, hlt⟩
    exact ⟨hr, (hlogs hr.written hlt).mpr hmembers⟩

end Counters

/-! ## §4. One event. -/

namespace Construction

variable {c c' : Construction} {o : OpenSegment} {os : List OpenSegment}

theorem segment_step (h : c.step .segment = some c') :
    c.stack = [] ∧ c' = { c with
      state := { c.state with currentLevel := 1 }, stack := [⟨⟨1, 0, 1⟩, 1, []⟩] } := by
  rw [step] at h
  split at h
  next segment state hstack hrun =>
    cases hrun
    cases h
    exact ⟨hstack, rfl⟩
  next => cases h

theorem push_step {call : PushCall} (h : c.step (.push call) = some c') :
    ∃ o os segment sub state, c.stack = o :: os ∧
      (call.push o.segment).run c.state = .ok (segment, sub) state ∧
      c' = { c with
        state
        stack := openMembers call sub
          ++ { o with segment, children := o.children ++ [call] } :: os } := by
  rw [step] at h
  split at h
  next => cases h
  next o os hstack =>
    split at h
    next segment sub state hrun =>
      cases h
      exact ⟨o, os, segment, sub, state, hstack, hrun, rfl⟩
    next => cases h

/-- The state after a finish. -/
def finishedState (s : MessageBuilderState) (segment : MessageBuilderSegment) :
    MessageBuilderState :=
  { s.asserted segment with
    log := if segment.written ≠ segment.size then
        (s.asserted segment).log ++ [.incompleteSegment segment.written segment.size]
      else (s.asserted segment).log
    currentLevel := (s.asserted segment).currentLevel - 1 }

theorem segmentFinish_run (s : MessageBuilderState) (segment : MessageBuilderSegment) :
    (segmentFinish segment).run s = .ok () (finishedState s segment) :=
  (run_bind_ok assertLevel_run).trans (EStateM.run_modify _ _)

theorem finish_step (h : c.step .finish = some c') :
    ∃ o os, c.stack = o :: os ∧ c' =
      { state := finishedState c.state o.segment, stack := os,
        finished := c.finished ++ [⟨o, c.state.currentLevel⟩] } := by
  rw [step] at h
  split at h
  next => cases h
  next o os hstack =>
    rw [segmentFinish_run] at h
    cases h
    exact ⟨o, os, hstack, rfl⟩

/-- The innermost segment is at the level of the builder. -/
theorem Tracked.asserted_eq (h : c.Tracked) (hstack : c.stack = o :: os) :
    c.state.asserted o.segment = c.state := by
  have hlevels := h.levels
  rw [hstack] at hlevels
  exact if_neg (not_not.mpr hlevels.1)

theorem Tracked.push {call : PushCall} {segment : MessageBuilderSegment}
    {sub : Option MessageBuilderSegment} {state : MessageBuilderState} (h : c.Tracked)
    (hstack : c.stack = o :: os) (hpush : PushedOk c.state o.segment call segment sub state) :
    Tracked { c with
      state
      stack := openMembers call sub
        ++ { o with segment, children := o.children ++ [call] } :: os } := by
  obtain ⟨hcounted, hlevels⟩ := h
  rw [hstack] at hcounted hlevels
  have ho := hcounted o List.mem_cons_self
  have hkeeps : segment.size = o.segment.size ∧ segment.level = o.segment.level := by
    rw [hpush.after]
    split <;> exact ⟨rfl, rfl⟩
  -- the segment that is written to counts the value, unless it is a bool
  have hcount : OpenSegment.Counted { o with segment, children := o.children ++ [call] } := by
    refine ⟨hkeeps.1.trans ho.size, ?_⟩
    rw [List.countP_append, List.countP_singleton, hpush.after]
    cases call.counts with
    | true =>
        show o.segment.written + 1 = _
        rw [ho.written, UInt32.ofNat_add]
        rfl
    | false => exact ho.written
  have hothers : ∀ x ∈ { o with segment, children := o.children ++ [call] } :: os, x.Counted := by
    intro x hx
    rcases List.mem_cons.mp hx with rfl | hx
    · exact hcount
    · exact hcounted x (List.mem_cons_of_mem o hx)
  have hbelow : LevelsFrom c.state.currentLevel
      ({ o with segment, children := o.children ++ [call] } :: os) :=
    ⟨hkeeps.2.trans hlevels.1, hlevels.2⟩
  unfold openMembers
  rw [hpush.sub]
  cases hmembers : call.members with
  | none =>
      have hlevel : state.currentLevel = c.state.currentLevel :=
        hpush.level.trans (if_neg (by rw [hmembers]; exact nofun))
      refine ⟨hothers, ?_⟩
      show LevelsFrom state.currentLevel _
      rw [hlevel]
      exact hbelow
  | some members =>
      have hlevel : state.currentLevel = c.state.currentLevel + 1 :=
        hpush.level.trans (if_pos (by rw [hmembers]; rfl))
      refine ⟨fun x hx => ?_, ?_⟩
      · rcases List.mem_cons.mp hx with rfl | hx
        · exact ⟨rfl, rfl⟩
        · exact hothers x hx
      · show LevelsFrom state.currentLevel (_ :: _)
        rw [hlevel]
        refine ⟨rfl, ?_⟩
        rw [UInt32.add_sub_cancel]
        exact hbelow

theorem tracked_step {e : ConstructionEvent} (h : c.Tracked) (hstep : c.step e = some c') :
    c'.Tracked := by
  cases e with
  | segment =>
      obtain ⟨-, rfl⟩ := segment_step hstep
      exact ⟨List.forall_mem_singleton.mpr ⟨rfl, rfl⟩, rfl, trivial⟩
  | push call =>
      obtain ⟨o, os, segment, sub, state, hstack, hrun, rfl⟩ := push_step hstep
      exact h.push hstack (push_ok hrun)
  | finish =>
      obtain ⟨o, os, hstack, rfl⟩ := finish_step hstep
      have hasserted := h.asserted_eq hstack
      obtain ⟨hcounted, hlevels⟩ := h
      rw [hstack] at hcounted hlevels
      refine ⟨fun x hx => hcounted x (List.mem_cons_of_mem o hx), ?_⟩
      show LevelsFrom ((c.state.asserted o.segment).currentLevel - 1) os
      rw [hasserted]
      exact hlevels.2

/-- **One event.** -/
theorem accounted_step_iff {e : ConstructionEvent} (htracked : c.Tracked) (h : c.Accounted)
    (hstep : c.step e = some c') : c'.Accounted ↔ c.Countable e := by
  cases e with
  | segment =>
      obtain ⟨-, rfl⟩ := segment_step hstep
      exact iff_of_true ⟨h.right, h.log⟩ trivial
  | push call =>
      obtain ⟨o, os, segment, sub, state, hstack, hrun, rfl⟩ := push_step hstep
      have hlog := (push_ok hrun).log
      rw [htracked.asserted_eq hstack] at hlog
      exact iff_of_true ⟨h.right, hlog.trans h.log⟩ trivial
  | finish =>
      obtain ⟨o, os, hstack, rfl⟩ := finish_step hstep
      have hasserted := htracked.asserted_eq hstack
      obtain ⟨hcounted, hlevels⟩ := htracked
      rw [hstack] at hcounted hlevels
      have hiff := (hcounted o List.mem_cons_self).finish_iff c.state.log hlevels.1
      have hcond : c.Countable .finish ↔ o.Countable := by
        show (∀ x ∈ c.stack.head?, x.Countable) ↔ _
        rw [hstack]
        simp
      rw [hcond, ← hiff]
      have hreports : (c.finished ++ [(⟨o, c.state.currentLevel⟩ : Finish)]).filterMap Finish.report
          = c.state.log ++ (Finish.report ⟨o, c.state.currentLevel⟩).toList := by
        rw [List.filterMap_append, ← h.log]
        cases hreport : Finish.report ⟨o, c.state.currentLevel⟩ with
        | none => simp [hreport]
        | some d => simp [hreport]
      have hlog : (finishedState c.state o.segment).log
          = if o.segment.written ≠ o.segment.size then
              c.state.log ++ [.incompleteSegment o.segment.written o.segment.size]
            else c.state.log := by
        unfold finishedState
        rw [hasserted]
      constructor
      · rintro ⟨hright, hlog'⟩
        exact ⟨hright _ List.mem_concat_self, hlog.symm.trans (hlog'.trans hreports)⟩
      · rintro ⟨hright, hlog'⟩
        refine ⟨fun f hf => ?_, hlog.trans (hlog'.trans hreports.symm)⟩
        rcases List.mem_append.mp hf with hf | hf
        · exact h.right f hf
        · rw [List.mem_singleton.mp hf]
          exact hright

theorem tracked_init : constructing.init.Tracked := ⟨nofun, trivial⟩

theorem accounted_init : constructing.init.Accounted := ⟨nofun, rfl⟩

/-- A construction is a run of the builder, whatever segments that is handed. -/
theorem reach_builder {c : Construction} (hc : constructing.Reachable c) :
    builder.Reachable c.state := by
  refine hc.invariant (P := fun c => builder.Reachable c.state) .init fun c e c' hc _ hstep => ?_
  cases e with
  | segment =>
      obtain ⟨-, rfl⟩ := segment_step hstep
      exact hc.step .segment trivial rfl
  | push call =>
      obtain ⟨o, os, segment, sub, state, -, hrun, rfl⟩ := push_step hstep
      exact hc.step (.push o.segment call) trivial (finalState_eq_some.mpr (exec_of_push hrun))
  | finish =>
      obtain ⟨o, os, -, rfl⟩ := finish_step hstep
      exact hc.step (.finish o.segment) trivial
        (finalState_eq_some.mpr (segmentFinish_run c.state o.segment))

end Construction

/-! ## §5. Runs. -/

/-- **In which constructions segments are accounted for**: in those that finish no segment with a bool,
    with 2^32 values, or with a number of values that only the low 32 bits of the size agree with. -/
theorem along_accounted_iff (es : List ConstructionEvent)
    (h : (constructing.exec constructing.init es).isSome) :
    constructing.Along Construction.Accounted constructing.init es ↔
      constructing.Meets Construction.Countable constructing.init es :=
  Machine.along_iff_meets_of_invariant (I := Construction.Tracked)
    (fun _ _ _ => Construction.tracked_step) (fun _ _ _ => Construction.accounted_step_iff)
    Construction.tracked_init Construction.accounted_init h

/-- A map with one entry, an int and a list, and a list that lacks its value. -/
theorem along_accounted_iff_map :
    constructing.Along Construction.Accounted constructing.init
        [.segment, .push (.sized (.map 1)), .push (.int32 7), .push (.sized (.list 1)), .finish,
          .finish, .finish] ↔
      constructing.Meets Construction.Countable constructing.init
        [.segment, .push (.sized (.map 1)), .push (.int32 7), .push (.sized (.list 1)), .finish,
          .finish, .finish] :=
  along_accounted_iff _ (by decide +kernel)

/-- **A bool is not counted**: a segment with one bool, as declared, is reported as incomplete. -/
theorem not_accounted_bool : ¬ ∀ es : List ConstructionEvent,
    (constructing.exec constructing.init es).isSome →
      constructing.Along Construction.Accounted constructing.init es := by
  intro hall
  have hrun : (constructing.exec constructing.init [.segment, .push (.bool true), .finish]).map
      (fun c => c.finished.map fun f => (f.of.segment.written, f.of.children.length))
        = some [(0, 1)] := by decide +kernel
  obtain ⟨c, hc, hend⟩ := Option.map_eq_some_iff.mp hrun
  have haccounted := (hall _ (by rw [hc]; rfl)).exec hc
  obtain ⟨f, hf⟩ : ∃ f, c.finished = [f] := List.length_eq_one_iff.mp (by
    rw [← List.length_map (f := fun f : Finish =>
      (f.of.segment.written, f.of.children.length)), hend]
    rfl)
  rw [hf] at hend
  obtain ⟨hwritten, hlength⟩ := Prod.mk.inj (List.cons.inj hend).1
  have hright := (haccounted.right f (by rw [hf]; exact List.mem_cons_self)).written
  rw [hwritten, hlength] at hright
  cases hright

end FlutterWlroots.StandardMessageCodec
