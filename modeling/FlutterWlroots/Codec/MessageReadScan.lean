/-
  FlutterWlroots.Codec.MessageReadScan — `message_read` on bytes that nobody has checked.

  Every load of `message_read` is guarded by `REQUIRE_DATA`, and the two together are the `take` of a
  scanner: the bytes if they are there, false otherwise.  So the whole reader is a scanner
  (`scans_messageRead`), whose fuel is its budget and whose costs are the numbers of values read:

    • `messageRead_safe`           — it ends, stays within the buffer, and pays a byte for each value,
    • `messageRead_selfDelimiting` — what it has read does not depend on what follows, and no part of
                                     it is read as a value.
-/
import FlutterWlroots.Lib.Scanner
import FlutterWlroots.Codec.MessageRead

namespace FlutterWlroots.StandardMessageCodec

open Lib.LittleEndian Lib.CInt Lib.StateRun Lib.Scanner

/-! ## §1. Values. -/

namespace DartValue

mutual
/-- The values of a tree. -/
def count : DartValue → Nat
  | dvList _ values => 1 + countAll values
  | dvMap _ values => 1 + countAll values
  | _ => 1
def countAll : List DartValue → Nat
  | [] => 0
  | value :: values => value.count + countAll values
end

theorem count_pos (value : DartValue) : 0 < value.count := by
  cases value with
  | dvList => rw [count]; omega
  | dvMap => rw [count]; omega
  | _ => exact Nat.one_pos

end DartValue

/-! ## §2. Guarded loads. -/

section Loads

variable {α : Type} {budget c : Nat} {cost : α → Nat}

theorem requireData_run_ok {length n offset : Nat} (h : offset + n ≤ length) :
    (requireData length n).run offset = .ok () offset := by
  rw [requireData, run_get_bind, sizeSub_of_le (by omega), if_neg (by omega), EStateM.run_pure]

theorem requireData_run_error {length n offset : Nat} (h : length < offset + n)
    (ho : offset ≤ length) : (requireData length n).run offset = .error .returnsFalse offset := by
  rw [requireData, run_get_bind, sizeSub_of_le ho, if_pos (by omega), run_throw]

/-- `REQUIRE_DATA` and a load. -/
theorem requireData_takeBytes (b : List UInt8) (n : Nat) (f : List UInt8 → ReadM α) (o : Nat)
    (ho : o ≤ b.length) :
    (requireData b.length n >>= fun _ => takeBytes b n >>= f).run o
      = (take ReadStop.returnsFalse (fun _ => n) b >>= f).run o := by
  rcases Nat.lt_or_ge b.length (o + n) with hlt | hle
  · rw [run_bind_error (requireData_run_error hlt ho), run_bind_error (take_run_error hlt ho)]
  · have hload : (takeBytes b n).run o = .ok ((b.drop o).take n) (o + n) := by
      rw [takeBytes, run_get_bind, if_pos hle, run_set_bind, EStateM.run_pure]
    rw [run_bind_ok (requireData_run_ok hle), run_bind_ok hload, run_bind_ok (take_run_ok hle)]

theorem scans_bytes {n : Nat} {f : List UInt8 → Reader ReadStop α} (hn : c ≤ n)
    (hf : ∀ bs, Scans .returnsFalse (budget - c) (fun a => cost a - c) (f bs)) :
    Scans .returnsFalse budget cost
      fun b => requireData b.length n >>= fun _ => takeBytes b n >>= fun bs => f bs b :=
  ((scans_take ReadStop.returnsFalse fun _ => hn).bind hf).congr fun b o ho =>
    requireData_takeBytes b n (fun bs => f bs b) o ho

theorem scans_uint {n : Nat} {f : Nat → Reader ReadStop α} (hn : c ≤ n)
    (hf : ∀ x, Scans .returnsFalse (budget - c) (fun a => cost a - c) (f x)) :
    Scans .returnsFalse budget cost
      fun b => requireData b.length n >>= fun _ => takeUInt b n >>= fun x => f x b := by
  have h : Scans ReadStop.returnsFalse budget cost fun b =>
      requireData b.length n >>= fun _ => takeBytes b n >>= fun bs => f (leNat bs) b :=
    scans_bytes hn fun bs => hf (leNat bs)
  simpa only [takeUInt, bind_assoc, pure_bind] using h

theorem scans_lastUInt (n : Nat) :
    Scans .returnsFalse budget (fun _ => 0)
      fun b => requireData b.length n >>= fun _ => takeUInt b n := by
  have h : Scans ReadStop.returnsFalse budget (fun _ => 0)
      fun b => requireData b.length n >>= fun _ => takeUInt b n >>= fun x => pure x :=
    scans_uint (Nat.zero_le n) fun x => .pure x rfl
  simpa only [bind_pure] using h

/-- `READ_ALIGN_TO`. -/
theorem scans_align {n : Nat} {f : Reader ReadStop α} (hf : Scans .returnsFalse budget cost f) :
    Scans .returnsFalse budget cost fun b => readAlignTo b.length n >>= fun _ => f b := by
  have h : Scans ReadStop.returnsFalse budget cost fun b =>
      take .returnsFalse (fun o => if o % n ≠ 0 then n - o % n else 0) b >>= fun _ => f b :=
    (scans_take ReadStop.returnsFalse fun _ => Nat.zero_le _).bind fun _ => hf
  refine h.congr fun b o ho => ?_
  rw [readAlignTo, bind_assoc, run_get_bind]
  by_cases hmod : o % n ≠ 0
  · rw [if_pos hmod]
    rcases Nat.lt_or_ge b.length (o + (n - o % n)) with hlt | hle
    · rw [bind_assoc, run_bind_error (requireData_run_error hlt ho),
        run_bind_error (take_run_error (by rwa [if_pos hmod]) ho)]
    · rw [bind_assoc, run_bind_ok (requireData_run_ok hle), run_set_bind,
        run_bind_ok (take_run_ok (by rwa [if_pos hmod])), if_pos hmod]
  · rw [if_neg hmod, pure_bind, run_bind_ok (take_run_ok (by rw [if_neg hmod]; omega)),
      if_neg hmod, Nat.add_zero]

/-- `READ_LENGTH`. -/
theorem scans_length : Scans .returnsFalse budget (fun _ => 0) fun b => readLength b b.length := by
  unfold readLength
  refine scans_uint (Nat.zero_le 1) fun first => ?_
  by_cases h255 : first = 255
  · simp only [if_pos h255]
    exact scans_lastUInt 4
  · by_cases h254 : first = 254
    · simp only [if_neg h255, if_pos h254]
      exact scans_lastUInt 2
    · simp only [if_neg h255, if_neg h254]
      exact .pure first rfl

end Loads

/-! ## §3. The reader. -/

section Reader

variable {budget : Nat} {read : Reader ReadStop DartValue}

/-- The members of a list. -/
theorem scans_readTimes (h : Scans .returnsFalse budget DartValue.count read) : ∀ n,
    Scans .returnsFalse budget DartValue.countAll fun b => readTimes (read b) n
  | 0 => .pure [] rfl
  | n + 1 => by
      refine h.bind fun value => ?_
      refine ((scans_readTimes h n).weaken (Nat.sub_le _ _) fun values => Nat.le_refl _).bind
        fun values => .pure _ ?_
      rw [DartValue.countAll]
      omega

/-- The keys and values of a map. -/
theorem scans_readPairs (h : Scans .returnsFalse budget DartValue.count read) : ∀ n,
    Scans .returnsFalse budget DartValue.countAll fun b => readPairs (read b) n
  | 0 => .pure [] rfl
  | n + 1 => by
      refine h.bind fun key => ?_
      refine (h.weaken (Nat.sub_le _ _) fun value => Nat.le_refl _).bind fun value => ?_
      refine ((scans_readPairs h n).weaken (by omega) fun values => Nat.le_refl _).bind
        fun values => .pure _ ?_
      rw [DartValue.countAll, DartValue.countAll]
      omega

/-- **`message_read` is a scanner**: its fuel is the budget, a value costs the values in it. -/
theorem scans_messageRead : ∀ fuel,
    Scans .returnsFalse fuel DartValue.count fun b => messageRead b b.length fuel
  | 0 => .throw ReadStop.outOfFuel fun h => absurd h (Nat.lt_irrefl 0)
  | fuel + 1 => by
      have ih := scans_messageRead fuel
      -- the type byte pays for the value itself
      refine scans_uint (Nat.le_refl 1) fun type => ?_
      have hrefuse : Scans (α := DartValue) ReadStop.returnsFalse (fuel + 1 - 1)
          (fun value => value.count - 1) fun _ => throw ReadStop.returnsFalse :=
        .throw ReadStop.returnsFalse fun _ => rfl
      match type with
      | 0 => exact .pure _ rfl
      | 1 => exact .pure _ rfl
      | 2 => exact .pure _ rfl
      | 3 => exact scans_uint (Nat.zero_le 4) fun n => .pure _ rfl
      | 4 => exact scans_uint (Nat.zero_le 8) fun n => .pure _ rfl
      | 6 => exact scans_align (scans_uint (Nat.zero_le 8) fun n => .pure _ rfl)
      | 7 => exact scans_length.bind fun s_len => scans_bytes (Nat.zero_le s_len) fun string =>
          .pure _ rfl
      | 12 =>
          refine scans_length.bind fun s_len => (scans_readTimes ih s_len).bind fun values =>
            .pure _ ?_
          rw [DartValue.count]
          omega
      | 13 =>
          refine scans_length.bind fun s_len => (scans_readPairs ih s_len).bind fun values =>
            .pure _ ?_
          rw [DartValue.count]
          omega
      | 5 | 8 | 9 | 10 | 11 => exact hrefuse
      | _ + 14 => exact hrefuse

end Reader

/-! ## §4. Fuel. -/

theorem continues_readTimes {read read' : ReadM DartValue}
    (h : Continues .outOfFuel read read') : ∀ n,
    Continues .outOfFuel (readTimes read n) (readTimes read' n)
  | 0 => .refl _
  | n + 1 => h.bind fun _ => (continues_readTimes h n).bind fun _ => .refl _

theorem continues_readPairs {read read' : ReadM DartValue}
    (h : Continues .outOfFuel read read') : ∀ n,
    Continues .outOfFuel (readPairs read n) (readPairs read' n)
  | 0 => .refl _
  | n + 1 => h.bind fun _ => h.bind fun _ => (continues_readPairs h n).bind fun _ => .refl _

theorem continues_messageRead (b : List UInt8) (length : Nat) : ∀ fuel,
    Continues .outOfFuel (messageRead b length fuel) (messageRead b length (fuel + 1))
  | 0 => .of_stuck _
  | fuel + 1 => by
      have ih := continues_messageRead b length fuel
      rw [messageRead, messageRead]
      refine (Continues.refl _).bind fun _ => (Continues.refl _).bind fun type => ?_
      match type with
      | 12 => exact (Continues.refl _).bind fun s_len =>
          (continues_readTimes ih s_len).bind fun _ => .refl _
      | 13 => exact (Continues.refl _).bind fun s_len =>
          (continues_readPairs ih s_len).bind fun _ => .refl _
      | 0 | 1 | 2 | 3 | 4 | 5 | 6 | 7 | 8 | 9 | 10 | 11 => exact .refl _
      | _ + 14 => exact .refl _

/-- Any fuel above the rest of the buffer does the same. -/
theorem messageRead_fuel {b : List UInt8} {o fuel fuel' : Nat} (ho : o ≤ b.length)
    (hfuel : b.length < o + fuel) (hfuel' : b.length < o + fuel') :
    (messageRead b b.length fuel).run o = (messageRead b b.length fuel').run o := by
  have hmono : ∀ {n n' : Nat}, b.length < o + n → n ≤ n' →
      (messageRead b b.length n).run o = (messageRead b b.length n').run o := by
    intro n n' hn hle
    rcases Continues.of_le (continues_messageRead b b.length) hle o with heq | ⟨o', hstuck⟩
    · exact heq.symm
    · obtain ⟨hstop, -⟩ := (scans_messageRead n).stops b o _ o' ho hn hstuck
      cases hstop
  rcases Nat.le_total fuel fuel' with hle | hle
  · exact hmono hfuel hle
  · exact (hmono hfuel' hle).symm

/-! ## §5. Safety. -/

/-- How a read from `offset` on may end. -/
def SafeResult (length offset : Nat) : EStateM.Result ReadStop Nat DartValue → Prop
  | .ok value offset' => offset < offset' ∧ offset' ≤ length ∧ value.count ≤ offset' - offset
  | .error stop offset' => stop = .returnsFalse ∧ offset ≤ offset' ∧ offset' ≤ length

/-- **`message_read` is safe and total on any bytes.**  From every offset there is one result, which
    any fuel above the rest of the buffer leads to, whatever the bytes before the offset are. -/
theorem messageRead_safe (buffer : List UInt8) (offset : Nat) (h : offset ≤ buffer.length) :
    ∃ result, SafeResult buffer.length offset result ∧
      ∀ other : List UInt8, other.length = buffer.length →
        AgreeOn buffer other offset buffer.length →
        ∀ fuel, buffer.length < offset + fuel →
          (messageRead other other.length fuel).run offset = result := by
  have hscan := scans_messageRead (buffer.length + 1)
  refine ⟨(messageRead buffer buffer.length (buffer.length + 1)).run offset, ?_, ?_⟩
  · cases hrun : (messageRead buffer buffer.length (buffer.length + 1)).run offset with
    | ok value offset' =>
        obtain ⟨hpaid, hle⟩ := hscan.moves buffer offset value offset' h hrun
        have hpos := value.count_pos
        exact ⟨by omega, hle, by omega⟩
    | error stop offset' => exact hscan.stops buffer offset stop offset' h (by omega) hrun
  · intro other hlen hagree fuel hfuel
    rw [messageRead_fuel (by omega) (by omega)
      (show other.length < offset + (buffer.length + 1) by omega)]
    exact hscan.locally buffer other offset h hlen hagree

/-- A list of a string and of a list that is cut off. -/
theorem messageRead_safe_nested :
    ∃ result, SafeResult 7 0 result ∧
      ∀ other : List UInt8, other.length = 7 → AgreeOn [12, 2, 7, 1, 97, 12, 200] other 0 7 →
        ∀ fuel, 7 < 0 + fuel → (messageRead other other.length fuel).run 0 = result :=
  messageRead_safe [12, 2, 7, 1, 97, 12, 200] 0 (by decide)

/-! ## §6. Self-delimitation. -/

/-- `message_read` from an offset on. -/
def messageReadFrom (buffer : List UInt8) (offset : Nat) :
    EStateM.Result ReadStop Nat DartValue :=
  (messageRead buffer buffer.length (buffer.length + 1)).run offset

/-- The two calls of `engine_cb_platform_message`: `name`, and behind it `args`. -/
def readNameAndArgs (buffer : List UInt8) : ReadM (DartValue × DartValue) := do
  let name ← messageRead buffer buffer.length (buffer.length + 1)
  let args ← messageRead buffer buffer.length (buffer.length + 1)
  return (name, args)

/-- A value is only read where there is a byte. -/
theorem messageRead_start {b : List UInt8} {fuel o o' : Nat} {v : DartValue}
    (h : (messageRead b b.length fuel).run o = .ok v o') : o ≤ b.length := by
  cases fuel with
  | zero => exact (run_throw_eq_ok.mp h).elim
  | succ fuel =>
      rw [messageRead] at h
      obtain ⟨_, o1, hrequire, h⟩ := run_bind_eq_ok.mp h
      obtain ⟨_, _, htake, -⟩ := run_bind_eq_ok.mp h
      have ho1 : o1 = o := by
        rw [requireData, run_get_bind] at hrequire
        split at hrequire
        · exact (run_throw_eq_ok.mp hrequire).elim
        · exact (run_pure_eq_ok.mp hrequire).2.symm
      obtain ⟨_, _, hbytes, -⟩ := run_bind_eq_ok.mp htake
      rw [takeBytes, run_get_bind] at hbytes
      split at hbytes
      next hle => omega
      next => exact (run_throw_eq_ok.mp hbytes).elim

/-- What has been read is read again from every buffer that starts in the same way. -/
theorem messageReadFrom_whole {b b' : List UInt8} {o o' : Nat} {v : DartValue}
    (h : messageReadFrom b o = .ok v o') (hlen : o' ≤ b'.length) (hagree : AgreeOn b b' o o') :
    messageReadFrom b' o = .ok v o' := by
  have ho := messageRead_start h
  have hmoves := (scans_messageRead _).moves b o v o' ho h
  -- the fuel of the longer buffer is enough for both
  have hmax : (messageRead b b.length (b.length + b'.length + 1)).run o = .ok v o' := by
    rw [← messageRead_fuel ho (show b.length < o + (b.length + 1) by omega) (by omega)]
    exact h
  have hwhole := (scans_messageRead _).whole b b' o v o' ho hmax hlen hagree
  rw [messageReadFrom, messageRead_fuel (by omega) (by omega)
    (show b'.length < o + (b.length + b'.length + 1) by omega)]
  exact hwhole

/-- Every proper part of it is refused. -/
theorem messageReadFrom_cut {b b' : List UInt8} {o o' : Nat} {v : DartValue}
    (h : messageReadFrom b o = .ok v o') (ho' : o ≤ b'.length) (hlt : b'.length < o')
    (hagree : AgreeOn b b' o b'.length) : ∃ o'', messageReadFrom b' o = .error .returnsFalse o'' := by
  have ho := messageRead_start h
  have hmax : (messageRead b b.length (b.length + b'.length + 1)).run o = .ok v o' := by
    rw [← messageRead_fuel ho (show b.length < o + (b.length + 1) by omega) (by omega)]
    exact h
  obtain ⟨o'', hcut⟩ := (scans_messageRead _).cut b b' o v o' ho hmax ho' hlt hagree
  refine ⟨o'', ?_⟩
  rw [messageReadFrom, messageRead_fuel (by omega) (by omega)
    (show b'.length < o + (b.length + b'.length + 1) by omega)]
  exact hcut

theorem readNameAndArgs_run {b : List UInt8} {name args : DartValue} {o o' : Nat} :
    (readNameAndArgs b).run o = .ok (name, args) o' ↔
      ∃ o1, messageReadFrom b o = .ok name o1 ∧ messageReadFrom b o1 = .ok args o' := by
  constructor
  · intro h
    obtain ⟨name', o1, hname, h⟩ := run_bind_eq_ok.mp h
    obtain ⟨args', o2, hargs, h⟩ := run_bind_eq_ok.mp h
    obtain ⟨heq, rfl⟩ := run_pure_eq_ok.mp h
    cases heq
    exact ⟨o1, hname, hargs⟩
  · rintro ⟨o1, hname, hargs⟩
    rw [readNameAndArgs, run_bind_ok hname, run_bind_ok hargs, EStateM.run_pure]

/-- **Values delimit themselves.**  A value that has been read is read again, to the same offset,
    whatever follows; a buffer that ends within it is refused.  So what `engine_cb_platform_message`
    reads does not depend on later bytes. -/
theorem messageRead_selfDelimiting (buffer : List UInt8) (offset : Nat) (value : DartValue)
    (offset' : Nat) (h : messageReadFrom buffer offset = .ok value offset') :
    (∀ buffer' : List UInt8, offset' ≤ buffer'.length → AgreeOn buffer buffer' offset offset' →
      messageReadFrom buffer' offset = .ok value offset') ∧
    (∀ buffer' : List UInt8, offset ≤ buffer'.length → buffer'.length < offset' →
      AgreeOn buffer buffer' offset buffer'.length →
      ∃ o, messageReadFrom buffer' offset = .error .returnsFalse o) ∧
    (∀ args o2, messageReadFrom buffer offset' = .ok args o2 →
      ∀ buffer' : List UInt8, o2 ≤ buffer'.length → AgreeOn buffer buffer' offset o2 →
        (readNameAndArgs buffer').run offset = .ok (value, args) o2) := by
  refine ⟨fun buffer' => messageReadFrom_whole h, fun buffer' => messageReadFrom_cut h, ?_⟩
  intro args o2 hargs buffer' hlen hagree
  have ho := messageRead_start h
  obtain ⟨hle1, hlen1⟩ := (scans_messageRead _).moves buffer offset value offset' ho h
  obtain ⟨hle2, -⟩ := (scans_messageRead _).moves buffer offset' args o2 hlen1 hargs
  refine readNameAndArgs_run.mpr ⟨offset', ?_, ?_⟩
  · exact messageReadFrom_whole h (by omega) (hagree.mono (Nat.le_refl _) (by omega))
  · exact messageReadFrom_whole hargs hlen (hagree.mono (by omega) (Nat.le_refl _))

/-- A name and null arguments, read from the third byte on. -/
theorem messageRead_selfDelimiting_call :
    (∀ buffer' : List UInt8, 5 ≤ buffer'.length → AgreeOn [0, 0, 7, 1, 97, 0, 255] buffer' 2 5 →
      messageReadFrom buffer' 2 = .ok (.dvString 1 [97]) 5) ∧
    (∀ buffer' : List UInt8, 2 ≤ buffer'.length → buffer'.length < 5 →
      AgreeOn [0, 0, 7, 1, 97, 0, 255] buffer' 2 buffer'.length →
      ∃ o, messageReadFrom buffer' 2 = .error .returnsFalse o) ∧
    (∀ args o2, messageReadFrom [0, 0, 7, 1, 97, 0, 255] 5 = .ok args o2 →
      ∀ buffer' : List UInt8, o2 ≤ buffer'.length →
        AgreeOn [0, 0, 7, 1, 97, 0, 255] buffer' 2 o2 →
        (readNameAndArgs buffer').run 2 = .ok (.dvString 1 [97], args) o2) :=
  messageRead_selfDelimiting [0, 0, 7, 1, 97, 0, 255] 2 (.dvString 1 [97]) 5 rfl

end FlutterWlroots.StandardMessageCodec
