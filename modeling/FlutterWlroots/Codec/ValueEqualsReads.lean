/-
  FlutterWlroots.Codec.ValueEqualsReads — what the comparison of maps reads.

  The comparison of maps is once more written down, with a log of its accesses: to the flags, and to
  the keys and the values of the second map.  An access outside a table ends the comparison, as does
  a loop that has not come to its end after a round for each index.  Indices are natural numbers; an
  `int` holds them, as there is a flag on the stack for each entry.

  The loop that skips the flags looks at a flag before it looks at the bound, and what it ends at is
  used without another look.  That is safe as the last flag is never set while the search goes on
  (`Searching`): an entry that is found at the last index ends the comparison.

    • `Logged.compareEntries_follows` — the loops, for any way to compare the members,
    • `Logged.stdvalueEquals_follows`, `Logged.jsvalueEquals_follows` — the functions,
    • `equals_reads_inside`           — all that is read is inside, and the loops end.
-/
import FlutterWlroots.Lib.SameRun
import FlutterWlroots.Codec.ValueEqualsJson

namespace FlutterWlroots.PlatformChannel

open Lib Lib.StateRun FlutterWlroots.Codec

/-! ## §1. Accesses. -/

/-- The tables that are read at an index that was searched for. -/
inductive Table where
  | keyInBAlsoInA
  | keys
  | values
  deriving DecidableEq, Repr

structure Access where
  table : Table
  index : Nat
  /-- How many entries the table has. -/
  size : Nat
  deriving DecidableEq, Repr

inductive CompareStop where
  | outOfBounds
  /-- A loop has not come to its end. -/
  | outOfRounds
  /-- There are more nesting levels than fuel. -/
  | outOfFuel
  deriving DecidableEq, Repr

/-- The state is the log. -/
abbrev EqualsM := EStateM CompareStop (List Access)

def access (table : Table) (size index : Nat) : EqualsM Unit := do
  modify (⟨table, index, size⟩ :: ·)
  if index < size then return () else throw .outOfBounds

namespace Logged

/-! ## §2. Loops. -/

def allFrom (test : Nat → EqualsM Bool) : (remaining i : Nat) → EqualsM Bool
  | 0, _ => return true
  | remaining + 1, i => do
      if ← test i then allFrom test remaining (i + 1) else return false

def compareSequence (size : Nat) (array : Addr) (size' : Nat) (array' : Addr)
    (test : Nat → EqualsM Bool) : EqualsM Bool :=
  if size ≠ size' then return false
  else if array = array' then return true
  else allFrom test size 0

/-- `_keyInBAlsoInA[j]`. -/
def readFlag (keyInBAlsoInA : List Bool) (j : Nat) : EqualsM Bool := do
  access .keyInBAlsoInA keyInBAlsoInA.length j
  return keyInBAlsoInA.getD j false

/-- `while (_keyInBAlsoInA[j] && (j < a->size)) j++;` -/
def skipUsed (size : Nat) (keyInBAlsoInA : List Bool) : (rounds j : Nat) → EqualsM Nat
  | 0, _ => throw .outOfRounds
  | rounds + 1, j => do
      if ← readFlag keyInBAlsoInA j then
        if j < size then skipUsed size keyInBAlsoInA rounds (j + 1) else return j
      else return j

/-- The loop `while (j < a->size)`. -/
def findEntry (size : Nat) (keyInBAlsoInA : List Bool) (keyEq valueEq : Nat → EqualsM Bool) :
    (rounds j : Nat) → EqualsM (Option (Nat × List Bool))
  | 0, _ => throw .outOfRounds
  | rounds + 1, j =>
      if j < size then do
        let j ← skipUsed size keyInBAlsoInA (size + 1) j
        access .keys size j
        if ← keyEq j then do
          access .keyInBAlsoInA keyInBAlsoInA.length j
          access .values size j
          if ← valueEq j then return some (j, keyInBAlsoInA.set j true) else return none
        else findEntry size keyInBAlsoInA keyEq valueEq rounds (j + 1)
      else return some (j, keyInBAlsoInA)

def entriesFrom (size : Nat) (keyEq valueEq : Nat → Nat → EqualsM Bool) :
    (remaining i : Nat) → List Bool → EqualsM Bool
  | 0, _, _ => return true
  | remaining + 1, i, keyInBAlsoInA => do
      match ← findEntry size keyInBAlsoInA (keyEq i) (valueEq i) (size + 1) 0 with
      | none => return false
      | some (j, keyInBAlsoInA) =>
          if j + 1 ≥ size then return false
          else entriesFrom size keyEq valueEq remaining (i + 1) keyInBAlsoInA

def compareEntries (size : Nat) (keys values : Addr) (size' : Nat) (keys' values' : Addr)
    (keyEq valueEq : Nat → Nat → EqualsM Bool) : EqualsM Bool :=
  if size ≠ size' then return false
  else if keys = keys' ∧ values = values' then return true
  else entriesFrom size keyEq valueEq size 0 (List.replicate size false)

/-! ## §3. The functions. -/

def comparePointers (a b : Addr) (type type' : Nat) (rest : EqualsM Bool) : EqualsM Bool :=
  if a = b then return true
  else if (a = 0) ≠ (b = 0) then return false
  else if type ≠ type' then return false
  else rest

def stdSwitch (m : Memory) (equals : Addr → Addr → EqualsM Bool) :
    StdNode → StdNode → EqualsM Bool
  | .kStdNull, .kStdNull | .kStdTrue, .kStdTrue | .kStdFalse, .kStdFalse => return true
  | .kStdInt32 x, .kStdInt32 y => return x = y
  | .kStdInt64 x, .kStdInt64 y => return x = y
  | .kStdLargeInt s, .kStdLargeInt s' | .kStdString s, .kStdString s' =>
      return m.string s = m.string s'
  | .kStdFloat64 x, .kStdFloat64 y => return Double.equal x y
  | .kStdUInt8Array n p, .kStdUInt8Array n' p' =>
      compareSequence n p n' p' fun i => return m.uint8 (p + 1 * i) = m.uint8 (p' + 1 * i)
  | .kStdInt32Array n p, .kStdInt32Array n' p' =>
      compareSequence n p n' p' fun i => return m.int32 (p + 4 * i) = m.int32 (p' + 4 * i)
  | .kStdInt64Array n p, .kStdInt64Array n' p' =>
      compareSequence n p n' p' fun i => return m.int64 (p + 8 * i) = m.int64 (p' + 8 * i)
  | .kStdFloat64Array n p, .kStdFloat64Array n' p' =>
      compareSequence n p n' p' fun i =>
        return Double.equal (m.float64 (p + 8 * i)) (m.float64 (p' + 8 * i))
  | .kStdList n p, .kStdList n' p' =>
      compareSequence n p n' p' fun i => equals (p + valueSize * i) (p' + valueSize * i)
  | .kStdMap n k v, .kStdMap n' k' v' =>
      compareEntries n k v n' k' v'
        (fun i j => equals (k + valueSize * i) (k' + valueSize * j))
        (fun i j => equals (v + valueSize * i) (v' + valueSize * j))
  | _, _ => return false

/-- `stdvalue_equals`. -/
def stdvalueEquals (m : Memory) : Nat → Addr → Addr → EqualsM Bool
  | 0, _, _ => throw .outOfFuel
  | fuel + 1, a, b =>
      comparePointers a b (m.stdValue a).type (m.stdValue b).type
        (stdSwitch m (stdvalueEquals m fuel) (m.stdValue a) (m.stdValue b))

def jsonSwitch (m : Memory) (equals : Addr → Addr → EqualsM Bool) :
    JsonNode → JsonNode → EqualsM Bool
  | .kJsonNull, .kJsonNull | .kJsonTrue, .kJsonTrue | .kJsonFalse, .kJsonFalse => return true
  | .kJsonNumber x, .kJsonNumber y => return Double.equal x y
  | .kJsonString s, .kJsonString s' => return m.string s = m.string s'
  | .kJsonArray n p, .kJsonArray n' p' =>
      compareSequence n p n' p' fun i => equals (p + valueSize * i) (p' + valueSize * i)
  | .kJsonObject n k v, .kJsonObject n' k' v' =>
      compareEntries n k v n' k' v'
        (fun i j =>
          return m.string (m.pointer (k + 8 * i)) = m.string (m.pointer (k' + 8 * j)))
        (fun i j => equals (v + valueSize * i) (v' + valueSize * j))
  | _, _ => return false

/-- `jsvalue_equals`. -/
def jsvalueEquals (m : Memory) : Nat → Addr → Addr → EqualsM Bool
  | 0, _, _ => throw .outOfFuel
  | fuel + 1, a, b =>
      comparePointers a b (m.jsonValue a).type (m.jsonValue b).type
        (jsonSwitch m (jsvalueEquals m fuel) (m.jsonValue a) (m.jsonValue b))

end Logged

/-! ## §4. The loops. -/

/-- Every access was inside its table. -/
def Inside (log : List Access) : Prop := ∀ x ∈ log, x.index < x.size

/-- The comparison is the one without a log; it stays inside, and only the nesting may stop it. -/
abbrev FollowsInside {α : Type} (P : α → Prop) (x : EqualsM α) (y : Option α) : Prop :=
  Follows Inside (· = .outOfFuel) P x y

/-- The flags while the search goes on: the last one is not set. -/
structure Searching (size : Nat) (keyInBAlsoInA : List Bool) : Prop where
  length : keyInBAlsoInA.length = size
  last : keyInBAlsoInA.getLast? = some false

theorem searching_start (size : Nat) : Searching (size + 1) (List.replicate (size + 1) false) :=
  ⟨List.length_replicate, by rw [List.getLast?_replicate]; rfl⟩

/-- An entry that is used is not the last one. -/
theorem Searching.set {size j : Nat} {flags : List Bool} (h : Searching size flags)
    (hj : j + 1 < size) : Searching size (flags.set j true) :=
  ⟨by rw [List.length_set, h.length], by rw [getLast?_set (by rw [h.length]; exact hj), h.last]⟩

/-- A flag that is set has one behind it. -/
theorem Searching.succ_lt {size j : Nat} {flags : List Bool} (h : Searching size flags)
    (hj : flags[j]? = some true) : j + 1 < size := by
  obtain ⟨hlt, -⟩ := List.getElem?_eq_some_iff.mp hj
  have hlen := h.length
  by_contra hend
  have hlast := h.last
  rw [List.getLast?_eq_getElem?, show flags.length - 1 = j by omega, hj] at hlast
  exact absurd hlast (by decide)

namespace Logged

theorem access_follows {α : Type} {P : α → Prop} {table : Table} {size index : Nat}
    {f : Unit → EqualsM α} {y : Option α} (hlt : index < size) (hf : FollowsInside P (f ()) y) :
    FollowsInside P (access table size index >>= f) y := by
  refine follows_step (a := ()) (fun log hlog => ⟨⟨table, index, size⟩ :: log, ?_, ?_⟩) hf
  · unfold access
    rw [run_modify_bind, if_pos hlt, EStateM.run_pure]
  · exact List.forall_mem_cons.mpr ⟨hlt, hlog⟩

variable {size : Nat} {flags : List Bool}

/-- **The skip** ends at a flag that is not set. -/
theorem skipUsed_follows (h : Searching size flags) : ∀ rounds j, j < size → size < rounds + j →
    FollowsInside (fun k => j ≤ k ∧ k < size) (skipUsed size flags rounds j)
      (PlatformChannel.skipUsed flags j)
  | 0, j, hj, hrounds => by omega
  | rounds + 1, j, hj, hrounds => by
      have hlt : j < flags.length := by rw [h.length]; exact hj
      have hdrop : flags.drop j = flags[j] :: flags.drop (j + 1) := List.drop_eq_getElem_cons hlt
      unfold skipUsed readFlag PlatformChannel.skipUsed
      rw [bind_assoc, hdrop]
      refine access_follows hlt ?_
      rw [pure_bind, List.getD_eq_getElem?_getD, List.getElem?_eq_getElem hlt, Option.getD_some]
      cases hflag : flags[j] with
      | false => exact follows_pure ⟨Nat.le_refl j, hj⟩
      | true =>
          -- the flag is not the last one, so the next one is read inside as well
          have hnext : j + 1 < size :=
            h.succ_lt (List.getElem?_eq_some_iff.mpr ⟨hlt, hflag⟩)
          rw [if_pos rfl, if_pos hj, skipFlags]
          refine (skipUsed_follows h rounds (j + 1) hnext (by omega)).mono fun k hk => ?_
          exact ⟨Nat.le_of_succ_le hk.1, hk.2⟩

/-- **The search**: as long as it has to go on, the last flag is not set. -/
theorem findEntry_follows {keyEq valueEq : Nat → EqualsM Bool} {keyEq' valueEq' : Nat → Option Bool}
    (h : Searching size flags)
    (hkey : ∀ j < size, FollowsInside (fun _ => True) (keyEq j) (keyEq' j))
    (hvalue : ∀ j < size, FollowsInside (fun _ => True) (valueEq j) (valueEq' j)) :
    ∀ rounds j, j ≤ size → size < rounds + j →
      FollowsInside (fun r => ∀ j' flags', r = some (j', flags') → j' + 1 < size →
          Searching size flags')
        (findEntry size flags keyEq valueEq rounds j)
        (PlatformChannel.findEntry size flags keyEq' valueEq' rounds j)
  | 0, j, hj, hrounds => by omega
  | rounds + 1, j, hj, hrounds => by
      unfold findEntry PlatformChannel.findEntry
      split
      next hlt =>
        refine (skipUsed_follows h (size + 1) j hlt (by omega)).bind ?_
        rintro k ⟨hle, hk⟩
        refine access_follows hk ((hkey k hk).bind fun key _ => ?_)
        cases key with
        | false =>
            exact findEntry_follows h hkey hvalue rounds (k + 1) hk (by omega)
        | true =>
            -- the flag is written, and the values are compared
            refine access_follows (by rw [h.length]; exact hk) (access_follows hk ?_)
            refine (hvalue k hk).bind fun value _ => ?_
            cases value with
            | false => exact follows_pure fun j' flags' heq => (Option.some_ne_none _ heq.symm).elim
            | true =>
                refine follows_pure fun j' flags' heq hj' => ?_
                cases heq
                exact h.set hj'
      next hend =>
        refine follows_pure fun j' flags' heq hj' => ?_
        cases heq
        exact h

theorem entriesFrom_follows {keyEq valueEq : Nat → Nat → EqualsM Bool}
    {keyEq' valueEq' : Nat → Nat → Option Bool}
    (hkey : ∀ i, ∀ j < size, FollowsInside (fun _ => True) (keyEq i j) (keyEq' i j))
    (hvalue : ∀ i, ∀ j < size, FollowsInside (fun _ => True) (valueEq i j) (valueEq' i j)) :
    ∀ remaining i flags, Searching size flags →
      FollowsInside (fun _ => True) (entriesFrom size keyEq valueEq remaining i flags)
        (PlatformChannel.entriesFrom size keyEq' valueEq' remaining i flags)
  | 0, _, _, _ => follows_pure trivial
  | remaining + 1, i, flags, h => by
      refine (findEntry_follows h (hkey i) (hvalue i) (size + 1) 0 (Nat.zero_le _)
        (Nat.lt_succ_self _)).bind fun r hr => ?_
      cases r with
      | none => exact follows_pure trivial
      | some found =>
          obtain ⟨j, flags'⟩ := found
          dsimp only
          split
          next hlast => exact follows_pure trivial
          next hnext =>
            exact entriesFrom_follows hkey hvalue remaining (i + 1) flags'
              (hr j flags' rfl (Nat.lt_of_not_ge hnext))

/-- **Maps**, for any way to compare keys and values. -/
theorem compareEntries_follows {size' : Nat} {keys values keys' values' : Addr}
    {keyEq valueEq : Nat → Nat → EqualsM Bool} {keyEq' valueEq' : Nat → Nat → Option Bool}
    (hkey : ∀ i, ∀ j < size, FollowsInside (fun _ => True) (keyEq i j) (keyEq' i j))
    (hvalue : ∀ i, ∀ j < size, FollowsInside (fun _ => True) (valueEq i j) (valueEq' i j)) :
    FollowsInside (fun _ => True)
      (compareEntries size keys values size' keys' values' keyEq valueEq)
      (PlatformChannel.compareEntries size keys values size' keys' values' keyEq' valueEq') := by
  unfold compareEntries PlatformChannel.compareEntries
  split
  · exact follows_pure trivial
  · split
    · exact follows_pure trivial
    · cases size with
      | zero => exact follows_pure trivial
      | succ size =>
          exact entriesFrom_follows hkey hvalue (size + 1) 0 _ (searching_start size)

theorem allFrom_follows {test : Nat → EqualsM Bool} {test' : Nat → Option Bool}
    (h : ∀ i, FollowsInside (fun _ => True) (test i) (test' i)) : ∀ remaining i,
    FollowsInside (fun _ => True) (allFrom test remaining i)
      (PlatformChannel.allFrom test' remaining i)
  | 0, _ => follows_pure trivial
  | remaining + 1, i => by
      refine (h i).bind fun r _ => ?_
      cases r with
      | false => exact follows_pure trivial
      | true => exact allFrom_follows h remaining (i + 1)

theorem compareSequence_follows {size' : Nat} {array array' : Addr} {test : Nat → EqualsM Bool}
    {test' : Nat → Option Bool} (h : ∀ i, FollowsInside (fun _ => True) (test i) (test' i)) :
    FollowsInside (fun _ => True) (compareSequence size array size' array' test)
      (PlatformChannel.compareSequence size array size' array' test') := by
  unfold compareSequence PlatformChannel.compareSequence
  split
  · exact follows_pure trivial
  · split
    · exact follows_pure trivial
    · exact allFrom_follows h size 0

/-! ## §5. The functions. -/

theorem comparePointers_follows {a b : Addr} {type type' : Nat} {rest : EqualsM Bool}
    {rest' : Option Bool} (h : FollowsInside (fun _ => True) rest rest') :
    FollowsInside (fun _ => True) (comparePointers a b type type' rest)
      (PlatformChannel.comparePointers a b type type' rest') := by
  unfold comparePointers PlatformChannel.comparePointers
  split
  · exact follows_pure trivial
  · split
    · exact follows_pure trivial
    · split
      · exact follows_pure trivial
      · exact h

variable {m : Memory} {equals : Addr → Addr → EqualsM Bool} {equals' : Addr → Addr → Option Bool}

theorem stdSwitch_follows (h : ∀ a b, FollowsInside (fun _ => True) (equals a b) (equals' a b))
    (x y : StdNode) : FollowsInside (fun _ => True) (stdSwitch m equals x y)
      (PlatformChannel.stdSwitch m equals' x y) := by
  unfold stdSwitch
  split
  case h_9 | h_10 | h_11 | h_12 => exact compareSequence_follows fun i => follows_pure trivial
  case h_13 => exact compareSequence_follows fun i => h _ _
  case h_14 => exact compareEntries_follows (fun i j _ => h _ _) fun i j _ => h _ _
  case h_15 =>
    rw [PlatformChannel.stdSwitch]
    · exact follows_pure trivial
    all_goals assumption
  all_goals exact follows_pure trivial

theorem jsonSwitch_follows (h : ∀ a b, FollowsInside (fun _ => True) (equals a b) (equals' a b))
    (x y : JsonNode) : FollowsInside (fun _ => True) (jsonSwitch m equals x y)
      (PlatformChannel.jsonSwitch m equals' x y) := by
  unfold jsonSwitch
  split
  case h_6 => exact compareSequence_follows fun i => h _ _
  case h_7 => exact compareEntries_follows (fun i j _ => follows_pure trivial) fun i j _ => h _ _
  case h_8 =>
    rw [PlatformChannel.jsonSwitch]
    · exact follows_pure trivial
    all_goals assumption
  all_goals exact follows_pure trivial

/-- **`stdvalue_equals`** reads inside the tables. -/
theorem stdvalueEquals_follows (m : Memory) : ∀ fuel (a b : Addr), FollowsInside (fun _ => True)
    (stdvalueEquals m fuel a b) (PlatformChannel.stdvalueEquals m fuel a b)
  | 0, _, _ => follows_throw rfl
  | fuel + 1, _, _ =>
      comparePointers_follows (stdSwitch_follows (stdvalueEquals_follows m fuel) _ _)

/-- **`jsvalue_equals`** reads inside the tables. -/
theorem jsvalueEquals_follows (m : Memory) : ∀ fuel (a b : Addr), FollowsInside (fun _ => True)
    (jsvalueEquals m fuel a b) (PlatformChannel.jsvalueEquals m fuel a b)
  | 0, _, _ => follows_throw rfl
  | fuel + 1, _, _ =>
      comparePointers_follows (jsonSwitch_follows (jsvalueEquals_follows m fuel) _ _)

end Logged

/-! ## §6. Finite trees. -/

section Finite

variable {m : Memory} {a b n n' : Nat} {keys values keys' values' : Addr}

theorem comparePointers_some {type type' : Nat} {rest : Option Bool} (h : ∃ r, rest = some r) :
    ∃ r, comparePointers a b type type' rest = some r := by
  unfold comparePointers
  split
  · exact ⟨_, rfl⟩
  · split
    · exact ⟨_, rfl⟩
    · split
      · exact ⟨_, rfl⟩
      · exact h

theorem compareSequence_some {array array' : Addr} {test : Nat → Option Bool}
    (h : ∀ i < n, ∃ r, test i = some r) :
    ∃ r, compareSequence n array n' array' test = some r := by
  have hdecides : n = n' → ∀ i < n, Decides (test i) (test i = some true) := by
    intro _ i hi
    obtain ⟨r, hr⟩ := h i hi
    rw [hr, Option.some.injEq]
    exact decides_some Iff.rfl
  have hcompare : Decides (compareSequence n array n' array' test) _ :=
    compareSequence_decides hdecides
  obtain ⟨r, hr, -⟩ := hcompare
  exact ⟨r, hr⟩

theorem compareEntries_some {keyEq valueEq : Nat → Nat → Option Bool}
    (hkey : ∀ i < n, ∀ j, ∃ r, keyEq i j = some r)
    (hvalue : ∀ i < n, ∀ j, ∃ r, valueEq i j = some r) :
    ∃ r, compareEntries n keys values n' keys' values' keyEq valueEq = some r := by
  have hdecides : Decides (compareEntries n keys values n' keys' values' keyEq valueEq) _ :=
    compareEntries_decides (fun _ i hi j _ => hkey i hi j) fun _ i hi j _ => hvalue i hi j
  obtain ⟨r, hr, -⟩ := hdecides
  exact ⟨r, hr⟩

/-- A value that has a result with every other one. -/
def HasResult (equals : Addr → Addr → Option Bool) (a : Addr) : Prop :=
  ∀ b, ∃ r, equals a b = some r

theorem stdSwitch_some {equals : Addr → Addr → Option Bool} {x : StdNode}
    (hlist : ∀ n p, x = .kStdList n p → ∀ i < n, HasResult equals (p + valueSize * i))
    (hmap : ∀ n k v, x = .kStdMap n k v → ∀ i < n,
      HasResult equals (k + valueSize * i) ∧ HasResult equals (v + valueSize * i)) (y : StdNode) :
    ∃ r, stdSwitch m equals x y = some r := by
  unfold stdSwitch
  split
  case h_9 | h_10 | h_11 | h_12 => exact compareSequence_some fun i _ => ⟨_, rfl⟩
  case h_13 => exact compareSequence_some fun i hi => hlist _ _ rfl i hi _
  case h_14 =>
    exact compareEntries_some (fun i hi j => (hmap _ _ _ rfl i hi).1 _)
      fun i hi j => (hmap _ _ _ rfl i hi).2 _
  all_goals exact ⟨_, rfl⟩

theorem jsonSwitch_some {equals : Addr → Addr → Option Bool} {x : JsonNode}
    (harray : ∀ n p, x = .kJsonArray n p → ∀ i < n, HasResult equals (p + valueSize * i))
    (hobject : ∀ n k v, x = .kJsonObject n k v → ∀ i < n, HasResult equals (v + valueSize * i))
    (y : JsonNode) : ∃ r, jsonSwitch m equals x y = some r := by
  unfold jsonSwitch
  split
  case h_6 => exact compareSequence_some fun i hi => harray _ _ rfl i hi _
  case h_7 =>
    exact compareEntries_some (fun _ _ _ => ⟨_, rfl⟩) fun i hi j => hobject _ _ _ rfl i hi _
  all_goals exact ⟨_, rfl⟩

/-- From `n` on the fuel is enough wherever the tree is. -/
def StdEnds (m : Memory) (t : StdValue) (n : Nat) : Prop :=
  ∀ fuel, n ≤ fuel → ∀ a, StdShows m t a → HasResult (stdvalueEquals m fuel) a

theorem StdEnds.mono {t : StdValue} (h : StdEnds m t n) (hle : n ≤ n') : StdEnds m t n' :=
  fun fuel hfuel => h fuel (hle.trans hfuel)

theorem stdEnds_of_switch {t : StdValue} (h : ∀ fuel, n ≤ fuel → ∀ a, StdShows m t a → ∀ y,
    ∃ r, stdSwitch m (stdvalueEquals m fuel) (m.stdValue a) y = some r) : StdEnds m t (n + 1) := by
  intro fuel hfuel a ht b
  obtain ⟨fuel, rfl⟩ : ∃ fuel', fuel = fuel' + 1 := ⟨fuel - 1, by omega⟩
  exact comparePointers_some (h fuel (Nat.le_of_succ_le_succ hfuel) a ht _)

/-- **Every tree of the standard codec** has an end. -/
theorem exists_stdEnds (m : Memory) (t : StdValue) : ∃ n, StdEnds m t n := by
  induction t using StdTree.induct with
  | unknown => exact ⟨0, fun _ _ _ ht => ht.elim⟩
  | kStdNull | kStdTrue | kStdFalse | kStdInt32 | kStdInt64 | kStdFloat64 =>
      refine ⟨0 + 1, stdEnds_of_switch fun fuel _ a ht => ?_⟩
      rw [ht.2]
      exact stdSwitch_some nofun nofun
  | kStdLargeInt | kStdString | kStdUInt8Array | kStdInt32Array | kStdInt64Array
  | kStdFloat64Array =>
      refine ⟨0 + 1, stdEnds_of_switch fun fuel _ a ht => ?_⟩
      obtain ⟨-, p, ha, -⟩ := ht
      rw [ha]
      exact stdSwitch_some nofun nofun
  | kStdList xs ih =>
      obtain ⟨n, hn⟩ := exists_bound (StdEnds m) (fun _ _ _ => StdEnds.mono) xs ih
      refine ⟨n + 1, stdEnds_of_switch fun fuel hfuel a ht => ?_⟩
      obtain ⟨-, p, ha, hxs⟩ := ht
      rw [ha]
      refine stdSwitch_some (fun n' p' hnode i hi => ?_) nofun
      cases hnode
      exact hn _ (List.getElem_mem hi) fuel hfuel _ (hxs.get (List.getElem?_eq_getElem hi))
  | kStdMap es ih =>
      obtain ⟨n, hn⟩ := exists_bound_pairs (StdEnds m) (fun _ _ _ => StdEnds.mono) es ih
      refine ⟨n + 1, stdEnds_of_switch fun fuel hfuel a ht => ?_⟩
      obtain ⟨-, k, v, ha, hes⟩ := ht
      rw [ha]
      refine stdSwitch_some nofun fun n' k' v' hnode i hi => ?_
      cases hnode
      have hshow := hes.get (List.getElem?_eq_getElem hi)
      obtain ⟨hkey, hvalue⟩ := hn _ (List.getElem_mem hi)
      exact ⟨hkey fuel hfuel _ hshow.1, hvalue fuel hfuel _ hshow.2⟩

/-- From `n` on the fuel is enough wherever the tree is. -/
def JsonEnds (m : Memory) (t : JsonValue) (n : Nat) : Prop :=
  ∀ fuel, n ≤ fuel → ∀ a, JsonShows m t a → HasResult (jsvalueEquals m fuel) a

theorem JsonEnds.mono {t : JsonValue} (h : JsonEnds m t n) (hle : n ≤ n') : JsonEnds m t n' :=
  fun fuel hfuel => h fuel (hle.trans hfuel)

theorem jsonEnds_of_switch {t : JsonValue} (h : ∀ fuel, n ≤ fuel → ∀ a, JsonShows m t a → ∀ y,
    ∃ r, jsonSwitch m (jsvalueEquals m fuel) (m.jsonValue a) y = some r) :
    JsonEnds m t (n + 1) := by
  intro fuel hfuel a ht b
  obtain ⟨fuel, rfl⟩ : ∃ fuel', fuel = fuel' + 1 := ⟨fuel - 1, by omega⟩
  exact comparePointers_some (h fuel (Nat.le_of_succ_le_succ hfuel) a ht _)

/-- **Every JSON tree** has an end. -/
theorem exists_jsonEnds (m : Memory) (t : JsonValue) : ∃ n, JsonEnds m t n := by
  induction t with
  | kJsonNull | kJsonTrue | kJsonFalse | kJsonNumber =>
      refine ⟨0 + 1, jsonEnds_of_switch fun fuel _ a ht => ?_⟩
      rw [ht.2]
      exact jsonSwitch_some nofun nofun
  | kJsonString =>
      refine ⟨0 + 1, jsonEnds_of_switch fun fuel _ a ht => ?_⟩
      obtain ⟨-, p, ha, -⟩ := ht
      rw [ha]
      exact jsonSwitch_some nofun nofun
  | kJsonArray xs ih =>
      obtain ⟨n, hn⟩ := exists_bound (JsonEnds m) (fun _ _ _ => JsonEnds.mono) xs ih
      refine ⟨n + 1, jsonEnds_of_switch fun fuel hfuel a ht => ?_⟩
      obtain ⟨-, p, ha, hxs⟩ := ht
      rw [ha]
      refine jsonSwitch_some (fun n' p' hnode i hi => ?_) nofun
      cases hnode
      exact hn _ (List.getElem_mem hi) fuel hfuel _ (hxs.get (List.getElem?_eq_getElem hi))
  | kJsonObject es ih =>
      obtain ⟨n, hn⟩ := exists_bound (fun (e : CString × JsonValue) n => JsonEnds m e.2 n)
        (fun _ _ _ => JsonEnds.mono) es ih
      refine ⟨n + 1, jsonEnds_of_switch fun fuel hfuel a ht => ?_⟩
      obtain ⟨-, k, v, ha, hes⟩ := ht
      rw [ha]
      refine jsonSwitch_some nofun fun n' k' v' hnode i hi => ?_
      cases hnode
      have hshow := hes.get (List.getElem?_eq_getElem hi)
      exact hn _ (List.getElem_mem hi) fuel hfuel _ hshow.2

end Finite

/-! ## §7. Both functions. -/

/-- **What is read is inside the tables**, whatever there is in memory, and every loop comes to its
    end; so does the comparison of a finite tree. -/
theorem equals_reads_inside (m : Memory) (a b : Addr) :
    (∀ fuel,
      EndsIn Inside (fun stop log => stop = .outOfFuel ∧ Inside log)
          ((Logged.stdvalueEquals m fuel a b).run [])
        ∧ EndsIn Inside (fun stop log => stop = .outOfFuel ∧ Inside log)
          ((Logged.jsvalueEquals m fuel a b).run []))
    ∧ (∀ t, StdShows m t a →
      ∃ n, ∀ fuel, n ≤ fuel → ∃ r log, (Logged.stdvalueEquals m fuel a b).run [] = .ok r log)
    ∧ (∀ t, JsonShows m t a →
      ∃ n, ∀ fuel, n ≤ fuel → ∃ r log, (Logged.jsvalueEquals m fuel a b).run [] = .ok r log) := by
  have hstart : Inside [] := nofun
  refine ⟨fun fuel => ⟨?_, ?_⟩, ?_, ?_⟩
  · exact (Logged.stdvalueEquals_follows m fuel a b).endsIn hstart
  · exact (Logged.jsvalueEquals_follows m fuel a b).endsIn hstart
  · intro t ht
    obtain ⟨n, hn⟩ := exists_stdEnds m t
    refine ⟨n, fun fuel hfuel => ?_⟩
    obtain ⟨r, hr⟩ := hn fuel hfuel a ht b
    exact ⟨r, ((hr ▸ Logged.stdvalueEquals_follows m fuel a b).of_some hstart)⟩
  · intro t ht
    obtain ⟨n, hn⟩ := exists_jsonEnds m t
    refine ⟨n, fun fuel hfuel => ?_⟩
    obtain ⟨r, hr⟩ := hn fuel hfuel a ht b
    exact ⟨r, ((hr ▸ Logged.jsvalueEquals_follows m fuel a b).of_some hstart)⟩

/-- Maps (objects) with two entries that have one key, at 100 and at 132. -/
def keyTwice : Memory where
  stdValue p :=
    if p = 100 then .kStdMap 2 200 300 else if p = 132 then .kStdMap 2 400 500 else .kStdInt32 7
  jsonValue p :=
    if p = 100 then .kJsonObject 2 200 300 else if p = 132 then .kJsonObject 2 400 500
    else .kJsonTrue
  pointer _ := 600
  string _ := CString.ofLiteral "a"
  uint8 _ := 0
  int32 _ := 0
  int64 _ := 0
  float64 _ := 0

theorem equals_reads_inside_keyTwice :
    (∃ n, ∀ fuel, n ≤ fuel →
      ∃ r log, (Logged.stdvalueEquals keyTwice fuel 100 132).run [] = .ok r log)
    ∧ ∃ n, ∀ fuel, n ≤ fuel →
      ∃ r log, (Logged.jsvalueEquals keyTwice fuel 100 132).run [] = .ok r log := by
  constructor
  · refine (equals_reads_inside keyTwice 100 132).2.1
      (.kStdMap [(.kStdInt32 7, .kStdInt32 7), (.kStdInt32 7, .kStdInt32 7)]) ?_
    exact ⟨by decide, 200, 300, rfl, ⟨by decide, rfl⟩, ⟨by decide, rfl⟩, ⟨by decide, rfl⟩,
      ⟨by decide, rfl⟩, trivial⟩
  · refine (equals_reads_inside keyTwice 100 132).2.2
      (.kJsonObject [(CString.ofLiteral "a", .kJsonTrue), (CString.ofLiteral "a", .kJsonTrue)]) ?_
    exact ⟨by decide, 200, 300, rfl, rfl, ⟨by decide, rfl⟩, rfl, ⟨by decide, rfl⟩, trivial⟩

-- the flag of the first entry is skipped the second time
example : (Logged.stdvalueEquals keyTwice 2 100 132).run [] = .ok false
    [⟨.values, 1, 2⟩, ⟨.keyInBAlsoInA, 1, 2⟩, ⟨.keys, 1, 2⟩, ⟨.keyInBAlsoInA, 1, 2⟩,
      ⟨.keyInBAlsoInA, 0, 2⟩, ⟨.values, 0, 2⟩, ⟨.keyInBAlsoInA, 0, 2⟩, ⟨.keys, 0, 2⟩,
      ⟨.keyInBAlsoInA, 0, 2⟩] := rfl

end FlutterWlroots.PlatformChannel
