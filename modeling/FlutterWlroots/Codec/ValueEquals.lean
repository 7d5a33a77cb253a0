/-
  FlutterWlroots.Codec.ValueEquals — equality of values in platform_channel.c.

  `stdvalue_equals` and `jsvalue_equals` compare two values by their addresses: what is at the same
  address is equal, and so are containers with the same members' address.  Here a memory says what is
  at an address, so that trees can share parts in any way.

    • `compareSequence` — lists and arrays: the members one after the other,
    • `compareEntries`  — maps and objects: for each entry of the first one, a search among those
                          entries of the second one that are not yet used,
    • `stdvalueEquals`, `jsvalueEquals` — the functions; one unit of fuel for each nesting level.

  Nothing is said about accesses outside a table: there is no result (`none`).
-/
import FlutterWlroots.Codec.JsonValue
import FlutterWlroots.Lib.Double

namespace FlutterWlroots.PlatformChannel

open Lib FlutterWlroots.Codec

/-! ## §1. Memory. -/

/-- An address; 0 is NULL. -/
abbrev Addr := Nat

/-- `struct std_value` as it is in memory. -/
inductive StdNode where
  | kStdNull
  | kStdTrue
  | kStdFalse
  | kStdInt32 (int32_value : BitVec 32)
  | kStdInt64 (int64_value : BitVec 64)
  | kStdLargeInt (string_value : Addr)
  | kStdFloat64 (float64_value : BitVec 64)
  | kStdString (string_value : Addr)
  | kStdUInt8Array (size : Nat) (uint8array : Addr)
  | kStdInt32Array (size : Nat) (int32array : Addr)
  | kStdInt64Array (size : Nat) (int64array : Addr)
  | kStdFloat64Array (size : Nat) (float64array : Addr)
  | kStdList (size : Nat) (list : Addr)
  | kStdMap (size : Nat) (keys values : Addr)
  /-- A `type` that is no enumerator. -/
  | unknown (type : Nat)
  deriving DecidableEq, Repr

/-- `struct json_value` as it is in memory. -/
inductive JsonNode where
  | kJsonNull
  | kJsonTrue
  | kJsonFalse
  | kJsonNumber (number_value : BitVec 64)
  | kJsonString (string_value : Addr)
  | kJsonArray (size : Nat) (array : Addr)
  | kJsonObject (size : Nat) (keys values : Addr)
  | unknown (type : Nat)
  deriving DecidableEq, Repr

/-- `type`, as `enum std_value_type` numbers it. -/
def StdNode.type : StdNode → Nat
  | .kStdNull => 0
  | .kStdTrue => 1
  | .kStdFalse => 2
  | .kStdInt32 _ => 3
  | .kStdInt64 _ => 4
  | .kStdLargeInt _ => 5
  | .kStdFloat64 _ => 6
  | .kStdString _ => 7
  | .kStdUInt8Array _ _ => 8
  | .kStdInt32Array _ _ => 9
  | .kStdInt64Array _ _ => 10
  | .kStdFloat64Array _ _ => 11
  | .kStdList _ _ => 12
  | .kStdMap _ _ _ => 13
  | .unknown type => type

/-- `type`, as `enum json_value_type` numbers it. -/
def JsonNode.type : JsonNode → Nat
  | .kJsonNull => 0
  | .kJsonTrue => 1
  | .kJsonFalse => 2
  | .kJsonNumber _ => 3
  | .kJsonString _ => 4
  | .kJsonArray _ _ => 5
  | .kJsonObject _ _ _ => 6
  | .unknown type => type

/-- What is read at an address, depending on the type it is read with. -/
structure Memory where
  stdValue : Addr → StdNode
  jsonValue : Addr → JsonNode
  /-- A `char *`. -/
  pointer : Addr → Addr
  /-- A C string. -/
  string : Addr → CString
  uint8 : Addr → UInt8
  int32 : Addr → BitVec 32
  int64 : Addr → BitVec 64
  /-- The bits of a `double`. -/
  float64 : Addr → BitVec 64

/-- `sizeof(struct std_value)` and `sizeof(struct json_value)`. -/
abbrev valueSize : Nat := 32

/-! ## §2. Loops. -/

/-- `for (int i = 0; i < size; i++) if (!test(i)) return false; return true;`, for the last
    `remaining` values of `i`. -/
def allFrom (test : Nat → Option Bool) : (remaining i : Nat) → Option Bool
  | 0, _ => some true
  | remaining + 1, i => do
      if ← test i then allFrom test remaining (i + 1) else return false

/-- The array cases: `array` and `array'` are the addresses of the members. -/
def compareSequence (size : Nat) (array : Addr) (size' : Nat) (array' : Addr)
    (test : Nat → Option Bool) : Option Bool :=
  if size ≠ size' then some false
  else if array = array' then some true
  else allFrom test size 0

/-- The flags from `j` on; the flag behind the last one is read as well. -/
def skipFlags : List Bool → Nat → Option Nat
  | [], _ => none
  | true :: flags, j => skipFlags flags (j + 1)
  | false :: _, j => some j

/-- `while (_keyInBAlsoInA[j] && (j < a->size)) j++;` -/
def skipUsed (keyInBAlsoInA : List Bool) (j : Nat) : Option Nat :=
  skipFlags (keyInBAlsoInA.drop j) j

/-- The loop `while (j < a->size)`: the `j` it ends with and the flags, or `some none` for
    `return false`.  There is a round for each `j` at most. -/
def findEntry (size : Nat) (keyInBAlsoInA : List Bool) (keyEq valueEq : Nat → Option Bool) :
    (rounds j : Nat) → Option (Option (Nat × List Bool))
  | 0, _ => none
  | rounds + 1, j =>
      if j < size then do
        let j ← skipUsed keyInBAlsoInA j
        if ← keyEq j then
          if ← valueEq j then return some (j, keyInBAlsoInA.set j true) else return none
        else findEntry size keyInBAlsoInA keyEq valueEq rounds (j + 1)
      else return some (j, keyInBAlsoInA)

/-- The loop over the entries of the first map, for the last `remaining` values of `i`. -/
def entriesFrom (size : Nat) (keyEq valueEq : Nat → Nat → Option Bool) :
    (remaining i : Nat) → List Bool → Option Bool
  | 0, _, _ => some true
  | remaining + 1, i, keyInBAlsoInA => do
      match ← findEntry size keyInBAlsoInA (keyEq i) (valueEq i) (size + 1) 0 with
      | none => return false
      | some (j, keyInBAlsoInA) =>
          -- "we did not find a->keys[i] in b"
          if j + 1 ≥ size then return false
          else entriesFrom size keyEq valueEq remaining (i + 1) keyInBAlsoInA

/-- The map cases. -/
def compareEntries (size : Nat) (keys values : Addr) (size' : Nat) (keys' values' : Addr)
    (keyEq valueEq : Nat → Nat → Option Bool) : Option Bool :=
  if size ≠ size' then some false
  else if keys = keys' ∧ values = values' then some true
  else entriesFrom size keyEq valueEq size 0 (List.replicate size false)

/-! ## §3. The functions. -/

/-- What both functions start with: the pointers, and then the types. -/
def comparePointers (a b : Addr) (type type' : Nat) (rest : Option Bool) : Option Bool :=
  if a = b then some true
  else if (a = 0) ≠ (b = 0) then some false
  else if type ≠ type' then some false
  else rest

/-- The `switch` of `stdvalue_equals`; `equals` is the function itself. -/
def stdSwitch (m : Memory) (equals : Addr → Addr → Option Bool) : StdNode → StdNode → Option Bool
  | .kStdNull, .kStdNull | .kStdTrue, .kStdTrue | .kStdFalse, .kStdFalse => some true
  | .kStdInt32 x, .kStdInt32 y => some (x = y)
  | .kStdInt64 x, .kStdInt64 y => some (x = y)
  | .kStdLargeInt s, .kStdLargeInt s' | .kStdString s, .kStdString s' =>
      some (m.string s = m.string s')
  | .kStdFloat64 x, .kStdFloat64 y => some (Double.equal x y)
  | .kStdUInt8Array n p, .kStdUInt8Array n' p' =>
      compareSequence n p n' p' fun i => some (m.uint8 (p + 1 * i) = m.uint8 (p' + 1 * i))
  | .kStdInt32Array n p, .kStdInt32Array n' p' =>
      compareSequence n p n' p' fun i => some (m.int32 (p + 4 * i) = m.int32 (p' + 4 * i))
  | .kStdInt64Array n p, .kStdInt64Array n' p' =>
      compareSequence n p n' p' fun i => some (m.int64 (p + 8 * i) = m.int64 (p' + 8 * i))
  | .kStdFloat64Array n p, .kStdFloat64Array n' p' =>
      compareSequence n p n' p' fun i =>
        some (Double.equal (m.float64 (p + 8 * i)) (m.float64 (p' + 8 * i)))
  | .kStdList n p, .kStdList n' p' =>
      compareSequence n p n' p' fun i => equals (p + valueSize * i) (p' + valueSize * i)
  | .kStdMap n k v, .kStdMap n' k' v' =>
      compareEntries n k v n' k' v'
        (fun i j => equals (k + valueSize * i) (k' + valueSize * j))
        (fun i j => equals (v + valueSize * i) (v' + valueSize * j))
  -- no case for the type
  | _, _ => some false

/-- `stdvalue_equals`. -/
def stdvalueEquals (m : Memory) : Nat → Addr → Addr → Option Bool
  | 0, _, _ => none
  | fuel + 1, a, b =>
      comparePointers a b (m.stdValue a).type (m.stdValue b).type
        (stdSwitch m (stdvalueEquals m fuel) (m.stdValue a) (m.stdValue b))

/-- The `switch` of `jsvalue_equals`. -/
def jsonSwitch (m : Memory) (equals : Addr → Addr → Option Bool) : JsonNode → JsonNode → Option Bool
  | .kJsonNull, .kJsonNull | .kJsonTrue, .kJsonTrue | .kJsonFalse, .kJsonFalse => some true
  | .kJsonNumber x, .kJsonNumber y => some (Double.equal x y)
  | .kJsonString s, .kJsonString s' => some (m.string s = m.string s')
  | .kJsonArray n p, .kJsonArray n' p' =>
      compareSequence n p n' p' fun i => equals (p + valueSize * i) (p' + valueSize * i)
  | .kJsonObject n k v, .kJsonObject n' k' v' =>
      compareEntries n k v n' k' v'
        (fun i j => some (m.string (m.pointer (k + 8 * i)) = m.string (m.pointer (k' + 8 * j))))
        (fun i j => equals (v + valueSize * i) (v' + valueSize * j))
  | _, _ => some false

/-- `jsvalue_equals`. -/
def jsvalueEquals (m : Memory) : Nat → Addr → Addr → Option Bool
  | 0, _, _ => none
  | fuel + 1, a, b =>
      comparePointers a b (m.jsonValue a).type (m.jsonValue b).type
        (jsonSwitch m (jsvalueEquals m fuel) (m.jsonValue a) (m.jsonValue b))

end FlutterWlroots.PlatformChannel
