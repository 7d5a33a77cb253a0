/-
  FlutterWlroots.Codec.JsonValue — the values of the JSON codecs.

  `struct json_value` (platform_channel.h) is a tagged union of constants, numbers, C strings, arrays
  and objects.
-/
import FlutterWlroots.Codec.StdValue

namespace FlutterWlroots.Codec

/-- A C string literal of ASCII characters. -/
def CString.ofLiteral (literal : String) : CString :=
  CString.ofMemory (literal.toList.map fun c => UInt8.ofNat c.toNat)

/-- `struct json_value`, one constructor per `enum json_value_type`. -/
inductive JsonValue where
  | kJsonNull
  | kJsonTrue
  | kJsonFalse
  /-- A `double`, as its bits. -/
  | kJsonNumber (number_value : BitVec 64)
  | kJsonString (string_value : CString)
  | kJsonArray (array : List JsonValue)
  /-- `keys[i]` and `values[i]`, paired. -/
  | kJsonObject (entries : List (CString × JsonValue))

/-- Structural induction: arrays and objects from all their members. -/
@[induction_eliminator, elab_as_elim]
theorem JsonValue.induct {P : JsonValue → Prop}
    (kJsonNull : P .kJsonNull) (kJsonTrue : P .kJsonTrue) (kJsonFalse : P .kJsonFalse)
    (kJsonNumber : ∀ x, P (.kJsonNumber x)) (kJsonString : ∀ s, P (.kJsonString s))
    (kJsonArray : ∀ vs, (∀ v ∈ vs, P v) → P (.kJsonArray vs))
    (kJsonObject : ∀ es : List (CString × JsonValue), (∀ e ∈ es, P e.2) → P (.kJsonObject es))
    (v : JsonValue) : P v := by
  refine @JsonValue.rec P (fun vs => ∀ v ∈ vs, P v) (fun es => ∀ e ∈ es, P e.2) (fun e => P e.2)
    kJsonNull kJsonTrue kJsonFalse kJsonNumber kJsonString kJsonArray kJsonObject ?_ ?_ ?_ ?_ ?_ v
  -- the members of an array
  · intro v hv
    exact absurd hv List.not_mem_nil
  · intro v vs hv hvs
    exact List.forall_mem_cons.mpr ⟨hv, hvs⟩
  -- the entries of an object
  · intro e he
    exact absurd he List.not_mem_nil
  · intro e es he hes
    exact List.forall_mem_cons.mpr ⟨he, hes⟩
  · intro _ _ hv
    exact hv

/-- A decoded `kJSONMethodCall`. -/
structure JsonMethodCall where
  method : CString
  json_arg : JsonValue

end FlutterWlroots.Codec
