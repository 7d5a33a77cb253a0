/-
  FlutterWlroots.Codec.JsonMethodCall — which fields `platch_decode(kJSONMethodCall)` assigns.

  The loop over the entries of the root object takes them as they come: `method` and `args` in any
  order, also several times, and any other entry is an error.  It does not ask whether both have come,
  and the early return for the NULL buffer comes before all that.  A result of 0 means that the method
  and its argument are assigned unless one of these happens (`methodCall_complete_iff`).
-/
import FlutterWlroots.Codec.JsonDecode
import FlutterWlroots.Lib.StateRun

namespace FlutterWlroots.PlatformChannel

open Lib.StateRun
open FlutterWlroots.Codec

/-! ## §1. Entries. -/

/-- A `"method"` entry, with a string. -/
def IsMethod (message : List UInt8) (e : Nat × DecodedJson) : Prop :=
  cString message e.1 = .ofLiteral "method" ∧ ∃ s, e.2 = .kJsonString s

/-- An `"args"` entry. -/
def IsArgs (message : List UInt8) (e : Nat × DecodedJson) : Prop :=
  cString message e.1 = .ofLiteral "args"

theorem not_isArgs_of_isMethod {message : List UInt8} {e : Nat × DecodedJson}
    (h : IsMethod message e) : ¬ IsArgs message e := fun h' =>
  absurd (h.1.symm.trans h') (by decide)

/-- The method comes from an entry, or is what it was and there is no such entry. -/
def MethodFrom (message : List UInt8) (entries : List (Nat × DecodedJson)) (o o' : JsonPlatchObj) :
    Prop :=
  (∃ e ∈ entries, IsMethod message e ∧ ∃ s, e.2 = .kJsonString s ∧ o'.method = some s)
    ∨ ((∀ e ∈ entries, ¬ IsMethod message e) ∧ o'.method = o.method)

/-- The same for the argument. -/
def ArgsFrom (message : List UInt8) (entries : List (Nat × DecodedJson)) (o o' : JsonPlatchObj) : Prop :=
  (∃ e ∈ entries, IsArgs message e ∧ o'.json_arg = some e.2)
    ∨ ((∀ e ∈ entries, ¬ IsArgs message e) ∧ o'.json_arg = o.json_arg)

section Loop

variable {message : List UInt8} {entries : List (Nat × DecodedJson)} {o o' : JsonPlatchObj}
  {e : Nat × DecodedJson}

/-! One entry. -/

theorem assignEntries_method {s : Nat} (hkey : cString message e.1 = .ofLiteral "method")
    (hs : e.2 = .kJsonString s) : assignEntries message (e :: entries) o
      = assignEntries message entries { o with method := some s } := by
  have hstring : e.2.string? = some s := by
    rw [hs]
    rfl
  rw [assignEntries, if_pos hkey, hstring]

theorem assignEntries_args (h : IsArgs message e) : assignEntries message (e :: entries) o
    = assignEntries message entries { o with json_arg := some e.2 } := by
  have hkey : cString message e.1 ≠ .ofLiteral "method" := fun hkey =>
    absurd (hkey.symm.trans h) (by decide)
  rw [assignEntries, if_neg hkey]
  exact if_pos h

theorem string?_eq_some {v : DecodedJson} {s : Nat} (h : v.string? = some s) : v = .kJsonString s := by
  cases v <;> cases h
  rfl

theorem assignEntries_other (h : ¬ IsMethod message e) (h' : ¬ IsArgs message e) :
    assignEntries message (e :: entries) o = .error (.errno .EBADMSG) := by
  have hnone : (if cString message e.1 = .ofLiteral "method" then e.2.string? else none) = none := by
    split
    next hkey =>
      cases hs : e.2.string? with
      | none => rfl
      | some s => exact absurd ⟨hkey, s, string?_eq_some hs⟩ h
    next => rfl
  rw [assignEntries, hnone]
  exact if_neg h'

/-- **The loop**: it comes to its end if there are no other entries, and the last of each kind is
    what is assigned. -/
theorem assignEntries_eq_ok : ∀ {entries : List (Nat × DecodedJson)} {o : JsonPlatchObj},
    assignEntries message entries o = .ok o' →
      (∀ e ∈ entries, IsMethod message e ∨ IsArgs message e) ∧ o'.codec = o.codec
        ∧ MethodFrom message entries o o' ∧ ArgsFrom message entries o o'
  | [], o, h => by
      cases h
      exact ⟨nofun, rfl, .inr ⟨nofun, rfl⟩, .inr ⟨nofun, rfl⟩⟩
  | e :: entries, o, h => by
      by_cases hmethod : IsMethod message e
      · obtain ⟨hkey, s, hs⟩ := hmethod
        have hnot := not_isArgs_of_isMethod ⟨hkey, s, hs⟩
        rw [assignEntries_method hkey hs] at h
        obtain ⟨hall, hcodec, hm, ha⟩ := assignEntries_eq_ok h
        refine ⟨List.forall_mem_cons.mpr ⟨.inl ⟨hkey, s, hs⟩, hall⟩, hcodec, .inl ?_, ?_⟩
        · rcases hm with ⟨e', he', hm⟩ | ⟨-, hm⟩
          · exact ⟨e', List.mem_cons_of_mem _ he', hm⟩
          · exact ⟨e, List.mem_cons_self, ⟨hkey, s, hs⟩, s, hs, hm⟩
        · rcases ha with ⟨e', he', ha⟩ | ⟨hno, ha⟩
          · exact .inl ⟨e', List.mem_cons_of_mem _ he', ha⟩
          · exact .inr ⟨List.forall_mem_cons.mpr ⟨hnot, hno⟩, ha⟩
      · by_cases hargs : IsArgs message e
        · rw [assignEntries_args hargs] at h
          obtain ⟨hall, hcodec, hm, ha⟩ := assignEntries_eq_ok h
          refine ⟨List.forall_mem_cons.mpr ⟨.inr hargs, hall⟩, hcodec, ?_, .inl ?_⟩
          · rcases hm with ⟨e', he', hm⟩ | ⟨hno, hm⟩
            · exact .inl ⟨e', List.mem_cons_of_mem _ he', hm⟩
            · exact .inr ⟨List.forall_mem_cons.mpr ⟨hmethod, hno⟩, hm⟩
          · rcases ha with ⟨e', he', ha⟩ | ⟨-, ha⟩
            · exact ⟨e', List.mem_cons_of_mem _ he', ha⟩
            · exact ⟨e, List.mem_cons_self, hargs, ha⟩
        · rw [assignEntries_other hmethod hargs] at h
          cases h

theorem exists_assignEntries : ∀ {entries : List (Nat × DecodedJson)} {o : JsonPlatchObj},
    (∀ e ∈ entries, IsMethod message e ∨ IsArgs message e) →
      ∃ o', assignEntries message entries o = .ok o'
  | [], o, _ => ⟨o, rfl⟩
  | e :: entries, o, h => by
      obtain ⟨he, hrest⟩ := List.forall_mem_cons.mp h
      rcases he with ⟨hkey, s, hs⟩ | hargs
      · rw [assignEntries_method hkey hs]
        exact exists_assignEntries hrest
      · rw [assignEntries_args hargs]
        exact exists_assignEntries hrest

end Loop

/-! ## §2. The whole call. -/

variable (strtod : CString → BitVec 64) (isNull : Bool) (size : Nat) (c₀ : JsonCursor)

/-- The root of the message is this object, in the message as it is then. -/
def Root (entries : List (Nat × DecodedJson)) (c : JsonCursor) : Prop :=
  isNull = false ∧ (platchDecodeValueJson strtod size).run c₀ = .ok (.kJsonObject entries) c

/-- What a caller takes a result of 0 for. -/
def Complete (obj : JsonPlatchObj) : Prop :=
  obj.codec = .kJSONMethodCall ∧ ∃ entries c, Root strtod isNull size c₀ entries c
    ∧ (∃ e ∈ entries, IsMethod c.message e ∧ ∃ s, e.2 = .kJsonString s ∧ obj.method = some s)
    ∧ ((∃ e ∈ entries, IsArgs c.message e ∧ obj.json_arg = some e.2)
      ∨ obj.json_arg = some .kJsonNull)

variable {strtod isNull size c₀}

/-- A result of 0 comes from the early return, or from the loop. -/
theorem run_methodCall_eq_ok {obj : JsonPlatchObj} {c : JsonCursor} :
    (platchDecodeJson strtod isNull size .kJSONMethodCall).run c₀ = .ok obj c ↔
      (size = 0 ∧ isNull = true ∧ obj = { codec := .kNotImplemented } ∧ c = c₀)
        ∨ ∃ entries, Root strtod isNull size c₀ entries c
          ∧ assignEntries c.message entries { codec := .kJSONMethodCall } = .ok obj := by
  unfold platchDecodeJson Root
  cases isNull with
  | true =>
      simp only [and_true, if_true, Bool.true_eq_false, false_and, exists_false, or_false]
      split
      next hzero =>
        rw [run_pure_eq_ok]
        constructor
        · rintro ⟨rfl, rfl⟩
          exact ⟨hzero, trivial, rfl, rfl⟩
        · rintro ⟨-, -, rfl, rfl⟩
          exact ⟨rfl, rfl⟩
      next hsize =>
        rw [run_throw_eq_ok]
        exact iff_of_false id fun h => hsize h.1
  | false =>
      simp only [Bool.false_eq_true, and_false, if_false, false_and, false_or, true_and]
      rw [run_bind_eq_ok]
      constructor
      · rintro ⟨root, c₁, hroot, h⟩
        cases root with
        | kJsonObject entries =>
            dsimp only at h
            rw [run_get_bind] at h
            cases hassign : assignEntries c₁.message entries { codec := .kJSONMethodCall } with
            | ok o =>
                rw [hassign] at h
                obtain ⟨rfl, rfl⟩ := run_pure_eq_ok.mp h
                exact ⟨entries, hroot, hassign⟩
            | error e =>
                rw [hassign] at h
                exact absurd h run_throw_eq_ok.mp
        | _ => exact absurd h run_throw_eq_ok.mp
      · rintro ⟨entries, hroot, hassign⟩
        refine ⟨.kJsonObject entries, c, hroot, ?_⟩
        dsimp only
        rw [run_get_bind, hassign]
        rfl

variable (strtod isNull size c₀)

/-- **A result of 0 means that all fields are assigned** if and only if the buffer is not the NULL one of
    an empty message, and an object of `method` and `args` entries has at least one of each. -/
theorem methodCall_complete_iff :
    (∀ obj c, (platchDecodeJson strtod isNull size .kJSONMethodCall).run c₀ = .ok obj c →
        Complete strtod isNull size c₀ obj)
      ↔ ¬ (size = 0 ∧ isNull = true) ∧ ∀ entries c, Root strtod isNull size c₀ entries c →
        (∀ e ∈ entries, IsMethod c.message e ∨ IsArgs c.message e) →
          (∃ e ∈ entries, IsMethod c.message e) ∧ ∃ e ∈ entries, IsArgs c.message e := by
  constructor
  · intro h
    refine ⟨fun hnull => ?_, fun entries c hroot hall => ?_⟩
    · obtain ⟨hcodec, -⟩ := h _ _ (run_methodCall_eq_ok.mpr (.inl ⟨hnull.1, hnull.2, rfl, rfl⟩))
      exact absurd hcodec (by decide)
    · obtain ⟨obj, hobj⟩ := exists_assignEntries (o := { codec := .kJSONMethodCall }) hall
      obtain ⟨-, entries', c', hroot', ⟨e, he, hm, -⟩, ha⟩ :=
        h obj c (run_methodCall_eq_ok.mpr (.inr ⟨entries, hroot, hobj⟩))
      cases hroot.2.symm.trans hroot'.2
      refine ⟨⟨e, he, hm⟩, ?_⟩
      obtain ⟨-, -, -, hfrom⟩ := assignEntries_eq_ok hobj
      rcases hfrom with ⟨e', he', hargs, -⟩ | ⟨-, hnone⟩
      · exact ⟨e', he', hargs⟩
      · -- nothing was assigned
        rcases ha with ⟨e', he', hargs, -⟩ | hnull
        · exact ⟨e', he', hargs⟩
        · exact absurd (hnone.symm.trans hnull) nofun
  · rintro ⟨hsome, hboth⟩ obj c hrun
    rcases run_methodCall_eq_ok.mp hrun with ⟨hsize, hnull, -, -⟩ | ⟨entries, hroot, hassign⟩
    · exact absurd ⟨hsize, hnull⟩ hsome
    · obtain ⟨hall, hcodec, hm, ha⟩ := assignEntries_eq_ok hassign
      obtain ⟨⟨e, he, hmethod⟩, e', he', hargs⟩ := hboth entries c hroot hall
      refine ⟨hcodec, entries, c, hroot, ?_, .inl ?_⟩
      · rcases hm with hm | ⟨hno, -⟩
        · exact hm
        · exact absurd hmethod (hno e he)
      · rcases ha with ha | ⟨hno, -⟩
        · exact ha
        · exact absurd hargs (hno e' he')

/-- `{}` is a success without a method, and so is the NULL buffer. -/
theorem methodCall_without_method :
    (∃ c, (platchDecodeJson strtodOne false 2 .kJSONMethodCall).run ⟨[0x7B, 0x7D, 0], 0⟩
        = .ok { codec := .kJSONMethodCall } c)
      ∧ ∃ c, (platchDecodeJson strtodOne true 0 .kJSONMethodCall).run ⟨[], 0⟩
        = .ok { codec := .kNotImplemented } c := ⟨⟨_, rfl⟩, ⟨_, rfl⟩⟩

end FlutterWlroots.PlatformChannel
