/-
  FlutterWlroots.Codec.JsonBlocks — the memory of decoded JSON values in platform_channel.c.

  `platch_decode_value_json` allocates one block for each array and two for each object, of the keys
  and of the values.  `platch_free_json_value` goes through the values in the same way, but frees
  the keys of an object only, as if the values were in the same block (they are for maps of the
  standard codec).  So each object leaves a block behind.

  A decoded value is here the tree with the addresses of its blocks; the ledger of live blocks is a
  part of the state.

    • `decodeTokenHeap_sameRun`   — the decoder is the one without a ledger,
    • `decodeTokenHeap_allocates` — the blocks of a value are what it allocates,
    • `freed_subperm`             — what is freed of them,
    • `free_complete_iff`         — nothing is left if and only if there is no object.
-/
import Mathlib.Data.Finset.Lattice.Fold
import Mathlib.Order.Lattice.Nat
import FlutterWlroots.Lib.Ledger
import FlutterWlroots.Lib.SameRun
import FlutterWlroots.Codec.JsonDecode

namespace FlutterWlroots.PlatformChannel

open Lib.Ledger Lib.StateRun
open FlutterWlroots.Codec FlutterWlroots.Jsmn

/-! ## §1. Decoding. -/

/-- A decoded value with its blocks; values without a block are as they were. -/
inductive HeapJson where
  | leaf (value : DecodedJson)
  | kJsonArray (array : Nat) (elements : List HeapJson)
  | kJsonObject (keys values : Nat) (entries : List (Nat × HeapJson))

/-- The state of the decoder and the live blocks. -/
structure JsonHeap where
  cursor : JsonCursor
  live : Finset Nat

abbrev HeapM := EStateM DecodeStop JsonHeap

/-- A step without an allocation. -/
def onCursor {α : Type} (x : JsonM α) : HeapM α := do
  let h ← get
  match x.run h.cursor with
  | .ok v cursor => do
      set { h with cursor }
      return v
  | .error stop cursor => do
      set { h with cursor }
      throw stop

/-- `calloc`. -/
def calloc (a : Allocator) : HeapM Nat := do
  let h ← get
  set { h with live := insert (a.next h.live) h.live }
  return a.next h.live

def HeapJson.string? : HeapJson → Option Nat
  | .leaf value => value.string?
  | _ => none

/-- `platch_decode_value_json` with a token list. -/
def decodeTokenHeap (a : Allocator) (strtod : CString → BitVec 64) (tokens : List Token) :
    Nat → HeapM HeapJson
  | 0 => throw .outOfFuel
  | fuel + 1 => do
      let t ← onCursor (nextToken tokens)
      match t.type with
      | .JSMN_UNDEFINED => throw (.errno .EBADMSG)
      | .JSMN_PRIMITIVE => do
          let value ← onCursor (decodePrimitive strtod t)
          return .leaf value
      | .JSMN_STRING => do
          let value ← onCursor (decodeJsonString t)
          return .leaf value
      | .JSMN_ARRAY => do
          let array ← calloc a
          let elements ← decodeElements (decodeTokenHeap a strtod tokens fuel) t.size
          return .kJsonArray array elements
      | .JSMN_OBJECT => do
          let keys ← calloc a
          let values ← calloc a
          let entries ← decodeMembers HeapJson.string? (decodeTokenHeap a strtod tokens fuel) t.size
          return .kJsonObject keys values entries

/-- `platch_decode_value_json` without a token list. -/
def platchDecodeValueJsonHeap (a : Allocator) (strtod : CString → BitVec 64) (size : Nat) :
    HeapM HeapJson := do
  let h ← get
  match jsmnParse (h.cursor.message.take size) tokenlistSize with
  | .error _ => throw (.errno .EBADMSG)
  | .ok tokens => do
      set { h with cursor := { h.cursor with ptoken := 0 } }
      decodeTokenHeap a strtod (tokenArray tokens) (tokenlistSize + 1)

/-! ## §2. Freeing. -/

mutual
/-- `platch_free_json_value`; no result if a block is freed that is not live. -/
def platchFreeJsonValue : HeapJson → (shallow : Bool) → Finset Nat → Option (Finset Nat)
  | .leaf _, _, live => some live
  | .kJsonArray array elements, shallow, live => do
      let live ← if shallow then some live else freeElements elements live
      free array live
  | .kJsonObject keys _ entries, shallow, live => do
      let live ← if shallow then some live else freeValues entries live
      free keys live
/-- The loop over an array. -/
def freeElements : List HeapJson → Finset Nat → Option (Finset Nat)
  | [], live => some live
  | v :: elements, live => do
      let live ← platchFreeJsonValue v false live
      freeElements elements live
/-- The loop over the values of an object. -/
def freeValues : List (Nat × HeapJson) → Finset Nat → Option (Finset Nat)
  | [], live => some live
  | (_, v) :: entries, live => do
      let live ← platchFreeJsonValue v false live
      freeValues entries live
end

/-! ## §3. The blocks of a value. -/

mutual
/-- The blocks that were allocated for a value, in that order. -/
def HeapJson.blocks : HeapJson → List Nat
  | .leaf _ => []
  | .kJsonArray array elements => array :: blocksList elements
  | .kJsonObject keys values entries => keys :: values :: blocksEntries entries
def HeapJson.blocksList : List HeapJson → List Nat
  | [] => []
  | v :: elements => v.blocks ++ blocksList elements
def HeapJson.blocksEntries : List (Nat × HeapJson) → List Nat
  | [] => []
  | (_, v) :: entries => v.blocks ++ blocksEntries entries
end

mutual
/-- The blocks that are freed, in that order. -/
def HeapJson.freed : HeapJson → List Nat
  | .leaf _ => []
  | .kJsonArray array elements => freedList elements ++ [array]
  | .kJsonObject keys _ entries => freedEntries entries ++ [keys]
def HeapJson.freedList : List HeapJson → List Nat
  | [] => []
  | v :: elements => v.freed ++ freedList elements
def HeapJson.freedEntries : List (Nat × HeapJson) → List Nat
  | [] => []
  | (_, v) :: entries => v.freed ++ freedEntries entries
end

mutual
/-- How many objects there are. -/
def HeapJson.objects : HeapJson → Nat
  | .leaf _ => 0
  | .kJsonArray _ elements => objectsList elements
  | .kJsonObject _ _ entries => objectsEntries entries + 1
def HeapJson.objectsList : List HeapJson → Nat
  | [] => 0
  | v :: elements => v.objects + objectsList elements
def HeapJson.objectsEntries : List (Nat × HeapJson) → Nat
  | [] => 0
  | (_, v) :: entries => v.objects + objectsEntries entries
end

mutual
/-- A value without its blocks. -/
def HeapJson.erase : HeapJson → DecodedJson
  | .leaf value => value
  | .kJsonArray _ elements => .kJsonArray (eraseList elements)
  | .kJsonObject _ _ entries => .kJsonObject (eraseEntries entries)
def HeapJson.eraseList : List HeapJson → List DecodedJson
  | [] => []
  | v :: elements => v.erase :: eraseList elements
def HeapJson.eraseEntries : List (Nat × HeapJson) → List (Nat × DecodedJson)
  | [] => []
  | (key, v) :: entries => (key, v.erase) :: eraseEntries entries
end

mutual
/-- **Freeing a value** frees these blocks one after the other. -/
theorem platchFreeJsonValue_eq : ∀ (v : HeapJson) (live : Finset Nat),
    platchFreeJsonValue v false live = freeAll v.freed live
  | .leaf _, live => rfl
  | .kJsonArray array elements, live => by
      rw [platchFreeJsonValue, HeapJson.freed, freeAll_concat, ← freeElements_eq elements live,
        if_neg Bool.false_ne_true]
      rfl
  | .kJsonObject keys values entries, live => by
      rw [platchFreeJsonValue, HeapJson.freed, freeAll_concat, ← freeValues_eq entries live,
        if_neg Bool.false_ne_true]
      rfl
theorem freeElements_eq : ∀ (elements : List HeapJson) (live : Finset Nat),
    freeElements elements live = freeAll (HeapJson.freedList elements) live
  | [], live => rfl
  | v :: elements, live => by
      rw [freeElements, HeapJson.freedList, freeAll_append, ← platchFreeJsonValue_eq v live]
      exact congrArg _ (funext fun live => freeElements_eq elements live)
theorem freeValues_eq : ∀ (entries : List (Nat × HeapJson)) (live : Finset Nat),
    freeValues entries live = freeAll (HeapJson.freedEntries entries) live
  | [], live => rfl
  | (key, v) :: entries, live => by
      rw [freeValues, HeapJson.freedEntries, freeAll_append, ← platchFreeJsonValue_eq v live]
      exact congrArg _ (funext fun live => freeValues_eq entries live)
end

/-- A block that is freed last and was allocated first. -/
theorem subperm_concat_cons {freed blocks : List Nat} (h : freed.Subperm blocks) (p : Nat) :
    (freed ++ [p]).Subperm (p :: blocks) :=
  (List.perm_append_singleton p freed).subperm.trans ((List.subperm_cons p).mpr h)

mutual
/-- **What is freed** is among the blocks, and one is left of each object. -/
theorem freed_subperm : ∀ v : HeapJson,
    v.freed.Subperm v.blocks ∧ v.blocks.length = v.freed.length + v.objects
  | .leaf _ => ⟨List.Subperm.refl _, rfl⟩
  | .kJsonArray array elements => by
      obtain ⟨hsub, hlen⟩ := freedList_subperm elements
      rw [HeapJson.freed, HeapJson.blocks, HeapJson.objects, List.length_append, List.length_cons,
        List.length_singleton]
      exact ⟨subperm_concat_cons hsub array, by omega⟩
  | .kJsonObject keys values entries => by
      -- the block of the values is only among the blocks
      obtain ⟨hsub, hlen⟩ := freedEntries_subperm entries
      rw [HeapJson.freed, HeapJson.blocks, HeapJson.objects, List.length_append, List.length_cons,
        List.length_cons, List.length_singleton]
      exact ⟨subperm_concat_cons (hsub.cons_right values) keys, by omega⟩
theorem freedList_subperm : ∀ elements : List HeapJson,
    (HeapJson.freedList elements).Subperm (HeapJson.blocksList elements)
      ∧ (HeapJson.blocksList elements).length
        = (HeapJson.freedList elements).length + HeapJson.objectsList elements
  | [] => ⟨List.Subperm.refl _, rfl⟩
  | v :: elements => by
      obtain ⟨hsub, hlen⟩ := freed_subperm v
      obtain ⟨hsub', hlen'⟩ := freedList_subperm elements
      rw [HeapJson.freedList, HeapJson.blocksList, HeapJson.objectsList, List.length_append,
        List.length_append]
      exact ⟨hsub.append hsub', by omega⟩
theorem freedEntries_subperm : ∀ entries : List (Nat × HeapJson),
    (HeapJson.freedEntries entries).Subperm (HeapJson.blocksEntries entries)
      ∧ (HeapJson.blocksEntries entries).length
        = (HeapJson.freedEntries entries).length + HeapJson.objectsEntries entries
  | [] => ⟨List.Subperm.refl _, rfl⟩
  | (key, v) :: entries => by
      obtain ⟨hsub, hlen⟩ := freed_subperm v
      obtain ⟨hsub', hlen'⟩ := freedEntries_subperm entries
      rw [HeapJson.freedEntries, HeapJson.blocksEntries, HeapJson.objectsEntries,
        List.length_append, List.length_append]
      exact ⟨hsub.append hsub', by omega⟩
end

/-! ## §4. What a decode allocates. -/

/-- Every run that succeeds allocates the blocks of its result. -/
def Allocates {α : Type} (blocks : α → List Nat) (x : HeapM α) : Prop :=
  ∀ h v h', x.run h = .ok v h' → Allocated (blocks v) h.live h'.live

section Allocates

variable {α : Type}

theorem run_onCursor_eq_ok {x : JsonM α} {h h' : JsonHeap} {v : α}
    (hrun : (onCursor x).run h = .ok v h') :
    x.run h.cursor = .ok v h'.cursor ∧ h'.live = h.live := by
  unfold onCursor at hrun
  rw [run_get_bind] at hrun
  cases hx : x.run h.cursor with
  | ok w c =>
      rw [hx] at hrun
      cases hrun
      exact ⟨rfl, rfl⟩
  | error stop c =>
      rw [hx] at hrun
      cases hrun

theorem run_calloc_eq_ok {a : Allocator} {h h' : JsonHeap} {p : Nat}
    (hrun : (calloc a).run h = .ok p h') :
    p = a.next h.live ∧ h' = { h with live := insert (a.next h.live) h.live } := by
  cases hrun
  exact ⟨rfl, rfl⟩

theorem allocates_calloc (a : Allocator) : Allocates (fun p => [p]) (calloc a) := by
  intro h p h' hrun
  obtain ⟨rfl, rfl⟩ := run_calloc_eq_ok hrun
  exact allocated_calloc a h.live

/-- A value without a block. -/
theorem allocates_leaf (x : JsonM DecodedJson) :
    Allocates HeapJson.blocks (onCursor x >>= fun value => pure (.leaf value)) := by
  intro h v h' hrun
  obtain ⟨value, h₁, hvalue, hrun⟩ := run_bind_eq_ok.mp hrun
  obtain ⟨-, hlive⟩ := run_onCursor_eq_ok hvalue
  obtain ⟨rfl, rfl⟩ := run_pure_eq_ok.mp hrun
  rw [hlive]
  exact allocated_nil _

theorem allocates_elements {x : HeapM HeapJson} (hx : Allocates HeapJson.blocks x) :
    ∀ size, Allocates HeapJson.blocksList (decodeElements x size)
  | 0 => by
      intro h v h' hrun
      obtain ⟨rfl, rfl⟩ := run_pure_eq_ok.mp hrun
      exact allocated_nil _
  | size + 1 => by
      intro h v h' hrun
      obtain ⟨w, h₁, hw, hrun⟩ := run_bind_eq_ok.mp hrun
      obtain ⟨elements, h₂, helements, hrun⟩ := run_bind_eq_ok.mp hrun
      obtain ⟨rfl, rfl⟩ := run_pure_eq_ok.mp hrun
      exact (hx h w h₁ hw).append (allocates_elements hx size h₁ elements h₂ helements)

/-- A key is a string and has no block. -/
theorem blocks_of_string? {v : HeapJson} {i : Nat} (h : v.string? = some i) : v.blocks = [] := by
  cases v with
  | leaf value => rfl
  | _ => cases h

theorem allocates_members {x : HeapM HeapJson} (hx : Allocates HeapJson.blocks x) :
    ∀ size, Allocates HeapJson.blocksEntries (decodeMembers HeapJson.string? x size)
  | 0 => by
      intro h v h' hrun
      obtain ⟨rfl, rfl⟩ := run_pure_eq_ok.mp hrun
      exact allocated_nil _
  | size + 1 => by
      intro h v h' hrun
      obtain ⟨key, h₁, hkey, hrun⟩ := run_bind_eq_ok.mp hrun
      have hblocks := hx h key h₁ hkey
      cases hstring : key.string? with
      | none =>
          rw [hstring] at hrun
          cases hrun
      | some i =>
          rw [hstring] at hrun
          rw [blocks_of_string? hstring] at hblocks
          obtain ⟨w, h₂, hw, hrun⟩ := run_bind_eq_ok.mp hrun
          obtain ⟨entries, h₃, hentries, hrun⟩ := run_bind_eq_ok.mp hrun
          obtain ⟨rfl, rfl⟩ := run_pure_eq_ok.mp hrun
          exact hblocks.append
            ((hx h₁ w h₂ hw).append (allocates_members hx size h₂ entries h₃ hentries))

/-- **The blocks of a value** are what its decode allocates. -/
theorem decodeTokenHeap_allocates (a : Allocator) (strtod : CString → BitVec 64)
    (tokens : List Token) : ∀ fuel, Allocates HeapJson.blocks (decodeTokenHeap a strtod tokens fuel)
  | 0 => fun _ _ _ hrun => (run_throw_eq_ok.mp hrun).elim
  | fuel + 1 => by
      intro h v h' hrun
      have ih := decodeTokenHeap_allocates a strtod tokens fuel
      obtain ⟨t, h₁, hnext, hrun⟩ := run_bind_eq_ok.mp hrun
      obtain ⟨-, hlive⟩ := run_onCursor_eq_ok hnext
      rw [← hlive]
      split at hrun
      next => exact (run_throw_eq_ok.mp hrun).elim
      next => exact allocates_leaf _ h₁ v h' hrun
      next => exact allocates_leaf _ h₁ v h' hrun
      next =>
        obtain ⟨array, h₂, harray, hrun⟩ := run_bind_eq_ok.mp hrun
        obtain ⟨elements, h₃, helements, hrun⟩ := run_bind_eq_ok.mp hrun
        obtain ⟨rfl, rfl⟩ := run_pure_eq_ok.mp hrun
        exact (allocates_calloc a h₁ array h₂ harray).append
          (allocates_elements ih t.size h₂ elements h₃ helements)
      next =>
        obtain ⟨keys, h₂, hkeys, hrun⟩ := run_bind_eq_ok.mp hrun
        obtain ⟨values, h₃, hvalues, hrun⟩ := run_bind_eq_ok.mp hrun
        obtain ⟨entries, h₄, hentries, hrun⟩ := run_bind_eq_ok.mp hrun
        obtain ⟨rfl, rfl⟩ := run_pure_eq_ok.mp hrun
        exact (allocates_calloc a h₁ keys h₂ hkeys).append
          ((allocates_calloc a h₂ values h₃ hvalues).append
            (allocates_members ih t.size h₃ entries h₄ hentries))

end Allocates

/-! ## §5. The decoder without a ledger. -/

section SameRun

variable {α : Type} {h : JsonHeap}

/-- The cursors of both states are the same. -/
def SameCursor (h : JsonHeap) (c : JsonCursor) : Prop := h.cursor = c

theorem onCursor_sameRun (x : JsonM α) (h : JsonHeap) :
    SameRun (onCursor x) x h h.cursor SameCursor fun v w h c => v = w ∧ SameCursor h c := by
  have hrun : (onCursor x).run h = match x.run h.cursor with
      | .ok v c => .ok v { h with cursor := c }
      | .error stop c => .error stop { h with cursor := c } := by
    unfold onCursor
    rw [run_get_bind]
    cases x.run h.cursor with
    | ok v c => rfl
    | error stop c => rfl
  cases hx : x.run h.cursor with
  | ok v c =>
      rw [hx] at hrun
      exact sameRun_of_ok hrun hx ⟨rfl, rfl⟩
  | error stop c =>
      rw [hx] at hrun
      exact sameRun_of_error hrun hx rfl

/-- Allocating leaves the cursor alone. -/
theorem calloc_sameRun {a : Allocator} {f : Nat → HeapM HeapJson} {y : JsonM DecodedJson}
    {Q : HeapJson → DecodedJson → JsonHeap → JsonCursor → Prop}
    (hf : ∀ p h', SameRun (f p) y h' h'.cursor SameCursor Q) :
    SameRun (calloc a >>= f) y h h.cursor SameCursor Q :=
  SameRun.congr_run rfl rfl
    (hf (a.next h.live) { h with live := insert (a.next h.live) h.live })

variable {x : HeapM HeapJson} {y : JsonM DecodedJson}

theorem heapElements_sameRun
    (hx : ∀ h, SameRun x y h h.cursor SameCursor fun v w h c => v.erase = w ∧ SameCursor h c) :
    ∀ size h, SameRun (decodeElements x size) (decodeElements y size) h h.cursor SameCursor
      fun vs ws h c => HeapJson.eraseList vs = ws ∧ SameCursor h c
  | 0, h => sameRun_pure ⟨rfl, rfl⟩
  | size + 1, h => by
      refine (hx h).bind ?_
      rintro v _ h₁ _ ⟨rfl, rfl⟩
      refine (heapElements_sameRun hx size h₁).bind ?_
      rintro vs _ h₂ _ ⟨rfl, rfl⟩
      exact sameRun_pure ⟨rfl, rfl⟩

theorem erase_string? (v : HeapJson) : v.erase.string? = v.string? := by
  cases v with
  | leaf value => rfl
  | kJsonArray array elements => rfl
  | kJsonObject keys values entries => rfl

theorem heapMembers_sameRun
    (hx : ∀ h, SameRun x y h h.cursor SameCursor fun v w h c => v.erase = w ∧ SameCursor h c) :
    ∀ size h, SameRun (decodeMembers HeapJson.string? x size)
      (decodeMembers DecodedJson.string? y size) h h.cursor SameCursor
      fun vs ws h c => HeapJson.eraseEntries vs = ws ∧ SameCursor h c
  | 0, h => sameRun_pure ⟨rfl, rfl⟩
  | size + 1, h => by
      refine (hx h).bind ?_
      rintro key _ h₁ _ ⟨rfl, rfl⟩
      rw [erase_string?]
      cases key.string? with
      | none => exact sameRun_throw rfl
      | some i =>
          refine (hx h₁).bind ?_
          rintro v _ h₂ _ ⟨rfl, rfl⟩
          refine (heapMembers_sameRun hx size h₂).bind ?_
          rintro vs _ h₃ _ ⟨rfl, rfl⟩
          exact sameRun_pure ⟨rfl, rfl⟩

theorem leaf_sameRun (x : JsonM DecodedJson) (h : JsonHeap) :
    SameRun (onCursor x >>= fun value => pure (HeapJson.leaf value)) x h h.cursor SameCursor
      fun v w h c => v.erase = w ∧ SameCursor h c := by
  have hrun : SameRun (onCursor x >>= fun value => pure (HeapJson.leaf value)) (x >>= pure)
      h h.cursor SameCursor fun v w h c => v.erase = w ∧ SameCursor h c := by
    refine (onCursor_sameRun x h).bind ?_
    rintro value _ h' _ ⟨rfl, rfl⟩
    exact sameRun_pure ⟨rfl, rfl⟩
  rwa [bind_pure] at hrun

/-- **With the ledger left out** the decoder is the one of the JSON codecs. -/
theorem decodeTokenHeap_sameRun (a : Allocator) (strtod : CString → BitVec 64)
    (tokens : List Token) : ∀ fuel h, SameRun (decodeTokenHeap a strtod tokens fuel)
      (decodeToken strtod tokens fuel) h h.cursor SameCursor
      fun v w h c => v.erase = w ∧ SameCursor h c
  | 0, h => sameRun_throw rfl
  | fuel + 1, h => by
      have ih := decodeTokenHeap_sameRun a strtod tokens fuel
      refine (onCursor_sameRun _ h).bind ?_
      rintro t _ h₁ _ ⟨rfl, rfl⟩
      cases t.type with
      | JSMN_UNDEFINED => exact sameRun_throw rfl
      | JSMN_PRIMITIVE => exact leaf_sameRun _ h₁
      | JSMN_STRING => exact leaf_sameRun _ h₁
      | JSMN_ARRAY =>
          refine calloc_sameRun fun array h₂ => ?_
          refine (heapElements_sameRun ih t.size h₂).bind ?_
          rintro elements _ h₃ _ ⟨rfl, rfl⟩
          exact sameRun_pure ⟨rfl, rfl⟩
      | JSMN_OBJECT =>
          refine calloc_sameRun fun keys h₂ => ?_
          refine calloc_sameRun fun values h₃ => ?_
          refine (heapMembers_sameRun ih t.size h₃).bind ?_
          rintro entries _ h₄ _ ⟨rfl, rfl⟩
          exact sameRun_pure ⟨rfl, rfl⟩

/-- **Whole texts.** -/
theorem platchDecodeValueJsonHeap_sameRun (a : Allocator) (strtod : CString → BitVec 64)
    (size : Nat) (h : JsonHeap) : SameRun (platchDecodeValueJsonHeap a strtod size)
      (platchDecodeValueJson strtod size) h h.cursor SameCursor
      fun v w h c => v.erase = w ∧ SameCursor h c := by
  refine SameRun.congr_run run_get_bind run_get_bind ?_
  cases jsmnParse (h.cursor.message.take size) tokenlistSize with
  | error e => exact sameRun_throw rfl
  | ok tokens =>
      refine SameRun.congr_run run_set_bind run_set_bind ?_
      exact decodeTokenHeap_sameRun a strtod (tokenArray tokens) (tokenlistSize + 1) _

end SameRun

/-! ## §6. Texts with an object. -/

/-- There is an object among the tokens that `owed` values take. -/
def reachesObject : (owed : Nat) → List Token → Bool
  | 0, _ => false
  | _ + 1, [] => false
  | owed + 1, t :: tokens =>
      match t.type with
      | .JSMN_OBJECT => true
      | .JSMN_ARRAY => reachesObject (t.size + owed) tokens
      | _ => reachesObject owed tokens

/-- The value at the start of the text is an object, or has one in it. -/
def MeetsObject (js : List UInt8) : Prop :=
  ∃ tokens, jsmnParse js tokenlistSize = .ok tokens ∧ reachesObject 1 tokens = true

/-- The places without a token tell nothing. -/
theorem reachesObject_tokenArray (tokens : List Token) (owed : Nat) :
    reachesObject owed (tokenArray tokens) = reachesObject owed tokens := by
  have hzeros : ∀ n owed,
      reachesObject owed (List.replicate n ⟨.JSMN_UNDEFINED, 0, some 0, 0⟩) = false := by
    intro n
    induction n with
    | zero =>
        intro owed
        cases owed <;> rfl
    | succ n ih =>
        intro owed
        cases owed with
        | zero => rfl
        | succ owed => exact ih owed
  unfold tokenArray
  generalize tokenlistSize - tokens.length = n
  induction tokens generalizing owed with
  | nil =>
      rw [List.nil_append, hzeros]
      cases owed <;> rfl
  | cons t tokens ih =>
      cases owed with
      | zero => rfl
      | succ owed =>
          rw [List.cons_append, reachesObject, reachesObject, ih, ih]

/-- A run that succeeds and takes `size` values: what it takes has an object if the result has. -/
def Tells {α : Type} (list : List Token) (size : Nat) (objects : α → Nat) (x : HeapM α) : Prop :=
  ∀ h v h', x.run h = .ok v h' → ∀ owed,
    (reachesObject (size + owed) (list.drop h.cursor.ptoken) = true
      ↔ 0 < objects v ∨ reachesObject owed (list.drop h'.cursor.ptoken) = true)

section Tells

variable {list : List Token}

theorem tells_elements {x : HeapM HeapJson} (hx : Tells list 1 HeapJson.objects x) :
    ∀ size, Tells list size HeapJson.objectsList (decodeElements x size)
  | 0 => by
      intro h v h' hrun owed
      obtain ⟨rfl, rfl⟩ := run_pure_eq_ok.mp hrun
      rw [Nat.zero_add]
      exact (or_iff_right (Nat.lt_irrefl 0)).symm
  | size + 1 => by
      intro h v h' hrun owed
      obtain ⟨w, h₁, hw, hrun⟩ := run_bind_eq_ok.mp hrun
      obtain ⟨elements, h₂, helements, hrun⟩ := run_bind_eq_ok.mp hrun
      obtain ⟨rfl, rfl⟩ := run_pure_eq_ok.mp hrun
      rw [Nat.add_comm size 1, Nat.add_assoc, hx h w h₁ hw,
        tells_elements hx size h₁ elements h₂ helements, ← or_assoc, HeapJson.objectsList,
        Nat.add_pos_iff_pos_or_pos]

theorem run_nextToken_eq_ok {c c' : JsonCursor} {t : Token}
    (h : (nextToken list).run c = .ok t c') :
    list.drop c.ptoken = t :: list.drop c'.ptoken := by
  unfold nextToken at h
  rw [run_get_bind, run_set_bind] at h
  cases hk : list[c.ptoken]? with
  | none =>
      rw [hk] at h
      cases h
  | some u =>
      rw [hk] at h
      cases h
      obtain ⟨hlt, rfl⟩ := List.getElem?_eq_some_iff.mp hk
      exact List.drop_eq_getElem_cons hlt

theorem keeps_load (i : Nat) : Keeps JsonCursor.ptoken (load i) := by
  refine keeps_get fun c b c' h => ?_
  cases hi : c.message[i]? with
  | none =>
      rw [hi] at h
      cases h
  | some b =>
      rw [hi] at h
      cases h
      rfl

theorem keeps_store (i : Nat) (b : UInt8) : Keeps JsonCursor.ptoken (store i b) := by
  refine keeps_get fun c u c' h => ?_
  split at h
  · cases h
    rfl
  · cases h

theorem keeps_endOf (t : Token) : Keeps JsonCursor.ptoken (endOf t) := by
  unfold endOf
  cases t.stop with
  | none => exact fun _ _ _ h => (run_throw_eq_ok.mp h).elim
  | some stop => exact keeps_pure stop

theorem keeps_decodePrimitive (strtod : CString → BitVec 64) (t : Token) :
    Keeps JsonCursor.ptoken (decodePrimitive strtod t) := by
  refine (keeps_load t.start).bind fun first => ?_
  split
  · exact keeps_pure _
  · split
    · exact keeps_pure _
    · split
      · exact keeps_pure _
      · refine (keeps_endOf t).bind fun stop => (keeps_load stop).bind fun old => ?_
        refine (keeps_store stop 0).bind fun _ => keeps_get fun c => ?_
        exact ((keeps_store stop old).bind fun _ => keeps_pure _) c

theorem keeps_decodeJsonString (t : Token) : Keeps JsonCursor.ptoken (decodeJsonString t) :=
  (keeps_endOf t).bind fun stop => (keeps_store stop 0).bind fun _ => keeps_pure _

/-- **The walk** takes the tokens of one value. -/
theorem decodeTokenHeap_tells (a : Allocator) (strtod : CString → BitVec 64) : ∀ fuel,
    Tells list 1 HeapJson.objects (decodeTokenHeap a strtod list fuel)
  | 0 => fun _ _ _ hrun => (run_throw_eq_ok.mp hrun).elim
  | fuel + 1 => by
      intro h v h' hrun owed
      have ih := decodeTokenHeap_tells a strtod fuel
      obtain ⟨t, h₁, hnext, hrun⟩ := run_bind_eq_ok.mp hrun
      obtain ⟨hnext, -⟩ := run_onCursor_eq_ok hnext
      rw [run_nextToken_eq_ok hnext, Nat.add_comm 1 owed, reachesObject]
      -- a value without members
      have hleaf : ∀ {y : JsonM DecodedJson}, Keeps JsonCursor.ptoken y →
          (onCursor y >>= fun value => pure (HeapJson.leaf value)).run h₁ = .ok v h' →
          (reachesObject owed (list.drop h₁.cursor.ptoken) = true
            ↔ 0 < v.objects ∨ reachesObject owed (list.drop h'.cursor.ptoken) = true) := by
        intro y hkeeps hrun
        obtain ⟨value, h₂, hvalue, hrun⟩ := run_bind_eq_ok.mp hrun
        obtain ⟨rfl, rfl⟩ := run_pure_eq_ok.mp hrun
        rw [hkeeps _ _ _ (run_onCursor_eq_ok hvalue).1]
        exact (or_iff_right (Nat.lt_irrefl 0)).symm
      cases htype : t.type with
      | JSMN_UNDEFINED =>
          rw [htype] at hrun
          exact (run_throw_eq_ok.mp hrun).elim
      | JSMN_PRIMITIVE =>
          rw [htype] at hrun
          exact hleaf (keeps_decodePrimitive strtod t) hrun
      | JSMN_STRING =>
          rw [htype] at hrun
          exact hleaf (keeps_decodeJsonString t) hrun
      | JSMN_ARRAY =>
          rw [htype] at hrun
          obtain ⟨array, h₂, harray, hrun⟩ := run_bind_eq_ok.mp hrun
          obtain ⟨elements, h₃, helements, hrun⟩ := run_bind_eq_ok.mp hrun
          obtain ⟨rfl, rfl⟩ := run_pure_eq_ok.mp hrun
          obtain ⟨-, rfl⟩ := run_calloc_eq_ok harray
          exact tells_elements ih t.size _ elements h₃ helements owed
      | JSMN_OBJECT =>
          rw [htype] at hrun
          obtain ⟨keys, h₂, -, hrun⟩ := run_bind_eq_ok.mp hrun
          obtain ⟨values, h₃, -, hrun⟩ := run_bind_eq_ok.mp hrun
          obtain ⟨entries, h₄, -, hrun⟩ := run_bind_eq_ok.mp hrun
          obtain ⟨rfl, rfl⟩ := run_pure_eq_ok.mp hrun
          -- told at once, whatever is in it
          exact iff_of_true rfl (.inl (Nat.succ_pos _))

end Tells

/-! ## §7. What is left. -/

section Left

variable {a : Allocator} {strtod : CString → BitVec 64} {size : Nat} {h h' : JsonHeap}
  {root : HeapJson}

/-- The walk behind a decode that returns 0. -/
theorem run_platchDecodeValueJsonHeap_eq_ok
    (hrun : (platchDecodeValueJsonHeap a strtod size).run h = .ok root h') :
    ∃ tokens, jsmnParse (h.cursor.message.take size) tokenlistSize = .ok tokens
      ∧ (decodeTokenHeap a strtod (tokenArray tokens) (tokenlistSize + 1)).run
        { h with cursor := { h.cursor with ptoken := 0 } } = .ok root h' := by
  unfold platchDecodeValueJsonHeap at hrun
  rw [run_get_bind] at hrun
  cases hparse : jsmnParse (h.cursor.message.take size) tokenlistSize with
  | error e =>
      rw [hparse] at hrun
      exact (run_throw_eq_ok.mp hrun).elim
  | ok tokens =>
      rw [hparse] at hrun
      exact ⟨tokens, rfl, run_set_bind.symm.trans hrun⟩

/-- **One block is left** for each object. -/
theorem free_leaves_objects
    (hrun : (platchDecodeValueJsonHeap a strtod size).run h = .ok root h') :
    ∃ left, platchFreeJsonValue root false h'.live = some left ∧ h.live ⊆ left
      ∧ left.card = h.live.card + root.objects := by
  obtain ⟨tokens, -, hwalk⟩ := run_platchDecodeValueJsonHeap_eq_ok hrun
  have hblocks : Allocated root.blocks h.live h'.live :=
    decodeTokenHeap_allocates a strtod _ _ { h with cursor := { h.cursor with ptoken := 0 } } root
      h' hwalk
  obtain ⟨hsub, hlen⟩ := freed_subperm root
  obtain ⟨left, hfree, hsubset, hcard⟩ := hblocks.free_some hsub
  refine ⟨left, ?_, hsubset, by omega⟩
  rw [platchFreeJsonValue_eq, hfree]

/-- A decoded value has an object if and only if the text has. -/
theorem objects_pos_iff (hrun : (platchDecodeValueJsonHeap a strtod size).run h = .ok root h') :
    0 < root.objects ↔ MeetsObject (h.cursor.message.take size) := by
  obtain ⟨tokens, hparse, hwalk⟩ := run_platchDecodeValueJsonHeap_eq_ok hrun
  have htells := decodeTokenHeap_tells a strtod _ _ root h' hwalk 0
  rw [reachesObject, List.drop_zero, reachesObject_tokenArray] at htells
  constructor
  · intro hpos
    exact ⟨tokens, hparse, htells.mpr (.inl hpos)⟩
  · rintro ⟨tokens', hparse', hreaches⟩
    obtain rfl := Except.ok.inj (hparse.symm.trans hparse')
    exact (htells.mp hreaches).resolve_right Bool.false_ne_true

/-- **Freeing is complete** if and only if the text has no object. -/
theorem free_complete_iff (a : Allocator) (strtod : CString → BitVec 64) (size : Nat)
    (h h' : JsonHeap) (root : HeapJson)
    (hrun : (platchDecodeValueJsonHeap a strtod size).run h = .ok root h') :
    platchFreeJsonValue root false h'.live = some h.live
      ↔ ¬ MeetsObject (h.cursor.message.take size) := by
  obtain ⟨left, hfree, hsubset, hcard⟩ := free_leaves_objects hrun
  rw [hfree, Option.some.injEq, ← objects_pos_iff hrun, Nat.pos_iff_ne_zero, not_not]
  constructor
  · rintro rfl
    omega
  · intro hnone
    exact (Finset.eq_of_subset_of_card_le hsubset (by omega)).symm

/-- An allocator that counts. -/
def bump : Allocator where
  next live := live.sup id + 1
  fresh _ hin := Nat.not_succ_le_self _ (Finset.le_sup (f := id) hin)

/-- `[[1]]`, and nothing is left. -/
theorem free_complete_iff_array : ∃ root h',
    (platchDecodeValueJsonHeap bump strtodOne 5).run ⟨⟨[0x5B, 0x5B, 0x31, 0x5D, 0x5D], 0⟩, ∅⟩
        = .ok root h'
      ∧ (platchFreeJsonValue root false h'.live = some ∅
        ↔ ¬ MeetsObject [0x5B, 0x5B, 0x31, 0x5D, 0x5D]) :=
  ⟨_, _, rfl,
    free_complete_iff bump strtodOne 5 ⟨⟨[0x5B, 0x5B, 0x31, 0x5D, 0x5D], 0⟩, ∅⟩ _ _ rfl⟩

/-- An object with one member: of its two blocks the one of the values is left. -/
theorem object_values_left :
    (platchDecodeValueJsonHeap bump strtodOne 7).run
        ⟨⟨[0x7B, 0x22, 0x61, 0x22, 0x3A, 0x31, 0x7D], 0⟩, ∅⟩
        = .ok (.kJsonObject 1 2 [(2, .leaf (.kJsonNumber 0x3FF0000000000000))])
          ⟨⟨[0x7B, 0x22, 0x61, 0, 0x3A, 0x31, 0x7D], 3⟩, {2, 1}⟩
      ∧ platchFreeJsonValue (.kJsonObject 1 2 [(2, .leaf (.kJsonNumber 0x3FF0000000000000))])
        false {2, 1} = some {2}
      ∧ platchFreeJsonValue (.kJsonObject 1 2 [(2, .leaf (.kJsonNumber 0x3FF0000000000000))])
        false {2, 1} ≠ some ∅ :=
  ⟨rfl, rfl, by decide⟩

end Left

end FlutterWlroots.PlatformChannel
