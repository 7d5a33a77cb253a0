/-
  FlutterWlroots.Codec.StdBlocks — the memory of decoded messages in platform_channel.c.

  `platch_decode_value_std` copies each string and each large integer to a block of its own, and
  allocates one block for the members of a list, and one for the keys and values of a map together.
  `platch_free_value_std` frees them all but for the large integers, and `platch_free_obj` has no
  case for a method call response, of which nothing is freed.

    • `platchDecodeHeap_sameRun` — the decoder is the one without a ledger,
    • `platchDecodeHeap_adds`    — the blocks of an object are what it allocates,
    • `freed_blocks`             — what is freed of a value,
    • `freeObj_complete_iff`     — after which messages nothing is left.
-/
import FlutterWlroots.Codec.JsonBlocks
import FlutterWlroots.Codec.PlatchDecode
import FlutterWlroots.Lib.LedgerRun

namespace FlutterWlroots.PlatformChannel

open Lib.Ledger Lib.LedgerRun Lib.StateRun Lib.CInt
open FlutterWlroots.Codec

/-! ## §1. Values with their blocks. -/

/-- A value has a block of its own. -/
def HasBlock : DecodedValue → Bool
  | .kStdString _ | .kStdLargeInt _ | .kStdList _ | .kStdMap _ => true
  | _ => false

/-- A value without a block. -/
abbrev Scalar := { v : DecodedValue // HasBlock v = false }

/-- A decoded value with the addresses of its blocks. -/
inductive HeapStd where
  | scalar (value : Scalar)
  | kStdLargeInt (p : Nat) (string_value : CString)
  | kStdString (p : Nat) (string_value : CString)
  | kStdList (p : Nat) (list : List HeapStd)
  | kStdMap (p : Nat) (entries : List (HeapStd × HeapStd))

abbrev StdHeapM := LedgerM DecodeStop Cursor

section Decode

variable (a : Allocator) (base : Nat) (buffer : List UInt8)

/-- The cases of `platch_decode_value_std` that do not allocate. -/
def decodeScalar (type_byte : Nat) : DecodeM Scalar :=
  match type_byte with
  | 0 => return ⟨.kStdNull, rfl⟩
  | 1 => return ⟨.kStdTrue, rfl⟩
  | 2 => return ⟨.kStdFalse, rfl⟩
  | 3 => do
      let n ← readUInt buffer 4
      return ⟨.kStdInt32 (BitVec.ofNat 32 n), rfl⟩
  | 4 => do
      let n ← readUInt buffer 8
      return ⟨.kStdInt64 (BitVec.ofNat 64 n), rfl⟩
  | 6 => do
      align base 8
      let n ← readUInt buffer 8
      return ⟨.kStdFloat64 (BitVec.ofNat 64 n), rfl⟩
  | 8 => do
      let array ← decodeUInt8Array buffer
      return ⟨.kStdUInt8Array array, rfl⟩
  | 9 => do
      let array ← decodeArray base buffer 4
      return ⟨.kStdInt32Array array, rfl⟩
  | 10 => do
      let array ← decodeArray base buffer 8
      return ⟨.kStdInt64Array array, rfl⟩
  | 11 => do
      let array ← decodeArray base buffer 8
      return ⟨.kStdFloat64Array array, rfl⟩
  | _ => throw (.errno .EBADMSG)

/-- The `kStdString` and `kStdLargeInt` cases; the block is freed if the bytes are not there. -/
def decodeStringHeap : StdHeapM (Nat × CString) := do
  let size ← lift (readSize buffer)
  let p ← alloc a
  let bytes ← freeOnError p (lift (read buffer (toInt32 size)))
  return (p, CString.ofMemory bytes)

/-- The loop of the `kStdList` case. -/
def decodeTimesHeap {α : Type} (decode : StdHeapM α) : Nat → StdHeapM (List α)
  | 0 => return []
  | n + 1 => do
      let x ← decode
      let xs ← decodeTimesHeap decode n
      return x :: xs

/-- The loop of the `kStdMap` case. -/
def decodePairsHeap {α : Type} (decode : StdHeapM α) : Nat → StdHeapM (List (α × α))
  | 0 => return []
  | n + 1 => do
      let k ← decode
      let v ← decode
      let es ← decodePairsHeap decode n
      return (k, v) :: es

/-- `platch_decode_value_std`. -/
def platchDecodeValueStdHeap : Nat → StdHeapM HeapStd
  | 0 => throw .outOfFuel
  | fuel + 1 => do
      let type_byte ← lift (readUInt buffer 1)
      match type_byte with
      | 5 => do
          let s ← decodeStringHeap a buffer
          return .kStdLargeInt s.1 s.2
      | 7 => do
          let s ← decodeStringHeap a buffer
          return .kStdString s.1 s.2
      | 12 => do
          let size ← lift (readSize buffer)
          let p ← alloc a
          let xs ← decodeTimesHeap (platchDecodeValueStdHeap fuel) size
          return .kStdList p xs
      | 13 => do
          -- the values are behind the keys, in one block
          let size ← lift (readSize buffer)
          let p ← alloc a
          let es ← decodePairsHeap (platchDecodeValueStdHeap fuel) size
          return .kStdMap p es
      | type_byte => do
          let v ← lift (decodeScalar base buffer type_byte)
          return .scalar v

end Decode

mutual
/-- `platch_free_value_std`; no result if a block is freed that is not live. -/
def platchFreeValueStd : HeapStd → Finset Nat → Option (Finset Nat)
  | .scalar _, live | .kStdLargeInt _ _, live => some live
  | .kStdString p _, live => free p live
  | .kStdList p list, live => do
      let live ← freeStdList list live
      free p live
  | .kStdMap p entries, live => do
      let live ← freeStdEntries entries live
      free p live
/-- The loop over a list. -/
def freeStdList : List HeapStd → Finset Nat → Option (Finset Nat)
  | [], live => some live
  | v :: list, live => do
      let live ← platchFreeValueStd v live
      freeStdList list live
/-- The loop over a map. -/
def freeStdEntries : List (HeapStd × HeapStd) → Finset Nat → Option (Finset Nat)
  | [], live => some live
  | (k, v) :: entries, live => do
      let live ← platchFreeValueStd k live
      let live ← platchFreeValueStd v live
      freeStdEntries entries live
end

/-! ## §2. Objects. -/

/-- The fields of `struct platch_obj` for a method call response, with their blocks. -/
inductive HeapResponse where
  | success (std_result : HeapStd)
  | failure (p : Nat) (error_code : CString) (error_msg : Option (Nat × CString))
      (std_error_details : HeapStd)

/-- `struct platch_obj` with its blocks, for the codecs without JSON. -/
inductive HeapObj where
  | kStringCodec (p : Nat) (string_value : CString)
  | kBinaryCodec (binarydata : List UInt8)
  | kStandardMessageCodec (std_value : HeapStd)
  | kStandardMethodCall (p : Nat) (method : CString) (std_arg : HeapStd)
  | kStandardMethodCallResponse (response : HeapResponse)

/-- A value that is freed on the way out of `platch_decode`. -/
def releaseValue (v : HeapStd) : StdHeapM Unit :=
  modify fun h => { h with live := (platchFreeValueStd v h.live).getD h.live }

/-- The error code and the message of a response. -/
def errorStrings : HeapStd → HeapStd → Option (Nat × CString × Option (Nat × CString))
  | .kStdString p code, .kStdString q msg => some (p, code, some (q, msg))
  | .kStdString p code, .scalar ⟨.kStdNull, _⟩ => some (p, code, none)
  | _, _ => none

/-- The `kStandardMethodCallResponse` case of `platch_decode`. -/
def decodeResponseHeap (buffer : List UInt8) (value : StdHeapM HeapStd) :
    StdHeapM HeapResponse := do
  let success ← lift (tryCatch (readUInt buffer 1) fun _ => pure 0)
  if success ≠ 0 then do
    let std_result ← value
    return .success std_result
  else do
    let error_code ← value
    let error_msg ← value
    let std_error_details ← value
    match errorStrings error_code error_msg with
    | some (p, code, msg) => return .failure p code msg std_error_details
    | none => throw (.errno .EBADMSG)

/-- `platch_decode` of a message that is not empty. -/
def platchDecodeHeap (a : Allocator) (base : Nat) (buffer : List UInt8) (codec : PlatchCodec) :
    StdHeapM HeapObj :=
  let value := platchDecodeValueStdHeap a base buffer (buffer.length + 1)
  match codec with
  | .kNotImplemented => throw (.errno .EINVAL)
  | .kStringCodec => do
      let p ← alloc a
      return .kStringCodec p (CString.ofMemory buffer)
  | .kBinaryCodec => return .kBinaryCodec buffer
  | .kStandardMessageCodec => do
      let std_value ← value
      return .kStandardMessageCodec std_value
  | .kStandardMethodCall => do
      let methodname ← value
      match methodname with
      | .kStdString p method => do
          let std_arg ← value
          return .kStandardMethodCall p method std_arg
      | methodname => do
          releaseValue methodname
          throw (.errno .EBADMSG)
  | .kStandardMethodCallResponse => do
      let response ← decodeResponseHeap buffer value
      return .kStandardMethodCallResponse response

/-- `platch_free_obj`; a method call response has no case. -/
def platchFreeObj : HeapObj → Finset Nat → Option (Finset Nat)
  | .kStringCodec p _, live => free p live
  | .kBinaryCodec _, live => some live
  | .kStandardMessageCodec std_value, live => platchFreeValueStd std_value live
  | .kStandardMethodCall p _ std_arg, live => do
      let live ← free p live
      platchFreeValueStd std_arg live
  | .kStandardMethodCallResponse _, live => some live

/-! ## §3. The blocks. -/

mutual
/-- The blocks that were allocated for a value, in that order. -/
def HeapStd.blocks : HeapStd → List Nat
  | .scalar _ => []
  | .kStdLargeInt p _ | .kStdString p _ => [p]
  | .kStdList p list => p :: blocksList list
  | .kStdMap p entries => p :: blocksEntries entries
def HeapStd.blocksList : List HeapStd → List Nat
  | [] => []
  | v :: list => v.blocks ++ blocksList list
def HeapStd.blocksEntries : List (HeapStd × HeapStd) → List Nat
  | [] => []
  | (k, v) :: entries => k.blocks ++ (v.blocks ++ blocksEntries entries)
end

mutual
/-- The blocks that are freed, in that order. -/
def HeapStd.freed : HeapStd → List Nat
  | .scalar _ | .kStdLargeInt _ _ => []
  | .kStdString p _ => [p]
  | .kStdList p list => freedList list ++ [p]
  | .kStdMap p entries => freedEntries entries ++ [p]
def HeapStd.freedList : List HeapStd → List Nat
  | [] => []
  | v :: list => v.freed ++ freedList list
def HeapStd.freedEntries : List (HeapStd × HeapStd) → List Nat
  | [] => []
  | (k, v) :: entries => k.freed ++ (v.freed ++ freedEntries entries)
end

mutual
/-- How many large integers there are. -/
def HeapStd.largeInts : HeapStd → Nat
  | .scalar _ | .kStdString _ _ => 0
  | .kStdLargeInt _ _ => 1
  | .kStdList _ list => largeIntsList list
  | .kStdMap _ entries => largeIntsEntries entries
def HeapStd.largeIntsList : List HeapStd → Nat
  | [] => 0
  | v :: list => v.largeInts + largeIntsList list
def HeapStd.largeIntsEntries : List (HeapStd × HeapStd) → Nat
  | [] => 0
  | (k, v) :: entries => k.largeInts + v.largeInts + largeIntsEntries entries
end

mutual
/-- A value without its blocks. -/
def HeapStd.erase : HeapStd → DecodedValue
  | .scalar value => value
  | .kStdLargeInt _ s => .kStdLargeInt s
  | .kStdString _ s => .kStdString s
  | .kStdList _ list => .kStdList (eraseList list)
  | .kStdMap _ entries => .kStdMap (eraseEntries entries)
def HeapStd.eraseList : List HeapStd → List DecodedValue
  | [] => []
  | v :: list => v.erase :: eraseList list
def HeapStd.eraseEntries : List (HeapStd × HeapStd) → List (DecodedValue × DecodedValue)
  | [] => []
  | (k, v) :: entries => (k.erase, v.erase) :: eraseEntries entries
end

namespace HeapResponse

def blocks : HeapResponse → List Nat
  | .success std_result => std_result.blocks
  | .failure p _ error_msg std_error_details =>
      p :: ((error_msg.map Prod.fst).toList ++ std_error_details.blocks)

def erase : HeapResponse → MethodCallResponse Borrowed
  | .success std_result => .success std_result.erase
  | .failure _ code msg details => .failure code (msg.map Prod.snd) details.erase

end HeapResponse

namespace HeapObj

def blocks : HeapObj → List Nat
  | .kStringCodec p _ => [p]
  | .kBinaryCodec _ => []
  | .kStandardMessageCodec std_value => std_value.blocks
  | .kStandardMethodCall p _ std_arg => p :: std_arg.blocks
  | .kStandardMethodCallResponse response => response.blocks

def freed : HeapObj → List Nat
  | .kStringCodec p _ => [p]
  | .kBinaryCodec _ => []
  | .kStandardMessageCodec std_value => std_value.freed
  | .kStandardMethodCall p _ std_arg => p :: std_arg.freed
  | .kStandardMethodCallResponse _ => []

def erase : HeapObj → PlatchObj Borrowed
  | .kStringCodec _ s => .kStringCodec s
  | .kBinaryCodec binarydata => .kBinaryCodec binarydata
  | .kStandardMessageCodec std_value => .kStandardMessageCodec std_value.erase
  | .kStandardMethodCall _ method std_arg => .kStandardMethodCall method std_arg.erase
  | .kStandardMethodCallResponse response => .kStandardMethodCallResponse response.erase

end HeapObj

/-! ## §4. What is freed. -/

mutual
/-- **Freeing a value** frees these blocks one after the other. -/
theorem platchFreeValueStd_eq : ∀ (v : HeapStd) (live : Finset Nat),
    platchFreeValueStd v live = freeAll v.freed live
  | .scalar _, live => rfl
  | .kStdLargeInt _ _, live => rfl
  | .kStdString p _, live => (Option.bind_fun_some (free p live)).symm
  | .kStdList p list, live => by
      rw [platchFreeValueStd, HeapStd.freed, freeAll_concat, ← freeStdList_eq list live]
      rfl
  | .kStdMap p entries, live => by
      rw [platchFreeValueStd, HeapStd.freed, freeAll_concat, ← freeStdEntries_eq entries live]
      rfl
theorem freeStdList_eq : ∀ (list : List HeapStd) (live : Finset Nat),
    freeStdList list live = freeAll (HeapStd.freedList list) live
  | [], live => rfl
  | v :: list, live => by
      rw [freeStdList, HeapStd.freedList, freeAll_append, ← platchFreeValueStd_eq v live]
      exact congrArg _ (funext fun live => freeStdList_eq list live)
theorem freeStdEntries_eq : ∀ (entries : List (HeapStd × HeapStd)) (live : Finset Nat),
    freeStdEntries entries live = freeAll (HeapStd.freedEntries entries) live
  | [], live => rfl
  | (k, v) :: entries, live => by
      rw [freeStdEntries, HeapStd.freedEntries, freeAll_append, ← platchFreeValueStd_eq k live]
      refine congrArg _ (funext fun live => ?_)
      rw [freeAll_append, ← platchFreeValueStd_eq v live]
      exact congrArg _ (funext fun live => freeStdEntries_eq entries live)
end

theorem platchFreeObj_eq (o : HeapObj) (live : Finset Nat) :
    platchFreeObj o live = freeAll o.freed live := by
  cases o with
  | kStringCodec p s => exact (Option.bind_fun_some (free p live)).symm
  | kStandardMessageCodec v => exact platchFreeValueStd_eq v live
  | kStandardMethodCall p method v =>
      show (free p live).bind _ = (free p live).bind _
      exact congrArg _ (funext fun live => platchFreeValueStd_eq v live)
  | kBinaryCodec binarydata => rfl
  | kStandardMethodCallResponse response => rfl

mutual
/-- **What is freed** is among the blocks, and the one of each large integer is left. -/
theorem freed_blocks : ∀ v : HeapStd,
    v.freed.Subperm v.blocks ∧ v.blocks.length = v.freed.length + v.largeInts
  | .scalar _ => ⟨List.Subperm.refl _, rfl⟩
  | .kStdLargeInt p _ => ⟨List.nil_subperm, rfl⟩
  | .kStdString p _ => ⟨List.Subperm.refl _, rfl⟩
  | .kStdList p list => by
      obtain ⟨hsub, hlen⟩ := freedList_blocks list
      rw [HeapStd.freed, HeapStd.blocks, HeapStd.largeInts, List.length_append, List.length_cons,
        List.length_singleton]
      exact ⟨subperm_concat_cons hsub p, by omega⟩
  | .kStdMap p entries => by
      obtain ⟨hsub, hlen⟩ := freedEntries_blocks entries
      rw [HeapStd.freed, HeapStd.blocks, HeapStd.largeInts, List.length_append, List.length_cons,
        List.length_singleton]
      exact ⟨subperm_concat_cons hsub p, by omega⟩
theorem freedList_blocks : ∀ list : List HeapStd,
    (HeapStd.freedList list).Subperm (HeapStd.blocksList list)
      ∧ (HeapStd.blocksList list).length
        = (HeapStd.freedList list).length + HeapStd.largeIntsList list
  | [] => ⟨List.Subperm.refl _, rfl⟩
  | v :: list => by
      obtain ⟨hsub, hlen⟩ := freed_blocks v
      obtain ⟨hsub', hlen'⟩ := freedList_blocks list
      rw [HeapStd.freedList, HeapStd.blocksList, HeapStd.largeIntsList, List.length_append,
        List.length_append]
      exact ⟨hsub.append hsub', by omega⟩
theorem freedEntries_blocks : ∀ entries : List (HeapStd × HeapStd),
    (HeapStd.freedEntries entries).Subperm (HeapStd.blocksEntries entries)
      ∧ (HeapStd.blocksEntries entries).length
        = (HeapStd.freedEntries entries).length + HeapStd.largeIntsEntries entries
  | [] => ⟨List.Subperm.refl _, rfl⟩
  | (k, v) :: entries => by
      obtain ⟨hsub, hlen⟩ := freed_blocks k
      obtain ⟨hsub', hlen'⟩ := freed_blocks v
      obtain ⟨hsub'', hlen''⟩ := freedEntries_blocks entries
      simp only [HeapStd.freedEntries, HeapStd.blocksEntries, HeapStd.largeIntsEntries,
        List.length_append]
      exact ⟨hsub.append (hsub'.append hsub''), by omega⟩
end

/-! ## §5. What a decode allocates. -/

section Allocates

variable {a : Allocator} {base : Nat} {buffer : List UInt8}

theorem adds_decodeStringHeap :
    Adds (fun s => [s.1]) (decodeStringHeap a buffer) := by
  refine (adds_lift (readSize buffer)).bind fun size h s h' hrun => ⟨[s.1], rfl, ?_⟩
  obtain ⟨p, h₁, hp, hrun⟩ := run_bind_eq_ok.mp hrun
  obtain ⟨bytes, h₂, hbytes, hrun⟩ := run_bind_eq_ok.mp hrun
  obtain ⟨rfl, rfl⟩ := run_pure_eq_ok.mp hrun
  have hread := (adds_lift (read buffer (toInt32 size))).freeOnError p h₁ bytes h₂ hbytes
  exact (adds_alloc a h p h₁ hp).append hread

theorem adds_decodeTimesHeap {x : StdHeapM HeapStd} (hx : Adds HeapStd.blocks x) :
    ∀ n, Adds HeapStd.blocksList (decodeTimesHeap x n)
  | 0 => adds_pure _ rfl
  | n + 1 => by
      refine hx.bind fun v h list h' hrun => ?_
      obtain ⟨rest, h₁, hrest, hrun⟩ := run_bind_eq_ok.mp hrun
      obtain ⟨rfl, rfl⟩ := run_pure_eq_ok.mp hrun
      exact ⟨_, rfl, adds_decodeTimesHeap hx n h rest h₁ hrest⟩

theorem adds_decodePairsHeap {x : StdHeapM HeapStd} (hx : Adds HeapStd.blocks x) :
    ∀ n, Adds HeapStd.blocksEntries (decodePairsHeap x n)
  | 0 => adds_pure _ rfl
  | n + 1 => by
      refine hx.bind fun k h entries h' hrun => ?_
      obtain ⟨v, h₁, hv, hrun⟩ := run_bind_eq_ok.mp hrun
      obtain ⟨rest, h₂, hrest, hrun⟩ := run_bind_eq_ok.mp hrun
      obtain ⟨rfl, rfl⟩ := run_pure_eq_ok.mp hrun
      exact ⟨_, rfl, (hx h v h₁ hv).append (adds_decodePairsHeap hx n h₁ rest h₂ hrest)⟩

/-- **The blocks of a value** are what its decode allocates. -/
theorem platchDecodeValueStdHeap_adds (a : Allocator) (base : Nat) (buffer : List UInt8) :
    ∀ fuel, Adds HeapStd.blocks (platchDecodeValueStdHeap a base buffer fuel)
  | 0 => adds_throw _
  | fuel + 1 => by
      have ih := platchDecodeValueStdHeap_adds a base buffer fuel
      refine (adds_lift (readUInt buffer 1)).bind fun type_byte h v h' hrun =>
        ⟨v.blocks, rfl, ?_⟩
      split at hrun
      · obtain ⟨s, h₁, hs, hrun⟩ := run_bind_eq_ok.mp hrun
        obtain ⟨rfl, rfl⟩ := run_pure_eq_ok.mp hrun
        exact adds_decodeStringHeap h s h₁ hs
      · obtain ⟨s, h₁, hs, hrun⟩ := run_bind_eq_ok.mp hrun
        obtain ⟨rfl, rfl⟩ := run_pure_eq_ok.mp hrun
        exact adds_decodeStringHeap h s h₁ hs
      · obtain ⟨size, h₁, hsize, hrun⟩ := run_bind_eq_ok.mp hrun
        obtain ⟨p, h₂, hp, hrun⟩ := run_bind_eq_ok.mp hrun
        obtain ⟨list, h₃, hlist, hrun⟩ := run_bind_eq_ok.mp hrun
        obtain ⟨rfl, rfl⟩ := run_pure_eq_ok.mp hrun
        exact (adds_lift (readSize buffer) h size h₁ hsize).append
          ((adds_alloc a h₁ p h₂ hp).append
            (adds_decodeTimesHeap ih size h₂ list h₃ hlist))
      · obtain ⟨size, h₁, hsize, hrun⟩ := run_bind_eq_ok.mp hrun
        obtain ⟨p, h₂, hp, hrun⟩ := run_bind_eq_ok.mp hrun
        obtain ⟨entries, h₃, hentries, hrun⟩ := run_bind_eq_ok.mp hrun
        obtain ⟨rfl, rfl⟩ := run_pure_eq_ok.mp hrun
        exact (adds_lift (readSize buffer) h size h₁ hsize).append
          ((adds_alloc a h₁ p h₂ hp).append
            (adds_decodePairsHeap ih size h₂ entries h₃ hentries))
      · obtain ⟨value, h₁, hvalue, hrun⟩ := run_bind_eq_ok.mp hrun
        obtain ⟨rfl, rfl⟩ := run_pure_eq_ok.mp hrun
        exact adds_lift _ h value h₁ hvalue

/-- The strings of an error are the blocks of its two values. -/
theorem blocks_of_errorStrings {code msg : HeapStd} {p : Nat} {s : CString}
    {q : Option (Nat × CString)} (h : errorStrings code msg = some (p, s, q)) :
    code.blocks = [p] ∧ msg.blocks = (q.map Prod.fst).toList := by
  unfold errorStrings at h
  split at h
  · cases h
    exact ⟨rfl, rfl⟩
  · cases h
    exact ⟨rfl, rfl⟩
  · cases h

theorem decodeResponseHeap_adds {value : StdHeapM HeapStd}
    (hx : Adds HeapStd.blocks value) :
    Adds HeapResponse.blocks (decodeResponseHeap buffer value) := by
  refine (adds_lift _).bind fun success h r h' hrun => ⟨r.blocks, rfl, ?_⟩
  split at hrun
  · obtain ⟨v, h₁, hv, hrun⟩ := run_bind_eq_ok.mp hrun
    obtain ⟨rfl, rfl⟩ := run_pure_eq_ok.mp hrun
    exact hx h v h₁ hv
  · obtain ⟨code, h₁, hcode, hrun⟩ := run_bind_eq_ok.mp hrun
    obtain ⟨msg, h₂, hmsg, hrun⟩ := run_bind_eq_ok.mp hrun
    obtain ⟨details, h₃, hdetails, hrun⟩ := run_bind_eq_ok.mp hrun
    cases hstrings : errorStrings code msg with
    | none =>
        rw [hstrings] at hrun
        exact (run_throw_eq_ok.mp hrun).elim
    | some strings =>
        rw [hstrings] at hrun
        obtain ⟨rfl, rfl⟩ := run_pure_eq_ok.mp hrun
        obtain ⟨hp, hq⟩ := blocks_of_errorStrings hstrings
        have hcode' := hx h code h₁ hcode
        have hmsg' := hx h₁ msg h₂ hmsg
        rw [hp] at hcode'
        rw [hq] at hmsg'
        exact hcode'.append (hmsg'.append (hx h₂ details h₃ hdetails))

/-- **The blocks of an object** are what its decode allocates. -/
theorem platchDecodeHeap_adds (a : Allocator) (base : Nat) (buffer : List UInt8)
    (codec : PlatchCodec) : Adds HeapObj.blocks (platchDecodeHeap a base buffer codec) := by
  have hvalue := platchDecodeValueStdHeap_adds a base buffer (buffer.length + 1)
  unfold platchDecodeHeap
  cases codec with
  | kNotImplemented => exact adds_throw _
  | kStringCodec =>
      refine (adds_alloc a).bind fun p h o h' hrun => ?_
      obtain ⟨rfl, rfl⟩ := run_pure_eq_ok.mp hrun
      exact ⟨[], rfl, allocated_nil _⟩
  | kBinaryCodec => exact adds_pure _ rfl
  | kStandardMessageCodec =>
      refine hvalue.bind fun v h o h' hrun => ?_
      obtain ⟨rfl, rfl⟩ := run_pure_eq_ok.mp hrun
      exact ⟨[], (List.append_nil _).symm, allocated_nil _⟩
  | kStandardMethodCall =>
      refine hvalue.bind fun methodname h o h' hrun => ?_
      split at hrun
      next p method =>
          obtain ⟨v, h₁, hv, hrun⟩ := run_bind_eq_ok.mp hrun
          obtain ⟨rfl, rfl⟩ := run_pure_eq_ok.mp hrun
          exact ⟨v.blocks, rfl, hvalue h v h₁ hv⟩
      next =>
          obtain ⟨-, h₁, -, hrun⟩ := run_bind_eq_ok.mp hrun
          exact (run_throw_eq_ok.mp hrun).elim
  | kStandardMethodCallResponse =>
      refine (decodeResponseHeap_adds hvalue).bind fun response h o h' hrun => ?_
      obtain ⟨rfl, rfl⟩ := run_pure_eq_ok.mp hrun
      exact ⟨[], (List.append_nil _).symm, allocated_nil _⟩

end Allocates

/-! ## §6. The decoder without a ledger. -/

section SameRun

variable {a : Allocator} {base : Nat} {buffer : List UInt8}

/-- The cases without a block, and the four others. -/
theorem platchDecodeValueStd_eq (base : Nat) (buffer : List UInt8) (fuel : Nat) :
    platchDecodeValueStd base buffer (fuel + 1) = readUInt buffer 1 >>= fun type_byte =>
      match type_byte with
      | 5 => do
          let s ← decodeString buffer
          return .kStdLargeInt s
      | 7 => do
          let s ← decodeString buffer
          return .kStdString s
      | 12 => do
          let size ← readSize buffer
          let xs ← decodeTimes (platchDecodeValueStd base buffer fuel) size
          return .kStdList xs
      | 13 => do
          let size ← readSize buffer
          let es ← decodePairs (platchDecodeValueStd base buffer fuel) size
          return .kStdMap es
      | type_byte => do
          let v ← decodeScalar base buffer type_byte
          return v.1 := by
  rw [platchDecodeValueStd]
  refine congrArg _ (funext fun type_byte => ?_)
  match type_byte with
  | 0 | 1 | 2 | 5 | 7 | 12 | 13 => rfl
  | 3 | 4 | 6 | 8 | 9 | 10 | 11 => simp [decodeScalar]
  | n + 14 =>
      simp only [decodeScalar]
      rfl

theorem decodeStringHeap_sameRun (h : WithLedger Cursor) :
    SameRun (decodeStringHeap a buffer) (decodeString buffer) h h.inner SameInner
      fun v w h c => v.2 = w ∧ SameInner h c := by
  unfold decodeStringHeap decodeString
  refine (lift_sameRun (readSize buffer) h).bind ?_
  intro size size' h₁ c heq
  have hsize : size = size' := heq.1
  have hc : h₁.inner = c := heq.2
  rw [← hsize, ← hc]
  generalize toInt32 size = n
  refine alloc_sameRun fun p h₂ => ?_
  refine (freeOnError_sameRun (lift_sameRun _ h₂)).bind ?_
  rintro bytes _ h₃ _ ⟨rfl, rfl⟩
  exact sameRun_pure ⟨rfl, rfl⟩

variable {x : StdHeapM HeapStd} {y : DecodeM DecodedValue}

theorem decodeTimesHeap_sameRun
    (hx : ∀ h, SameRun x y h h.inner SameInner fun v w h c => v.erase = w ∧ SameInner h c) :
    ∀ n h, SameRun (decodeTimesHeap x n) (decodeTimes y n) h h.inner SameInner
      fun vs ws h c => HeapStd.eraseList vs = ws ∧ SameInner h c
  | 0, h => sameRun_pure ⟨rfl, rfl⟩
  | n + 1, h => by
      refine (hx h).bind ?_
      rintro v _ h₁ _ ⟨rfl, rfl⟩
      refine (decodeTimesHeap_sameRun hx n h₁).bind ?_
      rintro vs _ h₂ _ ⟨rfl, rfl⟩
      exact sameRun_pure ⟨rfl, rfl⟩

theorem decodePairsHeap_sameRun
    (hx : ∀ h, SameRun x y h h.inner SameInner fun v w h c => v.erase = w ∧ SameInner h c) :
    ∀ n h, SameRun (decodePairsHeap x n) (decodePairs y n) h h.inner SameInner
      fun vs ws h c => HeapStd.eraseEntries vs = ws ∧ SameInner h c
  | 0, h => sameRun_pure ⟨rfl, rfl⟩
  | n + 1, h => by
      refine (hx h).bind ?_
      rintro k _ h₁ _ ⟨rfl, rfl⟩
      refine (hx h₁).bind ?_
      rintro v _ h₂ _ ⟨rfl, rfl⟩
      refine (decodePairsHeap_sameRun hx n h₂).bind ?_
      rintro vs _ h₃ _ ⟨rfl, rfl⟩
      exact sameRun_pure ⟨rfl, rfl⟩

/-- **With the ledger left out** the decoder is the one of the standard codec. -/
theorem platchDecodeValueStdHeap_sameRun (a : Allocator) (base : Nat) (buffer : List UInt8) :
    ∀ fuel h, SameRun (platchDecodeValueStdHeap a base buffer fuel)
      (platchDecodeValueStd base buffer fuel) h h.inner SameInner
      fun v w h c => v.erase = w ∧ SameInner h c
  | 0, h => sameRun_throw rfl
  | fuel + 1, h => by
      have ih := platchDecodeValueStdHeap_sameRun a base buffer fuel
      rw [platchDecodeValueStd_eq]
      refine (lift_sameRun _ h).bind ?_
      rintro type_byte _ h₁ _ ⟨rfl, rfl⟩
      split
      · refine (decodeStringHeap_sameRun h₁).bind ?_
        rintro s _ h₂ _ ⟨rfl, rfl⟩
        exact sameRun_pure ⟨rfl, rfl⟩
      · refine (decodeStringHeap_sameRun h₁).bind ?_
        rintro s _ h₂ _ ⟨rfl, rfl⟩
        exact sameRun_pure ⟨rfl, rfl⟩
      · refine (lift_sameRun _ h₁).bind ?_
        rintro size _ h₂ _ ⟨rfl, rfl⟩
        refine alloc_sameRun fun p h₃ => ?_
        refine (decodeTimesHeap_sameRun ih size h₃).bind ?_
        rintro vs _ h₄ _ ⟨rfl, rfl⟩
        exact sameRun_pure ⟨rfl, rfl⟩
      · refine (lift_sameRun _ h₁).bind ?_
        rintro size _ h₂ _ ⟨rfl, rfl⟩
        refine alloc_sameRun fun p h₃ => ?_
        refine (decodePairsHeap_sameRun ih size h₃).bind ?_
        rintro vs _ h₄ _ ⟨rfl, rfl⟩
        exact sameRun_pure ⟨rfl, rfl⟩
      · refine (lift_sameRun _ h₁).bind ?_
        rintro value _ h₂ _ ⟨rfl, rfl⟩
        exact sameRun_pure ⟨rfl, rfl⟩

/-- The response that the strings and the details of an error make. -/
theorem errorResponse_sameRun {code msg details : HeapStd} (h : WithLedger Cursor) :
    SameRun
      (match errorStrings code msg with
        | some (p, code, msg) => pure (.failure p code msg details)
        | none => throw (.errno .EBADMSG) : StdHeapM HeapResponse)
      (match code.erase, msg.erase with
        | .kStdString code, .kStdString msg => pure (.failure code (some msg) details.erase)
        | .kStdString code, .kStdNull => pure (.failure code none details.erase)
        | _, _ => throw (.errno .EBADMSG) : DecodeM (MethodCallResponse Borrowed))
      h h.inner SameInner
      fun r w h c => r.erase = w ∧ SameInner h c := by
  cases code with
  | kStdString p s =>
      cases msg with
      | kStdString q s' => exact sameRun_pure ⟨rfl, rfl⟩
      | scalar value =>
          obtain ⟨value, hvalue⟩ := value
          cases value with
          | kStdNull => exact sameRun_pure ⟨rfl, rfl⟩
          | kStdString _ | kStdLargeInt _ | kStdList _ | kStdMap _ => cases hvalue
          | _ => exact sameRun_throw rfl
      | _ => exact sameRun_throw rfl
  | scalar value =>
      obtain ⟨value, hvalue⟩ := value
      cases value with
      | kStdString _ | kStdLargeInt _ | kStdList _ | kStdMap _ => cases hvalue
      | _ => exact sameRun_throw rfl
  | _ => exact sameRun_throw rfl

theorem decodeResponseHeap_sameRun
    (hx : ∀ h, SameRun x y h h.inner SameInner fun v w h c => v.erase = w ∧ SameInner h c)
    (h : WithLedger Cursor) :
    SameRun (decodeResponseHeap buffer x) (decodeResponse buffer y) h h.inner SameInner
      fun r w h c => r.erase = w ∧ SameInner h c := by
  refine (lift_sameRun _ h).bind ?_
  rintro success _ h₁ _ ⟨rfl, rfl⟩
  split
  · refine (hx h₁).bind ?_
    rintro v _ h₂ _ ⟨rfl, rfl⟩
    exact sameRun_pure ⟨rfl, rfl⟩
  · refine (hx h₁).bind ?_
    rintro code _ h₂ _ ⟨rfl, rfl⟩
    refine (hx h₂).bind ?_
    rintro msg _ h₃ _ ⟨rfl, rfl⟩
    refine (hx h₃).bind ?_
    rintro details _ h₄ _ ⟨rfl, rfl⟩
    exact errorResponse_sameRun h₄

/-- **Whole messages.** -/
theorem platchDecodeHeap_sameRun (a : Allocator) (base : Nat) (buffer : List UInt8)
    (codec : PlatchCodec) (h : WithLedger Cursor) :
    SameRun (platchDecodeHeap a base buffer codec) (platchDecode base (some buffer) codec)
      h h.inner SameInner fun o w h c => o.erase = w ∧ SameInner h c := by
  have hvalue := platchDecodeValueStdHeap_sameRun a base buffer (buffer.length + 1)
  unfold platchDecodeHeap platchDecode
  cases codec with
  | kNotImplemented => exact sameRun_throw rfl
  | kStringCodec => exact alloc_sameRun fun p h' => sameRun_pure ⟨rfl, rfl⟩
  | kBinaryCodec => exact sameRun_pure ⟨rfl, rfl⟩
  | kStandardMessageCodec =>
      refine (hvalue h).bind ?_
      rintro v _ h₁ _ ⟨rfl, rfl⟩
      exact sameRun_pure ⟨rfl, rfl⟩
  | kStandardMethodCall =>
      refine (hvalue h).bind ?_
      rintro methodname _ h₁ _ ⟨rfl, rfl⟩
      cases methodname with
      | kStdString p method =>
          refine (hvalue h₁).bind ?_
          rintro v _ h₂ _ ⟨rfl, rfl⟩
          exact sameRun_pure ⟨rfl, rfl⟩
      | scalar value =>
          obtain ⟨value, hscalar⟩ := value
          cases value with
          | kStdString _ | kStdLargeInt _ | kStdList _ | kStdMap _ => cases hscalar
          | _ => exact sameRun_of_error rfl rfl rfl
      | _ => exact sameRun_of_error rfl rfl rfl
  | kStandardMethodCallResponse =>
      refine (decodeResponseHeap_sameRun hvalue h).bind ?_
      rintro response _ h₁ _ ⟨rfl, rfl⟩
      exact sameRun_pure ⟨rfl, rfl⟩

end SameRun

/-! ## §7. What is left. -/

/-- No value is a large integer. -/
def NoLargeInt : DecodedValue → Bool :=
  StdTree.everyNode fun
    | .kStdLargeInt _ => false
    | _ => true

mutual
theorem largeInts_eq_zero_iff : ∀ v : HeapStd, v.largeInts = 0 ↔ NoLargeInt v.erase = true
  | .scalar ⟨value, hvalue⟩ => by
      refine iff_of_true rfl ?_
      show NoLargeInt value = true
      cases value with
      | kStdString _ | kStdLargeInt _ | kStdList _ | kStdMap _ => cases hvalue
      | _ => rfl
  | .kStdLargeInt _ _ => by
      refine iff_of_false Nat.one_ne_zero ?_
      exact Bool.false_ne_true
  | .kStdString _ _ => iff_of_true rfl rfl
  | .kStdList _ list => largeIntsList_eq_zero_iff list
  | .kStdMap _ entries => largeIntsEntries_eq_zero_iff entries
theorem largeIntsList_eq_zero_iff : ∀ list : List HeapStd,
    HeapStd.largeIntsList list = 0 ↔ NoLargeInt (.kStdList (HeapStd.eraseList list)) = true
  | [] => iff_of_true rfl rfl
  | v :: list => by
      have hv := largeInts_eq_zero_iff v
      have hlist := largeIntsList_eq_zero_iff list
      rw [HeapStd.largeIntsList, Nat.add_eq_zero_iff, hv, hlist]
      simp [NoLargeInt, HeapStd.eraseList, StdTree.everyNode, StdTree.everyNodeList]
theorem largeIntsEntries_eq_zero_iff : ∀ entries : List (HeapStd × HeapStd),
    HeapStd.largeIntsEntries entries = 0
      ↔ NoLargeInt (.kStdMap (HeapStd.eraseEntries entries)) = true
  | [] => iff_of_true rfl rfl
  | (k, v) :: entries => by
      have hk := largeInts_eq_zero_iff k
      have hv := largeInts_eq_zero_iff v
      have hentries := largeIntsEntries_eq_zero_iff entries
      rw [HeapStd.largeIntsEntries, Nat.add_eq_zero_iff, Nat.add_eq_zero_iff, hk, hv, hentries]
      simp [NoLargeInt, HeapStd.eraseEntries, StdTree.everyNode, StdTree.everyNodeEntries]
end

/-- The blocks of a value are none if and only if it has no block of its own. -/
theorem blocks_eq_nil_iff (v : HeapStd) : v.blocks = [] ↔ HasBlock v.erase = false := by
  cases v with
  | scalar value => exact iff_of_true rfl value.2
  | _ => exact iff_of_false (List.cons_ne_nil _ _) nofun

/-- The messages that `platch_free_obj` frees completely. -/
def FreesAll : PlatchObj Borrowed → Bool
  | .kStandardMessageCodec v | .kStandardMethodCall _ v => NoLargeInt v
  | .kStandardMethodCallResponse (.success v) => !HasBlock v
  | .kStandardMethodCallResponse (.failure ..) => false
  | .kNotImplemented | .kStringCodec _ | .kBinaryCodec _ => true

theorem freed_obj (o : HeapObj) : o.freed.Subperm o.blocks
    ∧ (o.freed.length = o.blocks.length ↔ FreesAll o.erase = true) := by
  cases o with
  | kStringCodec p s => exact ⟨List.Subperm.refl _, iff_of_true rfl rfl⟩
  | kBinaryCodec binarydata => exact ⟨List.Subperm.refl _, iff_of_true rfl rfl⟩
  | kStandardMessageCodec v =>
      obtain ⟨hsub, hlen⟩ := freed_blocks v
      refine ⟨hsub, ?_⟩
      show v.freed.length = v.blocks.length ↔ NoLargeInt v.erase = true
      rw [← largeInts_eq_zero_iff, hlen]
      omega
  | kStandardMethodCall p method v =>
      obtain ⟨hsub, hlen⟩ := freed_blocks v
      refine ⟨(List.subperm_cons p).mpr hsub, ?_⟩
      show v.freed.length + 1 = v.blocks.length + 1 ↔ NoLargeInt v.erase = true
      rw [← largeInts_eq_zero_iff, hlen]
      omega
  | kStandardMethodCallResponse response =>
      refine ⟨List.nil_subperm, ?_⟩
      cases response with
      | success v =>
          show 0 = v.blocks.length ↔ (!HasBlock v.erase) = true
          rw [Bool.not_eq_true', ← blocks_eq_nil_iff, eq_comm, List.length_eq_zero_iff]
      | failure p code msg details =>
          exact iff_of_false (Nat.succ_ne_zero _).symm Bool.false_ne_true

end FlutterWlroots.PlatformChannel
