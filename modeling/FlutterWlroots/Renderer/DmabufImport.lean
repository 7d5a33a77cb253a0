/-
  FlutterWlroots.Renderer.DmabufImport — client buffers as textures, without a copy (renderer.c).

  `fwr_renderer_import_surface_dmabuf` makes an EGLImage of the current buffer of a surface and
  binds it to the cached texture.  The images of the last four buffers are kept, by the address of
  the `wlr_buffer`; the texture is not bound again if the handle of the image is the one bound last.

    • `EglState`                — the cache, the EGLImages that exist, the buffers of the client,
    • `getOrCreateEglImage`     — the cache of four images,
    • `importSurfaceDmabuf`     — the import,
    • `dmabuf`                  — the runs of imports while buffers come and go.

  Handles, addresses and texture names are numbers, 0 is none.  An EGLImage and a buffer have an
  identity besides, which is not used again when a handle or an address is.
-/
import FlutterWlroots.Lib.Machine
import FlutterWlroots.Lib.Store

namespace FlutterWlroots.Renderer

open Lib

/-! ## §1. State. -/

/-- An EGLImage: its identity and the buffer it was created from. -/
structure EglImage where
  id : Nat
  source : Nat
  deriving DecidableEq

/-- A `wlr_buffer` that the client has not freed. -/
structure WlrBuffer where
  address : Nat

/-- `fwr_eglimage_cache_entry`. -/
structure EglImageCacheEntry where
  buffer : Nat
  eglImage : Nat
  width : Int
  height : Int

/-- `fwr_cached_texture`; `FWR_EGLIMAGE_CACHE_SIZE` is 4. -/
structure FwrCachedTexture where
  tex : Nat
  width : Int
  height : Int
  lastSeq : UInt32
  isExternal : Bool
  texParamsSet : Bool
  destroyed : Bool
  eglCache : Fin 4 → EglImageCacheEntry
  eglCacheNext : Fin 4
  currentEglImage : Nat

/-- One cached texture with what surrounds it.  `live` are the EGLImages by handle, `bound` is the
    image that the texture was last bound to.  `committed` is the sequence number of the last call
    and `imported` the buffer it succeeded with, if it did. -/
structure EglState where
  cache : FwrCachedTexture
  live : AList fun _ : Nat => EglImage
  created : Nat
  bound : Option EglImage
  buffers : Store WlrBuffer
  committed : Option UInt32
  imported : Option Nat

namespace EglState

/-- The cache of a new surface. -/
def init : EglState where
  cache :=
    { tex := 0, width := 0, height := 0, lastSeq := 0, isExternal := false, texParamsSet := false
      destroyed := false, eglCache := fun _ => ⟨0, 0, 0, 0⟩, eglCacheNext := 0
      currentEglImage := 0 }
  live := ∅
  created := 0
  bound := none
  buffers := .empty
  committed := none
  imported := none

variable (s : EglState)

abbrev entry (i : Fin 4) : EglImageCacheEntry := s.cache.eglCache i

def setEntry (i : Fin 4) (entry : EglImageCacheEntry) : EglState :=
  { s with cache := { s.cache with eglCache := Function.update s.cache.eglCache i entry } }

/-- `eglDestroyImageKHR`. -/
def eglDestroyImage (handle : Nat) : EglState := { s with live := s.live.erase handle }

/-! ## §2. The cache of images. -/

/-- The image of an entry destroyed and the entry cleared. -/
def invalidate (i : Fin 4) : EglState :=
  (s.eglDestroyImage (s.entry i).eglImage).setEntry i ⟨0, 0, 0, 0⟩

/-- The entry has an image of a buffer at this address. -/
def Caches (buffer : Nat) (i : Fin 4) : Prop :=
  (s.entry i).buffer = buffer ∧ (s.entry i).eglImage ≠ 0

def HasSize (width height : Int) (i : Fin 4) : Prop :=
  (s.entry i).width = width ∧ (s.entry i).height = height

instance (buffer : Nat) (i : Fin 4) : Decidable (s.Caches buffer i) :=
  inferInstanceAs (Decidable (_ ∧ _))

instance (width height : Int) (i : Fin 4) : Decidable (s.HasSize width height i) :=
  inferInstanceAs (Decidable (_ ∧ _))

/-- The slots in the order of the loops. -/
def slots : List (Fin 4) := [0, 1, 2, 3]

/-- The first loop of `get_or_create_egl_image`: the image of the buffer if it has the size; an
    image of another size is destroyed. -/
def lookup (buffer : Nat) (width height : Int) : List (Fin 4) → EglState → Option Nat × EglState
  | [], s => (none, s)
  | i :: rest, s =>
      if s.Caches buffer i then
        if s.HasSize width height i then (some (s.entry i).eglImage, s)
        else lookup buffer width height rest (s.invalidate i)
      else lookup buffer width height rest s

/-- The second loop: every image is destroyed. -/
def clear : List (Fin 4) → EglState → EglState
  | [], s => s
  | i :: rest, s => if (s.entry i).eglImage ≠ 0 then clear rest (s.invalidate i) else clear rest s

/-- The texture had another size. -/
def Resized (width height : Int) : Prop :=
  s.cache.width ≠ 0 ∧ (s.cache.width ≠ width ∨ s.cache.height ≠ height)

instance (width height : Int) : Decidable (s.Resized width height) :=
  inferInstanceAs (Decidable (_ ∧ _))

def resize (width height : Int) : EglState :=
  if s.Resized width height then
    let s := clear slots s
    { s with cache := { s.cache with currentEglImage := 0, texParamsSet := false } }
  else s

/-- The turn of the next slot. -/
def advance : EglState :=
  { s with cache := { s.cache with eglCacheNext := s.cache.eglCacheNext + 1 } }

/-- The next slot in turn, emptied.  The width and the height of the entry stay. -/
def evict : EglState :=
  let slot := s.cache.eglCacheNext
  let s := s.advance
  if (s.entry slot).eglImage ≠ 0 then
    (s.eglDestroyImage (s.entry slot).eglImage).setEntry slot
      { s.entry slot with eglImage := 0, buffer := 0 }
  else s

/-- `eglCreateImageKHR` of a buffer: it has answered with a handle that was not in use. -/
def eglCreateImage (source handle : Nat) : EglState :=
  { s with live := s.live.insert handle ⟨s.created, source⟩, created := s.created + 1 }

/-- `WLR_DMABUF_MAX_PLANES`. -/
def dmabufMaxPlanes : Int := 4

/-- `wlr_dmabuf_attributes`, as far as they matter before the image is created. -/
structure DmabufAttributes where
  width : Int
  height : Int
  nPlanes : Int

/-- `get_or_create_egl_image` for the buffer `source` at the address `buffer`; `answer` is that of
    `eglCreateImageKHR`.  No result if this handle is in use. -/
def getOrCreateEglImage (source buffer : Nat) (attribs : DmabufAttributes) (answer : Nat) :
    Option (Nat × EglState) :=
  if attribs.nPlanes ≤ 0 ∨ attribs.nPlanes > dmabufMaxPlanes then some (0, s)
  else
    match lookup buffer attribs.width attribs.height slots s with
    | (some eglImage, s) => some (eglImage, s)
    | (none, s) =>
        let s := s.resize attribs.width attribs.height
        let slot := s.cache.eglCacheNext
        let s := s.evict
        if answer = 0 then some (0, s)
        else if answer ∈ s.live then none
        else some (answer,
          (s.eglCreateImage source answer).setEntry slot
            ⟨buffer, answer, attribs.width, attribs.height⟩)

/-! ## §3. The import. -/

/-- A call of `fwr_renderer_import_surface_dmabuf` with what the other components answer: the buffer
    of the surface if there is one, its attributes if it is a DMA-BUF, the image handle and the
    texture name that EGL and GL choose if they are asked. -/
structure Import where
  hasDmabufImport : Bool
  source : Option Nat
  attribs : Option DmabufAttributes
  currentSeq : UInt32
  image : Nat
  tex : Nat

/-- The texture bound to an image, unless it was bound to this handle last. -/
def bind (eglImage : Nat) : EglState :=
  let s := { s with cache := { s.cache with isExternal := true } }
  if s.cache.currentEglImage ≠ eglImage then
    { s with
      bound := s.live.lookup eglImage
      cache := { s.cache with texParamsSet := true, currentEglImage := eglImage } }
  else s

/-- The content is that of the last import. -/
def Unchanged (attribs : DmabufAttributes) (currentSeq : UInt32) : Prop :=
  s.cache.tex ≠ 0 ∧ s.cache.lastSeq = currentSeq ∧ s.cache.width = attribs.width ∧
    s.cache.height = attribs.height

instance (attribs : DmabufAttributes) (currentSeq : UInt32) :
    Decidable (s.Unchanged attribs currentSeq) := inferInstanceAs (Decidable (_ ∧ _))

/-- The part of the import after the texture has its image. -/
def showImage (c : Import) (attribs : DmabufAttributes) (eglImage : Nat) : Bool × EglState :=
  if eglImage = 0 then (false, s)
  else
    let s := if s.cache.tex = 0 then { s with cache := { s.cache with tex := c.tex } } else s
    if s.cache.tex = 0 then (false, s)
    else
      let s := s.bind eglImage
      (true,
        { s with
          cache :=
            { s.cache with
              width := attribs.width, height := attribs.height, lastSeq := c.currentSeq } })

/-- `fwr_renderer_import_surface_dmabuf`. -/
def importSurfaceDmabuf (c : Import) : Option (Bool × EglState) :=
  if ¬ c.hasDmabufImport then some (false, s)
  else if s.cache.destroyed then some (false, s)
  else
    match c.source with
    | none => some (false, s)
    | some source =>
        match s.buffers.get source, c.attribs with
        | none, _ => none
        | some _, none => some (false, s)
        | some buffer, some attribs =>
            if s.Unchanged attribs c.currentSeq then some (true, s)
            else
              match s.getOrCreateEglImage source buffer.address attribs c.image with
              | none => none
              | some (eglImage, s) => some (s.showImage c attribs eglImage)

/-! ## §4. Runs. -/

inductive Event where
  | newBuffer (address : Nat)
  | freeBuffer (source : Nat)
  | importDmabuf (c : Import)

/-- No buffer that is there has the address. -/
def AddressFree (address : Nat) : Prop :=
  address ≠ 0 ∧ s.buffers.Forall fun buffer => buffer.address ≠ address

instance (address : Nat) : Decidable (s.AddressFree address) :=
  inferInstanceAs (Decidable (_ ∧ _))

/-- The sequence numbers of the commits increase. -/
def Later (currentSeq : UInt32) : Prop := ∀ seq ∈ s.committed, seq < currentSeq

instance (currentSeq : UInt32) : Decidable (s.Later currentSeq) :=
  s.committed.decidableForallMem

/-- What is recorded of a call. -/
def record (c : Import) (result : Bool × EglState) : EglState :=
  { result.2 with
    committed := some c.currentSeq
    imported := if result.1 then c.source else none }

def step (s : EglState) : Event → Option EglState
  | .newBuffer address =>
      if s.AddressFree address then some { s with buffers := s.buffers.alloc ⟨address⟩ } else none
  | .freeBuffer source => some { s with buffers := s.buffers.free source }
  | .importDmabuf c =>
      if s.Later c.currentSeq then (s.importSurfaceDmabuf c).map (record c) else none

end EglState

/-- Imports on one cache, while the client creates and frees buffers. -/
def dmabuf : Machine EglState EglState.Event where
  init := .init
  step := EglState.step

end FlutterWlroots.Renderer
