/-! The growable sample buffers of `extbuffer.c`.
A block is its bytes; the five typed pointers of a container are kept apart as in the
source, and the five-way switches are one definition over the container's type.
-/

namespace RtlTcpAndro.SdrTcp

-----------------------------------------------------------------------------------------
-- Containers
-----------------------------------------------------------------------------------------

/-- `EXTBUFF_TYPE_INT` to `EXTBUFF_TYPE_USHORT`. -/
inductive ExtBufferType
  | int
  | float
  | char
  | short
  | ushort
  deriving DecidableEq, Repr

/-- `sizeof` of one element: `jint`, `jfloat`, `char`, `int16_t` or `uint16_t`. -/
def ExtBufferType.elementSize : ExtBufferType → Nat
  | .int => 4
  | .float => 4
  | .char => 1
  | .short => 2
  | .ushort => 2

/-- A heap block's bytes. -/
abbrev Block := List UInt8

/-- `extbuffer_t`; `none` is a NULL pointer. -/
structure ExtBuffer where
  intbuffer : Option Block
  floatbuffer : Option Block
  charbuffer : Option Block
  shortbuffer : Option Block
  ushortbuffer : Option Block
  bufferMaxSize : Int
  type : ExtBufferType
  sizeValidElements : Int
  valid : Bool
  cleartozero : Bool
  deriving DecidableEq, Repr

/-- The pointer that a switch over `type` reads. -/
def ExtBuffer.field (container : ExtBuffer) : ExtBufferType → Option Block
  | .int => container.intbuffer
  | .float => container.floatbuffer
  | .char => container.charbuffer
  | .short => container.shortbuffer
  | .ushort => container.ushortbuffer

/-- The pointer that a switch over `type` assigns. -/
def ExtBuffer.setField (container : ExtBuffer) (block : Option Block)
    : ExtBufferType → ExtBuffer
  | .int => { container with intbuffer := block }
  | .float => { container with floatbuffer := block }
  | .char => { container with charbuffer := block }
  | .short => { container with shortbuffer := block }
  | .ushort => { container with ushortbuffer := block }

-----------------------------------------------------------------------------------------
-- Heap blocks
-----------------------------------------------------------------------------------------

/-- `malloc` or `realloc` to `size` bytes: the old bytes stay, the rest is whatever the
allocator left there (`junk`).
-/
def resizeBlock (old : Block) (size : Nat) (junk : List UInt8) : Block :=
  (old ++ junk ++ List.replicate size 0).take size

/-- `memcpy` of `source`'s first `count` bytes to the block behind `pointer`; `none` is the
fault of writing through NULL or past the end of the block.
-/
def memcpyBlock (pointer : Option Block) (source : List UInt8) (count : Nat)
    : Option (Option Block) :=
  if count = 0 then some pointer
  else
    match pointer with
    | none => none
    | some block =>
        if count ≤ block.length then some (some (source.take count ++ block.drop count))
        else none

/-- A loop storing zero in the first `count` bytes of a block. -/
def zeroBlock (block : Block) (count : Nat) : Block :=
  List.replicate count 0 ++ block.drop count

/-- A resized block has the requested size, since zeroes pad any missing junk. -/
@[simp] theorem length_resizeBlock (old : Block) (size : Nat) (junk : List UInt8)
    : (resizeBlock old size junk).length = size := by
  simp only [resizeBlock, List.length_take, List.length_append, List.length_replicate]
  omega

/-- A copy that fits succeeds, keeps the block's size, and reads back. -/
theorem memcpyBlock_of_fits {block : Block} {source : List UInt8} {count : Nat}
    (enough : count ≤ source.length) (fits : count ≤ block.length)
    : ∃ copied,
        memcpyBlock (some block) source count = some (some copied)
        ∧ copied.length = block.length
        ∧ copied.take count = source.take count := by
  by_cases empty : count = 0
  · exact ⟨block, by simp [memcpyBlock, empty], rfl, by simp [empty]⟩
  · refine ⟨source.take count ++ block.drop count, ?_, ?_, ?_⟩
    · simp [memcpyBlock, empty, fits]
    · simp only [List.length_append, List.length_take, List.length_drop]
      omega
    · simp [List.length_take, enough]

-----------------------------------------------------------------------------------------
-- The operations
-----------------------------------------------------------------------------------------

/-- `extbuffer_init` -/
def extbufferInit (type : ExtBufferType) : ExtBuffer where
  intbuffer := none
  floatbuffer := none
  charbuffer := none
  shortbuffer := none
  ushortbuffer := none
  bufferMaxSize := 0
  type := type
  sizeValidElements := 0
  valid := false
  cleartozero := true

/-- The growing branch of `extbuffer_preparetohandle`. `alloc` is the allocator's answer:
`none` for NULL, else what it left in the new bytes.
-/
def growBuffer (container : ExtBuffer) (size : Int) (alloc : Option (List UInt8))
    : ExtBuffer :=
  let bytes := container.type.elementSize * size.toNat
  let grown :=
    match container.field container.type with
    | none =>
        { container.setField (alloc.map (resizeBlock [] bytes)) container.type with
          valid := true }
    | some block =>
        if container.bufferMaxSize ≠ size then
          container.setField (alloc.map (resizeBlock block bytes)) container.type
        else container
  { grown with bufferMaxSize := size }

/-- The clearing branch of `extbuffer_preparetohandle`; `none` is the fault of storing
through NULL or past the end of the block.
-/
def zeroBuffer (container : ExtBuffer) : Option ExtBuffer :=
  match container.field container.type with
  | none => none
  | some block =>
      let bytes := container.type.elementSize * container.sizeValidElements.toNat
      if bytes ≤ block.length then
        some
          { container.setField (some (zeroBlock block bytes)) container.type with
            cleartozero := false }
      else none

/-- `extbuffer_preparetohandle`; `none` is a fault. -/
def extbufferPreparetohandle (container : ExtBuffer) (size : Int)
    (alloc : Option (List UInt8))
    : Option ExtBuffer :=
  if size ≤ 0 then
    some { container with sizeValidElements := 0 }
  else
    let ready :=
      if container.bufferMaxSize < size then growBuffer container size alloc else container
    let sized := { ready with sizeValidElements := size }
    if sized.cleartozero then zeroBuffer sized else some sized

/-- `extbuffer_cleartozero` -/
def extbufferCleartozero (container : ExtBuffer) : ExtBuffer :=
  { container with cleartozero := true }

/-- `extbuffer_free` -/
def extbufferFree (container : ExtBuffer) : ExtBuffer :=
  { container with
    valid := false
    intbuffer := none
    floatbuffer := none
    charbuffer := none
    shortbuffer := none
    ushortbuffer := none }

/-- A non-positive request only forgets the valid elements. -/
@[simp] theorem extbufferPreparetohandle_zero (container : ExtBuffer)
    (alloc : Option (List UInt8))
    : extbufferPreparetohandle container 0 alloc
      = some { container with sizeValidElements := 0 } := by
  simp [extbufferPreparetohandle]

-----------------------------------------------------------------------------------------
-- Preparing a buffer with an allocator that succeeds
-----------------------------------------------------------------------------------------

section SetField

variable (container : ExtBuffer) (block : Option Block) (type : ExtBufferType)

/-- A buffer set for a type is the one read back for it. -/
@[simp] theorem ExtBuffer.field_setField
    : (container.setField block type).field type = block := by
  cases type <;> rfl

/-- Setting a buffer leaves the container's type. -/
@[simp] theorem ExtBuffer.type_setField
    : (container.setField block type).type = container.type := by
  cases type <;> rfl

/-- Setting a buffer leaves the clearing flag. -/
@[simp] theorem ExtBuffer.cleartozero_setField
    : (container.setField block type).cleartozero = container.cleartozero := by
  cases type <;> rfl

/-- Setting a buffer leaves the number of valid elements. -/
@[simp] theorem ExtBuffer.sizeValidElements_setField
    : (container.setField block type).sizeValidElements = container.sizeValidElements := by
  cases type <;> rfl

/-- Setting a buffer leaves the announced size. -/
@[simp] theorem ExtBuffer.bufferMaxSize_setField
    : (container.setField block type).bufferMaxSize = container.bufferMaxSize := by
  cases type <;> rfl

/-- Setting the number of valid elements leaves every buffer. -/
@[simp] theorem ExtBuffer.field_sizeValidElements (size : Int)
    : ({ container with sizeValidElements := size } : ExtBuffer).field type
      = container.field type := by
  cases type <;> rfl

/-- Setting the clearing flag leaves every buffer. -/
@[simp] theorem ExtBuffer.field_cleartozero (clear : Bool)
    : ({ container with cleartozero := clear } : ExtBuffer).field type
      = container.field type := by
  cases type <;> rfl

end SetField

/-- The block in the field of the container's type has the size that `buffer_max_size`
announces, and only a container that never grew has none.
-/
def ExtBuffer.Backed (container : ExtBuffer) : Prop :=
  match container.field container.type with
  | none => container.bufferMaxSize ≤ 0
  | some block =>
      (block.length : Int) = container.type.elementSize * container.bufferMaxSize

/-- A fresh container has grown to nothing. -/
theorem extbufferInit_backed (type : ExtBufferType) : (extbufferInit type).Backed := by
  cases type <;> simp [ExtBuffer.Backed, extbufferInit, ExtBuffer.field]

/-- Growing with an allocator that succeeds leaves a block of the requested size in the
field of the type. Witness: both allocating branches store the allocator's block.
-/
theorem growBuffer_field {container : ExtBuffer} {size : Int} (junk : List UInt8)
    (small : container.bufferMaxSize < size)
    : ∃ block,
        (growBuffer container size (some junk)).field container.type = some block
        ∧ block.length = container.type.elementSize * size.toNat
        ∧ (growBuffer container size (some junk)).type = container.type
        ∧ (growBuffer container size (some junk)).bufferMaxSize = size := by
  unfold growBuffer
  cases old : container.field container.type with
  | none =>
      refine ⟨resizeBlock [] (container.type.elementSize * size.toNat) junk, ?_, by simp,
        by simp, rfl⟩
      cases kind : container.type <;> simp [ExtBuffer.field, ExtBuffer.setField]
  | some block =>
      have other : container.bufferMaxSize ≠ size := by omega
      refine ⟨resizeBlock block (container.type.elementSize * size.toNat) junk, ?_, by simp,
        by simp [other], rfl⟩
      cases kind : container.type <;> simp_all [ExtBuffer.field, ExtBuffer.setField]

/-- Clearing within the block keeps its size and everything but its bytes. -/
theorem zeroBuffer_field {container : ExtBuffer} {block : Block}
    (field : container.field container.type = some block)
    (fits : container.type.elementSize * container.sizeValidElements.toNat ≤ block.length)
    : ∃ ready cleared,
        zeroBuffer container = some ready
        ∧ ready.type = container.type
        ∧ ready.sizeValidElements = container.sizeValidElements
        ∧ ready.bufferMaxSize = container.bufferMaxSize
        ∧ ready.field container.type = some cleared
        ∧ cleared.length = block.length := by
  let cleared :=
    zeroBlock block (container.type.elementSize * container.sizeValidElements.toNat)
  refine ⟨{ container.setField (some cleared) container.type with cleartozero := false },
    cleared, by simp [zeroBuffer, field, fits, cleared], by simp, by simp, by simp,
    (ExtBuffer.field_cleartozero _ _ _).trans (ExtBuffer.field_setField _ _ _), ?_⟩
  simp only [cleared, zeroBlock, List.length_append, List.length_replicate, List.length_drop]
  omega

/-- With an allocator that succeeds, preparing a backed container to hold elements never
faults: it stays backed and has room for the elements it announces.
-/
theorem preparetohandle_backed {container : ExtBuffer} {size : Int} (junk : List UInt8)
    (backed : container.Backed) (positive : 0 < size)
    : ∃ ready block,
        extbufferPreparetohandle container size (some junk) = some ready
        ∧ ready.type = container.type
        ∧ ready.sizeValidElements = size
        ∧ ready.field container.type = some block
        ∧ (block.length : Int) = container.type.elementSize * ready.bufferMaxSize
        ∧ container.type.elementSize * size.toNat ≤ block.length := by
  obtain ⟨sized, block, sizedEq, type, field, length, room⟩
      : ∃ sized block,
          sized = (if container.bufferMaxSize < size
            then growBuffer container size (some junk) else container)
          ∧ sized.type = container.type
          ∧ sized.field container.type = some block
          ∧ (block.length : Int) = container.type.elementSize * sized.bufferMaxSize
          ∧ container.type.elementSize * size.toNat ≤ block.length := by
    by_cases small : container.bufferMaxSize < size
    · obtain ⟨block, field, length, type, max⟩ := growBuffer_field junk small
      refine ⟨_, block, rfl, by simp [small, type], by simp [small, field], ?_,
        Nat.le_of_eq length.symm⟩
      rw [if_pos small, max, length, Int.natCast_mul, Int.toNat_of_nonneg (by omega)]
    · unfold ExtBuffer.Backed at backed
      cases field : container.field container.type with
      | none =>
          simp only [field] at backed
          omega
      | some block =>
          simp only [field] at backed
          refine ⟨_, block, rfl, by simp [small], by simp [small, field],
            by simp [small, backed], ?_⟩
          have larger : size.toNat ≤ container.bufferMaxSize.toNat := by omega
          have room := Nat.mul_le_mul_left container.type.elementSize larger
          have length : (block.length : Int)
              = (container.type.elementSize * container.bufferMaxSize.toNat : Nat) := by
            rw [backed, Int.natCast_mul, Int.toNat_of_nonneg (by omega)]
          omega
  have positive : ¬ size ≤ 0 := by omega
  have sameField
      : ({ sized with sizeValidElements := size } : ExtBuffer).field container.type
        = some block := by
    rw [ExtBuffer.field_sizeValidElements, field]
  unfold extbufferPreparetohandle
  simp only [positive, if_false, ← sizedEq]
  split
  · obtain ⟨ready, cleared, zeroed, sameType, valid, sameMax, clearedField, sameLength⟩ :=
      @zeroBuffer_field { sized with sizeValidElements := size } block
        (by rw [← sameField]; exact congrArg _ type) (by rw [← type] at room; exact room)
    refine ⟨ready, cleared, zeroed, sameType.trans type, valid, ?_, ?_, ?_⟩
    · rw [← type]
      exact clearedField
    · rw [sameLength, sameMax, length]
    · rw [sameLength]
      exact room
  · exact ⟨_, block, rfl, type, rfl, sameField, length, room⟩

-----------------------------------------------------------------------------------------
-- The `uint16_t` buffers the server sends from
-----------------------------------------------------------------------------------------

/-- The bytes that `size_valid_elements` covers of a container's `ushortbuffer`. -/
def ExtBuffer.payload (container : ExtBuffer) : List UInt8 :=
  (container.ushortbuffer.getD []).take (2 * container.sizeValidElements.toNat)

end RtlTcpAndro.SdrTcp
