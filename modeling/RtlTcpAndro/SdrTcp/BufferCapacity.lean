import RtlTcpAndro.Interleaving.Schedule
import RtlTcpAndro.SdrTcp.ExtBuffer

/-! The capacity that an `extbuffer_t` announces, over any order of the calls on it.
The allocator is asked for a `size_t` of bytes, which has 32 or 64 bits, and may answer NULL to
any request.
-/

namespace RtlTcpAndro.SdrTcp

open Interleaving

-----------------------------------------------------------------------------------------
-- Requests of a `size_t`
-----------------------------------------------------------------------------------------

/-- The two widths of the processors that the native library is built for. -/
inductive Abi
  | bits32
  | bits64
  deriving DecidableEq, Repr

/-- The first number that a `size_t` does not hold. -/
def Abi.sizeLimit : Abi → Nat
  | .bits32 => 4294967296
  | .bits64 => 18446744073709551616

/-- The growing branch of `extbuffer_preparetohandle`, asking for `bytes`. -/
def growBufferTo (bytes : Nat) (container : ExtBuffer) (size : Int)
    (alloc : Option (List UInt8))
    : ExtBuffer :=
  let grown :=
    match container.field container.type with
    | none =>
        { container.setField (alloc.map (resizeBlock [] bytes)) container.type with
          valid := true }
    | some block =>
        if container.bufferMaxSize ≠ size then
          container.setField (alloc.map (resizeBlock block bytes)) container.type
        else container
  { grown with bufferMaxSize := size }

/-- `extbuffer_preparetohandle`, whose `sizeof(..) * size` is a `size_t`; `none` is a fault. -/
def extbufferPreparetohandleOn (abi : Abi) (container : ExtBuffer) (size : Int)
    (alloc : Option (List UInt8))
    : Option ExtBuffer :=
  if size ≤ 0 then
    some { container with sizeValidElements := 0 }
  else
    let bytes := container.type.elementSize * size.toNat % abi.sizeLimit
    let ready :=
      if container.bufferMaxSize < size then growBufferTo bytes container size alloc
      else container
    let sized := { ready with sizeValidElements := size }
    if sized.cleartozero then zeroBuffer sized else some sized

/-- Where the request is a `size_t`, the width makes no difference. -/
theorem extbufferPreparetohandleOn_of_fits {abi : Abi} {container : ExtBuffer} {size : Int}
    (fits : container.type.elementSize * size.toNat < abi.sizeLimit)
    (alloc : Option (List UInt8))
    : extbufferPreparetohandleOn abi container size alloc
      = extbufferPreparetohandle container size alloc := by
  unfold extbufferPreparetohandleOn
  rw [Nat.mod_eq_of_lt fits]
  rfl

/-- Every type has elements of some size. Witness: the five types. -/
theorem ExtBufferType.elementSize_pos (type : ExtBufferType) : 0 < type.elementSize := by
  cases type <;> decide

/-- No element is larger than four bytes. Witness: the five types. -/
theorem ExtBufferType.elementSize_le (type : ExtBufferType) : type.elementSize ≤ 4 := by
  cases type <;> decide

/-- On 64 bits every `int` is small enough. -/
theorem extbufferPreparetohandleOn_bits64 (container : ExtBuffer) (size : Int32)
    (alloc : Option (List UInt8))
    : extbufferPreparetohandleOn .bits64 container size.toInt alloc
      = extbufferPreparetohandle container size.toInt alloc := by
  refine extbufferPreparetohandleOn_of_fits ?_ alloc
  have small := size.toInt_lt
  have product := Nat.mul_le_mul_right size.toInt.toNat container.type.elementSize_le
  have limit : Abi.bits64.sizeLimit = 18446744073709551616 := rfl
  omega

-----------------------------------------------------------------------------------------
-- Sequences of calls
-----------------------------------------------------------------------------------------

/-- One call on a container. A preparation comes with the allocator's answer, if it asks for
one.
-/
inductive ExtBufferCall
  | init (type : ExtBufferType)
  | preparetohandle (size : Int32) (alloc : Option (List UInt8))
  | cleartozero
  | free
  deriving DecidableEq, Repr

/-- What a call does to a container; `none` is a fault. -/
def ExtBufferCall.apply (abi : Abi) (container : ExtBuffer) : ExtBufferCall → Option ExtBuffer
  | .init type => some (extbufferInit type)
  | .preparetohandle size alloc => extbufferPreparetohandleOn abi container size.toInt alloc
  | .cleartozero => some (extbufferCleartozero container)
  | .free => some (extbufferFree container)

/-- The calls on a container that was set up; after a fault nothing happens. -/
def extbufferCalls (abi : Abi) (type : ExtBufferType)
    : System (Option ExtBuffer) ExtBufferCall where
  initial state := state = some (extbufferInit type)
  step state call := some (state.bind (fun container => call.apply abi container))

-----------------------------------------------------------------------------------------
-- Honest containers
-----------------------------------------------------------------------------------------

/-- The elements that the block of the container's type has room for, none behind NULL. -/
def ExtBuffer.elements (container : ExtBuffer) : Nat :=
  ((container.field container.type).getD []).length / container.type.elementSize

/-- A container announces no more than it has. -/
structure ExtBuffer.Honest (container : ExtBuffer) : Prop where
  only : ∀ other, other ≠ container.type → container.field other = none
  announced
    : container.sizeValidElements ≤ container.bufferMaxSize
      ∨ container.sizeValidElements = 0
  room : container.bufferMaxSize ≤ container.elements
  inside : container.sizeValidElements ≤ container.elements

/-- The first three parts leave a caller inside the block. -/
theorem ExtBuffer.Honest.of_room {container : ExtBuffer}
    (only : ∀ other, other ≠ container.type → container.field other = none)
    (announced
      : container.sizeValidElements ≤ container.bufferMaxSize
        ∨ container.sizeValidElements = 0)
    (room : container.bufferMaxSize ≤ container.elements)
    : container.Honest := by
  refine ⟨only, announced, room, ?_⟩
  rcases announced with valid | empty
  · exact Int.le_trans valid room
  · omega

/-- What a container announces may become anything up to its capacity. -/
theorem ExtBuffer.Honest.announce {container : ExtBuffer} (honest : container.Honest) {size : Int}
    (announced : size ≤ container.bufferMaxSize ∨ size = 0)
    : ({ container with sizeValidElements := size } : ExtBuffer).Honest := by
  refine .of_room (fun other apart => ?_) announced ?_
  · rw [ExtBuffer.field_sizeValidElements]
    exact honest.only other apart
  · rw [ExtBuffer.elements, ExtBuffer.field_sizeValidElements]
    exact honest.room

/-- Nothing has faulted, and the container is honest. -/
def HonestAfter (state : Option ExtBuffer) : Prop :=
  ∃ container, state = some container ∧ container.Honest

/-- The calls that an honest container survives: a growing preparation gets its block, whose size
is a `size_t`, and a container that has grown is not freed.
-/
def ExtBufferCall.Covered (abi : Abi) (container : ExtBuffer) : ExtBufferCall → Prop
  | .init _ => True
  | .preparetohandle size alloc =>
      size.toInt ≤ 0
      ∨ size.toInt ≤ container.bufferMaxSize
      ∨ alloc.isSome ∧ container.type.elementSize * size.toInt < abi.sizeLimit
  | .cleartozero => True
  | .free => container.bufferMaxSize ≤ 0

/-- Two containers that differ in the contents of their blocks and in the two flags. -/
structure ExtBuffer.SameShape (container other : ExtBuffer) : Prop where
  type : container.type = other.type
  lengths
    : ∀ type, (container.field type).map List.length = (other.field type).map List.length
  bufferMaxSize : container.bufferMaxSize = other.bufferMaxSize
  sizeValidElements : container.sizeValidElements = other.sizeValidElements

/-- Containers of the same shape hold the same number of elements. Witness: their buffers for
the type have the same length.
-/
theorem ExtBuffer.SameShape.elements {container other : ExtBuffer}
    (same : container.SameShape other)
    : container.elements = other.elements := by
  have lengths := same.lengths container.type
  have length (block : Option Block) : (block.getD []).length = (block.map List.length).getD 0 := by
    cases block <;> rfl
  rw [ExtBuffer.elements, ExtBuffer.elements, length, length, lengths, same.type]

/-- Having the same shape is symmetric. Witness: field by field. -/
theorem ExtBuffer.SameShape.symm {container other : ExtBuffer}
    (same : container.SameShape other)
    : other.SameShape container :=
  ⟨same.type.symm, fun type => (same.lengths type).symm, same.bufferMaxSize.symm,
    same.sizeValidElements.symm⟩

/-- A container with the shape of an honest one is honest. Witness: each clause speaks of the
shape only.
-/
theorem ExtBuffer.SameShape.honest {container other : ExtBuffer}
    (same : container.SameShape other) (honest : other.Honest)
    : container.Honest := by
  refine ⟨fun type apart => ?_, ?_, ?_, ?_⟩
  · have lengths := same.lengths type
    rw [honest.only type (same.type ▸ apart)] at lengths
    exact Option.map_eq_none_iff.mp lengths
  · rw [same.bufferMaxSize, same.sizeValidElements]
    exact honest.announced
  · rw [same.bufferMaxSize, same.elements]
    exact honest.room
  · rw [same.sizeValidElements, same.elements]
    exact honest.inside

/-- Containers of the same shape are honest together. Witness: both directions by symmetry. -/
theorem ExtBuffer.SameShape.honest_iff {container other : ExtBuffer}
    (same : container.SameShape other)
    : container.Honest ↔ other.Honest :=
  ⟨same.symm.honest, same.honest⟩

-----------------------------------------------------------------------------------------
-- One call
-----------------------------------------------------------------------------------------

/-- A call that returns a container is honest afterwards just when that container is. Witness:
the container is the one returned.
-/
@[simp] theorem honestAfter_some {container : ExtBuffer}
    : HonestAfter (some container) ↔ container.Honest := by
  constructor
  · rintro ⟨_, ⟨⟩, honest⟩
    exact honest
  · exact fun honest => ⟨container, rfl, honest⟩

/-- A call that faults is not honest afterwards. Witness: there is no container. -/
@[simp] theorem not_honestAfter_none : ¬ HonestAfter none := by
  rintro ⟨_, ⟨⟩, _⟩

/-- A container without a buffer for its type holds no elements. Witness: zero bytes by the
element size.
-/
theorem ExtBuffer.elements_of_field_none {container : ExtBuffer}
    (field : container.field container.type = none)
    : container.elements = 0 := by
  rw [elements, field]
  exact Nat.zero_div _

/-- So many elements fit just when their bytes fit the buffer. Witness: division by the
positive element size.
-/
theorem ExtBuffer.le_elements_iff {container : ExtBuffer} {block : Block}
    (field : container.field container.type = some block) (count : Nat)
    : count ≤ container.elements ↔ container.type.elementSize * count ≤ block.length := by
  rw [elements, field, Nat.mul_comm]
  exact Nat.le_div_iff_mul_le container.type.elementSize_pos

/-- Setting one type's buffer leaves the others'. Witness: the pairs of types. -/
theorem ExtBuffer.field_setField_of_ne {container : ExtBuffer} {block : Option Block}
    {type other : ExtBufferType} (apart : other ≠ type)
    : (container.setField block type).field other = container.field other := by
  cases type <;> cases other <;> first | rfl | exact absurd rfl apart

/-- The zeroes stay inside the block of an honest container, and they change its contents only. -/
theorem zeroBuffer_honest_iff {container : ExtBuffer} (some_ : 0 < container.sizeValidElements)
    : HonestAfter (zeroBuffer container) ↔ container.Honest := by
  have count : container.sizeValidElements = (container.sizeValidElements.toNat : Int) := by omega
  unfold zeroBuffer
  split
  next field =>
    have none := ExtBuffer.elements_of_field_none field
    refine iff_of_false not_honestAfter_none fun honest => ?_
    have inside := honest.inside
    omega
  next block field =>
    have fits := ExtBuffer.le_elements_iff field container.sizeValidElements.toNat
    dsimp only
    split
    next short =>
      rw [honestAfter_some]
      refine ExtBuffer.SameShape.honest_iff ⟨by simp, fun type => ?_, by simp, by simp⟩
      rw [ExtBuffer.field_cleartozero]
      by_cases own : type = container.type
      · rw [own, ExtBuffer.field_setField, field, Option.map_some, Option.map_some, zeroBlock,
          List.length_append, List.length_replicate, List.length_drop, Nat.add_sub_cancel' short]
      · rw [ExtBuffer.field_setField_of_ne own]
    next long =>
      refine iff_of_false not_honestAfter_none fun honest => long (fits.mp ?_)
      have inside := honest.inside
      omega

/-- What growing leaves: the allocator's answer in the field of the type. -/
theorem growBufferTo_eq {container : ExtBuffer} {size : Int} {bytes : Nat}
    (small : container.bufferMaxSize < size) (alloc : Option (List UInt8))
    : ∃ old valid,
        growBufferTo bytes container size alloc
        = { container.setField (alloc.map (resizeBlock old bytes)) container.type with
            bufferMaxSize := size
            valid := valid } := by
  unfold growBufferTo
  cases container.field container.type with
  | none => exact ⟨[], true, rfl⟩
  | some block =>
      refine ⟨block, container.valid, ?_⟩
      dsimp only
      rw [if_pos (Int.ne_of_lt small)]
      cases container.type <;> rfl

/-- The sizes and the flag are not buffers: changing them leaves every buffer. Witness: the
five types.
-/
theorem ExtBuffer.field_sizes (container : ExtBuffer) (type : ExtBufferType) (size valid : Int)
    (flag : Bool)
    : ({ container with
          bufferMaxSize := size
          sizeValidElements := valid
          valid := flag } : ExtBuffer).field type
      = container.field type := by
  cases type <;> rfl

/-- A container that grows stays honest exactly when it gets a block of the size it announces. -/
theorem growBufferTo_honest_iff {container : ExtBuffer} {size : Int} {limit : Nat}
    (honest : container.Honest) (small : container.bufferMaxSize < size) (positive : 0 < size)
    (limited : 0 < limit) (alloc : Option (List UInt8))
    : ({ growBufferTo (container.type.elementSize * size.toNat % limit) container size alloc with
          sizeValidElements := size } : ExtBuffer).Honest
      ↔ alloc.isSome ∧ container.type.elementSize * size < limit := by
  obtain ⟨old, valid, grown⟩ :=
    @growBufferTo_eq _ _ (container.type.elementSize * size.toNat % limit) small alloc
  have count : size = (size.toNat : Int) := by omega
  rw [grown]
  -- the container that has grown
  generalize after : ExtBuffer.mk _ _ _ _ _ size _ size valid _ = ready
  have type : ready.type = container.type := by
    rw [← after]
    exact ExtBuffer.type_setField ..
  have max : ready.bufferMaxSize = size := after ▸ rfl
  have announced : ready.sizeValidElements = size := after ▸ rfl
  have fields (other : ExtBufferType)
      : ready.field other
        = (container.setField
            (alloc.map
              (resizeBlock old (container.type.elementSize * size.toNat % limit)))
            container.type).field other := by
    rw [← after]
    exact ExtBuffer.field_sizes ..
  have field := fields container.type
  rw [ExtBuffer.field_setField, ← type] at field
  cases alloc with
  | none =>
      have empty := ExtBuffer.elements_of_field_none field
      refine iff_of_false (fun honest => ?_) nofun
      have room := honest.room
      omega
  | some junk =>
      have fits := ExtBuffer.le_elements_iff field size.toNat
      rw [length_resizeBlock, type] at fits
      have bytes : container.type.elementSize * size
          = (container.type.elementSize * size.toNat : Nat) := by
        rw [Int.natCast_mul, ← count]
      constructor
      · intro honest
        have room := honest.room
        have enough := fits.mp (by omega)
        have less := Nat.mod_lt (container.type.elementSize * size.toNat) limited
        exact ⟨rfl, by omega⟩
      · rintro ⟨-, fit⟩
        rw [Nat.mod_eq_of_lt (by omega)] at fits
        have room := fits.mpr (Nat.le_refl _)
        refine .of_room (fun other apart => ?_) (.inl (by omega)) (by omega)
        rw [type] at apart
        rw [fields, ExtBuffer.field_setField_of_ne apart]
        exact honest.only other apart

/-- Every ABI has sizes to address. Witness: the two ABIs. -/
theorem Abi.sizeLimit_pos (abi : Abi) : 0 < abi.sizeLimit := by
  cases abi <;> decide

/-- A preparation keeps a container honest exactly when it asks for nothing or gets what it asks
for. Clearing needs no more than that.
-/
theorem extbufferPreparetohandleOn_honest_iff {abi : Abi} {container : ExtBuffer} {size : Int}
    (honest : container.Honest) (alloc : Option (List UInt8))
    : HonestAfter (extbufferPreparetohandleOn abi container size alloc)
      ↔ size ≤ 0
        ∨ size ≤ container.bufferMaxSize
        ∨ alloc.isSome ∧ container.type.elementSize * size < abi.sizeLimit := by
  unfold extbufferPreparetohandleOn
  split
  next nothing =>
    exact iff_of_true (honestAfter_some.mpr (honest.announce (.inr rfl))) (.inl nothing)
  next something =>
    have positive : 0 < size := Int.not_le.mp something
    have cleared (sized : ExtBuffer) (announced : sized.sizeValidElements = size)
        : HonestAfter (if sized.cleartozero then zeroBuffer sized else some sized)
          ↔ sized.Honest := by
      split
      · exact zeroBuffer_honest_iff (announced ▸ positive)
      · exact honestAfter_some
    refine (cleared _ rfl).trans ?_
    split
    next small =>
      rw [growBufferTo_honest_iff honest small positive abi.sizeLimit_pos]
      exact ⟨fun got => .inr (.inr got),
        fun allowed => (allowed.resolve_left something).resolve_left (Int.not_le.mpr small)⟩
    next enough =>
      have within : size ≤ container.bufferMaxSize := Int.not_lt.mp enough
      exact iff_of_true (honest.announce (.inl within)) (.inr (.inl within))

/-- A container that was set up announces nothing. -/
theorem extbufferInit_honest (type : ExtBufferType) : (extbufferInit type).Honest := by
  refine .of_room (fun other _ => ?_) (.inr rfl) (Int.natCast_nonneg _)
  cases other <;> rfl

/-- A container that was freed has no block, whatever it announces. -/
theorem extbufferFree_honest_iff {container : ExtBuffer} (honest : container.Honest)
    : (extbufferFree container).Honest ↔ container.bufferMaxSize ≤ 0 := by
  have fields (type : ExtBufferType) : (extbufferFree container).field type = none := by
    cases type <;> rfl
  have empty := ExtBuffer.elements_of_field_none (fields (extbufferFree container).type)
  constructor
  · intro freed
    have room : container.bufferMaxSize ≤ _ := freed.room
    omega
  · intro never
    refine .of_room (fun other _ => fields other) honest.announced ?_
    change container.bufferMaxSize ≤ _
    omega

/-- A call keeps a container honest exactly when the container is covered against it. -/
theorem ExtBufferCall.apply_honest_iff {abi : Abi} {container : ExtBuffer}
    (honest : container.Honest) (call : ExtBufferCall)
    : HonestAfter (call.apply abi container) ↔ call.Covered abi container := by
  cases call with
  | init type =>
      exact iff_of_true (honestAfter_some.mpr (extbufferInit_honest type)) trivial
  | preparetohandle size alloc => exact extbufferPreparetohandleOn_honest_iff honest alloc
  | cleartozero =>
      refine iff_of_true (honestAfter_some.mpr ?_) trivial
      have same : (extbufferCleartozero container).SameShape container :=
        ⟨rfl, fun type => by cases type <;> rfl, rfl, rfl⟩
      exact same.honest_iff.mpr honest
  | free => exact honestAfter_some.trans (extbufferFree_honest_iff honest)

-----------------------------------------------------------------------------------------
-- Runs
-----------------------------------------------------------------------------------------

/-- The condition at a call, while nothing has faulted. -/
def CoveredCall (abi : Abi) (state : Option ExtBuffer) (call : ExtBufferCall) : Prop :=
  ∀ container, state = some container → call.Covered abi container

/-- A container of any type announces no more than it has after every call of a sequence, and no
call faults, exactly when every preparation that grows it gets a block of the size it asks for and
it is not freed once it has grown.
-/
theorem extbuffer_honest_iff (abi : Abi) (type : ExtBufferType) (calls : List ExtBufferCall)
    : (extbufferCalls abi type).Throughout HonestAfter (some (extbufferInit type)) calls
      ↔ (extbufferCalls abi type).Heeds (CoveredCall abi) (some (extbufferInit type)) calls := by
  obtain ⟨finish, replayed⟩ :=
    System.exists_run_of_total (fun _ _ => rfl : ∀ state call,
      ((extbufferCalls abi type).step state call).isSome) (some (extbufferInit type)) calls
  refine System.throughout_iff_heeds ?_ replayed (honestAfter_some.mpr (extbufferInit_honest type))
  rintro _ call next ⟨container, rfl, honest⟩ fired
  obtain rfl := Option.some.inj fired
  refine (ExtBufferCall.apply_honest_iff honest call).trans ?_
  constructor
  · rintro covered _ ⟨⟩
    exact covered
  · exact fun covered => covered container rfl

/-- A container whose `realloc` fails announces the elements it asked for. -/
theorem extbuffer_announces_failed_realloc
    : ¬ ∀ (abi : Abi) (type : ExtBufferType) (calls : List ExtBufferCall),
        (extbufferCalls abi type).Throughout HonestAfter (some (extbufferInit type)) calls := by
  intro claim
  have throughout :=
    claim .bits64 .ushort [.preparetohandle 1 (some []), .preparetohandle 2 none]
  obtain ⟨container, ended, honest⟩ := (throughout.2 _ rfl).2 _ rfl
  have announced : container.bufferMaxSize = 2 ∧ container.elements = 0 := by
    cases ended
    decide
  have room := honest.room
  omega

end RtlTcpAndro.SdrTcp
