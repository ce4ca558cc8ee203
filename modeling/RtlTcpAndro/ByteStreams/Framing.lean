import Mathlib.Data.List.Basic

/-! Division of a stream into consecutive blocks of one size. -/

namespace RtlTcpAndro.ByteStreams

variable {α β : Type}

/-- The first `count` consecutive blocks of `size` items. -/
def takeFrames (size : Nat) : Nat → List α → List (List α)
  | 0, _ => []
  | count + 1, stream => stream.take size :: takeFrames size count (stream.drop size)

/-- All complete blocks of `size` items, in order; a shorter trailing fragment is dropped. -/
def frames (size : Nat) (stream : List α) : List (List α) :=
  takeFrames size (stream.length / size) stream

/-- Blocks of the right size are read back from their concatenation, by induction on them. -/
theorem takeFrames_flatten {size : Nat} {blocks : List (List α)}
    (sized : ∀ block ∈ blocks, block.length = size) (rest : List α)
    : takeFrames size blocks.length (blocks.flatten ++ rest) = blocks := by
  induction blocks with
  | nil => rfl
  | cons block blocks ih =>
      have length : block.length = size := sized block (by simp)
      have tail := ih (fun next member => sized next (by simp [member]))
      simp [takeFrames, List.append_assoc, ← length] at tail ⊢
      exact tail

/-- The total size of equally sized blocks. -/
theorem length_flatten_of_sized {size : Nat} {blocks : List (List α)}
    (sized : ∀ block ∈ blocks, block.length = size)
    : blocks.flatten.length = blocks.length * size := by
  rw [List.length_flatten, List.map_congr_left sized]
  simp

/-- A stream cut into blocks of one size and a shorter rest has exactly these frames, so
the division is unique. Witness: the rest adds no block to the quotient of the lengths.
-/
theorem frames_flatten_append {size : Nat} {blocks : List (List α)} {rest : List α}
    (sized : ∀ block ∈ blocks, block.length = size) (short : rest.length < size)
    : frames size (blocks.flatten ++ rest) = blocks := by
  have count : (blocks.flatten ++ rest).length / size = blocks.length := by
    rw [List.length_append, length_flatten_of_sized sized, Nat.add_comm,
      Nat.add_mul_div_right _ _ (by omega), Nat.div_eq_of_lt short, Nat.zero_add]
  rw [frames, count, takeFrames_flatten sized]

/-- A reader of `stream` has decoded its complete blocks to `values` and begun `rest`. -/
def Framed (size : Nat) (decode : List α → β) (stream : List α) (values : List β)
    (rest : List α)
    : Prop :=
  ∃ blocks : List (List α),
    (∀ block ∈ blocks, block.length = size)
    ∧ stream = blocks.flatten ++ rest
    ∧ values = blocks.map decode

section Framed

variable {size : Nat} {decode : List α → β} {stream : List α} {values : List β}
  {rest : List α}

/-- Nothing is decoded of an empty stream. -/
theorem Framed.start : Framed size decode [] [] [] := ⟨[], nofun, rfl, rfl⟩

/-- A begun block grows by what is read. -/
theorem Framed.grow (framed : Framed size decode stream values rest) (more : List α)
    : Framed size decode (stream ++ more) values (rest ++ more) := by
  obtain ⟨blocks, sized, found, decoded⟩ := framed
  exact ⟨blocks, sized, by rw [found, List.append_assoc], decoded⟩

/-- A complete block is decoded. -/
theorem Framed.complete (framed : Framed size decode stream values rest)
    (full : rest.length = size)
    : Framed size decode stream (values ++ [decode rest]) [] := by
  obtain ⟨blocks, sized, found, decoded⟩ := framed
  refine ⟨blocks ++ [rest], ?_, by simp [found], by simp [decoded]⟩
  intro block member
  rcases List.mem_append.mp member with old | new
  · exact sized block old
  · exact List.mem_singleton.mp new ▸ full

/-- The values decoded before an incomplete block are those of the stream's frames. -/
theorem Framed.values_eq (framed : Framed size decode stream values rest)
    (short : rest.length < size)
    : values = (frames size stream).map decode := by
  obtain ⟨blocks, sized, found, decoded⟩ := framed
  rw [found, frames_flatten_append sized short, decoded]

end Framed

end RtlTcpAndro.ByteStreams
