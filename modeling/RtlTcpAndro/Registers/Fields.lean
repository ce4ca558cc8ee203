import Mathlib.Logic.Function.Basic
import RtlTcpAndro.Registers.Masks

/-! Fields of registers: the bits of a register that a mask selects. Where no two fields of a layout
share a bit, writing one of them is an update of the values of the fields, and each register keeps
its other bits. Nothing here depends on what the fields are for.
-/

namespace RtlTcpAndro.Registers

-----------------------------------------------------------------------------------------
-- Fields
-----------------------------------------------------------------------------------------

/-- The bits of a register that a mask selects. -/
structure BitField (ρ : Type) where
  reg : ρ
  mask : UInt8
  deriving DecidableEq

variable {ρ : Type}

/-- The value of a field. -/
def BitField.value (field : BitField ρ) (registers : ρ → UInt8) : UInt8 :=
  registers field.reg &&& field.mask

/-- Two fields share no bit. -/
def BitField.Apart (field other : BitField ρ) : Prop :=
  other.reg = field.reg → other.mask &&& field.mask = 0

instance BitField.decidableApart [DecidableEq ρ] (field other : BitField ρ)
    : Decidable (field.Apart other) :=
  inferInstanceAs (Decidable (other.reg = field.reg → other.mask &&& field.mask = 0))

/-- A field holds a value, and all bits outside it are as they were. -/
structure BitField.Set (field : BitField ρ) (val : UInt8) (before after : ρ → UInt8) : Prop where
  value : field.value after = val
  kept : ∀ other : BitField ρ, field.Apart other → other.value after = other.value before

section Fields

variable {field : BitField ρ} {val : UInt8} {before between after : ρ → UInt8}

/-- A merge into the register of a field sets it. -/
theorem BitField.set_merge [DecidableEq ρ] (fits : val &&& field.mask = val)
    : field.Set val before
        (Function.update before field.reg (merge (before field.reg) val field.mask)) where
  value := by
    rw [BitField.value, Function.update_self, merge_and_mask, fits]
  kept other apart := by
    unfold BitField.value
    by_cases same : other.reg = field.reg
    · rw [same, Function.update_self, merge_and_of_disjoint (apart same)]
    · rw [Function.update_of_ne same]

/-- A field that holds a value needs no write. -/
theorem BitField.set_self (held : field.value before = val) : field.Set val before before :=
  ⟨held, fun _ _ => rfl⟩

end Fields

-----------------------------------------------------------------------------------------
-- Layouts
-----------------------------------------------------------------------------------------

/-- Fields of which no two share a bit. -/
structure Layout (ι ρ : Type) where
  field : ι → BitField ρ
  apart : ∀ i j, i ≠ j → (field i).Apart (field j)

namespace Layout

variable {ι : Type} {layout : Layout ι ρ} {before between after : ρ → UInt8}

/-- The values of all fields. -/
def values (layout : Layout ι ρ) (registers : ρ → UInt8) : ι → UInt8 :=
  fun i => (layout.field i).value registers

/-- A field that has no bit in any field of a layout. -/
def Outside (layout : Layout ι ρ) (field : BitField ρ) : Prop := ∀ i, (layout.field i).Apart field

/-- The values of the fields are others, and all bits outside of them are as they were. -/
structure Becomes (layout : Layout ι ρ) (values : ι → UInt8) (before after : ρ → UInt8)
    : Prop where
  values : layout.values after = values
  kept : ∀ field, layout.Outside field → field.value after = field.value before

/-- Setting a field is an update of the values. -/
theorem becomes_of_set [DecidableEq ι] {i : ι} {val : UInt8}
    (set : (layout.field i).Set val before after)
    : layout.Becomes (Function.update (layout.values before) i val) before after where
  values := by
    funext j
    by_cases same : j = i
    · subst same
      rw [Function.update_self]
      exact set.value
    · rw [Function.update_of_ne same]
      exact set.kept _ (layout.apart i j (Ne.symm same))
  kept field outside := set.kept field (outside i)

end Layout

end RtlTcpAndro.Registers
