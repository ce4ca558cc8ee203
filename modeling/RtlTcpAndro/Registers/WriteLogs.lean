import Mathlib.Logic.Function.Basic

/-! Registers that values are written to one after the other. A register then holds the last value
written to it, or what it held before. Nothing here depends on what the registers are for.
-/

namespace RtlTcpAndro.Registers

variable {ρ ν : Type} {registers : ρ → ν} {entries more : List (ρ × ν)} {reg : ρ} {val : ν}

/-- No entry is written to a register. -/
def Spared (entries : List (ρ × ν)) (reg : ρ) : Prop := reg ∉ entries.map Prod.fst

/-- No entries spare every register. -/
@[simp] theorem spared_nil : Spared ([] : List (ρ × ν)) reg := nofun

/-- Entries in a row spare what both parts spare. -/
theorem spared_append : Spared (entries ++ more) reg ↔ Spared entries reg ∧ Spared more reg := by
  simp [Spared, not_or]

variable [DecidableEq ρ]

/-- The registers after values are written one after the other. -/
def written (registers : ρ → ν) (entries : List (ρ × ν)) : ρ → ν :=
  entries.foldl (fun registers entry => Function.update registers entry.1 entry.2) registers

instance Spared.decidable : Decidable (Spared entries reg) :=
  inferInstanceAs (Decidable (reg ∉ entries.map Prod.fst))

/-- No entries write nothing. -/
@[simp] theorem written_nil : written registers [] = registers := rfl

/-- The first entry is written before the others, by computation. -/
theorem written_cons {entry : ρ × ν}
    : written registers (entry :: entries)
      = written (Function.update registers entry.1 entry.2) entries :=
  rfl

/-- Entries in a row are written one part after the other. -/
theorem written_append
    : written registers (entries ++ more) = written (written registers entries) more :=
  List.foldl_append

/-- A register that no entry is written to holds what it held. By induction on the entries. -/
theorem written_of_spared (spared : Spared entries reg)
    : written registers entries reg = registers reg := by
  induction entries generalizing registers with
  | nil => rfl
  | cons entry rest ih =>
      have apart : reg ≠ entry.1 ∧ Spared rest reg := by
        simpa [Spared, not_or] using spared
      rw [written_cons, ih apart.2, Function.update_of_ne apart.1]

/-- Registers that are written to once hold what was written. By induction on the entries. -/
theorem written_of_mem (once : (entries.map Prod.fst).Nodup) {entry : ρ × ν}
    (member : entry ∈ entries)
    : written registers entries entry.1 = entry.2 := by
  induction entries generalizing registers with
  | nil => cases member
  | cons first rest ih =>
      obtain ⟨apart, distinct⟩ := List.nodup_cons.mp once
      rcases List.mem_cons.mp member with rfl | later
      · rw [written_cons, written_of_spared apart, Function.update_self]
      · exact ih distinct later

/-- A register holds the last value that is written to it. -/
theorem written_last (spared : Spared more reg)
    : written registers (entries ++ (reg, val) :: more) reg = val := by
  rw [written_append, written_cons, written_of_spared spared, Function.update_self]

end RtlTcpAndro.Registers
