import RtlTcpAndro.ByteStreams.CStrings

/-! Comparisons of the first bytes of strings of C. -/

namespace RtlTcpAndro.ByteStreams

/-- `strncmp`, of arrays that may end without a zero where it is not reached. -/
def strncmp : Nat → List UInt8 → List UInt8 → Int
  | 0, _, _ => 0
  | _ + 1, [], [] => 0
  | _ + 1, [], second :: _ => -second.toNat
  | _ + 1, first :: _, [] => first.toNat
  | left + 1, first :: others, second :: rest =>
      if first ≠ second then first.toNat - second.toNat
      else if first = 0 then 0
      else strncmp left others rest

/-- `strlen` -/
def strlen (array : List UInt8) : Nat := (cString array).length

/-- A comparison over the length of a string finds no difference exactly where the other one begins
with it. By induction on the string.
-/
theorem strncmp_eq_zero_iff {string : List UInt8} (nonzero : ∀ byte ∈ string, byte ≠ 0)
    (rest array : List UInt8)
    : strncmp string.length (string ++ rest) array = 0 ↔ string <+: cString array := by
  induction string generalizing array with
  | nil => exact iff_of_true rfl List.nil_prefix
  | cons byte string ih =>
      have some_ : byte ≠ 0 := nonzero byte List.mem_cons_self
      have others := ih fun byte member => nonzero byte (List.mem_cons_of_mem _ member)
      cases array with
      | nil =>
          refine iff_of_false (toNat_ne_zero some_) fun begins => ?_
          exact List.cons_ne_nil _ _ (List.prefix_nil.mp begins)
      | cons head tail =>
          rw [List.length_cons, List.cons_append, strncmp]
          by_cases same : byte = head
          · subst same
            rw [if_neg (not_not.mpr rfl), if_neg some_, others, cString_cons some_,
              List.cons_prefix_cons, and_iff_right rfl]
          · rw [if_pos same]
            have apart : (byte.toNat : Int) - head.toNat ≠ 0 := by
              intro equal
              exact same (UInt8.toNat.inj (by omega))
            refine iff_of_false apart ?_
            by_cases zero : head = 0
            · subst zero
              rw [cString_cons_zero]
              exact fun begins => List.cons_ne_nil _ _ (List.prefix_nil.mp begins)
            · rw [cString_cons zero, List.cons_prefix_cons]
              exact fun both => same both.1

/-- The string of an array that ends with a zero. -/
theorem cString_terminated (array : List UInt8) : cString (literal array) = cString array := by
  induction array with
  | nil => rfl
  | cons byte rest ih =>
      by_cases zero : byte = 0
      · subst zero
        exact (cString_cons_zero (literal rest)).trans (cString_cons_zero rest).symm
      · rw [cString_cons zero, ← ih]
        exact cString_cons zero (literal rest)

/-- What is left of the string of an array after some bytes of it. -/
theorem cString_drop {array : List UInt8} {count : Nat} (within : count ≤ (cString array).length)
    : cString (array.drop count) = (cString array).drop count := by
  induction count generalizing array with
  | zero => rfl
  | succ count ih =>
      cases array with
      | nil => rfl
      | cons byte rest =>
          by_cases zero : byte = 0
          · subst zero
            rw [cString_cons_zero] at within
            exact absurd within (Nat.not_succ_le_zero count)
          · rw [cString_cons zero] at within ⊢
            exact ih (Nat.le_of_succ_le_succ within)

/-- A string ends with one that is no longer, where the two agree at the end. -/
theorem suffix_iff_drop {α : Type} {string whole : List α} (fits : string.length ≤ whole.length)
    : string <:+ whole ↔ string <+: whole.drop (whole.length - string.length) := by
  have size : (whole.drop (whole.length - string.length)).length = string.length := by
    rw [List.length_drop]
    omega
  constructor
  · intro ends
    exact ⟨[], (List.append_nil string).trans (List.suffix_iff_eq_drop.mp ends)⟩
  · intro begins
    rw [begins.eq_of_length size.symm]
    exact List.drop_suffix ..

end RtlTcpAndro.ByteStreams
