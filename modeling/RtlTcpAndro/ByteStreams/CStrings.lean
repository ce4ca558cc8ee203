import Mathlib.Data.List.TakeWhile

/-! Strings of C in arrays of bytes: the bytes before the first zero. -/

namespace RtlTcpAndro.ByteStreams

/-- The string that an array begins with. -/
def cString (array : List UInt8) : List UInt8 := array.takeWhile (· ≠ 0)

/-- An array holds the zero that ends its string. -/
def Terminated (array : List UInt8) : Prop := 0 ∈ array

/-- `strcmp`, of arrays that may end without a zero where it is not reached. -/
def strcmp : List UInt8 → List UInt8 → Int
  | [], [] => 0
  | [], second :: _ => -second.toNat
  | first :: _, [] => first.toNat
  | first :: others, second :: rest =>
      if first ≠ second then first.toNat - second.toNat
      else if first = 0 then 0
      else strcmp others rest

/-- The array that a string literal makes. -/
def literal (string : List UInt8) : List UInt8 := string ++ [0]

/-- The string of a memory ends before its first zero. -/
theorem cString_append_zero {string : List UInt8} (nonzero : ∀ byte ∈ string, byte ≠ 0)
    (rest : List UInt8)
    : cString (string ++ 0 :: rest) = string := by
  have all : ∀ byte ∈ string, decide (byte ≠ 0) = true := by
    intro byte member
    simpa using nonzero byte member
  rw [cString, List.takeWhile_append_of_pos all]
  simp

/-- The string of a literal is the literal without its zero. -/
theorem cString_literal {string : List UInt8} (nonzero : ∀ byte ∈ string, byte ≠ 0)
    : cString (literal string) = string :=
  cString_append_zero nonzero []

/-- A memory that begins with a zero has the empty string. -/
theorem cString_cons_zero (rest : List UInt8) : cString (0 :: rest) = [] := by
  simp [cString]

/-- A memory that begins with anything else has a string that does. -/
theorem cString_cons {byte : UInt8} (nonzero : byte ≠ 0) (rest : List UInt8)
    : cString (byte :: rest) = byte :: cString rest := by
  simp [cString, nonzero]

/-- A byte that is not zero is no zero as a number. -/
theorem toNat_ne_zero {byte : UInt8} (nonzero : byte ≠ 0) : (byte.toNat : Int) ≠ 0 := by
  intro zero
  exact nonzero (UInt8.toNat.inj (by simpa using zero))

/-- `strcmp` finds no difference exactly between arrays with one string, by induction on both. -/
theorem strcmp_eq_zero_iff (first second : List UInt8)
    : strcmp first second = 0 ↔ cString first = cString second := by
  induction first, second using strcmp.induct with
  | case1 => simp [strcmp]
  | case2 second rest =>
      by_cases zero : second = 0
      · subst zero
        rw [cString_cons_zero]
        simp [strcmp, cString]
      · have nonzero := toNat_ne_zero zero
        rw [cString_cons zero, strcmp]
        simp only [cString, List.takeWhile_nil, List.nil_eq, reduceCtorEq, iff_false]
        omega
  | case3 first rest =>
      by_cases zero : first = 0
      · subst zero
        rw [cString_cons_zero]
        simp [strcmp, cString]
      · have nonzero := toNat_ne_zero zero
        rw [cString_cons zero, strcmp]
        simp only [cString, List.takeWhile_nil, reduceCtorEq, iff_false]
        omega
  | case4 first others second rest different =>
      have apart : (first.toNat : Int) - second.toNat ≠ 0 := by
        intro same
        exact different (UInt8.toNat.inj (by omega))
      have unequal : cString (first :: others) ≠ cString (second :: rest) := by
        intro same
        by_cases zero : first = 0
        · subst zero
          rw [cString_cons_zero, cString_cons (Ne.symm different)] at same
          cases same
        · by_cases also : second = 0
          · subst also
            rw [cString_cons_zero, cString_cons zero] at same
            cases same
          · rw [cString_cons zero, cString_cons also] at same
            exact different (List.cons.inj same).1
      rw [strcmp, if_pos different]
      exact iff_of_false apart unequal
  | case5 others second rest same =>
      obtain rfl := not_not.mp same
      rw [strcmp, if_neg same, if_pos rfl, cString_cons_zero, cString_cons_zero]
      simp
  | case6 first others second rest same nonzero ih =>
      obtain rfl := not_not.mp same
      rw [strcmp, if_neg same, if_neg nonzero, ih, cString_cons nonzero, cString_cons nonzero,
        List.cons.injEq, and_iff_right rfl]

end RtlTcpAndro.ByteStreams
