import RtlTcpAndro.ByteStreams.CStrings
import RtlTcpAndro.JavaLang.Decimal

/-! Numbers that strings of C begin with, as `strtol` reads them where it is to find out their base,
and the decimal strings that it reads back.
-/

namespace RtlTcpAndro.ByteStreams

open JavaLang (digitsOf digitsOf_lt digitsOf_ne_nil ofDigits_digitsOf)

/-- `isspace`, in the locale that a program starts with -/
def isspace (byte : UInt8) : Bool := decide (byte = 0x20 ∨ 0x09 ≤ byte ∧ byte ≤ 0x0d)

/-- The value of a digit, up to those of hexadecimal numbers. -/
def digitValue (byte : UInt8) : Option Nat :=
  if 0x30 ≤ byte ∧ byte ≤ 0x39 then some (byte.toNat - 0x30)
  else if 0x41 ≤ byte ∧ byte ≤ 0x46 then some (byte.toNat - 0x41 + 10)
  else if 0x61 ≤ byte ∧ byte ≤ 0x66 then some (byte.toNat - 0x61 + 10)
  else none

/-- A digit of numbers with a base. -/
def isDigit (base : Nat) (byte : UInt8) : Bool := (digitValue byte).any (· < base)

/-- The number that a string begins with, and what is left of the string, if it begins with a digit
of the base.
-/
def readDigits (base : Nat) (string : List UInt8) : Option (Nat × List UInt8) :=
  let digits := string.takeWhile (isDigit base)
  if digits = [] then none
  else
    some (Nat.ofDigits base (digits.filterMap digitValue).reverse, string.dropWhile (isDigit base))

/-- As `readDigits`, with the base that the string says: a zero stands before an octal number, a
zero and an x before a hexadecimal one, if it has a digit.
-/
def readNumber : List UInt8 → Option (Nat × List UInt8)
  | 0x30 :: x :: rest =>
      if x = 0x78 ∨ x = 0x58 then (readDigits 16 rest).or (readDigits 8 (0x30 :: x :: rest))
      else readDigits 8 (0x30 :: x :: rest)
  | 0x30 :: [] => readDigits 8 [0x30]
  | string => readDigits 10 string

/-- Whether a number is negative, and what is left of the string after its sign. -/
def readSign : List UInt8 → Bool × List UInt8
  | 0x2d :: rest => (true, rest)
  | 0x2b :: rest => (false, rest)
  | string => (false, string)

/-- `strtol` with base zero, and a `long` of some bits: the number and what is left of the string. A
number that does not fit is the least or the greatest one; a string without a number is left whole.
-/
def strtol (longBits : Nat) (s : List UInt8) : Int × List UInt8 :=
  let (negative, string) := readSign (s.dropWhile isspace)
  match readNumber string with
  | none => (0, s)
  | some (value, rest) =>
      let signed : Int := if negative then -value else value
      (max (-2 ^ (longBits - 1)) (min (2 ^ (longBits - 1) - 1) signed), rest)

-----------------------------------------------------------------------------------------
-- Decimal strings
-----------------------------------------------------------------------------------------

/-- The byte of a digit below ten. -/
def digitByte (digit : Nat) : UInt8 := 0x30 + UInt8.ofNat digit

/-- The string of a number, as `printf` has it for a number that is not negative -/
def decimalString (value : Nat) : List UInt8 := (digitsOf value).map digitByte

/-- A digit is read back, is no space and no sign, and is zero where it is the byte of zero. -/
theorem digitByte_read
    : ∀ digit < 10,
        digitValue (digitByte digit) = some digit
        ∧ isspace (digitByte digit) = false
        ∧ digitByte digit ≠ 0x2d
        ∧ digitByte digit ≠ 0x2b
        ∧ (digitByte digit = 0x30 → digit = 0) := by
  decide

/-- Digits that end where a string goes on with none are read as their number. Witness: what is
taken of the string are the digits, and each of them is read back.
-/
theorem readDigits_map {base : Nat} (decimal : base ≤ 10) {digits : List Nat}
    (small : ∀ digit ∈ digits, digit < base) (nonempty : digits ≠ []) {rest : List UInt8}
    (ends : ∀ byte ∈ rest.head?, isDigit base byte = false)
    : readDigits base (digits.map digitByte ++ rest)
      = some (Nat.ofDigits base digits.reverse, rest) := by
  have read (digit : Nat) (member : digit ∈ digits) : digitValue (digitByte digit) = some digit :=
    (digitByte_read digit (Nat.lt_of_lt_of_le (small digit member) decimal)).1
  have all : ∀ byte ∈ digits.map digitByte, isDigit base byte = true := by
    intro byte member
    obtain ⟨digit, listed, rfl⟩ := List.mem_map.mp member
    rw [isDigit, read digit listed]
    exact decide_eq_true (small digit listed)
  have stops : rest.takeWhile (isDigit base) = [] ∧ rest.dropWhile (isDigit base) = rest := by
    cases rest with
    | nil => exact ⟨rfl, rfl⟩
    | cons byte others =>
        have none := ends byte rfl
        exact ⟨List.takeWhile_cons_of_neg (by rw [none]; decide),
          List.dropWhile_cons_of_neg (by rw [none]; decide)⟩
  have values : (digits.map digitByte).filterMap digitValue = digits := by
    rw [List.filterMap_map]
    exact (List.filterMap_congr read).trans List.filterMap_some
  rw [readDigits, List.takeWhile_append_of_pos all, List.dropWhile_append_of_pos all, stops.1,
    stops.2, List.append_nil, values]
  exact if_neg fun none => nonempty (List.map_eq_nil_iff.mp none)

/-- The string of a number other than zero does not begin with a zero. Witness: the last digit that
is computed, which stands first, is none.
-/
theorem digitsOf_head {value first : Nat} {others : List Nat} (nonzero : value ≠ 0)
    (digits : digitsOf value = first :: others)
    : first ≠ 0 := by
  have computed : (Nat.digits 10 value).reverse = first :: others := by
    rw [← digits, digitsOf, if_neg nonzero]
  have last := Nat.getLast_digit_ne_zero 10 nonzero
  rw [← List.head_reverse (by simpa [Nat.digits_ne_nil_iff_ne_zero] using nonzero)] at last
  simp only [computed, List.head_cons] at last
  exact last

/-- The string of a number is read with base zero. Witness: that of zero is an octal number, and
that of another one, which begins with no zero, is a decimal one.
-/
theorem readNumber_decimalString (value : Nat)
    : readNumber (literal (decimalString value)) = some (value, [0]) := by
  by_cases zero : value = 0
  · subst zero
    rfl
  have read := @readDigits_map 10 (le_refl 10) (digitsOf value) (fun _ => digitsOf_lt)
    (digitsOf_ne_nil value) [0] (by rintro _ ⟨⟩; rfl)
  rw [ofDigits_digitsOf] at read
  refine Eq.trans ?_ read
  obtain ⟨first, others, digits⟩ := List.exists_cons_of_ne_nil (digitsOf_ne_nil value)
  have small : first < 10 := digitsOf_lt (digits ▸ List.mem_cons_self)
  have byte : digitByte first ≠ 0x30 := fun same =>
    digitsOf_head zero digits ((digitByte_read first small).2.2.2.2 same)
  rw [literal, decimalString, digits, List.map_cons, List.cons_append]
  unfold readNumber
  split
  next same => exact absurd (List.cons.inj same).1 byte
  next same => exact absurd (List.cons.inj same).1 byte
  next => rfl

/-- `strtol` reads back the string of a number that fits. Witness: it begins with no space and no
sign.
-/
theorem strtol_decimalString {longBits value : Nat} (fits : value < 2 ^ (longBits - 1))
    : strtol longBits (literal (decimalString value)) = (↑value, [0]) := by
  obtain ⟨first, others, digits⟩ : ∃ first others, digitsOf value = first :: others :=
    List.exists_cons_of_ne_nil (digitsOf_ne_nil value)
  have small : first < 10 := digitsOf_lt (digits ▸ List.mem_cons_self)
  obtain ⟨-, space, minus, plus, -⟩ := digitByte_read first small
  have number := readNumber_decimalString value
  rw [literal, decimalString, digits, List.map_cons, List.cons_append] at number ⊢
  have begins : (digitByte first :: (others.map digitByte ++ [0])).dropWhile isspace
      = digitByte first :: (others.map digitByte ++ [0]) :=
    List.dropWhile_cons_of_neg (by rw [space]; decide)
  have unsigned : readSign (digitByte first :: (others.map digitByte ++ [0]))
      = (false, digitByte first :: (others.map digitByte ++ [0])) := by
    unfold readSign
    split
    next same => exact absurd (List.cons.inj same).1 minus
    next same => exact absurd (List.cons.inj same).1 plus
    next => rfl
  have limit : (2 ^ (longBits - 1) : Int) = ((2 ^ (longBits - 1) : Nat) : Int) := by
    push_cast
    rfl
  rw [strtol, begins, unsigned]
  dsimp only
  rw [number]
  dsimp only
  rw [if_neg Bool.false_ne_true, limit]
  refine congrArg (·, [0]) ?_
  omega

end RtlTcpAndro.ByteStreams
