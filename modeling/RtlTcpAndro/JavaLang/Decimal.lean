import Mathlib.Data.Nat.Digits.Lemmas
import RtlTcpAndro.JavaLang.Text

/-! `Integer.parseInt`, `Long.parseLong` and the decimal strings they read back. -/

namespace RtlTcpAndro.JavaLang

/-- The zeroes of the decimal digit groups among the `char`s; each begins a run of ten. -/
def digitZeros : List JavaChar :=
  [0x0030, 0x0660, 0x06f0, 0x07c0, 0x0966, 0x09e6, 0x0a66, 0x0ae6, 0x0b66, 0x0be6, 0x0c66,
    0x0ce6, 0x0d66, 0x0de6, 0x0e50, 0x0ed0, 0x0f20, 0x1040, 0x1090, 0x17e0, 0x1810, 0x1946,
    0x19d0, 0x1a80, 0x1a90, 0x1b50, 0x1bb0, 0x1c40, 0x1c50, 0xa620, 0xa8d0, 0xa900, 0xa9d0,
    0xa9f0, 0xaa50, 0xabf0, 0xff10]

/-- `Character.digit` in radix 10. -/
def digit (character : JavaChar) : Option Nat :=
  (digitZeros.find? (fun zero => zero ≤ character && character < zero + 10)).map
    (fun zero => (character - zero).toNat)

/-- The number that a nonempty run of digits stands for. -/
def parseDigits (string : JavaString) : Option Nat :=
  if string = [] then none
  else (string.mapM digit).map (fun digits => Nat.ofDigits 10 digits.reverse)

/-- U+002D and U+002B -/
def minus : JavaChar := 0x2d
def plus : JavaChar := 0x2b

/-- A run of digits that may have a sign in front. -/
def parseSigned : JavaString → Option Int
  | [] => none
  | first :: rest =>
      if first = minus then (parseDigits rest).map (fun value => -(value : Int))
      else if first = plus then (parseDigits rest).map (fun value => (value : Int))
      else (parseDigits (first :: rest)).map (fun value => (value : Int))

/-- `Integer.parseInt` -/
def parseInt (string : JavaString) : Except Thrown Int32 :=
  match parseSigned string with
  | some value =>
      if -2 ^ 31 ≤ value ∧ value < 2 ^ 31 then .ok (Int32.ofInt value)
      else .error (.numberFormat string)
  | none => .error (.numberFormat string)

/-- `Long.parseLong` -/
def parseLong (string : JavaString) : Except Thrown Int64 :=
  match parseSigned string with
  | some value =>
      if -2 ^ 63 ≤ value ∧ value < 2 ^ 63 then .ok (Int64.ofInt value)
      else .error (.numberFormat string)
  | none => .error (.numberFormat string)

/-- The ASCII digit of a number below ten. -/
def digitChar (value : Nat) : JavaChar := 0x30 + UInt16.ofNat value

/-- The decimal digits of a number. -/
def digitsOf (value : Nat) : List Nat :=
  if value = 0 then [0] else (Nat.digits 10 value).reverse

/-- `Integer.toString` and `Long.toString` -/
def decimal (value : Int) : JavaString :=
  let digits := (digitsOf value.natAbs).map digitChar
  if value < 0 then minus :: digits else digits

/-- Every ASCII digit is read back. -/
theorem digit_digitChar : ∀ value < 10, digit (digitChar value) = some value := by
  decide

/-- No ASCII digit is a sign. -/
theorem digitChar_ne_sign
    : ∀ value < 10, digitChar value ≠ minus ∧ digitChar value ≠ plus := by
  decide

/-- Every number has a digit. Witness: zero has its own. -/
theorem digitsOf_ne_nil (value : Nat) : digitsOf value ≠ [] := by
  unfold digitsOf
  split
  · exact nofun
  · rename_i nonzero
    simpa [Nat.digits_ne_nil_iff_ne_zero] using nonzero

/-- Every digit is below ten. Witness: `Nat.digits_lt_base`. -/
theorem digitsOf_lt {value digit : Nat} (member : digit ∈ digitsOf value) : digit < 10 := by
  unfold digitsOf at member
  split at member
  · simp_all
  · exact Nat.digits_lt_base (by decide) (List.mem_reverse.mp member)

/-- The digits of a number stand for it. -/
theorem ofDigits_digitsOf (value : Nat) : Nat.ofDigits 10 (digitsOf value).reverse = value := by
  unfold digitsOf
  split
  · simp_all
  · rw [List.reverse_reverse, Nat.ofDigits_digits]

/-- Reading digits back, by induction on their list. -/
theorem mapM_digit {digits : List Nat} (small : ∀ value ∈ digits, value < 10)
    : (digits.map digitChar).mapM digit = some digits := by
  induction digits with
  | nil => rfl
  | cons first rest ih =>
      have head := digit_digitChar first (small first (by simp))
      have tail := ih (fun value member => small value (List.mem_cons_of_mem _ member))
      rw [List.map_cons, List.mapM_cons, head, tail]
      rfl

/-- The digits of a number are read back. -/
theorem parseDigits_digitsOf (value : Nat)
    : parseDigits ((digitsOf value).map digitChar) = some value := by
  rw [parseDigits, if_neg (by simp [digitsOf_ne_nil]), mapM_digit (fun _ => digitsOf_lt)]
  simp [ofDigits_digitsOf]

/-- A decimal string is read back. -/
theorem parseSigned_decimal (value : Int) : parseSigned (decimal value) = some value := by
  unfold decimal
  split
  · rename_i negative
    simp only [parseSigned, parseDigits_digitsOf, if_pos]
    exact congrArg some (show -(value.natAbs : Int) = value by omega)
  · rename_i nonnegative
    obtain ⟨first, rest, digits⟩ := List.exists_cons_of_ne_nil (digitsOf_ne_nil value.natAbs)
    have small : first < 10 := digitsOf_lt (digits ▸ List.mem_cons_self)
    have unsigned := digitChar_ne_sign first small
    have read := parseDigits_digitsOf value.natAbs
    simp only [digits, List.map_cons] at read ⊢
    simp only [parseSigned, unsigned, if_false, read]
    exact congrArg some (show (value.natAbs : Int) = value by omega)

/-- `parseInt` inverts `Integer.toString`. -/
theorem parseInt_decimal (value : Int32) : parseInt (decimal value.toInt) = .ok value := by
  have least := value.minValue_le_toInt
  have most := value.toInt_le
  rw [parseInt, parseSigned_decimal]
  simp only [Int32.toInt_minValue, Int32.toInt_maxValue] at least most
  dsimp only
  rw [if_pos (by omega), Int32.ofInt_toInt]

/-- `parseLong` inverts `Long.toString`. -/
theorem parseLong_decimal (value : Int64) : parseLong (decimal value.toInt) = .ok value := by
  have least := value.minValue_le_toInt
  have most := value.toInt_le
  rw [parseLong, parseSigned_decimal]
  simp only [Int64.toInt_minValue, Int64.toInt_maxValue] at least most
  dsimp only
  rw [if_pos (by omega), Int64.ofInt_toInt]

/-- A decimal string consists of digits and perhaps a sign. -/
theorem mem_decimal {value : Int} {character : JavaChar} (member : character ∈ decimal value)
    : character = minus ∨ ∃ digit < 10, character = digitChar digit := by
  have digits (found : character ∈ (digitsOf value.natAbs).map digitChar)
      : ∃ digit < 10, character = digitChar digit := by
    obtain ⟨digit, listed, rfl⟩ := List.mem_map.mp found
    exact ⟨digit, digitsOf_lt listed, rfl⟩
  unfold decimal at member
  split at member
  · exact (List.mem_cons.mp member).imp_right digits
  · exact .inr (digits member)

/-- Every number is written with some character. Witness: its sign or a digit. -/
theorem decimal_ne_nil (value : Int) : decimal value ≠ [] := by
  unfold decimal
  split
  · exact nofun
  · simp [digitsOf_ne_nil]

end RtlTcpAndro.JavaLang
