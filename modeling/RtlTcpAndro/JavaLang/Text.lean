import Mathlib.Data.List.DropRight

/-! Strings as Java has them: sequences of UTF-16 code units, and what `String` does to them.
A method that throws says what.
-/

namespace RtlTcpAndro.JavaLang

/-- A `char`: one UTF-16 code unit. -/
abbrev JavaChar := UInt16

/-- A `String`. -/
abbrev JavaString := List JavaChar

/-- The string of a literal, whose characters are all below U+10000. -/
def text (literal : String) : JavaString :=
  literal.toList.map (fun character => UInt16.ofNat character.toNat)

/-- What a check finds of every character of a string. -/
theorem forall_of_all {holds : JavaChar → Prop} [DecidablePred holds] {string : JavaString}
    (all : string.all (fun character => decide (holds character)) = true)
    : ∀ character ∈ string, holds character :=
  fun character member => of_decide_eq_true (List.all_eq_true.mp all character member)

/-- The exceptions of string methods and of methods that refuse what a string says. -/
inductive Thrown
  | illegalArgument (message : JavaString)
  | numberFormat (input : JavaString)
  | indexOutOfBounds
  deriving DecidableEq, Repr

/-- An `IllegalArgumentException`, of its subclass for numbers or not. -/
def Thrown.IsIllegalArgument : Thrown → Prop
  | .illegalArgument _ => True
  | .numberFormat _ => True
  | .indexOutOfBounds => False

/-- `charAt` -/
def charAt (string : JavaString) (index : Nat) : Except Thrown JavaChar :=
  match string[index]? with
  | some character => .ok character
  | none => .error .indexOutOfBounds

/-- `substring` -/
def substring (string : JavaString) (beginIndex endIndex : Nat) : Except Thrown JavaString :=
  if beginIndex ≤ endIndex ∧ endIndex ≤ string.length then
    .ok ((string.take endIndex).drop beginIndex)
  else .error .indexOutOfBounds

/-- `charAt` of a difference, which may be negative. -/
def charAtInt (string : JavaString) (index : Int) : Except Thrown JavaChar :=
  if index < 0 then .error .indexOutOfBounds else charAt string index.toNat

/-- The last character of a string. -/
theorem charAtInt_concat (string : JavaString) (last : JavaChar)
    : charAtInt (string ++ [last]) ((string ++ [last]).length - 1) = .ok last := by
  have index : ((string ++ [last]).length : Int) - 1 = string.length := by
    rw [List.length_append, List.length_singleton]
    omega
  rw [index, charAtInt, if_neg (by omega), Int.toNat_natCast, charAt,
    List.getElem?_concat_length]

/-- A string without its last character. -/
theorem substring_concat (string : JavaString) (last : JavaChar)
    : substring (string ++ [last]) 0 ((string ++ [last]).length - 1) = .ok string := by
  have length : (string ++ [last]).length - 1 = string.length := by
    rw [List.length_append, List.length_singleton, Nat.add_sub_cancel]
  rw [length, substring, if_pos ⟨Nat.zero_le _, by simp⟩, List.take_left, List.drop_zero]

/-- U+0020 -/
def space : JavaChar := 0x20

/-- What `trim` removes: the space and everything below it. -/
def blank (character : JavaChar) : Bool := character ≤ space

/-- `trim` -/
def trim (string : JavaString) : JavaString := (string.dropWhile blank).rdropWhile blank

/-- A trimmed string is no longer. -/
theorem length_trim_le (string : JavaString) : (trim string).length ≤ string.length :=
  (List.rdropWhile_prefix ..).length_le.trans (List.dropWhile_suffix ..).length_le

/-- Trimming leaves a string alone when it is empty or has no blank at either end. -/
theorem trim_eq_self_iff {string : JavaString}
    : trim string = string
      ↔ (∀ first ∈ string.head?, blank first = false)
        ∧ ∀ last ∈ string.getLast?, blank last = false := by
  have heads : (∀ first ∈ string.head?, blank first = false) ↔ string.dropWhile blank = string := by
    cases string with
    | nil => simp
    | cons first rest => simp [List.dropWhile_eq_self_iff]
  have lasts
      : (∀ last ∈ string.getLast?, blank last = false) ↔ string.rdropWhile blank = string := by
    rw [List.rdropWhile_eq_self_iff]
    constructor
    · intro ends nonempty
      simpa using ends _ (List.getLast?_eq_some_getLast nonempty)
    · intro ends last member
      obtain ⟨before, rfl⟩ := List.getLast?_eq_some_iff.mp member
      simpa using ends (by simp)
  rw [heads, lasts]
  constructor
  · intro same
    have kept : string.dropWhile blank = string := by
      refine (List.dropWhile_suffix blank).eq_of_length_le ?_
      calc string.length = (trim string).length := by rw [same]
        _ ≤ (string.dropWhile blank).length := (List.rdropWhile_prefix ..).length_le
    exact ⟨kept, by rwa [trim, kept] at same⟩
  · intro ends
    rw [trim, ends.1, ends.2]

end RtlTcpAndro.JavaLang
