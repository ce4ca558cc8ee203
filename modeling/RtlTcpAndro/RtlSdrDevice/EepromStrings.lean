import Mathlib.Data.List.Basic
import RtlTcpAndro.ByteStreams.CStrings

/-! The manufacturer and the product that `rtlsdr_open2` takes from the EEPROM. -/

namespace RtlTcpAndro.RtlSdrDevice

open RtlTcpAndro.ByteStreams

/-- `EEPROM_SIZE`, `STR_OFFSET` and the size of `dev->manufact` and `dev->product`. -/
def eepromSize : Nat := 256
def strOffset : Nat := 0x09
def stringSize : Nat := 256

-----------------------------------------------------------------------------------------
-- get_string_descriptor
-----------------------------------------------------------------------------------------

/-- The accesses of `get_string_descriptor` by index, and its array `str`. -/
structure StringParse where
  reads : List Nat
  writes : List Nat
  str : List UInt8
  deriving DecidableEq, Repr

def StringParse.read (parse : StringParse) (index : Nat) : StringParse :=
  { parse with reads := parse.reads ++ [index] }

/-- `str[j] = byte` -/
def StringParse.write (parse : StringParse) (j : Nat) (byte : UInt8) : StringParse :=
  { parse with writes := parse.writes ++ [j], str := parse.str.set j byte }

/-- The loop of `get_string_descriptor`, and the `i` and `j` it ends with. -/
def copyString (data : Nat → UInt8) (pos len i j : Nat) (parse : StringParse)
    : Nat × Nat × StringParse :=
  if i < len then
    copyString data pos len (i + 2) (j + 1)
      ((parse.read (pos + i)).write j (data (pos + i)))
  else (i, j, parse)
termination_by len - i

/-- `get_string_descriptor`; `data` is the memory from the buffer on, and another type byte than
3 is reported only.
-/
def getStringDescriptor (pos : Nat) (data : Nat → UInt8) (str : List UInt8)
    : Nat × StringParse :=
  let len := (data pos).toNat
  let (i, j, parse) := copyString data pos len 2 0 ⟨[pos, pos + 1], [], str⟩
  (pos + i, parse.write j 0)

/-- The two calls of `rtlsdr_open2`, for `dev->manufact` and `dev->product`. -/
def readStrings (data : Nat → UInt8) : StringParse × StringParse :=
  let (pos, manufact) := getStringDescriptor strOffset data (List.replicate stringSize 0)
  let (_, product) := getStringDescriptor pos data (List.replicate stringSize 0)
  (manufact, product)

/-- `rtlsdr_check_dongle_model` -/
def rtlsdrCheckDongleModel (manufact product manufactCheck productCheck : List UInt8) : Int32 :=
  if strcmp manufact manufactCheck = 0 ∧ strcmp product productCheck = 0 then 1 else 0

/-- The characters that a length byte announces. -/
def charCount (len : Nat) : Nat := (len - 1) / 2

/-- The characters that are copied. -/
def characters (pos : Nat) (data : Nat → UInt8) (count : Nat) : List UInt8 :=
  (List.range count).map fun k => data (pos + 2 + 2 * k)

/-- The rounds that are left of the loop, by induction on them. -/
theorem copyString_eq (data : Nat → UInt8) (pos len i j : Nat) (parse : StringParse)
    {filled rest : List UInt8} (str : parse.str = filled ++ rest) (size : filled.length = j)
    (room : (len + 1 - i) / 2 ≤ rest.length)
    : copyString data pos len i j parse
      = (i + 2 * ((len + 1 - i) / 2), j + (len + 1 - i) / 2,
          { reads :=
              parse.reads ++ (List.range ((len + 1 - i) / 2)).map fun k => pos + i + 2 * k
            writes := parse.writes ++ (List.range ((len + 1 - i) / 2)).map fun k => j + k
            str :=
              filled ++ ((List.range ((len + 1 - i) / 2)).map fun k => data (pos + i + 2 * k))
              ++ rest.drop ((len + 1 - i) / 2) }) := by
  induction i, j, parse using copyString.induct data pos len generalizing filled rest with
  | case1 i j parse going ih =>
      have count : (len + 1 - i) / 2 = (len + 1 - (i + 2)) / 2 + 1 := by omega
      obtain _ | ⟨old, others⟩ := rest
      · simp only [List.length_nil] at room
        omega
      · have written
            : ((parse.read (pos + i)).write j (data (pos + i))).str
              = (filled ++ [data (pos + i)]) ++ others := by
          simp [StringParse.write, StringParse.read, str, ← size, List.set_append_right]
        have left : (len + 1 - (i + 2)) / 2 ≤ others.length := by
          simp only [List.length_cons] at room
          omega
        rw [copyString, if_pos going, ih written (by simp [size]) left, count,
          List.range_succ_eq_map]
        simp only [StringParse.write, StringParse.read, List.map_cons, List.map_map,
          Function.comp_def, List.drop_succ_cons, Prod.mk.injEq, StringParse.mk.injEq]
        have next (k : Nat) : pos + (i + 2) + 2 * k = pos + i + 2 * k.succ := by omega
        have later (k : Nat) : j + 1 + k = j + k.succ := by omega
        refine ⟨by omega, by omega, ?_, ?_, ?_⟩
        · simp only [next]
          simp
        · simp only [later]
          simp
        · simp only [next]
          simp
  | case2 i j parse ended =>
      have count : (len + 1 - i) / 2 = 0 := by omega
      rw [copyString, if_neg ended, count]
      simp [← str]

/-- What a call of `get_string_descriptor` reads, writes and returns. -/
theorem getStringDescriptor_eq (pos : Nat) (data : Nat → UInt8) {str : List UInt8}
    (size : str.length = stringSize)
    : getStringDescriptor pos data str
      = (pos + 2 + 2 * charCount (data pos).toNat,
          { reads :=
              [pos, pos + 1]
              ++ (List.range (charCount (data pos).toNat)).map fun k => pos + 2 + 2 * k
            writes := (List.range (charCount (data pos).toNat + 1))
            str :=
              characters pos data (charCount (data pos).toNat)
              ++ 0 :: str.drop (charCount (data pos).toNat + 1) }) := by
  have byte : (data pos).toNat < 256 := (data pos).toNat_lt
  have count : ((data pos).toNat + 1 - 2) / 2 = charCount (data pos).toNat := rfl
  have room : ((data pos).toNat + 1 - 2) / 2 ≤ str.length := by
    rw [size, stringSize]
    omega
  obtain ⟨old, others, tail⟩
      : ∃ old others, str.drop (charCount (data pos).toNat) = old :: others := by
    refine List.exists_cons_of_length_pos ?_
    rw [List.length_drop, size, stringSize, charCount]
    omega
  have later : str.drop (charCount (data pos).toNat + 1) = others := by
    rw [← List.drop_drop, tail]
    rfl
  have copied :=
    copyString_eq data pos (data pos).toNat 2 0 ⟨[pos, pos + 1], [], str⟩ (List.nil_append str).symm
      rfl room
  have written (filled : List UInt8) (full : filled.length = charCount (data pos).toNat)
      : (filled ++ old :: others).set (charCount (data pos).toNat) 0 = filled ++ 0 :: others := by
    simp [← full, List.set_append_right]
  rw [getStringDescriptor, copied, count, later]
  simp only [StringParse.write, tail, List.nil_append, Nat.zero_add, List.range_succ]
  rw [written _ (by simp), Nat.add_assoc]
  simp [characters]

-----------------------------------------------------------------------------------------
-- The two descriptors
-----------------------------------------------------------------------------------------

/-- The two calls, each by what it reads and writes. -/
def stringAt (pos : Nat) (data : Nat → UInt8) : StringParse :=
  (getStringDescriptor pos data (List.replicate stringSize 0)).2

/-- Where the second call begins, by the first length byte. -/
def productOffset (data : Nat → UInt8) : Nat :=
  strOffset + 2 + 2 * charCount (data strOffset).toNat

/-- The two strings are read at their offsets, the second behind the first, from cleared
memory.
-/
theorem readStrings_eq (data : Nat → UInt8)
    : readStrings data = (stringAt strOffset data, stringAt (productOffset data) data) := by
  have cleared : (List.replicate stringSize (0 : UInt8)).length = stringSize :=
    List.length_replicate
  simp only [readStrings, stringAt, getStringDescriptor_eq strOffset data cleared]
  rfl

/-- A call stays in the buffer and in its array, and the array holds the end of its string. -/
structure StringParse.InBounds (parse : StringParse) : Prop where
  reads : ∀ index ∈ parse.reads, index < eepromSize
  writes : ∀ j ∈ parse.writes, j < stringSize
  size : parse.str.length = stringSize
  terminated : Terminated parse.str

/-- The accesses of one call, bounded by its last one. -/
theorem stringAt_inBounds_iff (pos : Nat) (data : Nat → UInt8)
    : (stringAt pos data).InBounds
      ↔ pos + 1 < eepromSize ∧ pos + 2 * charCount (data pos).toNat < eepromSize := by
  have byte : (data pos).toNat < 256 := (data pos).toNat_lt
  have count : charCount (data pos).toNat < stringSize := by
    simp only [charCount, stringSize]
    omega
  rw [stringAt, getStringDescriptor_eq pos data List.length_replicate]
  constructor
  · intro bounds
    refine ⟨bounds.reads (pos + 1) (by simp), ?_⟩
    obtain none | some := Nat.eq_zero_or_pos (charCount (data pos).toNat)
    · have := bounds.reads pos (by simp)
      omega
    · have := bounds.reads (pos + 2 + 2 * (charCount (data pos).toNat - 1))
        (List.mem_append_right _ (List.mem_map.mpr ⟨_, List.mem_range.mpr (by omega), rfl⟩))
      omega
  · rintro ⟨header, last⟩
    constructor
    case reads =>
      intro index member
      simp only [List.cons_append, List.nil_append, List.mem_cons, List.mem_map,
        List.mem_range] at member
      obtain rfl | rfl | ⟨k, earlier, rfl⟩ := member <;> omega
    case writes =>
      intro j member
      have := List.mem_range.mp member
      omega
    case size =>
      simp [characters]
      omega
    case terminated => simp [Terminated]

/-- Both descriptors lie in the EEPROM as their length bytes announce them. -/
def DescriptorsFit (data : Nat → UInt8) : Prop :=
  productOffset data + 1 < eepromSize
  ∧ productOffset data + 2 * charCount (data (productOffset data)).toNat < eepromSize

/-- The calls of `rtlsdr_open2` stay in bounds exactly where both descriptors fit: no length byte
is checked.
-/
theorem eeprom_strings_in_bounds_iff (data : Nat → UInt8)
    : (readStrings data).1.InBounds ∧ (readStrings data).2.InBounds ↔ DescriptorsFit data := by
  rw [readStrings_eq]
  constructor
  · rintro ⟨-, product⟩
    exact (stringAt_inBounds_iff _ data).mp product
  · intro fit
    have second : productOffset data + 1 < eepromSize := fit.1
    refine ⟨(stringAt_inBounds_iff _ data).mpr ⟨by decide, ?_⟩,
      (stringAt_inBounds_iff _ data).mpr fit⟩
    rw [productOffset] at second
    omega

/-- An erased EEPROM takes the first call beyond the buffer. -/
theorem erased_eeprom_out_of_bounds
    : ¬ ((readStrings fun _ => 0xff).1.InBounds ∧ (readStrings fun _ => 0xff).2.InBounds) := by
  rw [readStrings_eq]
  rintro ⟨manufact, -⟩
  have last := ((stringAt_inBounds_iff _ _).mp manufact).2
  revert last
  decide

-----------------------------------------------------------------------------------------
-- What a programmed EEPROM holds
-----------------------------------------------------------------------------------------

/-- The descriptor of a string: its length, its type, and each character as two bytes. -/
def descriptor (string : List UInt8) : List UInt8 :=
  UInt8.ofNat (2 + 2 * string.length) :: 3 :: string.flatMap fun character => [character, 0]

/-- The bytes lie in the memory from a position on. -/
def PlacedAt (data : Nat → UInt8) (pos : Nat) (bytes : List UInt8) : Prop :=
  ∀ k byte, bytes[k]? = some byte → data (pos + k) = byte

/-- Where bytes are placed, a first part of them is placed there. -/
theorem PlacedAt.left {data : Nat → UInt8} {pos : Nat} {first second : List UInt8}
    (placed : PlacedAt data pos (first ++ second))
    : PlacedAt data pos first := by
  intro k byte found
  exact placed k byte (List.getElem?_append_left (List.getElem?_eq_some_iff.mp found).1 ▸ found)

/-- Where bytes are placed, the rest of them is placed behind the first part. -/
theorem PlacedAt.right {data : Nat → UInt8} {pos : Nat} {first second : List UInt8}
    (placed : PlacedAt data pos (first ++ second))
    : PlacedAt data (pos + first.length) second := by
  intro k byte found
  rw [Nat.add_assoc]
  refine placed _ byte ?_
  rw [List.getElem?_append_right (by omega), Nat.add_sub_cancel_left, found]

/-- A string of two bytes a character is twice as long, by induction on it. -/
theorem wide_length (string : List UInt8)
    : (string.flatMap fun character => [character, 0]).length = 2 * string.length := by
  induction string with
  | nil => rfl
  | cons character string ih =>
      simp only [List.flatMap_cons, List.length_append, List.length_cons, List.length_nil, ih]
      omega

/-- A descriptor has two bytes before its wide string. -/
theorem descriptor_length (string : List UInt8)
    : (descriptor string).length = 2 + 2 * string.length := by
  rw [descriptor, List.length_cons, List.length_cons, wide_length]
  omega

/-- The characters are at every other byte, by induction on the string. -/
theorem getElem?_wide (string : List UInt8) (k : Nat)
    : (string.flatMap fun character => [character, 0])[2 * k]? = string[k]? := by
  induction string generalizing k with
  | nil => simp
  | cons character string ih =>
      obtain _ | k := k
      · simp
      · have step : 2 * (k + 1) = 2 * k + 1 + 1 := by omega
        simp only [List.flatMap_cons, List.cons_append, List.nil_append, step,
          List.getElem?_cons_succ, ih]

/-- One call, on a descriptor that was placed. -/
theorem stringAt_placed {data : Nat → UInt8} {pos : Nat} {string : List UInt8}
    (placed : PlacedAt data pos (descriptor string)) (short : 2 + 2 * string.length < 256)
    : charCount (data pos).toNat = string.length
      ∧ characters pos data string.length = string := by
  have length : data pos = UInt8.ofNat (2 + 2 * string.length) := placed 0 _ rfl
  constructor
  · rw [length, UInt8.toNat_ofNat_of_lt' short, charCount]
    omega
  · refine List.ext_getElem (by simp [characters]) ?_
    intro k inside within
    have found : (descriptor string)[2 + 2 * k]? = some string[k] := by
      have shifted : 2 + 2 * k = 2 * k + 1 + 1 := by omega
      rw [descriptor, shifted, List.getElem?_cons_succ, List.getElem?_cons_succ, getElem?_wide,
        List.getElem?_eq_getElem within]
    simpa [characters, Nat.add_assoc] using placed _ _ found

/-- A descriptor that is placed in the EEPROM is read as its string. Witness: what is copied
is the string, and the memory behind it is cleared.
-/
theorem cString_stringAt {data : Nat → UInt8} {pos : Nat} {string : List UInt8}
    (placed : PlacedAt data pos (descriptor string)) (short : 2 + 2 * string.length < 256)
    (nonzero : ∀ character ∈ string, character ≠ 0)
    : cString (stringAt pos data).str = string := by
  obtain ⟨count, copied⟩ := stringAt_placed placed short
  rw [stringAt, getStringDescriptor_eq pos data List.length_replicate]
  simp only [count, copied]
  exact cString_append_zero nonzero _

/-- A model is recognized exactly if both strings are those of the check. -/
theorem rtlsdrCheckDongleModel_eq_one_iff (manufact product manufactCheck productCheck : List UInt8)
    : rtlsdrCheckDongleModel manufact product manufactCheck productCheck = 1
      ↔ cString manufact = cString manufactCheck ∧ cString product = cString productCheck := by
  rw [← strcmp_eq_zero_iff, ← strcmp_eq_zero_iff, rtlsdrCheckDongleModel]
  split
  next both => exact iff_of_true rfl both
  next differ => exact iff_of_false (by decide) differ

/-- Two strings of characters 1 to 127 are decoded as they were encoded, whatever lies around
their descriptors.
-/
theorem eeprom_strings_decode (m p : List UInt8) (data : Nat → UInt8)
    (ascii : ∀ character ∈ m ++ p, 1 ≤ character ∧ character ≤ 127)
    (fit : strOffset + (descriptor m ++ descriptor p).length ≤ eepromSize)
    (placed : PlacedAt data strOffset (descriptor m ++ descriptor p))
    : cString (readStrings data).1.str = m
      ∧ cString (readStrings data).2.str = p
      ∧ ∀ M P : List UInt8, (∀ character ∈ M ++ P, character ≠ 0) →
        (rtlsdrCheckDongleModel (readStrings data).1.str (readStrings data).2.str (literal M)
            (literal P) = 1
          ↔ m = M ∧ p = P) := by
  have nonzero (character : UInt8) (member : character ∈ m ++ p) : character ≠ 0 := by
    rintro rfl
    exact absurd (ascii 0 member).1 (by decide)
  rw [List.length_append, descriptor_length, descriptor_length, strOffset, eepromSize] at fit
  have second : productOffset data = strOffset + (descriptor m).length := by
    rw [productOffset, (stringAt_placed placed.left (by omega)).1, descriptor_length]
    omega
  have manufact : cString (readStrings data).1.str = m := by
    rw [readStrings_eq]
    exact cString_stringAt placed.left (by omega)
      fun character member => nonzero character (List.mem_append_left p member)
  have product : cString (readStrings data).2.str = p := by
    rw [readStrings_eq, second]
    exact cString_stringAt placed.right (by omega)
      fun character member => nonzero character (List.mem_append_right m member)
  refine ⟨manufact, product, ?_⟩
  intro M P checks
  rw [rtlsdrCheckDongleModel_eq_one_iff, manufact, product,
    cString_literal fun character member => checks character (List.mem_append_left P member),
    cString_literal fun character member => checks character (List.mem_append_right M member)]

/-- The strings of an RTL-SDR Blog V4 in an EEPROM that is zero elsewhere. -/
def blogV4Manufact : List UInt8 := "RTLSDRBlog".toList.map fun c => UInt8.ofNat c.toNat
def blogV4Product : List UInt8 := "Blog V4".toList.map fun c => UInt8.ofNat c.toNat
def blogV4Eeprom (index : Nat) : UInt8 :=
  ((descriptor blogV4Manufact ++ descriptor blogV4Product)[index - strOffset]?).getD 0

/-- The EEPROM of a Blog V4 is read as its manufacturer and product. Witness: both fit, and
are of characters that are not zero.
-/
theorem eeprom_strings_decode_blogV4
    : cString (readStrings blogV4Eeprom).1.str = blogV4Manufact
      ∧ cString (readStrings blogV4Eeprom).2.str = blogV4Product
      ∧ ∀ M P : List UInt8, (∀ character ∈ M ++ P, character ≠ 0) →
        (rtlsdrCheckDongleModel (readStrings blogV4Eeprom).1.str (readStrings blogV4Eeprom).2.str
            (literal M) (literal P) = 1
          ↔ blogV4Manufact = M ∧ blogV4Product = P) := by
  have ascii
      : (blogV4Manufact ++ blogV4Product).all
          (fun character => decide (1 ≤ character ∧ character ≤ 127)) = true := by
    decide
  refine eeprom_strings_decode blogV4Manufact blogV4Product blogV4Eeprom ?_ (by decide) ?_
  · exact fun character member => of_decide_eq_true (List.all_eq_true.mp ascii character member)
  intro k byte found
  rw [blogV4Eeprom, Nat.add_sub_cancel_left, found, Option.getD_some]

end RtlTcpAndro.RtlSdrDevice
