import RtlTcpAndro.ByteStreams.CNumbers
import RtlTcpAndro.RtlSdrDevice.DeviceIndex

/-! The search for a device in `convenience.c`: by its index, else by its serial number, by the
start of it or by the end of it, in this order. A device that cannot be opened passes for the one
that was looked at before it.
-/

namespace RtlTcpAndro.RtlSdr

open RtlTcpAndro.ByteStreams RtlTcpAndro.RtlSdrDevice

-----------------------------------------------------------------------------------------
-- verbose_device_search
-----------------------------------------------------------------------------------------

/-- A loop over the indices that are left, up to one whose serial number is accepted, and what
`serial` then holds.
-/
def searchLoop (host : UsbHost) (accepts : List UInt8 → Bool)
    : Nat → UInt32 → List UInt8 → Option UInt32 × List UInt8
  | 0, _, serial => (none, serial)
  | left + 1, i, serial =>
      let (_, serial) := rtlsdrGetDeviceUsbStrings host i serial
      if accepts serial then (some i, serial) else searchLoop host accepts left (i + 1) serial

/-- How a string may match a serial number. -/
inductive SerialMatch
  | whole
  | start
  | ending
  deriving DecidableEq, Repr

/-- The test of a loop for the serial number in an array. -/
def SerialMatch.accepts (s : List UInt8) : SerialMatch → List UInt8 → Bool
  | .whole, serial => strcmp s serial == 0
  | .start, serial => strncmp (strlen s) s serial == 0
  | .ending, serial =>
      let offset : Int := strlen serial - strlen s
      decide (0 ≤ offset) && strncmp (strlen s) s (serial.drop offset.toNat) == 0

/-- The loops for serial numbers, one after the other. -/
def searchLoops (host : UsbHost) (s : List UInt8) (count : Nat)
    : List SerialMatch → List UInt8 → Int32
  | [], _ => -1
  | kind :: others, serial =>
      match searchLoop host (kind.accepts s) count 0 serial with
      | (some i, _) => i.toInt32
      | (none, serial) => searchLoops host s count others serial

/-- `verbose_device_search`, with what `serial` holds before it is set, and the bits of a `long`. -/
def verboseDeviceSearch (longBits : Nat) (host : UsbHost) (s serial : List UInt8) : Int32 :=
  let deviceCount := (rtlsdrGetDeviceCount host).toInt32
  if deviceCount = 0 then -1
  else
    let count := deviceCount.toInt.toNat
    let (_, serial) := searchLoop host (fun _ => false) count 0 serial
    let (value, s2) := strtol longBits s
    let device := Int32.ofInt value
    if s2.headD 0 = 0 ∧ 0 ≤ device ∧ device < deviceCount then device
    else searchLoops host s count [.whole, .start, .ending] serial

-----------------------------------------------------------------------------------------
-- What is searched
-----------------------------------------------------------------------------------------

/-- The string is the serial number, its start or its end. -/
def SerialMatch.Holds (s serial : List UInt8) : SerialMatch → Prop
  | .whole => cString s = cString serial
  | .start => cString s <+: cString serial
  | .ending => cString s <:+ cString serial

/-- The place of a way to match in the order of the loops. -/
def SerialMatch.rank : SerialMatch → Nat
  | .whole => 0
  | .start => 1
  | .ending => 2

/-- The string matches the serial number at an index in some way: none matches in a better way, and
none before it in the same.
-/
def BestMatch (s : List UInt8) (serials : List (List UInt8)) (i : Nat) : Prop :=
  ∃ kind : SerialMatch,
    (∃ serial, serials[i]? = some serial ∧ kind.Holds s serial)
    ∧ (∀ better : SerialMatch,
      better.rank < kind.rank → ∀ serial ∈ serials, ¬ better.Holds s serial)
    ∧ ∀ earlier serial,
      earlier < i → serials[earlier]? = some serial → ¬ kind.Holds s serial

/-- What `serial` holds after the devices were looked at. -/
def lastSerial (list : List UsbDevice) (serial : List UInt8) : List UInt8 :=
  list.foldl (fun serial device => (openForStrings device serial).2) serial

/-- What `serial` holds when each of the devices is looked at. -/
def heldSerials : List UsbDevice → List UInt8 → List (List UInt8)
  | [], _ => []
  | device :: rest, serial =>
      (openForStrings device serial).2 :: heldSerials rest (openForStrings device serial).2

section Strings

variable {s serial : List UInt8}

/-- A string begins another one exactly if a comparison over its length finds no difference. -/
theorem strncmp_strlen_eq_zero_iff
    : strncmp (strlen s) s serial = 0 ↔ cString s <+: cString serial := by
  have nonzero : ∀ byte ∈ cString s, byte ≠ 0 := by
    intro byte member
    simpa using List.mem_takeWhile_imp member
  have parts : cString s ++ s.dropWhile (· ≠ 0) = s := List.takeWhile_append_dropWhile
  have compared := strncmp_eq_zero_iff nonzero (s.dropWhile (· ≠ 0)) serial
  rwa [parts] at compared

/-- The test of a serial number is what its kind says. Witness: the three kinds, by the C
library's comparisons.
-/
theorem accepts_iff (kind : SerialMatch)
    : kind.accepts s serial = true ↔ kind.Holds s serial := by
  cases kind with
  | whole =>
      rw [SerialMatch.accepts, beq_iff_eq]
      exact strcmp_eq_zero_iff s serial
  | start =>
      rw [SerialMatch.accepts, beq_iff_eq]
      exact strncmp_strlen_eq_zero_iff
  | ending =>
      rw [SerialMatch.accepts, Bool.and_eq_true, decide_eq_true_iff, beq_iff_eq,
        strncmp_strlen_eq_zero_iff]
      change _ ↔ cString s <:+ cString serial
      unfold strlen
      by_cases fits : (cString s).length ≤ (cString serial).length
      · have offset : ((cString serial).length - (cString s).length : Int).toNat
            = (cString serial).length - (cString s).length := by omega
        rw [offset, cString_drop (Nat.sub_le ..), ← suffix_iff_drop fits]
        exact and_iff_right (by omega)
      · refine iff_of_false (fun both => fits (by omega)) fun ends => fits ?_
        exact ends.length_le

end Strings

section Loops

variable {host : UsbHost} {list : List UsbDevice} {s serial : List UInt8}
  {accepts : List UInt8 → Bool}

/-- A loop finds the first serial number that it accepts of those that are held. By induction on the
devices that are left.
-/
theorem searchLoop_eq {before rest : List UsbDevice} {i : UInt32}
    (split : host.knownList = before ++ rest) (at_ : i.toNat = before.length)
    : (searchLoop host accepts rest.length i serial).1
        = (((heldSerials rest serial).findIdx? accepts).map fun found =>
            UInt32.ofNat (before.length + found))
      ∧ ((heldSerials rest serial).findIdx? accepts = none
        → (searchLoop host accepts rest.length i serial).2 = lastSerial rest serial) := by
  induction rest generalizing before i serial with
  | nil => exact ⟨rfl, fun _ => rfl⟩
  | cons device rest ih =>
      have counted := length_knownList host
      rw [split, List.length_append, List.length_cons] at counted
      have listed : host.knownList[i.toNat]? = some device := by
        rw [split, at_, List.getElem?_append_right (Nat.le_refl _), Nat.sub_self]
        rfl
      rw [List.length_cons, searchLoop, rtlsdrGetDeviceUsbStrings_of_known listed, heldSerials,
        List.findIdx?_cons]
      dsimp only
      cases accepted : accepts (openForStrings device serial).2 with
      | true =>
          have same : i = UInt32.ofNat before.length := by rw [← at_, UInt32.ofNat_toNat]
          rw [if_pos rfl, if_pos rfl, same]
          exact ⟨rfl, nofun⟩
      | false =>
          have next : (i + 1).toNat = (before ++ [device]).length := by
            rw [UInt32.toNat_add, UInt32.toNat_one, List.length_append, List.length_singleton]
            omega
          obtain ⟨found, last⟩ :=
            @ih (openForStrings device serial).2 (before ++ [device]) (i + 1)
              (by rw [split, List.append_assoc]; rfl) next
          rw [if_neg Bool.false_ne_true, if_neg Bool.false_ne_true, found, Option.map_map]
          refine ⟨?_, fun none => last (Option.map_eq_none_iff.mp none)⟩
          refine congrArg (Option.map · _) (funext fun found => ?_)
          refine congrArg UInt32.ofNat ?_
          rw [List.length_append, List.length_singleton]
          exact Nat.add_right_comm ..

/-- The serial number read last is the one of the rest of the list. Witness: by definition. -/
theorem lastSerial_cons {device : UsbDevice}
    : lastSerial (device :: list) serial = lastSerial list (openForStrings device serial).2 :=
  rfl

/-- A device that opens leaves its serial number. -/
theorem openForStrings_of_read {device : UsbDevice} (opens : device.openReturns = 0)
    (described : device.described = true)
    : (openForStrings device serial).2 = literal device.serial := by
  rw [openForStrings, if_pos opens, rtlsdrGetUsbStrings, if_pos described]

/-- What the devices leave is theirs, or what was held before them. By induction on the devices. -/
theorem lastSerial_cases (list : List UsbDevice)
    : (∀ serial, lastSerial list serial = serial)
      ∨ ∀ serial other, lastSerial list serial = lastSerial list other := by
  induction list with
  | nil => exact .inl fun _ => rfl
  | cons device rest ih =>
      obtain kept | own := ih
      · by_cases read : device.openReturns = 0 ∧ device.described = true
        · refine .inr fun serial other => ?_
          rw [lastSerial_cons, lastSerial_cons, openForStrings_of_read read.1 read.2,
            openForStrings_of_read read.1 read.2]
        · refine .inl fun serial => ?_
          have same : (openForStrings device serial).2 = serial := by
            unfold openForStrings rtlsdrGetUsbStrings
            split
            next opens => rw [if_neg fun described => read ⟨opens, described⟩]
            next _ => rfl
          rw [lastSerial_cons, same, kept]
      · exact .inr fun serial other => own _ _

/-- Devices that are looked at again leave the same. -/
theorem lastSerial_idem
    : lastSerial list (lastSerial list serial) = lastSerial list serial := by
  obtain kept | own := lastSerial_cases list
  · rw [kept]
  · exact own _ _

/-- What is held for a device that opens is its serial number. By induction on the devices. -/
theorem heldSerials_of_read {device : UsbDevice} {i : Nat} (listed : list[i]? = some device)
    (opens : device.openReturns = 0) (described : device.described = true)
    : (heldSerials list serial)[i]? = some (literal device.serial) := by
  induction list generalizing serial i with
  | nil => cases listed
  | cons first rest ih =>
      cases i with
      | zero =>
          obtain rfl := Option.some.inj listed
          exact congrArg some (openForStrings_of_read opens described)
      | succ i => exact ih listed

/-- The loops find the first serial number that is held and matches in the first way there is. By
induction on the ways.
-/
theorem searchLoops_eq (kinds : List SerialMatch) (held : lastSerial host.knownList serial = serial)
    : searchLoops host s host.knownList.length kinds serial
      = (kinds.findSome? fun kind =>
            (heldSerials host.knownList serial).findIdx? (kind.accepts s)).elim (-1)
          Int32.ofNat := by
  induction kinds with
  | nil => rfl
  | cons kind others ih =>
      obtain ⟨found, last⟩ :=
        @searchLoop_eq host serial (kind.accepts s) [] host.knownList 0 rfl rfl
      rw [searchLoops, List.findSome?_cons]
      cases search : (heldSerials host.knownList serial).findIdx? (kind.accepts s) with
      | some i =>
          rw [search] at found
          cases ran : searchLoop host (kind.accepts s) host.knownList.length 0 serial with
          | mk first after =>
              rw [ran] at found
              obtain rfl : first = _ := found
              exact congrArg Int32.ofNat (Nat.zero_add i)
      | none =>
          rw [search] at found last
          cases ran : searchLoop host (kind.accepts s) host.knownList.length 0 serial with
          | mk first after =>
              rw [ran] at found last
              obtain rfl : first = none := found
              obtain rfl : after = serial := (last rfl).trans held
              exact ih

end Loops

section Matches

variable {s : List UInt8} {serials : List (List UInt8)} {kind : SerialMatch}

/-- No index is found just when no serial number meets the test. Witness:
`List.findIdx?_eq_none_iff`.
-/
theorem findIdx_accepts_eq_none_iff
    : serials.findIdx? (kind.accepts s) = none ↔ ∀ serial ∈ serials, ¬ kind.Holds s serial := by
  rw [List.findIdx?_eq_none_iff]
  simp only [← Bool.not_eq_true, accepts_iff]

/-- The first serial number that matches, where none matches in a better way. -/
theorem bestMatch_of_findIdx {i : Nat} (found : serials.findIdx? (kind.accepts s) = some i)
    (best : ∀ better : SerialMatch,
      better.rank < kind.rank → serials.findIdx? (better.accepts s) = none)
    : BestMatch s serials i := by
  obtain ⟨within, accepted, first⟩ := List.findIdx?_eq_some_iff_getElem.mp found
  refine ⟨kind, ⟨serials[i], List.getElem?_eq_getElem within, (accepts_iff kind).mp accepted⟩,
    fun better above => findIdx_accepts_eq_none_iff.mp (best better above), ?_⟩
  intro earlier serial less listed matched
  rw [List.getElem?_eq_getElem (Nat.lt_trans less within)] at listed
  refine first earlier less ?_
  rw [Option.some.inj listed]
  exact (accepts_iff kind).mpr matched

/-- The three ways in the order of the loops. -/
theorem findSome_bestMatch
    : let found :=
        [SerialMatch.whole, .start, .ending].findSome? fun kind =>
          serials.findIdx? (kind.accepts s)
      (found = none ∧ ∀ kind : SerialMatch, ∀ serial ∈ serials, ¬ kind.Holds s serial)
      ∨ ∃ i, found = some i ∧ BestMatch s serials i := by
  simp only [List.findSome?_cons, List.findSome?_nil]
  cases whole : serials.findIdx? (SerialMatch.whole.accepts s) with
  | some i => exact .inr ⟨i, rfl, bestMatch_of_findIdx whole fun better above => absurd above nofun⟩
  | none =>
      cases start : serials.findIdx? (SerialMatch.start.accepts s) with
      | some i =>
          refine .inr ⟨i, rfl, bestMatch_of_findIdx start fun better above => ?_⟩
          cases better with
          | whole => exact whole
          | start => exact absurd above (Nat.lt_irrefl _)
          | ending => exact absurd above (by decide)
      | none =>
          cases ending : serials.findIdx? (SerialMatch.ending.accepts s) with
          | some i =>
              refine .inr ⟨i, rfl, bestMatch_of_findIdx ending fun better above => ?_⟩
              cases better with
              | whole => exact whole
              | start => exact start
              | ending => exact absurd above (Nat.lt_irrefl _)
          | none =>
              refine .inl ⟨rfl, fun kind => ?_⟩
              cases kind with
              | whole => exact findIdx_accepts_eq_none_iff.mp whole
              | start => exact findIdx_accepts_eq_none_iff.mp start
              | ending => exact findIdx_accepts_eq_none_iff.mp ending

end Matches

/-- A number that is an index selects that device, whatever serial numbers there are. Any other
string selects the best match of the serial numbers that are held, the first of equal ones, and none
only where nothing matches. What is held is the device's own for each that opens; one that does not
passes for the last before it that does, the first ones for the last of all.
-/
theorem verboseDeviceSearch_best (longBits : Nat) (host : UsbHost) (s serial : List UInt8)
    : let held := heldSerials host.knownList (lastSerial host.knownList serial)
      let found := verboseDeviceSearch longBits host s serial
      let device := Int32.ofInt (strtol longBits s).1
      (if (strtol longBits s).2.headD 0 = 0
          ∧ 0 ≤ device.toInt
          ∧ device.toInt < host.knownList.length then
        found = device
      else
        found = -1 ∧ (∀ kind : SerialMatch, ∀ other ∈ held, ¬ kind.Holds s other)
        ∨ ∃ i, found = Int32.ofNat i ∧ BestMatch s held i)
      ∧ ∀ (i : Nat) (device : UsbDevice),
        host.knownList[i]? = some device
        → device.openReturns = 0
        → device.described = true
        → held[i]? = some (literal device.serial) := by
  intro held found asked
  refine ⟨?_, fun i device listed opens described => heldSerials_of_read listed opens described⟩
  change if _ then verboseDeviceSearch longBits host s serial = _ else
    verboseDeviceSearch longBits host s serial = -1 ∧ _
    ∨ ∃ i, verboseDeviceSearch longBits host s serial = Int32.ofNat i ∧ _
  have value := toInt_length_knownList host
  unfold verboseDeviceSearch
  dsimp only
  rw [toInt32_rtlsdrGetDeviceCount, value, Int.toNat_natCast]
  have number : (strtol longBits s).2.headD 0 = 0
        ∧ 0 ≤ asked
        ∧ asked < Int32.ofNat host.knownList.length
      ↔ (strtol longBits s).2.headD 0 = 0
        ∧ 0 ≤ asked.toInt
        ∧ asked.toInt < host.knownList.length := by
    rw [Int32.le_iff_toInt_le, Int32.lt_iff_toInt_lt, value]
    rfl
  by_cases none : host.knownList = []
  · rw [if_pos (length_knownList_eq_zero_iff.mpr none), if_neg]
    · refine .inl ⟨rfl, fun kind other member => ?_⟩
      have empty : held = [] := by
        change heldSerials host.knownList (lastSerial host.knownList serial) = []
        rw [none]
        rfl
      rw [empty] at member
      cases member
    · rintro ⟨_, positive, below⟩
      rw [none] at below
      exact Int.not_lt.mpr positive below
  · have first := (@searchLoop_eq host serial (fun _ => false) [] host.knownList 0 rfl rfl).2
      (List.findIdx?_eq_none_iff.mpr fun _ _ => rfl)
    rw [if_neg (mt length_knownList_eq_zero_iff.mp none), first]
    split
    next index => rw [if_pos (number.mpr index)]
    next other =>
        rw [if_neg (mt number.mp other), searchLoops_eq _ lastSerial_idem]
        obtain ⟨silent, nowhere⟩ | ⟨i, matched, best⟩ := @findSome_bestMatch s held
        · exact .inl ⟨congrArg (Option.elim · _ _) silent, nowhere⟩
        · exact .inr ⟨i, congrArg (Option.elim · _ _) matched, best⟩

/-- Two dongles, of which the first is in use; the serial number of the second selects the first. -/
example
    : verboseDeviceSearch 64
        ⟨0, [⟨0x0bda, 0x2838, -6, true, [0x37]⟩, ⟨0x0bda, 0x2838, 0, true, [0x41]⟩], by decide⟩
        (literal [0x41]) []
      = 0 := by
  decide

/-- The decimal string of an index selects the device of the index. Witness: `strtol` reads it back,
and a count of devices is an `int`.
-/
theorem verboseDeviceSearch_index {longBits : Nat} (int : 32 ≤ longBits) (host : UsbHost) {i : Nat}
    (listed : i < host.knownList.length) (serial : List UInt8)
    : verboseDeviceSearch longBits host (literal (decimalString i)) serial = Int32.ofNat i := by
  have count := length_knownList host
  have wide : 2 ^ 31 ≤ 2 ^ (longBits - 1) := Nat.pow_le_pow_right (by decide) (by omega)
  have read := @strtol_decimalString longBits i (by omega)
  have value : (Int32.ofInt (i : Int)).toInt = i := Int32.toInt_ofInt_of_le (by omega) (by omega)
  have size : (Int32.ofNat host.knownList.length).toInt = host.knownList.length :=
    toInt_length_knownList host
  have some_ : host.knownList ≠ [] := List.ne_nil_of_length_pos (Nat.zero_lt_of_lt listed)
  unfold verboseDeviceSearch
  rw [read, toInt32_rtlsdrGetDeviceCount, if_neg (mt length_knownList_eq_zero_iff.mp some_)]
  dsimp only
  refine if_pos ⟨rfl, ?_, ?_⟩
  · rw [Int32.le_iff_toInt_le, value]
    exact Int.natCast_nonneg i
  · rw [Int32.lt_iff_toInt_lt, value, size]
    exact Int.ofNat_lt.mpr listed

end RtlTcpAndro.RtlSdr
