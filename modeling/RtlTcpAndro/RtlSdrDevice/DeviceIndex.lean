import RtlTcpAndro.ByteStreams.CPrefixes

/-! The dongles on the bus, which `librtlsdr.c` counts anew in every call: an index is that of a
device among the known ones, and a serial number leads to the index of the device that has it.
-/

namespace RtlTcpAndro.RtlSdrDevice

open RtlTcpAndro.ByteStreams

-----------------------------------------------------------------------------------------
-- Known devices
-----------------------------------------------------------------------------------------

/-- The numbers in a `rtlsdr_dongle_t`. -/
structure RtlsdrDongle where
  vid : UInt16
  pid : UInt16
  deriving DecidableEq, Repr

/-- `known_devices` -/
def knownDevices : List RtlsdrDongle :=
  [⟨0x0bda, 0x2832⟩, ⟨0x0bda, 0x2838⟩, ⟨0x0413, 0x6680⟩, ⟨0x0413, 0x6f0f⟩,
    ⟨0x0458, 0x707f⟩, ⟨0x0ccd, 0x00a9⟩, ⟨0x0ccd, 0x00b3⟩, ⟨0x0ccd, 0x00b4⟩,
    ⟨0x0ccd, 0x00b5⟩, ⟨0x0ccd, 0x00b7⟩, ⟨0x0ccd, 0x00b8⟩, ⟨0x0ccd, 0x00b9⟩,
    ⟨0x0ccd, 0x00c0⟩, ⟨0x0ccd, 0x00c6⟩, ⟨0x0ccd, 0x00d3⟩, ⟨0x0ccd, 0x00d7⟩,
    ⟨0x0ccd, 0x00e0⟩, ⟨0x1554, 0x5020⟩, ⟨0x15f4, 0x0131⟩, ⟨0x15f4, 0x0133⟩,
    ⟨0x185b, 0x0620⟩, ⟨0x185b, 0x0650⟩, ⟨0x185b, 0x0680⟩, ⟨0x1b80, 0xd393⟩,
    ⟨0x1b80, 0xd394⟩, ⟨0x1b80, 0xd395⟩, ⟨0x1b80, 0xd397⟩, ⟨0x1b80, 0xd398⟩,
    ⟨0x1b80, 0xd39d⟩, ⟨0x1b80, 0xd3a4⟩, ⟨0x1b80, 0xd3a8⟩, ⟨0x1b80, 0xd3af⟩,
    ⟨0x1b80, 0xd3b0⟩, ⟨0x1d19, 0x1101⟩, ⟨0x1d19, 0x1102⟩, ⟨0x1d19, 0x1103⟩,
    ⟨0x1d19, 0x1104⟩, ⟨0x1f4d, 0xa803⟩, ⟨0x1f4d, 0xb803⟩, ⟨0x1f4d, 0xc803⟩,
    ⟨0x1f4d, 0xd286⟩, ⟨0x1f4d, 0xd803⟩]

/-- `find_known_device` -/
def findKnownDevice (vid pid : UInt16) : Option RtlsdrDongle :=
  knownDevices.find? fun device => device.vid == vid && device.pid == pid

/-- A device on the bus: what `libusb_open` returns for it, whether its descriptor is read once it
is open, and its serial number, which is empty where it has none.
-/
structure UsbDevice where
  idVendor : UInt16
  idProduct : UInt16
  openReturns : Int32
  described : Bool
  serial : List UInt8
  deriving DecidableEq, Repr

/-- What `find_known_device` returns for a device. -/
def UsbDevice.dongle (device : UsbDevice) : Option RtlsdrDongle :=
  findKnownDevice device.idVendor device.idProduct

def UsbDevice.known (device : UsbDevice) : Bool := device.dongle.isSome

/-- What `libusb_init` returns, and the devices listed then, no more than an `int` counts. -/
structure UsbHost where
  initReturns : Int32
  list : List UsbDevice
  counted : list.length < 2147483648

/-- The known devices among those that are listed. -/
def UsbHost.knownList (host : UsbHost) : List UsbDevice :=
  if host.initReturns < 0 then [] else host.list.filter UsbDevice.known

-----------------------------------------------------------------------------------------
-- Enumeration
-----------------------------------------------------------------------------------------

/-- The loop of `rtlsdr_get_device_count`. -/
def countDevices : List UsbDevice → UInt32 → UInt32
  | [], deviceCount => deviceCount
  | device :: rest, deviceCount =>
      countDevices rest (if device.known then deviceCount + 1 else deviceCount)

/-- `rtlsdr_get_device_count` -/
def rtlsdrGetDeviceCount (host : UsbHost) : UInt32 :=
  if host.initReturns < 0 then 0 else countDevices host.list 0

/-- `rtlsdr_get_usb_strings`, and what it leaves in the array for the serial number. -/
def rtlsdrGetUsbStrings (device : UsbDevice) (serial : List UInt8) : Int32 × List UInt8 :=
  if device.described then (0, literal device.serial) else (-1, serial)

/-- What the loop of `rtlsdr_get_device_usb_strings` does with the device of the index. -/
def openForStrings (device : UsbDevice) (serial : List UInt8) : Int32 × List UInt8 :=
  if device.openReturns = 0 then rtlsdrGetUsbStrings device serial
  else (device.openReturns, serial)

/-- The loop of `rtlsdr_get_device_usb_strings`, with the `r` that `libusb_init` has returned. -/
def stringsLoop (r : Int32) (index : UInt32) (serial : List UInt8)
    : List UsbDevice → UInt32 → Int32 × List UInt8
  | [], _ => (r, serial)
  | device :: rest, deviceCount =>
      if device.known then
        if index = deviceCount + 1 - 1 then openForStrings device serial
        else stringsLoop r index serial rest (deviceCount + 1)
      else stringsLoop r index serial rest deviceCount

/-- `rtlsdr_get_device_usb_strings`, which returns no error for an index that no device has -/
def rtlsdrGetDeviceUsbStrings (host : UsbHost) (index : UInt32) (serial : List UInt8)
    : Int32 × List UInt8 :=
  if host.initReturns < 0 then (host.initReturns, serial)
  else stringsLoop host.initReturns index serial host.list 0

/-- The loop of `rtlsdr_get_index_by_serial` over the indices that are left, with `str`. -/
def indexLoop (host : UsbHost) (serial : List UInt8) : Nat → UInt32 → List UInt8 → Int32
  | 0, _, _ => -3
  | left + 1, i, str =>
      let (r, str) := rtlsdrGetDeviceUsbStrings host i str
      if r = 0 ∧ strcmp serial str = 0 then i.toInt32
      else indexLoop host serial left (i + 1) str

/-- `rtlsdr_get_index_by_serial`, with what `str` holds before it is set. -/
def rtlsdrGetIndexBySerial (host : UsbHost) (serial str : List UInt8) : Int32 :=
  let cnt := (rtlsdrGetDeviceCount host).toInt32
  if cnt = 0 then -2 else indexLoop host serial cnt.toInt.toNat 0 str

/-- The loop of `rtlsdr_open`, and its `device`. -/
def openLoop (index : UInt32) : List UsbDevice → UInt32 → Option UsbDevice
  | [], _ => none
  | device :: rest, deviceCount =>
      let deviceCount := if device.known then deviceCount + 1 else deviceCount
      if index = deviceCount - 1 then some device else openLoop index rest deviceCount

/-- The device that `rtlsdr_open` is about to open. -/
def rtlsdrOpenDevice (host : UsbHost) (index : UInt32) : Option UsbDevice :=
  if host.initReturns < 0 then none else openLoop index host.list 0

-----------------------------------------------------------------------------------------
-- Indices
-----------------------------------------------------------------------------------------

section Loops

variable {index deviceCount : UInt32} {list : List UsbDevice} {serial str : List UInt8}

/-- One more device of those that an `int` counts. -/
theorem toNat_add_one {size : Nat} (fits : deviceCount.toNat + (size + 1) < 4294967296)
    : (deviceCount + 1).toNat = deviceCount.toNat + 1 := by
  rw [UInt32.toNat_add, UInt32.toNat_one]
  omega

/-- Counting one device and discounting it leaves the count, wrapping or not. Witness:
`UInt32.add_sub_cancel`.
-/
theorem add_one_sub_one : deviceCount + 1 - 1 = deviceCount := UInt32.add_sub_cancel ..

/-- By induction on the devices. -/
theorem toNat_countDevices (fits : deviceCount.toNat + list.length < 4294967296)
    : (countDevices list deviceCount).toNat
      = deviceCount.toNat + (list.filter UsbDevice.known).length := by
  induction list generalizing deviceCount with
  | nil => rfl
  | cons device rest ih =>
      rw [List.length_cons] at fits
      have more := toNat_add_one fits
      rw [countDevices]
      cases known : device.known with
      | true =>
          rw [if_pos rfl, ih (by omega), List.filter_cons_of_pos known, List.length_cons, more]
          omega
      | false =>
          rw [if_neg (by decide), ih (by omega), List.filter_cons_of_neg (by rw [known]; decide)]

/-- The entry of a list that starts with a counted one. -/
theorem getElem?_cons_sub {α : Type} {first : α} {rest : List α} {count target : Nat}
    (late : count ≤ target)
    : (first :: rest)[target - count]?
      = if target = count then some first else rest[target - (count + 1)]? := by
  split
  next here => rw [here, Nat.sub_self]; rfl
  next later =>
      have next : target - count = target - (count + 1) + 1 := by omega
      rw [next, List.getElem?_cons_succ]

/-- The loop takes the known device of an index, and returns what `libusb_init` did where there is
none. By induction on the devices.
-/
theorem stringsLoop_eq {r : Int32} (fits : deviceCount.toNat + list.length < 4294967296)
    (late : deviceCount.toNat ≤ index.toNat)
    : stringsLoop r index str list deviceCount
      = ((list.filter UsbDevice.known)[index.toNat - deviceCount.toNat]?).elim (r, str)
          (openForStrings · str) := by
  induction list generalizing deviceCount with
  | nil => rfl
  | cons device rest ih =>
      rw [List.length_cons] at fits
      have more := toNat_add_one fits
      rw [stringsLoop, add_one_sub_one]
      cases known : device.known with
      | true =>
          rw [if_pos rfl, List.filter_cons_of_pos known, getElem?_cons_sub late]
          by_cases here : index = deviceCount
          · rw [if_pos here, if_pos (congrArg UInt32.toNat here)]
            rfl
          · have away := mt UInt32.toNat_inj.mp here
            rw [if_neg here, if_neg away, ih (by omega) (by omega), more]
      | false =>
          rw [if_neg (by decide), List.filter_cons_of_neg (by rw [known]; decide)]
          exact ih (by omega) late

/-- The loop stops at the known device of an index, if that is not the greatest number there is. By
induction on the devices.
-/
theorem openLoop_eq (fits : deviceCount.toNat + list.length < 4294967296)
    (late : deviceCount.toNat ≤ index.toNat) (small : index.toNat < 4294967295)
    : openLoop index list deviceCount
      = (list.filter UsbDevice.known)[index.toNat - deviceCount.toNat]? := by
  induction list generalizing deviceCount with
  | nil => rfl
  | cons device rest ih =>
      rw [List.length_cons] at fits
      have more := toNat_add_one fits
      rw [openLoop]
      cases known : device.known with
      | true =>
          rw [if_pos rfl, List.filter_cons_of_pos known, getElem?_cons_sub late, add_one_sub_one]
          by_cases here : index = deviceCount
          · rw [if_pos here, if_pos (congrArg UInt32.toNat here)]
          · have away := mt UInt32.toNat_inj.mp here
            rw [if_neg here, if_neg away, ih (by omega) (by omega), more]
      | false =>
          -- The number of the last known device is less than the index, or wraps around.
          have before : index ≠ deviceCount - 1 := by
            intro same
            have value := congrArg UInt32.toNat same
            rw [UInt32.toNat_sub, UInt32.toNat_one] at value
            omega
          rw [if_neg Bool.false_ne_true, if_neg before,
            List.filter_cons_of_neg (by rw [known]; decide)]
          exact ih (by omega) late

end Loops

section Host

variable {host : UsbHost} {index : UInt32} {serial str : List UInt8}

/-- The known devices are fewer than `2 ^ 31`. Witness: the host's list is, and they are some
of it.
-/
theorem length_knownList (host : UsbHost) : host.knownList.length < 2147483648 := by
  unfold UsbHost.knownList
  split
  · exact Nat.zero_lt_of_lt host.counted
  · exact Nat.lt_of_le_of_lt (List.length_filter_le ..) host.counted

/-- The count is the number of known devices. Witness: counting does not wrap. -/
theorem toNat_rtlsdrGetDeviceCount
    : (rtlsdrGetDeviceCount host).toNat = host.knownList.length := by
  have counted := host.counted
  unfold rtlsdrGetDeviceCount UsbHost.knownList
  split
  · rfl
  · rw [toNat_countDevices (by rw [UInt32.toNat_zero]; omega), UInt32.toNat_zero, Nat.zero_add]

/-- The count as `rtlsdr_get_index_by_serial` has it. -/
theorem toInt32_rtlsdrGetDeviceCount
    : (rtlsdrGetDeviceCount host).toInt32 = Int32.ofNat host.knownList.length := by
  have same : rtlsdrGetDeviceCount host = UInt32.ofNat host.knownList.length := by
    rw [← toNat_rtlsdrGetDeviceCount, UInt32.ofNat_toNat]
  rw [same]
  rfl

/-- The number of known devices is the same as an `int`. Witness: it is below `2 ^ 31`. -/
theorem toInt_length_knownList (host : UsbHost)
    : (Int32.ofNat host.knownList.length).toInt = host.knownList.length :=
  Int32.toInt_ofNat_of_lt (length_knownList host)

/-- The count is zero exactly where no device is known. -/
theorem length_knownList_eq_zero_iff
    : Int32.ofNat host.knownList.length = 0 ↔ host.knownList = [] := by
  constructor
  · intro zero
    have value := toInt_length_knownList host
    rw [zero] at value
    exact List.length_eq_zero_iff.mp (Int.ofNat_eq_zero.mp value.symm)
  · intro none
    rw [none]
    rfl

/-- The strings of the known device of an index. -/
theorem rtlsdrGetDeviceUsbStrings_of_known {device : UsbDevice}
    (listed : host.knownList[index.toNat]? = some device)
    : rtlsdrGetDeviceUsbStrings host index str = openForStrings device str := by
  have counted := host.counted
  unfold UsbHost.knownList at listed
  unfold rtlsdrGetDeviceUsbStrings
  split at listed
  next failed => cases listed
  next ready =>
      rw [if_neg ready, stringsLoop_eq (by rw [UInt32.toNat_zero]; omega) (Nat.zero_le _),
        UInt32.toNat_zero, Nat.sub_zero, listed]
      rfl

/-- For an index that no known device has, the call passes for one that succeeded and leaves the
strings alone. Witness: the loop ends with the value that `libusb_init` returned.
-/
theorem rtlsdrGetDeviceUsbStrings_of_unknown (ready : ¬ host.initReturns < 0)
    (none : host.knownList[index.toNat]? = none)
    : rtlsdrGetDeviceUsbStrings host index str = (host.initReturns, str) := by
  have counted := host.counted
  rw [UsbHost.knownList, if_neg ready] at none
  rw [rtlsdrGetDeviceUsbStrings, if_neg ready,
    stringsLoop_eq (by rw [UInt32.toNat_zero]; omega) (Nat.zero_le _), UInt32.toNat_zero,
    Nat.sub_zero, none]
  rfl

/-- The device that `rtlsdr_open` opens. -/
theorem rtlsdrOpenDevice_eq (small : index.toNat < 4294967295)
    : rtlsdrOpenDevice host index = host.knownList[index.toNat]? := by
  have counted := host.counted
  unfold UsbHost.knownList rtlsdrOpenDevice
  split
  · rfl
  · rw [openLoop_eq (by rw [UInt32.toNat_zero]; omega) (Nat.zero_le _) small, UInt32.toNat_zero,
      Nat.sub_zero]

/-- A device that opens and has a serial number. -/
structure UsbDevice.Answers (device : UsbDevice) (serial : List UInt8) : Prop where
  opens : device.openReturns = 0
  described : device.described = true
  same : cString serial = cString device.serial

instance UsbDevice.decidableAnswers (device : UsbDevice) (serial : List UInt8)
    : Decidable (device.Answers serial) :=
  decidable_of_iff
    (device.openReturns = 0
      ∧ device.described = true
      ∧ cString serial = cString device.serial)
    ⟨fun ⟨opens, described, same⟩ => ⟨opens, described, same⟩,
      fun answers => ⟨answers.opens, answers.described, answers.same⟩⟩

/-- A device answers exactly if its strings are read and compare equal. -/
theorem answers_iff (device : UsbDevice)
    : (openForStrings device str).1 = 0 ∧ strcmp serial (openForStrings device str).2 = 0
      ↔ device.Answers serial := by
  unfold openForStrings rtlsdrGetUsbStrings
  by_cases opens : device.openReturns = 0
  · rw [if_pos opens]
    cases described : device.described with
    | true =>
        rw [if_pos rfl, strcmp_eq_zero_iff, cString_terminated, and_iff_right rfl]
        exact ⟨fun same => ⟨opens, described, same⟩, UsbDevice.Answers.same⟩
    | false =>
        rw [if_neg Bool.false_ne_true]
        have failed : (-1 : Int32) ≠ 0 := by decide
        exact iff_of_false (fun both => failed both.1) fun answers =>
          Bool.false_ne_true (described.symm.trans answers.described)
  · rw [if_neg opens]
    exact iff_of_false (fun both => opens both.1) fun answers => opens answers.opens

/-- The loop over the indices finds the first device that answers. By induction on the devices that
are left.
-/
theorem indexLoop_eq {before rest : List UsbDevice} {i : UInt32}
    (split : host.knownList = before ++ rest) (at_ : i.toNat = before.length)
    : indexLoop host serial rest.length i str
      = (rest.findIdx? fun device => decide (device.Answers serial)).elim (-3)
          fun found => Int32.ofNat (before.length + found) := by
  induction rest generalizing before i str with
  | nil => rfl
  | cons device rest ih =>
      have counted := length_knownList host
      rw [split, List.length_append, List.length_cons] at counted
      have listed : host.knownList[i.toNat]? = some device := by
        rw [split, at_, List.getElem?_append_right (Nat.le_refl _), Nat.sub_self]
        rfl
      rw [List.length_cons, indexLoop, rtlsdrGetDeviceUsbStrings_of_known listed,
        List.findIdx?_cons]
      dsimp only
      by_cases answers : device.Answers serial
      · rw [if_pos ((answers_iff device).mpr answers), if_pos (decide_eq_true answers)]
        have same : i = UInt32.ofNat before.length := by rw [← at_, UInt32.ofNat_toNat]
        rw [same]
        rfl
      · rw [if_neg (mt (answers_iff device).mp answers),
          if_neg (by rw [decide_eq_false answers]; decide)]
        have next : (i + 1).toNat = (before ++ [device]).length := by
          rw [UInt32.toNat_add, UInt32.toNat_one, List.length_append, List.length_singleton]
          omega
        rw [@ih _ (before ++ [device]) (i + 1) (by rw [split, List.append_assoc]; rfl) next]
        cases rest.findIdx? fun device => decide (device.Answers serial) with
        | none => rfl
        | some found =>
            refine congrArg Int32.ofNat ?_
            change (before ++ [device]).length + found = before.length + (found + 1)
            rw [List.length_append, List.length_singleton]
            omega

/-- `rtlsdr_get_index_by_serial` by the known devices. -/
theorem rtlsdrGetIndexBySerial_eq
    : rtlsdrGetIndexBySerial host serial str
      = if host.knownList = [] then -2
        else
          (host.knownList.findIdx? fun device => decide (device.Answers serial)).elim (-3)
            Int32.ofNat := by
  unfold rtlsdrGetIndexBySerial
  dsimp only
  rw [toInt32_rtlsdrGetDeviceCount]
  by_cases none : host.knownList = []
  · rw [if_pos none, if_pos (length_knownList_eq_zero_iff.mpr none)]
  · rw [if_neg none, if_neg (mt length_knownList_eq_zero_iff.mp none), toInt_length_knownList,
      Int.toNat_natCast,
      @indexLoop_eq host serial str [] host.knownList 0 rfl rfl]
    cases host.knownList.findIdx? fun device => decide (device.Answers serial) with
    | none => rfl
    | some found => exact congrArg Int32.ofNat (Nat.zero_add found)

end Host

-----------------------------------------------------------------------------------------
-- Opening
-----------------------------------------------------------------------------------------

/-- Once a device is counted, the loop stops at no device for the greatest number. By induction on
the devices.
-/
theorem openLoop_greatest {list : List UsbDevice} {deviceCount : UInt32}
    (counted : 0 < deviceCount.toNat) (fits : deviceCount.toNat + list.length < 4294967296)
    : openLoop 4294967295 list deviceCount = none := by
  induction list generalizing deviceCount with
  | nil => rfl
  | cons device rest ih =>
      rw [List.length_cons] at fits
      have more := toNat_add_one fits
      have below : ∀ count : UInt32, 0 < count.toNat → (4294967295 : UInt32) ≠ count - 1 := by
        intro count some_ same
        have value := congrArg UInt32.toNat same
        have size := count.toNat_lt
        rw [UInt32.toNat_sub, UInt32.toNat_one] at value
        change 4294967295 = _ at value
        omega
      rw [openLoop]
      cases known : device.known with
      | true =>
          rw [if_pos rfl, if_neg (below _ (by omega))]
          exact ih (by omega) (by omega)
      | false =>
          rw [if_neg Bool.false_ne_true, if_neg (below _ counted)]
          exact ih counted (by omega)

/-- The device that `rtlsdr_open` opens is the known one of the index. The greatest index there is,
which no known device has, opens the first device that is listed, if that is not a known one.
-/
theorem rtlsdrOpenDevice_opens (host : UsbHost) (index : UInt32)
    : rtlsdrOpenDevice host index
      = if index ≠ 4294967295 then host.knownList[index.toNat]?
        else if host.initReturns < 0 then none
        else host.list.head?.filter fun device => !device.known := by
  split
  next other =>
      refine rtlsdrOpenDevice_eq ?_
      have size := index.toNat_lt
      have apart : index.toNat ≠ 4294967295 := fun same => other (UInt32.toNat_inj.mp same)
      omega
  next greatest =>
      obtain rfl := not_not.mp greatest
      unfold rtlsdrOpenDevice
      split
      · rfl
      next ready =>
          have counted := host.counted
          cases list : host.list with
          | nil => rfl
          | cons device rest =>
              rw [list, List.length_cons] at counted
              rw [openLoop, List.head?_cons, Option.filter_some]
              cases known : device.known with
              | true =>
                  rw [if_pos rfl, if_neg (by decide)]
                  exact openLoop_greatest (by decide) (by change 1 + _ < _; omega)
              | false => rfl

/-- `rtlsdr_get_index_by_serial` returns -2 where there is no known device and -3 where none of them
has the serial number. Any other index that it returns is that of the first known device that has
it, and is the one that `rtlsdr_open` opens that device by.
-/
theorem rtlsdrOpenDevice_bySerial (host : UsbHost) (serial str : List UInt8)
    : let index := rtlsdrGetIndexBySerial host serial str
      (index = -2 ↔ host.knownList = [])
      ∧ (index = -3
        ↔ host.knownList ≠ [] ∧ ∀ device ∈ host.knownList, ¬ device.Answers serial)
      ∧ (0 ≤ index
        → (∃ device,
            rtlsdrOpenDevice host index.toUInt32 = some device ∧ device.Answers serial)
          ∧ ∀ earlier other,
            earlier < index.toUInt32
            → rtlsdrOpenDevice host earlier = some other
            → ¬ other.Answers serial) := by
  intro index
  have value : index = _ := @rtlsdrGetIndexBySerial_eq host serial str
  by_cases none : host.knownList = []
  · rw [if_pos none] at value
    rw [value]
    exact ⟨iff_of_true rfl none, iff_of_false (by decide) fun both => both.1 none,
      fun positive => absurd positive (by decide)⟩
  rw [if_neg none] at value
  cases search : host.knownList.findIdx? fun device => decide (device.Answers serial) with
  | none =>
      rw [search] at value
      have silent : ∀ device ∈ host.knownList, ¬ device.Answers serial := by
        intro device member
        exact of_decide_eq_false (List.findIdx?_eq_none_iff.mp search device member)
      have failed : index = -3 := value
      rw [failed]
      exact ⟨iff_of_false (by decide) none, iff_of_true rfl ⟨none, silent⟩,
        fun positive => absurd positive (by decide)⟩
  | some found =>
      rw [search] at value
      obtain ⟨within, answers, first⟩ := List.findIdx?_eq_some_iff_getElem.mp search
      have size := length_knownList host
      have signed : index.toInt = found := by
        rw [value]
        exact Int32.toInt_ofNat_of_lt (Nat.lt_trans within size)
      have number : index.toUInt32.toNat = found := by
        rw [value]
        exact UInt32.toNat_ofNat_of_lt' (Nat.lt_trans within (Nat.lt_trans size (by decide)))
      have negative {other : Int32} (less : other.toInt < 0) : index ≠ other := by
        intro same
        rw [same] at signed
        omega
      refine ⟨iff_of_false (negative (by decide)) none,
        iff_of_false (negative (by decide)) fun both =>
          both.2 _ (List.getElem_mem within) (of_decide_eq_true answers),
        fun _ => ⟨⟨host.knownList[found], ?_, of_decide_eq_true answers⟩, ?_⟩⟩
      · rw [rtlsdrOpenDevice_eq (by omega), number]
        exact List.getElem?_eq_getElem within
      · intro earlier other less listed
        have lower := UInt32.lt_iff_toNat_lt.mp less
        rw [number] at lower
        rw [rtlsdrOpenDevice_eq (by omega), List.getElem?_eq_getElem (Nat.lt_trans lower within)]
          at listed
        have missed := first earlier.toNat lower
        rw [Option.some.inj listed] at missed
        exact fun answered => missed (decide_eq_true answered)

end RtlTcpAndro.RtlSdrDevice
