import RtlTcpAndro.Registers.Patches
import RtlTcpAndro.RtlSdrDevice.Open2
import RtlTcpAndro.RtlSdrDevice.Retuning

/-! The coefficients of the filter in the demodulator, which `rtlsdr_set_fir` packs into 20
registers: eight of 8 bits and eight of 12 bits. Read back from the registers they are what was set.
-/

namespace RtlTcpAndro.RtlSdrDevice

open RtlTcpAndro.Registers

-----------------------------------------------------------------------------------------
-- The format
-----------------------------------------------------------------------------------------

/-- A number in two's complement of a width. -/
def signed (width value : Nat) : Int :=
  if value < 2 ^ (width - 1) then value else value - 2 ^ width

/-- The coefficients of 12 bits in groups of three bytes. -/
def unpackFir : List UInt8 → List Int
  | byte0 :: byte1 :: byte2 :: rest =>
      signed 12 (byte0.toNat * 16 + byte1.toNat / 16)
      :: signed 12 (byte1.toNat % 16 * 256 + byte2.toNat)
      :: unpackFir rest
  | _ => []

/-- The coefficients that registers hold. -/
def decodeFir (fir : List UInt8) : List Int :=
  ((fir.take 8).map fun byte => signed 8 byte.toNat) ++ unpackFir (fir.drop 8)

/-- The `fir` of `rtlsdr_set_fir`. -/
def encodeFir (coefficients : List Int) : List UInt8 :=
  (coefficients.take 8).map UInt8.ofInt ++ packFir (coefficients.drop 8)

/-- Every coefficient fits its width. -/
structure FirInRange (coefficients : List Int) : Prop where
  int8 : ∀ val ∈ coefficients.take 8, -128 ≤ val ∧ val ≤ 127
  int12 : ∀ val ∈ coefficients.drop 8, -2048 ≤ val ∧ val ≤ 2047

/-- An integer cut to a byte is its remainder by 256. Witness: the remainder fits. -/
theorem toNat_ofInt (val : Int) : (UInt8.ofInt val).toNat = (val % 256).toNat := by
  have below : (val % 256).toNat < 256 := by omega
  exact UInt8.toNat_ofNat_of_lt' below

/-- An integer in the range of a signed byte is what its byte says, read as signed. Witness:
the two signs, by arithmetic.
-/
theorem signed_ofInt {val : Int} (least : -128 ≤ val) (greatest : val ≤ 127)
    : signed 8 (UInt8.ofInt val).toNat = val := by
  rw [toNat_ofInt, signed]
  split <;> omega

/-- The byte that two coefficients share. -/
theorem toNat_shared (val0 val1 : Int)
    : (UInt8.ofInt (val0 * 16) ||| (UInt8.ofInt (val1 / 256) &&& 0x0f)).toNat
      = 16 * (val0 % 16).toNat + (val1 / 256 % 16).toNat := by
  have low : (val1 / 256 % 256).toNat &&& 15 = (val1 / 256 % 16).toNat := by
    rw [Nat.and_two_pow_sub_one_eq_mod _ 4]
    omega
  have high : (val0 * 16 % 256).toNat = 2 ^ 4 * (val0 % 16).toNat := by omega
  rw [UInt8.toNat_or, UInt8.toNat_and, toNat_ofInt, toNat_ofInt]
  change (val0 * 16 % 256).toNat ||| ((val1 / 256 % 256).toNat &&& 15) = _
  rw [low, high, ← Nat.two_pow_add_eq_or_of_lt (by omega)]

/-- Two coefficients are read back from their three bytes. -/
theorem signed_packed {val0 val1 : Int} (first : -2048 ≤ val0 ∧ val0 ≤ 2047)
    (second : -2048 ≤ val1 ∧ val1 ≤ 2047)
    : signed 12
          ((UInt8.ofInt (val0 / 16)).toNat * 16
            + (UInt8.ofInt (val0 * 16) ||| (UInt8.ofInt (val1 / 256) &&& 0x0f)).toNat / 16)
        = val0
      ∧ signed 12
          ((UInt8.ofInt (val0 * 16) ||| (UInt8.ofInt (val1 / 256) &&& 0x0f)).toNat % 16 * 256
            + (UInt8.ofInt val1).toNat)
        = val1 := by
  rw [toNat_shared, toNat_ofInt, toNat_ofInt]
  constructor
  · have value : (val0 / 16 % 256).toNat * 16
          + (16 * (val0 % 16).toNat + (val1 / 256 % 16).toNat) / 16
        = (val0 % 4096).toNat := by
      omega
    rw [value, signed]
    split <;> omega
  · have value : (16 * (val0 % 16).toNat + (val1 / 256 % 16).toNat) % 16 * 256
          + (val1 % 256).toNat
        = (val1 % 4096).toNat := by
      omega
    rw [value, signed]
    split <;> omega

/-- An even number of coefficients is read back from the groups. By induction on the pairs. -/
theorem unpackFir_packFir {coefficients : List Int} (pairs : Nat)
    (size : coefficients.length = 2 * pairs)
    (fits : ∀ val ∈ coefficients, -2048 ≤ val ∧ val ≤ 2047)
    : unpackFir (packFir coefficients) = coefficients := by
  induction pairs generalizing coefficients with
  | zero =>
      rw [List.length_eq_zero_iff.mp size]
      rfl
  | succ pairs ih =>
      obtain _ | ⟨val0, _ | ⟨val1, rest⟩⟩ := coefficients
      · cases size
      · simp only [List.length_singleton] at size
        omega
      · simp only [List.length_cons] at size
        obtain ⟨first, second⟩ :=
          signed_packed (fits val0 (by simp)) (fits val1 (by simp))
        rw [packFir, unpackFir, first, second,
          ih (by omega) fun val member => fits val (by simp [member])]

/-- Pairs of coefficients are packed into three bytes each. Witness: induction on the pairs.
-/
theorem length_packFir {coefficients : List Int} (pairs : Nat)
    (size : coefficients.length = 2 * pairs)
    : (packFir coefficients).length = 3 * pairs := by
  induction pairs generalizing coefficients with
  | zero =>
      rw [List.length_eq_zero_iff.mp size]
      rfl
  | succ pairs ih =>
      obtain _ | ⟨val0, _ | ⟨val1, rest⟩⟩ := coefficients
      · cases size
      · simp only [List.length_singleton] at size
        omega
      · simp only [List.length_cons] at size
        rw [packFir, List.length_cons, List.length_cons, List.length_cons, ih (by omega)]
        omega

section Sixteen

variable {coefficients : List Int} (size : coefficients.length = 16)

include size

/-- The encoded filter is twenty bytes. Witness: eight single bytes and four packed pairs. -/
theorem length_encodeFir : (encodeFir coefficients).length = 20 := by
  rw [encodeFir, List.length_append, List.length_map, List.length_take,
    length_packFir 4 (by rw [List.length_drop]; omega)]
  omega

/-- The coefficients are read back from what is written. -/
theorem decodeFir_encodeFir (fits : FirInRange coefficients)
    : decodeFir (encodeFir coefficients) = coefficients := by
  have int8 : ((coefficients.take 8).map UInt8.ofInt).length = 8 := by
    rw [List.length_map, List.length_take]
    omega
  rw [decodeFir, encodeFir, List.take_left' int8, List.drop_left' int8, List.map_map,
    unpackFir_packFir 4 (by rw [List.length_drop]; omega) fits.int12]
  have same : (coefficients.take 8).map ((fun byte => signed 8 byte.toNat) ∘ UInt8.ofInt)
      = coefficients.take 8 := by
    refine (List.map_congr_left fun val member => ?_).trans (List.map_id _)
    exact signed_ofInt (fits.int8 val member).1 (fits.int8 val member).2
  rw [same, List.take_append_drop]

end Sixteen

-----------------------------------------------------------------------------------------
-- The registers
-----------------------------------------------------------------------------------------

/-- The first registers of the page of the filter. -/
def Radio.filterPage (radio : Radio) : UInt8 → UInt8 := fun reg => radio.chip.demod 1 reg.toUInt16

/-- The coefficients that the registers of the filter hold. -/
def Radio.fir (radio : Radio) : List Int := decodeFir (cellsFrom radio.filterPage 0x1c 20)

/-- The settings and the registers outside the first ones of a page are the same. -/
structure OnlyFilterPage (before after : Radio) : Prop where
  settings : after.settings = before.settings
  demod
    : ∀ page reg,
        page ≠ 1 ∨ 256 ≤ reg.toNat → after.chip.demod page reg = before.chip.demod page reg

/-- After a part of the bytes was written, all of them unless a transfer fails. -/
structure FirWritten (environment : Environment.Radio) (before : Radio) (addr : UInt8)
    (fir : List UInt8) (r : Int32) (after : Radio)
    : Prop where
  part
    : ∃ count,
        after.filterPage = patched before.filterPage addr (fir.take count)
        ∧ (r = 0 ∧ count = fir.length
          ∨ r = -1
            ∧ count < fir.length
            ∧ ∃ call, before.chip.calls ≤ call ∧ environment.transfers call = false)
  others : OnlyFilterPage before after

section Writes

variable {environment : Environment.Radio} {radio : Radio} {addr byte : UInt8} {fir : List UInt8}

/-- Two steps that keep to the filter's registers keep to them together. Witness: field by
field.
-/
theorem OnlyFilterPage.trans {before between after : Radio} (first : OnlyFilterPage before between)
    (next : OnlyFilterPage between after)
    : OnlyFilterPage before after :=
  ⟨next.settings.trans first.settings, fun page reg outside =>
    (next.demod page reg outside).trans (first.demod page reg outside)⟩

/-- Register numbers stay apart when widened. Witness: both are the same natural number. -/
theorem toUInt16_eq_iff {reg : UInt8} : reg.toUInt16 = addr.toUInt16 ↔ reg = addr := by
  rw [← UInt16.toNat_inj, ← UInt8.toNat_inj]
  rfl

/-- A byte is written to its register. -/
theorem filterPage_written
    : (radio.written 1 addr.toUInt16 byte.toUInt16 1).filterPage
      = Function.update radio.filterPage addr byte := by
  funext reg
  have stored : byte.toUInt16.toUInt8 = byte := UInt8.toUInt8_toUInt16 byte
  change (if (1 : UInt8) = 1 ∧ reg.toUInt16 = addr.toUInt16 then _
    else if (1 : UInt8) = 1 ∧ (1 : UInt8) ≠ 1 ∧ _ then _ else radio.chip.demod 1 reg.toUInt16) = _
  by_cases same : reg = addr
  · subst same
    rw [if_pos ⟨rfl, rfl⟩, Function.update_self]
    exact stored
  · rw [if_neg fun both => same (toUInt16_eq_iff.mp both.2), if_neg fun both => both.2.1 rfl,
      Function.update_of_ne same]
    rfl

/-- A byte written to a register of the filter changes no register outside it. Witness: page
1, and the address of the write.
-/
theorem onlyFilterPage_written
    : OnlyFilterPage radio (radio.written 1 addr.toUInt16 byte.toUInt16 1) := by
  refine ⟨rfl, fun page reg outside => ?_⟩
  change (if page = 1 ∧ reg = addr.toUInt16 then _
    else if page = 1 ∧ (1 : UInt8) ≠ 1 ∧ _ then _ else radio.chip.demod page reg) = _
  rw [if_neg, if_neg fun both => both.2.1 rfl]
  rintro ⟨onPage, same⟩
  refine outside.elim (fun other => other onPage) fun beyond => ?_
  have size := addr.toNat_lt
  have value : reg.toNat = addr.toNat := congrArg UInt16.toNat same
  omega

/-- Writing the filter writes its first byte and goes on, or ends at a transfer that fails.
Witness: the loop's test of the answer.
-/
theorem writeFir_cons {addr : UInt16}
    : writeFir addr (byte :: fir) environment radio
      = if environment.transfers radio.chip.calls then
          writeFir (addr + 1) fir environment (radio.written 1 addr byte.toUInt16 1)
        else (-1, radio.called) := by
  change (if (rtlsdrDemodWriteReg 1 addr byte.toUInt16 1 environment radio).1 ≠ 0 then _ else _
    : Tuning Int32) environment (rtlsdrDemodWriteReg 1 addr byte.toUInt16 1 environment radio).2 = _
  rw [rtlsdrDemodWriteReg_run]
  split <;> rfl

/-- The writes go on up to one that fails. By induction on the bytes that are left. -/
theorem writeFir_writes (fits : addr.toNat + fir.length < 256)
    : FirWritten environment radio addr fir (writeFir addr.toUInt16 fir environment radio).1
        (writeFir addr.toUInt16 fir environment radio).2 := by
  induction fir generalizing addr radio with
  | nil => exact ⟨⟨0, rfl, .inl ⟨rfl, rfl⟩⟩, ⟨rfl, fun _ _ _ => rfl⟩⟩
  | cons byte rest ih =>
      rw [List.length_cons] at fits
      have next : addr.toUInt16 + 1 = (addr + 1).toUInt16 := by
        rw [← UInt16.toNat_inj]
        change (addr.toNat + 1) % 65536 = (addr + 1).toNat
        rw [UInt8.toNat_add, UInt8.toNat_one]
        omega
      have after : (addr + 1).toNat = addr.toNat + 1 := by
        rw [UInt8.toNat_add, UInt8.toNat_one]
        omega
      rw [writeFir_cons, next]
      cases moves : environment.transfers radio.chip.calls with
      | true =>
          have others := @onlyFilterPage_written radio addr byte
          obtain ⟨⟨count, cells, returned⟩, kept⟩ :=
            @ih (radio.written 1 addr.toUInt16 byte.toUInt16 1) (addr + 1) (by omega)
          rw [if_pos rfl]
          refine ⟨⟨count + 1, ?_, ?_⟩, others.trans kept⟩
          · rw [cells, filterPage_written]
            rfl
          · rw [List.length_cons]
            refine returned.imp (fun done => ⟨done.1, congrArg (· + 1) done.2⟩) ?_
            rintro ⟨failed, short, call, late, lost⟩
            exact ⟨failed, Nat.succ_lt_succ short, call, Nat.le_of_succ_le late, lost⟩
      | false =>
          rw [if_neg Bool.false_ne_true]
          refine ⟨⟨0, rfl, .inr ⟨rfl, Nat.succ_pos _, _, Nat.le_refl _, moves⟩⟩, ?_⟩
          exact ⟨rfl, fun _ _ _ => rfl⟩

end Writes

/-- The two checks of `rtlsdr_set_fir`. -/
theorem firInRange_iff (coefficients : List Int)
    : FirInRange coefficients
      ↔ ¬ ((coefficients.take 8).any fun val => val < -128 || 127 < val) = true
        ∧ ¬ ((coefficients.drop 8).any fun val => val < -2048 || 2047 < val) = true := by
  simp only [List.any_eq_true, Bool.or_eq_true, decide_eq_true_eq, not_exists, not_and, not_or,
    Int.not_lt]
  exact ⟨fun fits => ⟨fits.int8, fits.int12⟩, fun fits => ⟨fits.1, fits.2⟩⟩

/-- Coefficients out of range are refused before any transfer. Witness: one of the two range
tests.
-/
theorem rtlsdrSetFir_of_outside {coefficients : List Int} (outside : ¬ FirInRange coefficients)
    : rtlsdrSetFir coefficients = (return -1) := by
  rw [firInRange_iff, not_and_or, not_not, not_not] at outside
  unfold rtlsdrSetFir
  dsimp only
  split
  next int8 => rfl
  next int8 => rw [if_pos (outside.resolve_left int8)]

/-- Coefficients in range are encoded and written from register `0x1c` on. Witness: both range
tests pass.
-/
theorem rtlsdrSetFir_of_fits {coefficients : List Int} (fits : FirInRange coefficients)
    : rtlsdrSetFir coefficients = writeFir 0x1c (encodeFir coefficients) := by
  obtain ⟨int8, int12⟩ := (firInRange_iff _).mp fits
  unfold rtlsdrSetFir
  dsimp only
  rw [if_neg int8, if_neg int12]
  rfl

/-- `rtlsdr_set_fir` refuses coefficients that do not fit their widths before it writes anything. It
writes all others in order, up to a transfer that fails, and if none does the registers hold them.
-/
theorem rtlsdrSetFir_loads (environment : Environment.Radio) (radio : Radio)
    (coefficients : Vector Int 16)
    : let (r, after) := rtlsdrSetFir coefficients.toList environment radio
      (¬ FirInRange coefficients.toList → r = -1 ∧ after = radio)
      ∧ (FirInRange coefficients.toList
        → FirWritten environment radio 0x1c (encodeFir coefficients.toList) r after
          ∧ (r = 0 → after.fir = coefficients.toList)) := by
  have size : coefficients.toList.length = 16 := coefficients.length_toList
  have total := length_encodeFir size
  by_cases fits : FirInRange coefficients.toList
  · have written := @writeFir_writes environment radio 0x1c (encodeFir coefficients.toList)
      (by rw [total]; decide)
    rw [rtlsdrSetFir_of_fits fits]
    refine ⟨fun outside => absurd fits outside, fun _ => ⟨written, fun done => ?_⟩⟩
    obtain ⟨count, cells, ⟨_, all⟩ | ⟨failed, _⟩⟩ := written.part
    · rw [all, List.take_length] at cells
      change decodeFir (cellsFrom (writeFir (UInt8.toUInt16 0x1c) (encodeFir coefficients.toList)
        environment radio).2.filterPage 0x1c 20) = _
      rw [cells, ← total, cellsFrom_patched (by rw [total]; decide), decodeFir_encodeFir size fits]
    · exact absurd (done.symm.trans failed) (by decide)
  · rw [rtlsdrSetFir_of_outside fits]
    exact ⟨fun _ => ⟨rfl, rfl⟩, fun inside => absurd inside fits⟩

end RtlTcpAndro.RtlSdrDevice
