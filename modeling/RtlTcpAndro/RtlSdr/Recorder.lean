import RtlTcpAndro.ByteStreams.Quotas

/-! The recorder `rtl_sdr.c`, which writes a number of bytes to a file: its callback for
asynchronous reading and its loop for synchronous reading. Neither ends where the last byte that was
asked for is the last one of a buffer.
-/

namespace RtlTcpAndro.RtlSdr

open RtlTcpAndro.ByteStreams

-----------------------------------------------------------------------------------------
-- Asynchronous reading
-----------------------------------------------------------------------------------------

/-- `do_exit`, `bytes_to_read` and, history, what is in the file and whether reading was
canceled.
-/
structure Recorder where
  doExit : Bool
  bytesToRead : UInt32
  file : List UInt8
  canceled : Bool
  deriving DecidableEq, Repr

/-- A buffer of as many bytes as a `uint32_t` counts. -/
structure SampleBuffer where
  bytes : List UInt8
  counted : bytes.length < 4294967296

/-- `len`, or `n_read` -/
def SampleBuffer.len (buf : SampleBuffer) : UInt32 := UInt32.ofNat buf.bytes.length

namespace Recorder

variable (recorder : Recorder)

/-- What is written ends within a buffer. -/
def endsIn (buf : SampleBuffer) : Bool :=
  decide (0 < recorder.bytesToRead) && decide (recorder.bytesToRead < buf.len)

/-- What is written of a buffer. -/
def portion (buf : SampleBuffer) : UInt32 :=
  if recorder.endsIn buf then recorder.bytesToRead else buf.len

/-- `bytes_to_read` once a number of bytes was written. -/
def remaining (len : UInt32) : UInt32 :=
  if 0 < recorder.bytesToRead then recorder.bytesToRead - len else recorder.bytesToRead

/-- `rtlsdr_callback`, where `fwrite` accepts a number of bytes at most. -/
def rtlsdrCallback (buf : SampleBuffer) (accepted : Nat) : Recorder :=
  if recorder.doExit then recorder
  else
    let len := recorder.portion buf
    { doExit := recorder.endsIn buf
      bytesToRead := recorder.remaining len
      file := recorder.file ++ (buf.bytes.take len.toNat).take accepted
      canceled := recorder.canceled || recorder.endsIn buf || decide (accepted < len.toNat) }

/-- `sighandler` -/
def sighandler : Recorder := { recorder with doExit := true, canceled := true }

end Recorder

/-- What happens while `rtlsdr_read_async` reads. -/
inductive RecorderEvent
  | samples (buf : SampleBuffer) (accepted : Nat)
  | signal

def Recorder.step (recorder : Recorder) : RecorderEvent → Recorder
  | .samples buf accepted => recorder.rtlsdrCallback buf accepted
  | .signal => recorder.sighandler

/-- The buffers before a signal. -/
def buffersHeard : List RecorderEvent → List (List UInt8)
  | .samples buf _ :: rest => buf.bytes :: buffersHeard rest
  | .signal :: _ => []
  | [] => []

-----------------------------------------------------------------------------------------
-- Synchronous reading
-----------------------------------------------------------------------------------------

/-- A round of the loop: what `rtlsdr_read_sync` returns and reads, which is a block at most, how
many bytes `fwrite` accepts, and whether a signal is caught.
-/
structure SyncRound (outBlockSize : UInt32) where
  r : Int32
  buf : SampleBuffer
  fits : buf.len ≤ outBlockSize
  accepted : Nat
  signaled : Bool

variable {outBlockSize : UInt32}

/-- The loop in `main` over rounds, from where it may go on. -/
def readSync (recorder : Recorder) : List (SyncRound outBlockSize) → Recorder
  | [] => recorder
  | round :: rest =>
      if recorder.doExit then recorder
      else if round.r < 0 then if round.signaled then recorder.sighandler else recorder
      else
        let nRead := recorder.portion round.buf
        let wrote : Recorder :=
          { recorder with
            doExit := recorder.endsIn round.buf || round.signaled
            file := recorder.file ++ (round.buf.bytes.take nRead.toNat).take round.accepted
            canceled := recorder.canceled || round.signaled }
        if round.accepted < nRead.toNat then wrote
        else if nRead < outBlockSize then wrote
        else readSync { wrote with bytesToRead := recorder.remaining nRead } rest

/-- The blocks that the loop reads at most, the last of which is short or comes with a signal. -/
def blocksRead : List (SyncRound outBlockSize) → List (List UInt8)
  | [] => []
  | round :: rest =>
      if round.r < 0 then []
      else if round.buf.len < outBlockSize ∨ round.signaled = true then [round.buf.bytes]
      else round.buf.bytes :: blocksRead rest

-----------------------------------------------------------------------------------------
-- What is recorded
-----------------------------------------------------------------------------------------

/-- A recorder, as it takes a part of a stream. -/
def Recorder.metered (recorder : Recorder) : Metered UInt8 :=
  ⟨recorder.bytesToRead.toNat, recorder.file, recorder.doExit⟩

section Metered

variable {recorder : Recorder} {buf : SampleBuffer} {accepted : Nat}

/-- A buffer's length is the number of its bytes. Witness: they are counted by 32 bits. -/
theorem toNat_len : buf.len.toNat = buf.bytes.length := UInt32.toNat_ofNat_of_lt' buf.counted

/-- A recording ends in a buffer when bytes are limited and fewer are left than it holds.
Witness: the two tests of the callback.
-/
theorem endsIn_iff
    : recorder.endsIn buf = true
      ↔ 0 < recorder.bytesToRead.toNat ∧ recorder.bytesToRead.toNat < buf.bytes.length := by
  unfold Recorder.endsIn
  rw [Bool.and_eq_true, decide_eq_true_iff, decide_eq_true_iff, UInt32.lt_iff_toNat_lt,
    UInt32.lt_iff_toNat_lt, toNat_len]
  rfl

/-- What a buffer adds to the file and takes from the quota. -/
theorem pass_metered (going : recorder.doExit = false) (whole : buf.bytes.length ≤ accepted)
    : recorder.metered.pass buf.bytes
      = ⟨(recorder.remaining (recorder.portion buf)).toNat,
          recorder.file ++ (buf.bytes.take (recorder.portion buf).toNat).take accepted,
          recorder.endsIn buf⟩ := by
  have all (len : Nat) : (buf.bytes.take len).take accepted = buf.bytes.take len := by
    rw [List.take_of_length_le]
    exact Nat.le_trans (List.length_take_le' ..) whole
  have uncut : recorder.metered.cut = false := going
  rw [all, Metered.pass, uncut, if_neg (by decide)]
  change (if 0 < recorder.bytesToRead.toNat ∧ recorder.bytesToRead.toNat < buf.bytes.length then
    _ else _) = _
  cases ends : recorder.endsIn buf with
  | true =>
      have inside := endsIn_iff.mp ends
      have positive : 0 < recorder.bytesToRead := UInt32.lt_iff_toNat_lt.mpr inside.1
      rw [if_pos inside, Recorder.portion, if_pos ends, Recorder.remaining, if_pos positive,
        UInt32.sub_self]
      rfl
  | false =>
      have outside := fun inside => Bool.false_ne_true (ends.symm.trans (endsIn_iff.mpr inside))
      rw [if_neg outside, Recorder.portion, if_neg (by rw [ends]; decide), toNat_len,
        List.take_length]
      refine congrArg (fun left => Metered.mk left _ _) ?_
      unfold Recorder.remaining
      split
      next positive =>
          have some_ : 0 < recorder.bytesToRead.toNat := UInt32.lt_iff_toNat_lt.mp positive
          have fits : buf.len ≤ recorder.bytesToRead := by
            rw [UInt32.le_iff_toNat_le, toNat_len]
            exact Nat.le_of_not_lt fun beyond => outside ⟨some_, beyond⟩
          rw [UInt32.toNat_sub_of_le _ _ fits, toNat_len]
          rfl
      next none =>
          have zero : recorder.bytesToRead.toNat = 0 :=
            Nat.eq_zero_of_not_pos fun some_ => none (UInt32.lt_iff_toNat_lt.mpr some_)
          change recorder.bytesToRead.toNat - _ = _
          rw [zero, Nat.zero_sub]

/-- The callback takes its part of a buffer. -/
theorem metered_rtlsdrCallback (whole : buf.bytes.length ≤ accepted)
    : (recorder.rtlsdrCallback buf accepted).metered = recorder.metered.pass buf.bytes := by
  unfold Recorder.rtlsdrCallback
  cases going : recorder.doExit with
  | true =>
      have cut : recorder.metered.cut = true := going
      rw [if_pos rfl, Metered.pass, if_pos cut]
  | false =>
      rw [if_neg (by decide), pass_metered going whole]
      rfl

/-- After an exit nothing is written. By induction on what happens. -/
theorem file_foldl_step_of_exit {events : List RecorderEvent} (exited : recorder.doExit = true)
    : (events.foldl Recorder.step recorder).file = recorder.file := by
  induction events generalizing recorder with
  | nil => rfl
  | cons event rest ih =>
      rw [List.foldl_cons]
      cases event with
      | samples buf accepted =>
          have same : recorder.step (.samples buf accepted) = recorder := if_pos exited
          rw [same, ih exited]
      | signal => exact @ih recorder.sighandler rfl

/-- The file holds what the buffers before a signal add to it. By induction on what happens. -/
theorem file_foldl_step {events : List RecorderEvent}
    (whole : ∀ buf accepted, .samples buf accepted ∈ events → buf.bytes.length ≤ accepted)
    : (events.foldl Recorder.step recorder).file
      = ((buffersHeard events).foldl Metered.pass recorder.metered).taken := by
  induction events generalizing recorder with
  | nil => rfl
  | cons event rest ih =>
      cases event with
      | samples buf accepted =>
          have passed :=
            @metered_rtlsdrCallback recorder buf accepted (whole _ _ List.mem_cons_self)
          rw [List.foldl_cons, buffersHeard, List.foldl_cons, ← passed]
          exact ih fun buf accepted member => whole buf accepted (List.mem_cons_of_mem _ member)
      | signal => exact @file_foldl_step_of_exit recorder.sighandler rest rfl

/-- The loop stops at once where it is to exit. -/
theorem readSync_of_exit {rounds : List (SyncRound outBlockSize)} (exited : recorder.doExit = true)
    : readSync recorder rounds = recorder := by
  cases rounds with
  | nil => rfl
  | cons round rest => rw [readSync, if_pos exited]

/-- The portion of a block is less than all of it exactly if the recording ends in it. -/
theorem portion_lt_iff : recorder.portion buf < buf.len ↔ recorder.endsIn buf = true := by
  unfold Recorder.portion
  split
  next ends =>
      refine iff_of_true ?_ ends
      rw [UInt32.lt_iff_toNat_lt, toNat_len]
      exact (endsIn_iff.mp ends).2
  next goes => exact iff_of_false (UInt32.lt_irrefl _) goes

/-- No more than the buffer is written. Witness: whether the recording ends in it or goes on.
-/
theorem portion_le : recorder.portion buf ≤ buf.len := by
  unfold Recorder.portion
  split
  next ends =>
      rw [UInt32.le_iff_toNat_le, toNat_len]
      exact Nat.le_of_lt (endsIn_iff.mp ends).2
  next goes => exact UInt32.le_refl _

/-- The loop takes its part of the blocks. By induction on its rounds. -/
theorem file_readSync {rounds : List (SyncRound outBlockSize)} (going : recorder.doExit = false)
    (whole : ∀ round ∈ rounds, round.buf.bytes.length ≤ round.accepted)
    : (readSync recorder rounds).file
      = ((blocksRead rounds).foldl Metered.pass recorder.metered).taken := by
  induction rounds generalizing recorder with
  | nil => rfl
  | cons round rest ih =>
      have accepted := whole round List.mem_cons_self
      have passed := pass_metered going accepted
      have later := fun round member => whole round (List.mem_cons_of_mem _ member)
      have all : ¬ round.accepted < (recorder.portion round.buf).toNat := by
        have part := UInt32.le_iff_toNat_le.mp (@portion_le recorder round.buf)
        rw [toNat_len] at part
        omega
      rw [readSync, going, if_neg (by decide), blocksRead]
      split
      next failed => split <;> rfl
      next read =>
          dsimp only
          rw [if_neg all]
          by_cases last : round.buf.len < outBlockSize ∨ round.signaled = true
          · rw [if_pos last, List.foldl_cons, passed, List.foldl_nil]
            split
            next short => rfl
            next full =>
                -- A full block is the last one only where a signal is caught.
                have signaled : round.signaled = true :=
                  last.resolve_left fun short => full (UInt32.lt_of_le_of_lt portion_le short)
                rw [readSync_of_exit]
                rw [signaled, Bool.or_true]
          · rw [if_neg last, List.foldl_cons, passed]
            obtain ⟨full, unsignaled⟩ := not_or.mp last
            have same : round.buf.len = outBlockSize :=
              UInt32.le_antisymm round.fits (UInt32.not_lt.mp full)
            have cut_iff := @portion_lt_iff recorder round.buf
            rw [same] at cut_iff
            rw [Bool.eq_false_iff.mpr unsignaled, Bool.or_false, Bool.or_false]
            split
            next cut => rw [cut_iff.mp cut, foldl_pass_of_cut]
            next uncut =>
                rw [Bool.eq_false_iff.mpr (mt cut_iff.mpr uncut)]
                exact ih rfl later

end Metered

/-- Of a stream that arrives in chunks as many bytes are recorded as were asked for, but all of it
where some first chunks have exactly as many.
-/
structure Recorded (count : Nat) (chunks : List (List UInt8)) (file : List UInt8) : Prop where
  all : Exhausts count chunks → file = chunks.flatten
  part : ¬ Exhausts count chunks → file = chunks.flatten.take count

/-- A file that the metered chunks make up is a recording of them. Witness: what the meter
lets through when the count runs out, and when it does not.
-/
theorem recorded_of_metered {count : Nat} {chunks : List (List UInt8)} {file : List UInt8}
    (taken : file = (chunks.foldl Metered.pass ⟨count, [], false⟩).taken)
    : Recorded count chunks file := by
  obtain ⟨all, part⟩ := foldl_pass chunks count []
  exact ⟨fun exhausts => taken.trans (all exhausts).1, fun inexact => taken.trans (part inexact).1⟩

/-- `bytes_to_read` when reading starts. -/
def Recorder.starting (bytesToRead : UInt32) : Recorder := ⟨false, bytesToRead, [], false⟩

/-- A recording in either mode has the bytes that were asked for, of the stream before a signal or a
short block, unless the last of them is the last one of a buffer: then it does not end there. All of
this as long as the file takes what is written.
-/
theorem recordings_recorded (bytesToRead : UInt32) (events : List RecorderEvent)
    (rounds : List (SyncRound outBlockSize))
    (whole : ∀ buf accepted, .samples buf accepted ∈ events → buf.bytes.length ≤ accepted)
    (wholeBlocks : ∀ round ∈ rounds, round.buf.bytes.length ≤ round.accepted)
    : Recorded bytesToRead.toNat (buffersHeard events)
        (events.foldl Recorder.step (.starting bytesToRead)).file
      ∧ Recorded bytesToRead.toNat (blocksRead rounds)
        (readSync (.starting bytesToRead) rounds).file :=
  ⟨recorded_of_metered (file_foldl_step whole), recorded_of_metered (file_readSync rfl wholeBlocks)⟩

/-- A buffer of two samples, and one of a single sample. -/
def SampleBuffer.twoSamples : SampleBuffer := ⟨[127, 128, 129, 130], by decide⟩
def SampleBuffer.oneSample : SampleBuffer := ⟨[131, 132], by decide⟩

/-- The rounds that read a block of two samples and a short one. -/
def SyncRound.shortSecond : List (SyncRound 4) :=
  [⟨0, .twoSamples, by decide, 4, false⟩, ⟨0, .oneSample, by decide, 2, false⟩]

/-- Two samples are asked for: four of them in two buffers are recorded, and three of them in a
block and a short one. Witness: the first buffer has exactly what is asked for.
-/
theorem recordings_recorded_twoSamples
    : Recorded 4 [[127, 128, 129, 130], [127, 128, 129, 130]]
        [127, 128, 129, 130, 127, 128, 129, 130]
      ∧ Recorded 4 [[127, 128, 129, 130], [131, 132]] [127, 128, 129, 130, 131, 132] := by
  refine recordings_recorded 4 [.samples .twoSamples 4, .samples .twoSamples 4]
    SyncRound.shortSecond ?_ ?_
  · intro buf accepted member
    simp only [List.mem_cons, RecorderEvent.samples.injEq, List.not_mem_nil, or_false, or_self]
      at member
    obtain ⟨rfl, rfl⟩ := member
    exact Nat.le_refl _
  · intro round member
    rw [SyncRound.shortSecond, List.mem_cons, List.mem_singleton] at member
    obtain rfl | rfl := member <;> exact Nat.le_refl _

end RtlTcpAndro.RtlSdr
