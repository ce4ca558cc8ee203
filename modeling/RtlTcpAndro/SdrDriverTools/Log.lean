import RtlTcpAndro.JavaLang.Text

/-! The log of `Log.java`, which Java and native code append lines to. What a callback does when
it hears of a change is its own, so that here it is only told.
-/

namespace RtlTcpAndro.SdrDriverTools

open JavaLang

-----------------------------------------------------------------------------------------
-- Lines
-----------------------------------------------------------------------------------------

/-- `'\n'` -/
def newline : JavaChar := 0x0a

/-- A part that `substring` cuts off at its end is shorter. -/
theorem length_of_cut {what shorter : JavaString} {character : JavaChar}
    (last : charAtInt what (what.length - 1) = .ok character)
    (cut : substring what 0 (what.length - 1) = .ok shorter)
    : shorter.length < what.length := by
  cases what using List.reverseRecOn with
  | nil => cases last
  | append_singleton string final =>
      rw [substring_concat] at cut
      cases cut
      simp

/-- The loop of `appendLine`. -/
def withoutNewlines (what : JavaString) : Except Thrown JavaString :=
  match _last : charAtInt what (what.length - 1) with
  | .error thrown => .error thrown
  | .ok character =>
      if character = newline then
        match _cut : substring what 0 (what.length - 1) with
        | .error thrown => .error thrown
        | .ok shorter => withoutNewlines shorter
      else .ok what
termination_by what.length
decreasing_by exact length_of_cut _last _cut

/-- Nothing has no last character. -/
theorem withoutNewlines_nil : withoutNewlines [] = .error .indexOutOfBounds := by
  unfold withoutNewlines
  rfl

/-- A newline at the end is dropped, and any other character ends the dropping. Witness: the
last character is the one `charAt` reads.
-/
theorem withoutNewlines_concat (what : JavaString) (character : JavaChar)
    : withoutNewlines (what ++ [character])
      = if character = newline then withoutNewlines what else .ok (what ++ [character]) := by
  rw [withoutNewlines]
  split
  next thrown last => cases last.symm.trans (charAtInt_concat what character)
  next found last =>
    cases last.symm.trans (charAtInt_concat what character)
    split
    · split
      next thrown cut => cases cut.symm.trans (substring_concat what character)
      next shorter cut =>
        cases cut.symm.trans (substring_concat what character)
        rfl
    · rfl

/-- The loop removes the newlines at the end, if there is something before them. By induction on
the string from its end.
-/
theorem withoutNewlines_eq (what : JavaString)
    : withoutNewlines what
      = if what.all (· == newline) then .error .indexOutOfBounds
        else .ok (what.rdropWhile (· == newline)) := by
  induction what using List.reverseRecOn with
  | nil => exact withoutNewlines_nil
  | append_singleton string final ih =>
      rw [withoutNewlines_concat, List.all_append, List.all_cons, List.all_nil, Bool.and_true,
        List.rdropWhile_concat]
      by_cases last : final = newline
      · rw [if_pos last, ih, last, beq_self_eq_true, Bool.and_true, if_pos rfl]
      · rw [if_neg last, beq_false_of_ne last, Bool.and_false]
        rfl

-----------------------------------------------------------------------------------------
-- The log
-----------------------------------------------------------------------------------------

/-- `log` and `callbacks` of `Log`, and the callbacks that were told of changes, in order. -/
structure Log (κ : Type) where
  log : JavaString
  callbacks : List κ
  changed : List κ
  deriving DecidableEq, Repr

namespace Log

variable {κ : Type}

/-- Before the first call. -/
def new : Log κ := ⟨[], [], []⟩

/-- `appendLine` of a string, and what it throws. -/
def appendLine (state : Log κ) (what : JavaString) : Except Thrown Unit × Log κ :=
  match withoutNewlines what with
  | .error thrown => (.error thrown, state)
  | .ok what =>
      (.ok (),
        { state with
          log := state.log ++ (what ++ [newline])
          changed := state.changed ++ state.callbacks })

/-- `getFullLog` -/
def getFullLog (state : Log κ) : JavaString := state.log

/-- `clear` -/
def clear (state : Log κ) : Log κ :=
  { state with log := [], changed := state.changed ++ state.callbacks }

variable [DecidableEq κ]

/-- `registerCallback` -/
def registerCallback (state : Log κ) (callback : κ) : Log κ :=
  { state with callbacks := state.callbacks.insert callback }

/-- `unregisterCallback` -/
def unregisterCallback (state : Log κ) (callback : κ) : Log κ :=
  { state with callbacks := state.callbacks.erase callback }

end Log

/-- A call on the log. The native `common_logf` comes with the bytes that it has formatted, unless
it has none or its thread no environment.
-/
inductive LogCall (κ : Type)
  | appendLine (what : JavaString)
  | commonLogf (output : Option (List UInt8))
  | clear
  | registerCallback (callback : κ)
  | unregisterCallback (callback : κ)
  deriving DecidableEq, Repr

section Calls

variable {κ : Type} [DecidableEq κ] (newStringUTF : List UInt8 → JavaString)

/-- What a call does, where native bytes are made a string by `newStringUTF`. -/
def LogCall.apply (state : Log κ) : LogCall κ → Except Thrown Unit × Log κ
  | .appendLine what => state.appendLine what
  | .commonLogf none => (.ok (), state)
  | .commonLogf (some output) => state.appendLine (newStringUTF output)
  | .clear => (.ok (), state.clear)
  | .registerCallback callback => (.ok (), state.registerCallback callback)
  | .unregisterCallback callback => (.ok (), state.unregisterCallback callback)

/-- What the calls of a sequence return or throw, and the log after them. -/
def Log.run (calls : List (LogCall κ)) : List (Except Thrown Unit) × Log κ :=
  calls.foldl
    (fun before call =>
      let after := call.apply newStringUTF before.2
      (before.1 ++ [after.1], after.2))
    ([], .new)

/-- The string that a call appends. -/
def LogCall.appended : LogCall κ → Option JavaString
  | .appendLine what => some what
  | .commonLogf output => output.map newStringUTF
  | _ => none

/-- What a call is to add to the log: its string without the newlines at its end, and one. -/
def LogCall.line (call : LogCall κ) : JavaString :=
  match call.appended newStringUTF with
  | some what => what.rdropWhile (· == newline) ++ [newline]
  | none => []

/-- Any call but `clear`. -/
def LogCall.keeps : LogCall κ → Bool
  | .clear => false
  | _ => true

/-- The lines of the calls since the last `clear`. -/
def linesSinceClear (calls : List (LogCall κ)) : JavaString :=
  (calls.rtakeWhile LogCall.keeps).flatMap (LogCall.line newStringUTF)

/-- After a sequence of calls the log has its lines, and no call has thrown. -/
structure FaithfulLog (calls : List (LogCall κ)) : Prop where
  quiet : ∀ outcome ∈ (Log.run newStringUTF calls).1, outcome = .ok ()
  full : (Log.run newStringUTF calls).2.getFullLog = linesSinceClear newStringUTF calls

/-- A call does not append a string of newlines only. -/
def LogCall.HasText (call : LogCall κ) : Prop :=
  ∀ what, call.appended newStringUTF = some what → ∃ character ∈ what, character ≠ newline

-----------------------------------------------------------------------------------------
-- One call
-----------------------------------------------------------------------------------------

omit [DecidableEq κ] in
/-- A string of newlines only throws and leaves the log alone; of any other its line is appended and
every callback told.
-/
theorem Log.appendLine_eq (state : Log κ) (what : JavaString)
    : state.appendLine what
      = if what.all (· == newline) then (.error .indexOutOfBounds, state)
        else
          (.ok (),
            { state with
              log := state.log ++ (what.rdropWhile (· == newline) ++ [newline])
              changed := state.changed ++ state.callbacks }) := by
  rw [appendLine, withoutNewlines_eq]
  by_cases blank : what.all (· == newline) = true
  · rw [if_pos blank, if_pos blank]
  · rw [if_neg blank, if_neg blank]

omit [DecidableEq κ] in
/-- A string with a character other than a newline is not all newlines. Witness: the negated
test.
-/
theorem hasText_iff {what : JavaString}
    : (∃ character ∈ what, character ≠ newline) ↔ what.all (· == newline) = false := by
  simp

variable {newStringUTF} {call : LogCall κ}

/-- A call succeeds just when what it logs has text. Witness: one case per call; the lines
that are appended fail on newlines alone.
-/
theorem LogCall.apply_ok_iff (state : Log κ)
    : (call.apply newStringUTF state).1 = .ok () ↔ call.HasText newStringUTF := by
  have appends (what : JavaString)
      : (state.appendLine what).1 = .ok () ↔ ∃ character ∈ what, character ≠ newline := by
    rw [Log.appendLine_eq, hasText_iff]
    split
    next all => exact iff_of_false nofun (by rw [all]; decide)
    next some_ => exact iff_of_true rfl (eq_false_of_ne_true some_)
  cases call with
  | appendLine what =>
      refine (appends what).trans ⟨?_, fun shown => shown what rfl⟩
      rintro shown _ ⟨⟩
      exact shown
  | commonLogf output =>
      cases output with
      | none => exact iff_of_true rfl nofun
      | some output =>
          refine (appends (newStringUTF output)).trans ⟨?_, fun shown => shown _ rfl⟩
          rintro shown _ ⟨⟩
          exact shown
  | clear | registerCallback | unregisterCallback => exact iff_of_true rfl nofun

/-- A call that returns adds its line, or clears the log. -/
theorem LogCall.apply_log (state : Log κ) (returned : (call.apply newStringUTF state).1 = .ok ())
    : (call.apply newStringUTF state).2.log
      = if call.keeps then state.log ++ call.line newStringUTF else [] := by
  have appends {what : JavaString} (returned : (state.appendLine what).1 = .ok ())
      : (state.appendLine what).2.log
        = state.log ++ (what.rdropWhile (· == newline) ++ [newline]) := by
    rw [Log.appendLine_eq] at returned ⊢
    split at returned
    next => cases returned
    next some_ => rw [if_neg some_]
  have nothing : state.log = state.log ++ [] := (List.append_nil _).symm
  cases call with
  | appendLine what => exact appends returned
  | commonLogf output =>
      cases output with
      | none => exact nothing
      | some output => exact appends returned
  | clear => rfl
  | registerCallback | unregisterCallback => exact nothing

-----------------------------------------------------------------------------------------
-- Sequences of calls
-----------------------------------------------------------------------------------------

/-- One call more is made on the log the earlier ones left. Witness: `List.foldl_append`. -/
theorem Log.run_concat (calls : List (LogCall κ)) (call : LogCall κ)
    : Log.run newStringUTF (calls ++ [call])
      = ((Log.run newStringUTF calls).1
            ++ [(call.apply newStringUTF (Log.run newStringUTF calls).2).1],
          (call.apply newStringUTF (Log.run newStringUTF calls).2).2) := by
  rw [Log.run, List.foldl_append]
  rfl

omit [DecidableEq κ] in
/-- One call more adds its line, or clears them all. Witness: whether it keeps the lines
before it.
-/
theorem linesSinceClear_concat (calls : List (LogCall κ)) (call : LogCall κ)
    : linesSinceClear newStringUTF (calls ++ [call])
      = if call.keeps then linesSinceClear newStringUTF calls ++ call.line newStringUTF
        else [] := by
  rw [linesSinceClear, List.rtakeWhile_concat]
  split
  · rw [List.flatMap_append, List.flatMap_singleton]
    rfl
  · rfl

/-- No call throws exactly if none appends newlines only. By induction on the calls from the last
one.
-/
theorem Log.quiet_iff (calls : List (LogCall κ))
    : (∀ outcome ∈ (Log.run newStringUTF calls).1, outcome = .ok ())
      ↔ ∀ call ∈ calls, call.HasText newStringUTF := by
  induction calls using List.reverseRecOn with
  | nil => exact iff_of_true nofun nofun
  | append_singleton calls call ih =>
      rw [Log.run_concat, List.forall_mem_append, List.forall_mem_append, ih,
        List.forall_mem_singleton, List.forall_mem_singleton, LogCall.apply_ok_iff]

/-- Where no call throws, the log has the lines. By induction on the calls from the last one. -/
theorem Log.full_of_quiet (calls : List (LogCall κ))
    (quiet : ∀ outcome ∈ (Log.run newStringUTF calls).1, outcome = .ok ())
    : (Log.run newStringUTF calls).2.getFullLog = linesSinceClear newStringUTF calls := by
  induction calls using List.reverseRecOn with
  | nil => rfl
  | append_singleton calls call ih =>
      rw [Log.run_concat, List.forall_mem_append, List.forall_mem_singleton] at quiet
      have before : (Log.run newStringUTF calls).2.log = _ := ih quiet.1
      have after := LogCall.apply_log (Log.run newStringUTF calls).2 quiet.2
      rw [before, ← linesSinceClear_concat] at after
      rw [Log.run_concat]
      exact after

/-- The log is faithful to a sequence of calls, and none of them throws, exactly if every string
appended has a character that is not a newline.
-/
theorem faithfulLog_iff (newStringUTF : List UInt8 → JavaString) (calls : List (LogCall κ))
    : FaithfulLog newStringUTF calls ↔ ∀ call ∈ calls, call.HasText newStringUTF := by
  rw [← Log.quiet_iff calls]
  exact ⟨fun faithful => faithful.quiet, fun quiet => ⟨quiet, Log.full_of_quiet calls quiet⟩⟩

end Calls

/-- An empty string throws. -/
theorem appendLine_empty_throws
    : ¬ ∀ (newStringUTF : List UInt8 → JavaString) (calls : List (LogCall Unit)),
        FaithfulLog newStringUTF calls := by
  intro claim
  have outcomes
      : (Log.run (fun bytes => bytes.map UInt8.toUInt16) [@LogCall.appendLine Unit []]).1
        = [.error .indexOutOfBounds] := by
    change [(Log.appendLine _ []).1] = _
    rw [Log.appendLine_eq]
    rfl
  have quiet := (claim (fun bytes => bytes.map UInt8.toUInt16) [.appendLine []]).quiet
  rw [outcomes] at quiet
  cases quiet _ List.mem_cons_self

end RtlTcpAndro.SdrDriverTools
