import Mathlib.Algebra.Group.Nat.Even
import Mathlib.Data.List.Induction
import RtlTcpAndro.QuotedWords.Pieces
import RtlTcpAndro.SdrDriverTools.SdrTcpArguments

/-! The grammar of startup arguments. The loop of `splitIgnoringQuotes` cuts a string into its
quoted words, and `toMap` reads the words in pairs: an even word names an option, the next one
is its value.
-/

namespace RtlTcpAndro.SdrDriverTools

open RtlTcpAndro.JavaLang RtlTcpAndro.QuotedWords

-----------------------------------------------------------------------------------------
-- Tokens
-----------------------------------------------------------------------------------------

def isQuote (character : JavaChar) : Bool :=
  character = singleQuote ∨ character = doubleQuote

/-- The tokens of a string. -/
def tokens (string : JavaString) : List JavaString := words space isQuote string

/-- A space is no quote, by evaluation. -/
theorem isQuote_space : isQuote space = false := by
  decide

/-- A quote is not the character that stands for none. -/
theorem ne_zero_of_isQuote {quote : JavaChar} (quotes : isQuote quote = true) : quote ≠ 0 := by
  rintro rfl
  exact absurd quotes (by decide)

/-- Adding the word in progress appends it to the result if there is one. -/
theorem Splitting.add_eq (splitting : Splitting)
    : splitting.add = splitting.result ++ kept splitting.resultingString := by
  unfold add kept
  cases splitting.resultingString <;> simp

section Steps

variable {splitting : Splitting} {character : JavaChar}

/-- A quote opens a run outside of runs, ends the run of its kind and is part of the word in
one of the other kind. Witness: it is one of the two quotes that the source tests for.
-/
theorem Splitting.step_quote (quotes : isQuote character)
    : splitting.step character
      = if splitting.currentqoute = 0 then { splitting with currentqoute := character }
        else if splitting.currentqoute = character then { splitting with currentqoute := 0 }
        else splitting.append character := by
  have kind : character = singleQuote ∨ character = doubleQuote := by
    simpa [isQuote] using quotes
  rw [step, if_pos kind]

/-- A space outside of runs ends the word in progress. -/
theorem Splitting.step_space (outside : splitting.currentqoute = 0)
    : splitting.step space
      = { splitting with result := splitting.add, resultingString := [] } := by
  have unquoted : ¬ (space = singleQuote ∨ space = doubleQuote) := by
    decide
  rw [step, if_neg unquoted, if_pos rfl, if_pos outside]

/-- A character that is no quote and no space is part of the word, inside of runs as outside.
-/
theorem Splitting.step_plain (unquoted : isQuote character = false) (inside : character ≠ space)
    : splitting.step character = splitting.append character := by
  have plain : ¬ (character = singleQuote ∨ character = doubleQuote) := by
    simpa [isQuote] using unquoted
  rw [step, if_neg plain, if_neg inside]

/-- Inside a run every character but its quote is part of the word, by cases on whether it is
a quote.
-/
theorem Splitting.step_body (quotes : isQuote splitting.currentqoute)
    (other : character ≠ splitting.currentqoute)
    : splitting.step character = splitting.append character := by
  have inside := ne_zero_of_isQuote quotes
  by_cases quote : isQuote character
  · rw [step_quote quote, if_neg inside, if_neg other.symm]
  · simp [step, inside, other.symm]

end Steps

/-- A run up to the quote that ends it, by induction on its body. -/
theorem Splitting.foldl_body (splitting : Splitting)
    (quotes : isQuote splitting.currentqoute) {body : JavaString}
    (others : ∀ character ∈ body, character ≠ splitting.currentqoute)
    : body.foldl step splitting
      = { splitting with resultingString := splitting.resultingString ++ body } := by
  induction body generalizing splitting with
  | nil => simp
  | cons character rest ih =>
      rw [List.foldl_cons, step_body quotes (others character List.mem_cons_self),
        ih (splitting.append character) quotes
          (fun other member => others other (List.mem_cons_of_mem _ member))]
      simp [append]

/-- The loop outside quotes, by the pieces of the text that is left. -/
theorem Splitting.add_foldl (splitting : Splitting) (outside : splitting.currentqoute = 0)
    (string : JavaString)
    : (string.foldl step splitting).add
      = splitting.result
        ++ wordsAfter splitting.resultingString (pieces space isQuote string) := by
  induction string using pieces.induct space isQuote generalizing splitting with
  | case1 => simp [pieces, add_eq]
  | case2 character rest quotes ih =>
      have others : ∀ other ∈ rest.takeWhile (· ≠ character), other ≠ character := by
        intro other member
        simpa using List.mem_takeWhile_imp member
      have run := foldl_body { splitting with currentqoute := character } quotes others
      have whole := List.takeWhile_append_dropWhile (p := (· ≠ character)) (l := rest)
      rw [pieces, if_pos quotes, wordsAfter_content rfl, List.foldl_cons, step_quote quotes,
        if_pos outside]
      conv_lhs => rw [← whole]
      rw [List.foldl_append, run]
      cases closing : rest.dropWhile (· ≠ character) with
      | nil => simp [pieces, add_eq, Piece.content]
      | cons quote after =>
          have same : quote = character := by
            have nonempty : rest.dropWhile (· ≠ character) ≠ [] := by
              rw [closing]
              exact List.cons_ne_nil _ _
            have head := List.head_dropWhile_not (· ≠ character) nonempty
            simpa only [closing, List.head_cons, decide_eq_false_iff_not, not_not] using head
          subst same
          rw [closing] at ih
          rw [List.foldl_cons, step_quote quotes, if_neg (ne_zero_of_isQuote quotes), if_pos rfl]
          exact ih _ rfl
  | case3 rest unquoted ih =>
      have next := ih { splitting with result := splitting.add, resultingString := [] } outside
      rw [pieces_separator isQuote_space, wordsAfter_separator, List.foldl_cons,
        step_space outside, next, add_eq, List.append_assoc]
  | case4 character rest unquoted inside ih =>
      have plain : isQuote character = false := by
        simpa using unquoted
      rw [pieces_plain plain inside, wordsAfter_content rfl, List.foldl_cons,
        step_plain plain inside, ih (splitting.append character) outside]
      rfl

/-- `splitIgnoringQuotes` gives the tokens, which is its loop from the beginning. -/
theorem splitIgnoringQuotes_eq (rawArguments : JavaString)
    : splitIgnoringQuotes rawArguments = tokens rawArguments :=
  Splitting.add_foldl _ rfl rawArguments

-----------------------------------------------------------------------------------------
-- Options
-----------------------------------------------------------------------------------------

/-- A string within a pair of equal quotes. -/
def Enclosed (string : JavaString) : Prop :=
  ∃ quote inner, isQuote quote = true ∧ string = quote :: (inner ++ [quote])

/-- A string without the pair of equal quotes around it, if there is one. -/
def Stripped (string stripped : JavaString) : Prop :=
  (∃ quote, isQuote quote = true ∧ string = quote :: (stripped ++ [quote]))
  ∨ ¬ Enclosed string ∧ string = stripped

/-- A token that names an option. -/
def IsName (token : JavaString) : Prop := [dash] <+: trim token ∧ 2 ≤ (trim token).length

/-- Tokens in pairs, the first of each a name. -/
def Grammatical (tokens : List JavaString) : Prop :=
  Even tokens.length ∧ ∀ k token, tokens[2 * k]? = some token → IsName token

/-- No token at an even position gives this name. -/
def Unnamed (tokens : List JavaString) (name : JavaString) : Prop :=
  ∀ k token, tokens[2 * k]? = some token → trim token ≠ dash :: name

/-- The last value token given for a name. -/
def LastValue (tokens : List JavaString) (name value : JavaString) : Prop :=
  ∃ k token,
    tokens[2 * k]? = some token
    ∧ trim token = dash :: name
    ∧ tokens[2 * k + 1]? = some value
    ∧ ∀ later token, k < later → tokens[2 * later]? = some token → trim token ≠ dash :: name

/-- What a name maps to. -/
def Assigned (tokens : List JavaString) (name value : JavaString) : Prop :=
  ∃ written, LastValue tokens name written ∧ Stripped (trim written) value

/-- The code's test for a pair of equal quotes. Witness: the first and the last character of a
string that has both.
-/
theorem unquote_cons (first last : JavaChar) (inner : JavaString)
    : unquote (first :: (inner ++ [last]))
      = if first = last ∧ isQuote first = true then .ok inner
        else .ok (first :: (inner ++ [last])) := by
  have long : ¬ (first :: (inner ++ [last])).length < 2 := by
    simp
  have head : charAt (first :: (inner ++ [last])) 0 = .ok first := rfl
  have tail
      : charAt (first :: (inner ++ [last])) ((first :: (inner ++ [last])).length - 1)
        = .ok last := by
    simp [charAt]
  have between
      : substring (first :: (inner ++ [last])) 1 ((first :: (inner ++ [last])).length - 1)
        = .ok inner := by
    simp [substring]
  have quotes
      : (first = doubleQuote ∧ last = doubleQuote) ∨ (first = singleQuote ∧ last = singleQuote)
        ↔ first = last ∧ isQuote first = true := by
    simp only [isQuote, decide_eq_true_eq]
    grind
  rw [unquote, if_neg long, head, tail, between]
  change (if _ then _ else _) = _
  rw [if_congr quotes rfl rfl]
  rfl

/-- A string that is enclosed in equal quotes loses them. -/
theorem unquote_of_enclosed {quote : JavaChar} (quotes : isQuote quote = true)
    (inner : JavaString)
    : unquote (quote :: (inner ++ [quote])) = .ok inner := by
  rw [unquote_cons, if_pos ⟨rfl, quotes⟩]

/-- A string that is not enclosed in equal quotes is left as it is. Witness: the empty string,
a single character, and a first and last one that differ or are no quotes.
-/
theorem unquote_of_bare {string : JavaString} (bare : ¬ Enclosed string)
    : unquote string = .ok string := by
  obtain _ | ⟨first, rest⟩ := string
  · rfl
  obtain rfl | ⟨inner, last, rfl⟩ := rest.eq_nil_or_concat'
  · rfl
  · rw [unquote_cons, if_neg]
    rintro ⟨rfl, quotes⟩
    exact bare ⟨first, inner, quotes, rfl⟩

/-- `unquote` strips a string: it never throws, and its result is the only stripped string.
Witness: whether the string is enclosed.
-/
theorem unquote_eq (string : JavaString)
    : ∃ unquoted,
        unquote string = .ok unquoted
        ∧ ∀ stripped, Stripped string stripped ↔ stripped = unquoted := by
  by_cases enclosed : Enclosed string
  · obtain ⟨quote, inner, quotes, rfl⟩ := enclosed
    refine ⟨inner, unquote_of_enclosed quotes inner, fun stripped => ⟨?_, ?_⟩⟩
    · rintro (⟨other, -, same⟩ | ⟨bare, -⟩)
      · exact (List.append_inj_left' (List.cons.inj same).2 rfl).symm
      · exact absurd ⟨quote, inner, quotes, rfl⟩ bare
    · rintro rfl
      exact .inl ⟨quote, quotes, rfl⟩
  · refine ⟨string, unquote_of_bare enclosed, fun stripped => ⟨?_, ?_⟩⟩
    · rintro (⟨quote, quotes, same⟩ | ⟨-, same⟩)
      · exact absurd ⟨quote, stripped, quotes, same⟩ enclosed
      · exact same.symm
    · rintro rfl
      exact .inr ⟨enclosed, rfl⟩

section Pairs

variable {name value first second : JavaString} {rest : List JavaString}

/-- What holds of all tokens at even positions holds of the first one and of those behind the
second. Witness: the positions behind are two less.
-/
theorem forall_even_cons_cons {property : JavaString → Prop}
    : (∀ k token, (first :: second :: rest)[2 * k]? = some token → property token)
      ↔ property first ∧ ∀ k token, rest[2 * k]? = some token → property token := by
  constructor
  · intro all
    exact ⟨all 0 first rfl, fun k token found => all (k + 1) token (by simpa [Nat.mul_succ])⟩
  · rintro ⟨one, others⟩ (_ | k) token found
    · simp only [Nat.mul_zero, List.getElem?_cons_zero, Option.some.injEq] at found
      exact found ▸ one
    · exact others k token (by simpa [Nat.mul_succ] using found)

/-- No tokens are grammatical. -/
theorem grammatical_nil : Grammatical [] := by
  simp [Grammatical]

/-- A single token is not: its value is missing. -/
theorem not_grammatical_singleton : ¬ Grammatical [first] := by
  rintro ⟨even, -⟩
  simp at even

/-- A pair before further tokens needs a name in front, and nothing else. Witness: the parity
of the length, and the names behind.
-/
theorem grammatical_cons_cons
    : Grammatical (first :: second :: rest) ↔ IsName first ∧ Grammatical rest := by
  have parity : Even (first :: second :: rest).length ↔ Even rest.length := by
    simp [Nat.even_add_one]
  rw [Grammatical, Grammatical, forall_even_cons_cons, parity]
  tauto

/-- Among no tokens no name is given. -/
theorem unnamed_nil : Unnamed [] name := by
  simp [Unnamed]

/-- A name is not given if the first token of the pair does not give it and none behind does.
-/
theorem unnamed_cons_cons
    : Unnamed (first :: second :: rest) name ↔ trim first ≠ dash :: name ∧ Unnamed rest name :=
  forall_even_cons_cons

/-- The last value of a name is that of the tokens behind, or the first pair's if none behind
gives the name. Witness: the position of the token that gives it.
-/
theorem lastValue_cons_cons
    : LastValue (first :: second :: rest) name value
      ↔ LastValue rest name value
        ∨ Unnamed rest name ∧ trim first = dash :: name ∧ value = second := by
  constructor
  · rintro ⟨_ | k, token, found, named, next, last⟩
    · simp only [Nat.mul_zero, List.getElem?_cons_zero, Option.some.injEq] at found
      simp only [Nat.mul_zero, Nat.zero_add, List.getElem?_cons_succ, List.getElem?_cons_zero,
        Option.some.injEq] at next
      refine .inr ⟨fun later other given => ?_, found ▸ named, next.symm⟩
      exact last (later + 1) other (by omega) (by simpa [Nat.mul_succ] using given)
    · refine .inl ⟨k, token, by simpa [Nat.mul_succ] using found, named,
        by simpa [Nat.mul_succ] using next, fun later other after given => ?_⟩
      exact last (later + 1) other (by omega) (by simpa [Nat.mul_succ] using given)
  · rintro (⟨k, token, found, named, next, last⟩ | ⟨unnamed, named, rfl⟩)
    · refine ⟨k + 1, token, by simpa [Nat.mul_succ] using found, named,
        by simpa [Nat.mul_succ] using next, ?_⟩
      rintro (_ | later) other after given
      · omega
      · exact last later other (by omega) (by simpa [Nat.mul_succ] using given)
    · refine ⟨0, first, rfl, named, rfl, ?_⟩
      rintro (_ | later) other after given
      · omega
      · exact unnamed later other (by simpa [Nat.mul_succ] using given)

/-- No tokens assign anything. -/
theorem not_assigned_nil : ¬ Assigned [] name value := by
  rintro ⟨written, ⟨k, token, found, -⟩, -⟩
  simp at found

/-- A value is assigned by the tokens behind, or by the first pair, stripped, if none behind
gives its name.
-/
theorem assigned_cons_cons
    : Assigned (first :: second :: rest) name value
      ↔ Assigned rest name value
        ∨ Unnamed rest name ∧ trim first = dash :: name ∧ Stripped (trim second) value := by
  simp only [Assigned, lastValue_cons_cons]
  grind

end Pairs

/-- What `toMap` makes of the tokens left, given the map so far. -/
def Maps (tokens : List JavaString) (argumentsMap : ArgumentsMap)
    : Except Thrown ArgumentsMap → Prop
  | .ok result =>
      Grammatical tokens
      ∧ ∀ name value,
          result name = some value
          ↔ Assigned tokens name value ∨ Unnamed tokens name ∧ argumentsMap name = some value
  | .error thrown => ¬ Grammatical tokens ∧ ∃ message, thrown = .illegalArgument message

/-- A pair that names an option leaves the rest of the work to the tokens after it. Witness:
the value of the pair stands where none of them gives its name.
-/
theorem Maps.pair {first second name unquoted : JavaString} {rest : List JavaString}
    {argumentsMap : ArgumentsMap} {result : Except Thrown ArgumentsMap}
    (named : trim first = dash :: name) (nonempty : name ≠ [])
    (strips : ∀ stripped, Stripped (trim second) stripped ↔ stripped = unquoted)
    (maps : Maps rest (Function.update argumentsMap name (some unquoted)) result)
    : Maps (first :: second :: rest) argumentsMap result := by
  have isName : IsName first := by
    obtain _ | ⟨letter, others⟩ := name
    · exact absurd rfl nonempty
    · simp [IsName, named]
  cases result with
  | error thrown =>
      refine ⟨fun grammatical => maps.1 (grammatical_cons_cons.mp grammatical).2, maps.2⟩
  | ok result =>
      refine ⟨grammatical_cons_cons.mpr ⟨isName, maps.1⟩, fun other value => ?_⟩
      rw [maps.2, assigned_cons_cons, unnamed_cons_cons, named, strips]
      by_cases same : other = name
      · subst same
        simp only [Function.update_self, Option.some.injEq, true_and]
        grind
      · rw [Function.update_of_ne same]
        grind

/-- The loop from an even position on reads the tokens from there on. Witness: by induction on
the tokens left, two at a time.
-/
theorem toMapFrom_maps {parsedArg rest : List JavaString} {i : Nat}
    (left : parsedArg.drop i = rest) (argumentsMap : ArgumentsMap)
    : Maps rest argumentsMap (toMapFrom parsedArg i argumentsMap) := by
  have size : rest.length = parsedArg.length - i := by
    rw [← left, List.length_drop]
  have same (k : Nat) : parsedArg[i + k]? = rest[k]? := by
    rw [← left, List.getElem?_drop]
  induction rest using List.twoStepInduction generalizing i argumentsMap with
  | nil =>
      have past : ¬ i < parsedArg.length := by
        simp only [List.length_nil] at size
        omega
      rw [toMapFrom, if_neg past]
      exact ⟨grammatical_nil, fun name value => by simp [not_assigned_nil, unnamed_nil]⟩
  | singleton first =>
      have inside : i < parsedArg.length := by
        simp only [List.length_singleton] at size
        omega
      have last : i = parsedArg.length - 1 := by
        simp only [List.length_singleton] at size
        omega
      have found : listGet parsedArg i = .ok first := by
        simp [listGet, show parsedArg[i]? = some first from same 0]
      rw [toMapFrom, if_pos inside, found]
      simp only [bind, Except.bind, if_pos last]
      exact ⟨not_grammatical_singleton, _, rfl⟩
  | cons_cons first second rest ih _ =>
      have inside : i < parsedArg.length := by
        simp only [List.length_cons] at size
        omega
      have notLast : i ≠ parsedArg.length - 1 := by
        simp only [List.length_cons] at size
        omega
      have found : listGet parsedArg i = .ok first := by
        simp [listGet, show parsedArg[i]? = some first from same 0]
      have next : listGet parsedArg (i + 1) = .ok second := by
        simp [listGet, show parsedArg[i + 1]? = some second from same 1]
      have after : parsedArg.drop (i + 2) = rest := by
        rw [← List.drop_drop, left]
        rfl
      have refused (nameless : ¬ IsName first) : ¬ Grammatical (first :: second :: rest) :=
        fun grammatical => nameless (grammatical_cons_cons.mp grammatical).1
      rw [toMapFrom, if_pos inside, found]
      simp only [bind, Except.bind, if_neg notLast]
      split
      · exact ⟨refused (fun isName => absurd isName.1 ‹_›), _, rfl⟩
      split
      · exact ⟨refused (fun isName => absurd isName.2 (Nat.not_le.mpr ‹_›)), _, rfl⟩
      rename_i dashed long
      obtain ⟨name, named⟩ := not_not.mp dashed
      have nonempty : name ≠ [] := by
        rintro rfl
        simp [← named] at long
      obtain ⟨unquoted, computed, strips⟩ := unquote_eq (trim second)
      have cut : substring (trim first) 1 (trim first).length = .ok name := by
        simp [substring, ← named]
      simp only [next, computed, cut]
      exact .pair named.symm nonempty strips
        (ih after _ (by rw [← after, List.length_drop])
          (fun k => by rw [← after, List.getElem?_drop]))

/-- The constructor of `ArgumentParser` reads the tokens; its loop starts with no value and at
the first token.
-/
theorem argumentParser_maps (rawArguments : JavaString)
    : Maps (tokens rawArguments) (fun _ => none)
        ((ArgumentParser.new rawArguments).map ArgumentParser.argumentsMap) := by
  have read := toMapFrom_maps (List.drop_zero (l := tokens rawArguments)) (fun _ => none)
  rw [ArgumentParser.new, toMap, splitIgnoringQuotes_eq]
  cases computed : toMapFrom (tokens rawArguments) 0 (fun _ => none) <;>
    simpa [computed, bind, Except.bind, Except.map, pure, Except.pure] using read

-----------------------------------------------------------------------------------------
-- Exceptions
-----------------------------------------------------------------------------------------

/-- Whatever is thrown is an `IllegalArgumentException`. -/
def Refuses {α : Type} (result : Except Thrown α) : Prop :=
  ∀ thrown, result = .error thrown → thrown.IsIllegalArgument

/-- A result throws nothing. -/
theorem Refuses.ok {α : Type} (value : α) : Refuses (.ok value : Except Thrown α) := by
  intro thrown same
  cases same

/-- An illegal argument is one of the exceptions that are allowed. -/
theorem Refuses.illegalArgument {α : Type} (message : JavaString)
    : Refuses (.error (.illegalArgument message) : Except Thrown α) := by
  intro thrown same
  cases same
  trivial

/-- A sequence throws what its parts throw, so nothing else where neither does. -/
theorem Refuses.bind {α β : Type} {result : Except Thrown α} {next : α → Except Thrown β}
    (first : Refuses result) (rest : ∀ value, Refuses (next value))
    : Refuses (result >>= next) := by
  cases result with
  | ok value => exact rest value
  | error thrown =>
      intro other same
      cases same
      exact first thrown rfl

/-- `parseInt` throws nothing but its format exception, by the branches of the parser. -/
theorem parseInt_refuses (string : JavaString) : Refuses (parseInt string) := by
  intro thrown same
  unfold parseInt at same
  split at same
  · split at same <;> cases same
    trivial
  · cases same
    trivial

/-- `parseLong` throws nothing but its format exception, by the branches of the parser. -/
theorem parseLong_refuses (string : JavaString) : Refuses (parseLong string) := by
  intro thrown same
  unfold parseLong at same
  split at same
  · split at same <;> cases same
    trivial
  · cases same
    trivial

section Getters

variable (arguments : ArgumentParser) (argument : JavaString)

/-- Looking an option up throws nothing but an illegal argument, for a name that begins with a
dash or has spaces around it.
-/
theorem getStringArgumentRaw_refuses : Refuses (arguments.getStringArgumentRaw argument) := by
  unfold ArgumentParser.getStringArgumentRaw
  simp only [bind, Except.bind, pure]
  split
  · exact .illegalArgument _
  · split
    · exact .illegalArgument _
    · exact .ok _

/-- The getter for a string throws nothing but an illegal argument, also where there is no
value.
-/
theorem getStringArgument_refuses : Refuses (arguments.getStringArgument argument) := by
  refine .bind (getStringArgumentRaw_refuses _ _) fun value => ?_
  cases value with
  | none => exact .illegalArgument _
  | some value => exact .ok _

/-- The getter for an integer throws nothing but an illegal argument and a format exception.
-/
theorem getIntArgument_refuses : Refuses (arguments.getIntArgument argument) := by
  refine .bind (getStringArgumentRaw_refuses _ _) fun value => ?_
  cases value with
  | none => exact .illegalArgument _
  | some value => exact parseInt_refuses _

/-- The getter for an integer with a default throws nothing else either; without a value it
has the default.
-/
theorem getIntArgumentOrDefault_refuses (defValue : Int32)
    : Refuses (arguments.getIntArgumentOrDefault argument defValue) := by
  refine .bind (getStringArgumentRaw_refuses _ _) fun value => ?_
  cases value with
  | none => exact .ok _
  | some value => exact parseInt_refuses _

/-- The getter for a long with a default throws nothing else either; without a value it has
the default.
-/
theorem getLongArgumentOrDefault_refuses (defValue : Int64)
    : Refuses (arguments.getLongArgumentOrDefault argument defValue) := by
  refine .bind (getStringArgumentRaw_refuses _ _) fun value => ?_
  cases value with
  | none => exact .ok _
  | some value => exact parseLong_refuses _

end Getters

/-- The length check throws illegal arguments only. Witness: its two branches. -/
theorem stringLessThan_refuses (string : JavaString) (max_length : Nat)
    : Refuses (stringLessThan string max_length) := by
  unfold stringLessThan
  split
  · exact .illegalArgument _
  · exact .ok _

/-- The parser throws illegal arguments only. Witness: `argumentParser_maps` names the
exception.
-/
theorem argumentParser_refuses (rawArguments : JavaString)
    : Refuses (ArgumentParser.new rawArguments) := by
  intro thrown same
  have maps := argumentParser_maps rawArguments
  rw [same] at maps
  obtain ⟨-, message, rfl⟩ := maps
  trivial

/-- `fromString` throws nothing but `IllegalArgumentException`. -/
theorem fromString_refuses (arguments : JavaString)
    : Refuses (SdrTcpArguments.fromString arguments) := by
  refine .bind (argumentParser_refuses arguments) fun parser => ?_
  refine .bind (getIntArgumentOrDefault_refuses _ _ _) fun gain => ?_
  refine .bind (getLongArgumentOrDefault_refuses _ _ _) fun samplerateHz => ?_
  refine .bind (getLongArgumentOrDefault_refuses _ _ _) fun frequencyHz => ?_
  refine .bind (getStringArgument_refuses _ _) fun written => ?_
  refine .bind (stringLessThan_refuses _ _) fun address => ?_
  refine .bind (getIntArgument_refuses _ _) fun port => ?_
  refine .bind (getIntArgumentOrDefault_refuses _ _ _) fun ppm => ?_
  refine .bind (getIntArgumentOrDefault_refuses _ _ _) fun biast => ?_
  exact .ok _

/-- A string is accepted exactly when its tokens come in pairs that begin with a name; then
every name maps to its last value without the quotes around it. Every other string is refused
with an `IllegalArgumentException`, and `fromString` throws no other exception.
-/
theorem argument_grammar (string : JavaString)
    : (Grammatical (tokens string)
        → ∃ parser,
            ArgumentParser.new string = .ok parser
            ∧ ∀ name value,
                parser.argumentsMap name = some value ↔ Assigned (tokens string) name value)
      ∧ (¬ Grammatical (tokens string)
        → ∃ message, ArgumentParser.new string = .error (.illegalArgument message))
      ∧ ((∃ arguments, SdrTcpArguments.fromString string = .ok arguments)
        ∨ (∃ message, SdrTcpArguments.fromString string = .error (.illegalArgument message))
        ∨ ∃ input, SdrTcpArguments.fromString string = .error (.numberFormat input)) := by
  have maps := argumentParser_maps string
  refine ⟨fun grammatical => ?_, fun ungrammatical => ?_, ?_⟩
  · cases parsed : ArgumentParser.new string with
    | ok parser =>
        rw [parsed] at maps
        exact ⟨parser, rfl, fun name value => by simpa using maps.2 name value⟩
    | error thrown =>
        rw [parsed] at maps
        exact absurd grammatical maps.1
  · cases parsed : ArgumentParser.new string with
    | ok parser =>
        rw [parsed] at maps
        exact absurd maps.1 ungrammatical
    | error thrown =>
        rw [parsed] at maps
        obtain ⟨-, message, rfl⟩ := maps
        exact ⟨message, rfl⟩
  · cases parsed : SdrTcpArguments.fromString string with
    | ok arguments => exact .inl ⟨arguments, rfl⟩
    | error thrown =>
        have refused := fromString_refuses string thrown parsed
        cases thrown with
        | illegalArgument message => exact .inr (.inl ⟨message, rfl⟩)
        | numberFormat input => exact .inr (.inr ⟨input, rfl⟩)
        | indexOutOfBounds => exact refused.elim

end RtlTcpAndro.SdrDriverTools
