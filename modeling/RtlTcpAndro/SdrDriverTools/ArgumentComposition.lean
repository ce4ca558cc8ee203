import RtlTcpAndro.SdrDriverTools.ArgumentGrammar

/-! Argument strings one after the other. A string that leaves no quote open is a string of
whole tokens, so the tokens after the next space are those of what follows.
-/

namespace RtlTcpAndro.SdrDriverTools

open RtlTcpAndro.JavaLang RtlTcpAndro.QuotedWords

/-- A run of spaces. -/
def spaces (n : Nat) : JavaString := List.replicate n space

/-- Every quote that begins a run is followed by the quote that ends it. -/
def LeavesNoQuoteOpen (string : JavaString) : Prop := openQuote isQuote string = none

instance (string : JavaString) : Decidable (LeavesNoQuoteOpen string) :=
  inferInstanceAs (Decidable (openQuote isQuote string = none))

/-- Two strings joined by spaces, the first with no quote open, have the tokens of both.
Witness: `words_append`.
-/
theorem tokens_append {first : JavaString} (closed : LeavesNoQuoteOpen first) {n : Nat}
    (positive : 1 ≤ n) (second : JavaString)
    : tokens (first ++ spaces n ++ second) = tokens first ++ tokens second := by
  obtain ⟨gap, rfl⟩ := Nat.exists_eq_add_of_le' positive
  exact words_append isQuote_space gap closed second

-----------------------------------------------------------------------------------------
-- Options of two lists of tokens
-----------------------------------------------------------------------------------------

section Options

variable {first second : List JavaString} {name value : JavaString}

/-- Two grammatical lists of tokens are grammatical together. Witness: induction on the first,
two tokens at a time.
-/
theorem Grammatical.append (whole : Grammatical first) (next : Grammatical second)
    : Grammatical (first ++ second) := by
  induction first using List.twoStepInduction with
  | nil => exact next
  | singleton token => exact absurd whole not_grammatical_singleton
  | cons_cons token written rest ih _ =>
      obtain ⟨isName, others⟩ := grammatical_cons_cons.mp whole
      exact grammatical_cons_cons.mpr ⟨isName, ih others⟩

/-- A name occurs in neither list just when it does not occur in both joined. Witness:
induction on the first, two tokens at a time.
-/
theorem unnamed_append (whole : Grammatical first)
    : Unnamed (first ++ second) name ↔ Unnamed first name ∧ Unnamed second name := by
  induction first using List.twoStepInduction with
  | nil => simp [unnamed_nil]
  | singleton token => exact absurd whole not_grammatical_singleton
  | cons_cons token written rest ih _ =>
      have others := (grammatical_cons_cons.mp whole).2
      rw [List.cons_append, List.cons_append, unnamed_cons_cons, unnamed_cons_cons, ih others,
        and_assoc]

/-- A name keeps its value from the first list unless the second names it. -/
theorem assigned_append (whole : Grammatical first)
    : Assigned (first ++ second) name value
      ↔ Assigned second name value ∨ Unnamed second name ∧ Assigned first name value := by
  induction first using List.twoStepInduction with
  | nil => simp [not_assigned_nil]
  | singleton token => exact absurd whole not_grammatical_singleton
  | cons_cons token written rest ih _ =>
      have others := (grammatical_cons_cons.mp whole).2
      rw [List.cons_append, List.cons_append, assigned_cons_cons, assigned_cons_cons, ih others,
        unnamed_append others]
      tauto

/-- A name that does not occur has no value. Witness: an assignment names it. -/
theorem Unnamed.not_assigned (unnamed : Unnamed first name) : ¬ Assigned first name value := by
  rintro ⟨written, ⟨k, token, found, named, -⟩, -⟩
  exact unnamed k token found named

/-- In a grammatical list a name has a value or does not occur. Witness: induction on the
list, two tokens at a time.
-/
theorem Grammatical.assigned_or_unnamed (whole : Grammatical first) (name : JavaString)
    : (∃ value, Assigned first name value) ∨ Unnamed first name := by
  induction first using List.twoStepInduction with
  | nil => exact .inr unnamed_nil
  | singleton token => exact absurd whole not_grammatical_singleton
  | cons_cons token written rest ih _ =>
      obtain ⟨value, assigned⟩ | unnamed := ih (grammatical_cons_cons.mp whole).2
      · exact .inl ⟨value, assigned_cons_cons.mpr (.inl assigned)⟩
      · by_cases named : trim token = dash :: name
        · obtain ⟨unquoted, -, strips⟩ := unquote_eq (trim written)
          have stripped := (strips unquoted).mpr rfl
          exact .inl ⟨unquoted, assigned_cons_cons.mpr (.inr ⟨unnamed, named, stripped⟩)⟩
        · exact .inr (unnamed_cons_cons.mpr ⟨named, unnamed⟩)

end Options

-----------------------------------------------------------------------------------------
-- Options of two strings
-----------------------------------------------------------------------------------------

/-- A parser's options, by the tokens it has read. -/
theorem argumentsMap_iff {string : JavaString} {parser : ArgumentParser}
    (parsed : ArgumentParser.new string = .ok parser)
    : Grammatical (tokens string)
      ∧ ∀ name value,
          parser.argumentsMap name = some value ↔ Assigned (tokens string) name value := by
  have maps := argumentParser_maps string
  rw [parsed] at maps
  exact ⟨maps.1, fun name value => by simpa using maps.2 name value⟩

/-- A grammatical string parses. Witness: the parser's errors come with no grammatical list.
-/
theorem parses_of_grammatical {string : JavaString} (grammatical : Grammatical (tokens string))
    : ∃ parser, ArgumentParser.new string = .ok parser := by
  have maps := argumentParser_maps string
  cases parsed : ArgumentParser.new string with
  | ok parser => exact ⟨parser, rfl⟩
  | error thrown =>
      rw [parsed] at maps
      exact absurd grammatical maps.1

/-- The parser of two strings prefers what the second one says. -/
theorem argumentsMap_append {first second whole : JavaString} {one other : ArgumentParser}
    (joined : tokens whole = tokens first ++ tokens second)
    (parsed : ArgumentParser.new first = .ok one)
    (following : ArgumentParser.new second = .ok other)
    : ∃ both,
        ArgumentParser.new whole = .ok both
        ∧ both.argumentsMap
          = fun name => (other.argumentsMap name).or (one.argumentsMap name) := by
  obtain ⟨begins, given⟩ := argumentsMap_iff parsed
  obtain ⟨ends, overriding⟩ := argumentsMap_iff following
  obtain ⟨both, read⟩ := parses_of_grammatical (joined ▸ begins.append ends)
  have options := (argumentsMap_iff read).2
  refine ⟨both, read, funext fun name => Option.ext fun value => ?_⟩
  rw [options, joined, assigned_append begins]
  obtain ⟨last, assigned⟩ | unnamed := ends.assigned_or_unnamed name
  · have named : ¬ Unnamed (tokens second) name := fun unnamed => unnamed.not_assigned assigned
    rw [(overriding name last).mpr assigned, Option.some_or, ← (overriding name last).mpr assigned,
      overriding]
    simp [named]
  · have missing : other.argumentsMap name = none := by
      cases found : other.argumentsMap name with
      | none => rfl
      | some last => exact absurd ((overriding name last).mp found) unnamed.not_assigned
    rw [missing, Option.none_or, given]
    simp [unnamed, unnamed.not_assigned]

/-- Argument strings compose over any run of spaces, and the length of the run does not matter
to the tokens or to what the constructor returns or throws.
-/
theorem arguments_compose (a b : JavaString) (n : Nat) (closed : LeavesNoQuoteOpen a)
    (positive : 1 ≤ n)
    : splitIgnoringQuotes (a ++ spaces n ++ b) = splitIgnoringQuotes a ++ splitIgnoringQuotes b
      ∧ (∀ one other,
          ArgumentParser.new a = .ok one
          → ArgumentParser.new b = .ok other
          → ∃ both,
              ArgumentParser.new (a ++ spaces n ++ b) = .ok both
              ∧ both.argumentsMap
                = fun name => (other.argumentsMap name).or (one.argumentsMap name))
      ∧ ∀ m,
          1 ≤ m
          → splitIgnoringQuotes (a ++ spaces m ++ b) = splitIgnoringQuotes (a ++ spaces n ++ b)
            ∧ ArgumentParser.new (a ++ spaces m ++ b)
              = ArgumentParser.new (a ++ spaces n ++ b) := by
  have joined := tokens_append closed positive b
  refine ⟨?_, fun one other => argumentsMap_append joined, fun m another => ?_⟩
  · simp only [splitIgnoringQuotes_eq, joined]
  · have same
        : splitIgnoringQuotes (a ++ spaces m ++ b)
          = splitIgnoringQuotes (a ++ spaces n ++ b) := by
      simp only [splitIgnoringQuotes_eq, joined, tokens_append closed another b]
    refine ⟨same, ?_⟩
    rw [ArgumentParser.new, ArgumentParser.new, toMap, toMap, same]

/-- A value of two words, three spaces and an option that both strings give. -/
theorem arguments_compose_over_three_spaces
    : splitIgnoringQuotes (text "-a '1 2'" ++ spaces 3 ++ text "-a 4")
        = [text "-a", text "1 2", text "-a", text "4"]
      ∧ (∃ one other both,
        ArgumentParser.new (text "-a '1 2'") = .ok one
        ∧ ArgumentParser.new (text "-a 4") = .ok other
        ∧ ArgumentParser.new (text "-a '1 2'" ++ spaces 3 ++ text "-a 4") = .ok both
        ∧ both.argumentsMap = fun name => (other.argumentsMap name).or (one.argumentsMap name))
      ∧ splitIgnoringQuotes (text "-a '1 2'" ++ spaces 1 ++ text "-a 4")
        = splitIgnoringQuotes (text "-a '1 2'" ++ spaces 3 ++ text "-a 4") := by
  obtain ⟨split, parse, same⟩ :=
    arguments_compose (text "-a '1 2'") (text "-a 4") 3 (by decide) (by decide)
  have isName : IsName (text "-a") := by
    unfold IsName
    decide
  have grammatical (written : JavaString) : Grammatical [text "-a", written] :=
    grammatical_cons_cons.mpr ⟨isName, grammatical_nil⟩
  obtain ⟨one, begins⟩ : ∃ one, ArgumentParser.new (text "-a '1 2'") = .ok one := by
    refine parses_of_grammatical ?_
    rw [← splitIgnoringQuotes_eq]
    exact grammatical (text "1 2")
  obtain ⟨other, ends⟩ : ∃ other, ArgumentParser.new (text "-a 4") = .ok other := by
    refine parses_of_grammatical ?_
    rw [← splitIgnoringQuotes_eq]
    exact grammatical (text "4")
  obtain ⟨both, read, options⟩ := parse one other begins ends
  exact ⟨split, ⟨one, other, both, begins, ends, read, options⟩, (same 1 (by decide)).1⟩

end RtlTcpAndro.SdrDriverTools
