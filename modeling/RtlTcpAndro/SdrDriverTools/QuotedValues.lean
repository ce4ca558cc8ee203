import RtlTcpAndro.SdrDriverTools.OptionPairs

/-! Options written with quoted values. The tokens carry what stands between the quotes, but
an empty value leaves no token, and `toMap` trims a value and strips it once more.
-/

namespace RtlTcpAndro.SdrDriverTools

open RtlTcpAndro.JavaLang RtlTcpAndro.QuotedWords

/-- An option with a value in quotes. -/
structure QuotedOption where
  name : JavaString
  quote : JavaChar
  value : JavaString
  deriving DecidableEq, Repr

namespace QuotedOption

/-- A name that stands for itself and a value without the quote around it. -/
structure Sound (option : QuotedOption) : Prop where
  plain : Plain option.name
  quotes : isQuote option.quote = true
  absent : option.quote ∉ option.value

/-- The option as it is written. -/
def stretches (option : QuotedOption) : List JavaString :=
  [dash :: option.name, option.quote :: option.value ++ [option.quote]]

/-- What the tokens say of the option. -/
def pair (option : QuotedOption) : JavaString × JavaString := (option.name, option.value)

/-- A value that is not empty, has nothing to trim and stands in no quotes of its own. -/
def Unaltered (option : QuotedOption) : Prop :=
  option.value ≠ [] ∧ trim option.value = option.value ∧ ¬ Enclosed option.value

end QuotedOption

/-- Every option has exactly the value written for it. -/
def TakenVerbatim (options : List QuotedOption) (string : JavaString) : Prop :=
  ∃ parser,
    ArgumentParser.new string = .ok parser
    ∧ ∀ option ∈ options, parser.getStringArgument option.name = .ok option.value

/-- A plain name's argument is the value in the map. Witness: the name is looked up as it
stands.
-/
theorem getStringArgument_eq_ok_iff {parser : ArgumentParser} {name value : JavaString}
    (plain : Plain name)
    : parser.getStringArgument name = .ok value ↔ parser.argumentsMap name = some value := by
  rw [ArgumentParser.getStringArgument, plain.getStringArgumentRaw]
  cases parser.argumentsMap name <;> simp [bind, Except.bind, pure, Except.pure, throw, throwThe,
    MonadExceptOf.throw]

section Tokens

variable {options : List QuotedOption}

/-- The tokens of options with quoted values: an empty value has none. -/
def quotedTokens (options : List QuotedOption) : List JavaString :=
  options.flatMap (fun option => (dash :: option.name) :: kept option.value)

/-- Options separated by spaces have their names and values for tokens. Witness: the stretches
contribute them one by one, by induction on the options.
-/
theorem tokens_of_spaced (sound : ∀ option ∈ options, option.Sound) {string : JavaString}
    (spaced : Spaced space (options.flatMap QuotedOption.stretches) string)
    : tokens string = quotedTokens options := by
  let contents := options.flatMap (fun option => [dash :: option.name, option.value])
  have contributed
      : List.Forall₂ (Contributes space isQuote) (options.flatMap QuotedOption.stretches)
          contents := by
    clear spaced
    induction options with
    | nil => exact .nil
    | cons option rest ih =>
        have first := sound option List.mem_cons_self
        exact .cons first.plain.contributes (.cons (.quoted first.quotes first.absent)
          (ih (fun other member => sound other (List.mem_cons_of_mem _ member))))
  rw [tokens, words_of_spaced isQuote_space spaced contributed, quotedTokens, List.flatMap_assoc]
  refine List.flatMap_congr fun option _ => ?_
  simp [kept]

/-- Without empty values the tokens are those of plain options. -/
theorem quotedTokens_eq (nonempty : ∀ option ∈ options, option.value ≠ [])
    : quotedTokens options = pairTokens (options.map QuotedOption.pair) := by
  rw [quotedTokens, pairTokens, List.flatMap_map]
  refine List.flatMap_congr fun option member => ?_
  simp [kept, QuotedOption.pair, nonempty option member]

/-- Two tokens one after the other: the second is a name, or the first is the name of its
option.
-/
def Adjacent (options : List QuotedOption) (first second : JavaString) : Prop :=
  (∃ option ∈ options, second = dash :: option.name)
  ∨ ∃ option ∈ options,
      first = dash :: option.name ∧ second = option.value ∧ option.value ≠ []

/-- Tokens follow one another so, by induction on the options left. -/
theorem isChain_quotedTokens {left : List QuotedOption} (among : left ⊆ options)
    (before : JavaString)
    : List.IsChain (Adjacent options) (before :: quotedTokens left) := by
  induction left generalizing before with
  | nil => exact .singleton before
  | cons option rest ih =>
      have member : option ∈ options := among List.mem_cons_self
      have others : rest ⊆ options := fun other later => among (List.mem_cons_of_mem _ later)
      by_cases empty : option.value = []
      · have shape
            : quotedTokens (option :: rest) = (dash :: option.name) :: quotedTokens rest := by
          simp [quotedTokens, kept, empty]
        rw [shape]
        exact .cons_cons (.inl ⟨option, member, rfl⟩) (ih others _)
      · have shape
            : quotedTokens (option :: rest)
              = (dash :: option.name) :: option.value :: quotedTokens rest := by
          simp [quotedTokens, kept, empty]
        rw [shape]
        exact .cons_cons (.inl ⟨option, member, rfl⟩)
          (.cons_cons (.inr ⟨option, member, rfl, rfl, empty⟩) (ih others _))

/-- The value a name maps to stands in a token after that name. -/
theorem Assigned.exists_adjacent {options : List QuotedOption} {name value : JavaString}
    (assigned : Assigned (quotedTokens options) name value)
    : ∃ first second,
        Adjacent options first second
        ∧ trim first = dash :: name
        ∧ Stripped (trim second) value := by
  obtain ⟨written, ⟨k, token, found, named, next, -⟩, stripped⟩ := assigned
  have chain := (isChain_quotedTokens (List.Subset.refl options) []).tail
  obtain ⟨_, here⟩ := List.getElem?_eq_some_iff.mp found
  obtain ⟨inside, there⟩ := List.getElem?_eq_some_iff.mp next
  have adjacent := List.isChain_iff_getElem.mp chain (2 * k) inside
  simp only [List.tail_cons, here, there] at adjacent
  exact ⟨token, written, adjacent, named, stripped⟩

end Tokens

/-- Only a string that is stripped and trimmed already stays what it is. -/
theorem unaltered_of_stripped {string : JavaString} (stripped : Stripped (trim string) string)
    : trim string = string ∧ ¬ Enclosed string := by
  have shorter := length_trim_le string
  obtain ⟨quote, -, same⟩ | ⟨bare, same⟩ := stripped
  · have longer : (trim string).length = string.length + 2 := by
      simp [same]
    omega
  · exact ⟨same, same ▸ bare⟩

/-- The name of an option is more than quotes. -/
theorem not_stripped_dash {name : JavaString} : ¬ Stripped (dash :: name) [] := by
  rintro (⟨quote, quotes, same⟩ | ⟨-, same⟩)
  · simp only [List.nil_append, List.cons.injEq] at same
    rw [← same.1] at quotes
    exact absurd quotes (by decide)
  · cases same

/-- The options that are read back exactly as they are written: no value is empty, has a blank
at an end or stands in quotes of the other kind, and equal names have equal values.
-/
theorem quoted_values_verbatim_iff {options : List QuotedOption}
    (sound : ∀ option ∈ options, option.Sound) {string : JavaString}
    (spaced : Spaced space (options.flatMap QuotedOption.stretches) string)
    : TakenVerbatim options string
      ↔ (∀ option ∈ options, option.Unaltered)
        ∧ ∀ option ∈ options, ∀ other ∈ options,
            option.name = other.name → option.value = other.value := by
  have maps := argumentParser_maps string
  rw [tokens_of_spaced sound spaced] at maps
  have plain : ∀ pair ∈ options.map QuotedOption.pair, Plain pair.1 := by
    intro pair among
    obtain ⟨option, member, rfl⟩ := List.mem_map.mp among
    exact (sound option member).plain
  constructor
  · rintro ⟨parser, parsed, taken⟩
    rw [parsed] at maps
    have mapped : ∀ option ∈ options, parser.argumentsMap option.name = some option.value :=
      fun option member => (getStringArgument_eq_ok_iff (sound option member).plain).mp
        (taken option member)
    have assigned : ∀ option ∈ options,
        Assigned (quotedTokens options) option.name option.value := by
      intro option member
      simpa using (maps.2 option.name option.value).mp (mapped option member)
    have consistent : ∀ option ∈ options, ∀ other ∈ options,
        option.name = other.name → option.value = other.value := by
      intro option member other among same
      have both := mapped option member
      rw [same, mapped other among] at both
      exact (Option.some.inj both).symm
    have nonempty : ∀ option ∈ options, option.value ≠ [] := by
      intro option member empty
      obtain ⟨first, second, adjacent, named, stripped⟩ := (assigned option member).exists_adjacent
      rw [empty] at stripped
      obtain ⟨other, among, rfl⟩ | ⟨other, among, rfl, rfl, filled⟩ := adjacent
      · rw [trim_dash (sound other among).plain.trimmed] at stripped
        exact absurd stripped not_stripped_dash
      · rw [trim_dash (sound other among).plain.trimmed, List.cons.injEq] at named
        exact filled ((consistent other among option member named.2).trans empty)
    refine ⟨fun option member => ⟨nonempty option member, ?_⟩, consistent⟩
    have found := assigned option member
    rw [quotedTokens_eq nonempty] at found
    obtain ⟨pair, among, named, stripped⟩ := found.exists_pair plain
    obtain ⟨other, listed, rfl⟩ := List.mem_map.mp among
    have same : other.value = option.value := consistent other listed option member named
    exact unaltered_of_stripped (by simpa [QuotedOption.pair, same] using stripped)
  · rintro ⟨unaltered, consistent⟩
    rw [quotedTokens_eq (fun option member => (unaltered option member).1)] at maps
    cases parsed : ArgumentParser.new string with
    | error thrown =>
        rw [parsed] at maps
        exact absurd (grammatical_pairTokens plain) maps.1
    | ok parser =>
        rw [parsed] at maps
        refine ⟨parser, parsed, fun option member => ?_⟩
        rw [getStringArgument_eq_ok_iff (sound option member).plain]
        refine (maps.2 option.name option.value).mpr (.inl ?_)
        refine assigned_of_forall_pairs plain
          ⟨option.pair, List.mem_map_of_mem member, rfl⟩ fun pair among named => ?_
        obtain ⟨other, listed, rfl⟩ := List.mem_map.mp among
        have same : other.value = option.value := consistent other listed option member named
        have ⟨_, trimmed, bare⟩ := unaltered option member
        rw [QuotedOption.pair, same, trimmed]
        exact .inr ⟨bare, rfl⟩

/-- A quote inside quotes of the other kind stays. -/
theorem quoted_value_with_inner_quotes
    : TakenVerbatim [⟨text "bc", singleQuote, text "hello \"world\""⟩]
        (text "-bc 'hello \"world\"'") := by
  refine (quoted_values_verbatim_iff ?_ (.cons _ 0 (.last _))).mpr ⟨?_, ?_⟩
  · simp only [List.mem_singleton, forall_eq]
    exact ⟨⟨by decide, forall_of_all (by decide), by decide⟩, by decide, by decide⟩
  · simp only [List.mem_singleton, forall_eq]
    refine ⟨by decide, by decide, ?_⟩
    rintro ⟨quote, inner, quotes, same⟩
    rw [← (List.cons.inj same).1] at quotes
    exact absurd quotes (by decide)
  · simp

/-- A value in quotes of its own, inside quotes of the other kind, loses its own. -/
theorem quoted_value_stripped_twice
    : ¬ TakenVerbatim [⟨text "a", singleQuote, text "\"x\""⟩] (text "-a '\"x\"'") := by
  rintro ⟨parser, parsed, taken⟩
  have read
      : (ArgumentParser.new (text "-a '\"x\"'") >>= (·.getStringArgument (text "a")))
        = .ok (text "x") := by
    decide +kernel
  rw [parsed] at read
  have verbatim := taken _ List.mem_cons_self
  exact absurd (read.symm.trans verbatim) (by decide)

end RtlTcpAndro.SdrDriverTools
