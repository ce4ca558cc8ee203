import RtlTcpAndro.SdrDriverTools.OptionPairs

/-! Startup options written one after the other, and what `SdrTcpArguments.fromString` reads. -/

namespace RtlTcpAndro.SdrDriverTools

open RtlTcpAndro.JavaLang RtlTcpAndro.QuotedWords

/-- The values someone starts a device with; the optional ones may be left out. -/
structure Startup where
  gain : Option Int32
  samplerateHz : Option Int64
  frequencyHz : Option Int64
  address : JavaString
  port : Int32
  ppm : Option Int32
  biast : Option Int32
  deriving DecidableEq, Repr

namespace Startup

/-- The options for the values, each with its name and its value in writing. -/
def pairs (startup : Startup) : List (JavaString × JavaString) :=
  (startup.gain.map (fun gain => (text "g", decimal gain.toInt))).toList
  ++ (startup.samplerateHz.map (fun rate => (text "s", decimal rate.toInt))).toList
  ++ (startup.frequencyHz.map (fun frequency => (text "f", decimal frequency.toInt))).toList
  ++ [(text "a", startup.address), (text "p", decimal startup.port.toInt)]
  ++ (startup.ppm.map (fun ppm => (text "P", decimal ppm.toInt))).toList
  ++ (startup.biast.map (fun biast => (text "T", decimal biast.toInt))).toList

/-- The fields these values stand for. -/
def arguments (startup : Startup) : SdrTcpArguments where
  gain := startup.gain.getD 24
  samplerateHz := startup.samplerateHz.getD 2048000
  frequencyHz := startup.frequencyHz.getD 100000000
  address := startup.address
  port := startup.port
  ppm := startup.ppm.getD 0
  biast := startup.biast.getD 0

end Startup

/-- An address of 1 to 256 characters without spaces and quotes, with no blank at an end. -/
structure Addressable (address : JavaString) : Prop where
  least : 1 ≤ address.length
  most : address.length ≤ 256
  free : ∀ character ∈ address, character ≠ space ∧ isQuote character = false
  first : ∀ character ∈ address.head?, space < character
  last : ∀ character ∈ address.getLast?, space < character

/-- An address that is asked for is a plain word: it has neither spaces nor quotes around it.
-/
theorem Addressable.plain {address : JavaString} (addressable : Addressable address)
    : Plain address where
  nonempty := List.ne_nil_of_length_pos addressable.least
  free := addressable.free
  trimmed := by
    have dark {character : JavaChar} (above : space < character) : blank character = false := by
      simpa [blank] using above
    exact trim_eq_self_iff.mpr ⟨fun character member => dark (addressable.first character member),
      fun character member => dark (addressable.last character member)⟩

/-- No digit and no sign separates, quotes or can be trimmed. -/
theorem plain_digitChar
    : ∀ digit < 10,
        (digitChar digit ≠ space ∧ isQuote (digitChar digit) = false)
        ∧ blank (digitChar digit) = false := by
  decide

/-- A string is plain when it separates, quotes and has to be trimmed nowhere. -/
theorem plain_of_forall {string : JavaString} (nonempty : string ≠ [])
    (dark : ∀ character ∈ string,
      (character ≠ space ∧ isQuote character = false) ∧ blank character = false)
    : Plain string where
  nonempty := nonempty
  free := fun character member => (dark character member).1
  trimmed := trim_eq_self_iff.mpr
    ⟨fun character first => (dark character (List.mem_of_mem_head? first)).2,
      fun character last => (dark character (List.mem_of_mem_getLast? last)).2⟩

/-- The decimal string of a number is a plain word: it has digits and a sign only. -/
theorem plain_decimal (value : Int) : Plain (decimal value) := by
  refine plain_of_forall (decimal_ne_nil value) fun character member => ?_
  obtain rfl | ⟨digit, small, rfl⟩ := mem_decimal member
  · decide
  · exact plain_digitChar digit small

/-- The names of the options are plain. -/
theorem plain_name : ∀ name ∈ ["g", "s", "f", "a", "p", "P", "T"], Plain (text name) := by
  have nonempty : ∀ name ∈ ["g", "s", "f", "a", "p", "P", "T"], text name ≠ [] := by decide
  have dark
      : ∀ name ∈ ["g", "s", "f", "a", "p", "P", "T"],
          (text name).all (fun character =>
            decide ((character ≠ space ∧ isQuote character = false) ∧ blank character = false))
          = true := by
    decide
  exact fun name member =>
    plain_of_forall (nonempty name member) (forall_of_all (dark name member))

/-- The tokens of plain options are their names and values. -/
theorem tokens_pairTokens {options : List (JavaString × JavaString)}
    (plain : ∀ pair ∈ options, Plain pair.1 ∧ Plain pair.2) {string : JavaString}
    (spaced : Spaced space (pairTokens options) string)
    : tokens string = pairTokens options := by
  have contributed
      : List.Forall₂ (Contributes space isQuote) (pairTokens options) (pairTokens options) := by
    clear spaced
    induction options with
    | nil => exact .nil
    | cons pair rest ih =>
        have ⟨name, value⟩ := plain pair List.mem_cons_self
        exact .cons name.contributes (.cons (.plain value.free)
          (ih (fun other member => plain other (List.mem_cons_of_mem _ member))))
  rw [tokens, words_of_spaced isQuote_space spaced contributed, pairTokens, List.flatMap_assoc]
  refine List.flatMap_congr fun pair member => ?_
  simp [kept, (plain pair member).2.nonempty]

section Reading

variable {options : List (JavaString × JavaString)} {parser : ArgumentParser}

/-- The option of a name is found again wherever it stands. -/
theorem argumentsMap_eq (plain : ∀ pair ∈ options, Plain pair.1 ∧ Plain pair.2)
    (reads : ∀ name value,
      parser.argumentsMap name = some value ↔ Assigned (pairTokens options) name value)
    {name : JavaString} {given : Option JavaString}
    (only : ∀ written, (name, written) ∈ options ↔ given = some written)
    : parser.argumentsMap name = given := by
  have names : ∀ pair ∈ options, Plain pair.1 := fun pair member => (plain pair member).1
  refine Option.ext fun value => ?_
  rw [reads, ← only]
  constructor
  · intro assigned
    obtain ⟨⟨_, written⟩, member, rfl, stripped⟩ := assigned.exists_pair names
    rw [(plain _ member).2.stripped_iff] at stripped
    exact stripped ▸ member
  · intro member
    refine assigned_of_forall_pairs names ⟨_, member, rfl⟩ ?_
    rintro ⟨_, written⟩ listed rfl
    have same : given = some written := (only written).mp listed
    rw [(plain _ listed).2.stripped_iff]
    exact Option.some.inj (((only value).mp member).symm.trans same)

variable {name : JavaString}

/-- The getter for an integer with a default gives back what was given, or the default.
Witness: the decimal string of the integer is parsed back.
-/
theorem getIntArgumentOrDefault_eq (plain : Plain name) {given : Option Int32}
    (found : parser.argumentsMap name = given.map (fun value => decimal value.toInt))
    (defValue : Int32)
    : parser.getIntArgumentOrDefault name defValue = .ok (given.getD defValue) := by
  rw [ArgumentParser.getIntArgumentOrDefault, plain.getStringArgumentRaw, found]
  cases given with
  | none => rfl
  | some value => exact parseInt_decimal value

/-- The getter for a long with a default gives back what was given, or the default. -/
theorem getLongArgumentOrDefault_eq (plain : Plain name) {given : Option Int64}
    (found : parser.argumentsMap name = given.map (fun value => decimal value.toInt))
    (defValue : Int64)
    : parser.getLongArgumentOrDefault name defValue = .ok (given.getD defValue) := by
  rw [ArgumentParser.getLongArgumentOrDefault, plain.getStringArgumentRaw, found]
  cases given with
  | none => rfl
  | some value => exact parseLong_decimal value

/-- The getter for an integer gives back what was given. -/
theorem getIntArgument_eq (plain : Plain name) {given : Int32}
    (found : parser.argumentsMap name = some (decimal given.toInt))
    : parser.getIntArgument name = .ok given := by
  rw [ArgumentParser.getIntArgument, plain.getStringArgumentRaw, found]
  exact parseInt_decimal given

/-- The getter for a string gives back what was given. -/
theorem getStringArgument_eq (plain : Plain name) {given : JavaString}
    (found : parser.argumentsMap name = some given)
    : parser.getStringArgument name = .ok given := by
  rw [ArgumentParser.getStringArgument, plain.getStringArgumentRaw, found]
  rfl

end Reading

/-- Every name of the options and every value in writing is plain. -/
theorem Startup.plain {startup : Startup} (addressable : Addressable startup.address)
    : ∀ pair ∈ startup.pairs, Plain pair.1 ∧ Plain pair.2 := by
  intro pair member
  simp only [pairs, List.mem_append, Option.mem_toList, Option.map_eq_some_iff, List.mem_cons,
    List.not_mem_nil, or_false] at member
  rcases member with ((((⟨_, _, rfl⟩ | ⟨_, _, rfl⟩) | ⟨_, _, rfl⟩) | rfl | rfl) | ⟨_, _, rfl⟩)
    | ⟨_, _, rfl⟩
  case inl.inl.inr.inl => exact ⟨plain_name _ (by decide), addressable.plain⟩
  all_goals exact ⟨plain_name _ (by decide), plain_decimal _⟩

/-- A parser that finds every value in writing, and nothing where there is none. -/
structure Startup.FoundBy (startup : Startup) (parser : ArgumentParser) : Prop where
  gain : parser.argumentsMap (text "g") = startup.gain.map (fun gain => decimal gain.toInt)
  samplerateHz
    : parser.argumentsMap (text "s") = startup.samplerateHz.map (fun rate => decimal rate.toInt)
  frequencyHz
    : parser.argumentsMap (text "f")
      = startup.frequencyHz.map (fun frequency => decimal frequency.toInt)
  address : parser.argumentsMap (text "a") = some startup.address
  port : parser.argumentsMap (text "p") = some (decimal startup.port.toInt)
  ppm : parser.argumentsMap (text "P") = startup.ppm.map (fun ppm => decimal ppm.toInt)
  biast : parser.argumentsMap (text "T") = startup.biast.map (fun biast => decimal biast.toInt)

/-- A parser that has exactly the written pairs finds every option of the startup, option by
option.
-/
theorem Startup.foundBy {startup : Startup} {parser : ArgumentParser}
    (found : ∀ name given,
      (∀ written, (name, written) ∈ startup.pairs ↔ given = some written)
      → parser.argumentsMap name = given)
    : startup.FoundBy parser where
  gain := found _ _ fun written => by simp +decide [pairs]
  samplerateHz := found _ _ fun written => by simp +decide [pairs]
  frequencyHz := found _ _ fun written => by simp +decide [pairs]
  address := found _ _ fun written => by simp +decide [pairs, eq_comm]
  port := found _ _ fun written => by simp +decide [pairs, eq_comm]
  ppm := found _ _ fun written => by simp +decide [pairs]
  biast := found _ _ fun written => by simp +decide [pairs]

/-- From the options that are found the arguments are those of the startup. Witness: each
getter gives back what was given.
-/
theorem Startup.FoundBy.arguments {startup : Startup} {parser : ArgumentParser}
    (found : startup.FoundBy parser) (short : startup.address.length ≤ 256)
    : SdrTcpArguments.new parser = .ok startup.arguments := by
  have address : stringLessThan startup.address maxStringLength = .ok startup.address := by
    exact if_neg (Nat.not_lt.mpr short)
  rw [SdrTcpArguments.new,
    getIntArgumentOrDefault_eq (plain_name _ (by decide)) found.gain,
    getLongArgumentOrDefault_eq (plain_name _ (by decide)) found.samplerateHz,
    getLongArgumentOrDefault_eq (plain_name _ (by decide)) found.frequencyHz,
    getStringArgument_eq (plain_name _ (by decide)) found.address,
    getIntArgument_eq (plain_name _ (by decide)) found.port,
    getIntArgumentOrDefault_eq (plain_name _ (by decide)) found.ppm,
    getIntArgumentOrDefault_eq (plain_name _ (by decide)) found.biast]
  simp only [bind, Except.bind, address]
  rfl

/-- Startup arguments round-trip: options in any order, with any number of spaces between
them, are read as the values they were written for.
-/
theorem startup_arguments_round_trip (startup : Startup)
    (addressable : Addressable startup.address) {options : List (JavaString × JavaString)}
    (order : options.Perm startup.pairs) {string : JavaString}
    (spaced : Spaced space (pairTokens options) string)
    : SdrTcpArguments.fromString string = .ok startup.arguments := by
  have plain : ∀ pair ∈ options, Plain pair.1 ∧ Plain pair.2 :=
    fun pair member => startup.plain addressable pair (order.mem_iff.mp member)
  have maps := argumentParser_maps string
  rw [tokens_pairTokens plain spaced] at maps
  cases parsed : ArgumentParser.new string with
  | error thrown =>
      rw [parsed] at maps
      exact absurd (grammatical_pairTokens (fun pair member => (plain pair member).1)) maps.1
  | ok parser =>
      rw [parsed] at maps
      have reads name value
          : parser.argumentsMap name = some value ↔ Assigned (pairTokens options) name value := by
        simpa using maps.2 name value
      have found : startup.FoundBy parser := Startup.foundBy fun name given only =>
        argumentsMap_eq plain reads (fun written => order.mem_iff.trans (only written))
      rw [SdrTcpArguments.fromString, parsed]
      exact found.arguments addressable.most

/-- Some options left out, the rest in an order of their own. -/
theorem startup_arguments_round_trip_reordered
    : SdrTcpArguments.fromString (text "-p 1234 -g   -5 -a 127.0.0.1")
      = .ok {
          gain := -5, samplerateHz := 2048000, frequencyHz := 100000000
          address := text "127.0.0.1", port := 1234, ppm := 0, biast := 0 } := by
  have spaced
      : Spaced space
          (pairTokens
            [(text "p", text "1234"), (text "g", text "-5"), (text "a", text "127.0.0.1")])
          (text "-p 1234 -g   -5 -a 127.0.0.1") :=
    .cons _ 0 (.cons _ 0 (.cons _ 2 (.cons _ 0 (.cons _ 0 (.last _)))))
  refine startup_arguments_round_trip
    ⟨some (-5), none, none, text "127.0.0.1", 1234, none, none⟩ ?_ ?_ spaced
  · refine ⟨by decide, by decide, forall_of_all (by decide), ?_, ?_⟩
    · rintro _ ⟨⟩
      decide
    · rintro _ ⟨⟩
      decide
  · decide

end RtlTcpAndro.SdrDriverTools
