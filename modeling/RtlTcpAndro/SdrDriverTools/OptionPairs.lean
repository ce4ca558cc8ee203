import RtlTcpAndro.SdrDriverTools.ArgumentGrammar

/-! Options given one after the other, each by its name and one value. -/

namespace RtlTcpAndro.SdrDriverTools

open RtlTcpAndro.JavaLang RtlTcpAndro.QuotedWords

/-- A name that stands for itself: not empty, without spaces and quotes, and with nothing to
trim.
-/
structure Plain (name : JavaString) : Prop where
  nonempty : name ≠ []
  free : ∀ character ∈ name, character ≠ space ∧ isQuote character = false
  trimmed : trim name = name

/-- The tokens of options. -/
def pairTokens (pairs : List (JavaString × JavaString)) : List JavaString :=
  pairs.flatMap (fun pair => [dash :: pair.1, pair.2])

/-- A dash before a trimmed name leaves it trimmed. Witness: the first character is the dash,
the last one the name's.
-/
theorem trim_dash {name : JavaString} (trimmed : trim name = name)
    : trim (dash :: name) = dash :: name := by
  rw [trim_eq_self_iff] at trimmed ⊢
  refine ⟨by simp; decide, ?_⟩
  cases name with
  | nil => simp; decide
  | cons first rest => simpa using trimmed.2

/-- A plain name with its dash is a name token. Witness: it is trimmed and not the dash alone.
-/
theorem Plain.isName {name : JavaString} (plain : Plain name) : IsName (dash :: name) := by
  obtain ⟨first, rest, same⟩ := List.exists_cons_of_ne_nil plain.nonempty
  rw [IsName, trim_dash plain.trimmed]
  simp [same]

/-- A plain name with its dash contributes itself as it stands. Witness: no character of it is
a space or a quote.
-/
theorem Plain.contributes {name : JavaString} (plain : Plain name)
    : Contributes space isQuote (dash :: name) (dash :: name) := by
  refine .plain fun character member => ?_
  obtain rfl | member := List.mem_cons.mp member
  · decide
  · exact plain.free character member

/-- The getters look a plain name up. -/
theorem Plain.getStringArgumentRaw {name : JavaString} (plain : Plain name)
    (parser : ArgumentParser)
    : parser.getStringArgumentRaw name = .ok (parser.argumentsMap name) := by
  have long : ¬ name.length < 1 := by
    simpa using plain.nonempty
  rw [ArgumentParser.getStringArgumentRaw, if_neg long, plain.trimmed]
  exact if_neg (not_not.mpr rfl)

/-- A value that is plain is taken as it is. -/
theorem Plain.stripped_iff {written value : JavaString} (plain : Plain written)
    : Stripped (trim written) value ↔ value = written := by
  rw [plain.trimmed]
  have bare : ¬ Enclosed written := by
    rintro ⟨quote, inner, quotes, rfl⟩
    exact absurd quotes (by simp [(plain.free quote List.mem_cons_self).2])
  constructor
  · rintro (⟨quote, quotes, same⟩ | ⟨-, same⟩)
    · exact absurd ⟨quote, value, quotes, same⟩ bare
    · exact same.symm
  · rintro rfl
    exact .inr ⟨bare, rfl⟩

section Pairs

variable {pairs : List (JavaString × JavaString)} {name value : JavaString}

/-- The tokens of plain pairs are grammatical. Witness: induction on the pairs. -/
theorem grammatical_pairTokens (plain : ∀ pair ∈ pairs, Plain pair.1)
    : Grammatical (pairTokens pairs) := by
  induction pairs with
  | nil => exact grammatical_nil
  | cons pair rest ih =>
      exact grammatical_cons_cons.mpr
        ⟨(plain pair List.mem_cons_self).isName,
          ih (fun other member => plain other (List.mem_cons_of_mem _ member))⟩

/-- In the tokens of plain pairs a name occurs just when a pair has it. Witness: induction on
the pairs.
-/
theorem unnamed_pairTokens (plain : ∀ pair ∈ pairs, Plain pair.1)
    : Unnamed (pairTokens pairs) name ↔ ∀ pair ∈ pairs, pair.1 ≠ name := by
  induction pairs with
  | nil => simp [pairTokens, unnamed_nil]
  | cons pair rest ih =>
      have first := trim_dash (plain pair List.mem_cons_self).trimmed
      have others := ih (fun other member => plain other (List.mem_cons_of_mem _ member))
      calc Unnamed (pairTokens (pair :: rest)) name
          ↔ trim (dash :: pair.1) ≠ dash :: name ∧ Unnamed (pairTokens rest) name :=
            unnamed_cons_cons
        _ ↔ ∀ other ∈ pair :: rest, other.1 ≠ name := by
            rw [first, others]
            simp

/-- A name maps to the value of one of its options. -/
theorem Assigned.exists_pair (plain : ∀ pair ∈ pairs, Plain pair.1)
    (assigned : Assigned (pairTokens pairs) name value)
    : ∃ pair ∈ pairs, pair.1 = name ∧ Stripped (trim pair.2) value := by
  induction pairs with
  | nil => exact absurd assigned not_assigned_nil
  | cons pair rest ih =>
      obtain later | ⟨-, named, stripped⟩ := assigned_cons_cons.mp assigned
      · obtain ⟨found, member, named⟩ :=
          ih (fun other member => plain other (List.mem_cons_of_mem _ member)) later
        exact ⟨found, List.mem_cons_of_mem _ member, named⟩
      · rw [trim_dash (plain pair List.mem_cons_self).trimmed, List.cons.injEq] at named
        exact ⟨pair, List.mem_cons_self, named.2, stripped⟩

/-- A name whose options all have one value maps to that value. -/
theorem assigned_of_forall_pairs (plain : ∀ pair ∈ pairs, Plain pair.1)
    (given : ∃ pair ∈ pairs, pair.1 = name)
    (same : ∀ pair ∈ pairs, pair.1 = name → Stripped (trim pair.2) value)
    : Assigned (pairTokens pairs) name value := by
  induction pairs with
  | nil => simp at given
  | cons pair rest ih =>
      have others : ∀ other ∈ rest, Plain other.1 :=
        fun other member => plain other (List.mem_cons_of_mem _ member)
      refine assigned_cons_cons.mpr ?_
      by_cases again : ∃ other ∈ rest, other.1 = name
      · exact .inl (ih others again
          (fun other member => same other (List.mem_cons_of_mem _ member)))
      · have named : pair.1 = name := by
          obtain ⟨found, member, named⟩ := given
          obtain rfl | member := List.mem_cons.mp member
          · exact named
          · exact absurd ⟨found, member, named⟩ again
        refine .inr ⟨?_, ?_, same pair List.mem_cons_self named⟩
        · exact (unnamed_pairTokens others).mpr
            (fun other member named => again ⟨other, member, named⟩)
        · rw [trim_dash (plain pair List.mem_cons_self).trimmed, named]

end Pairs

end RtlTcpAndro.SdrDriverTools
