import Mathlib.Data.List.Forall2
import Mathlib.Data.List.TakeWhile

/-! Words between separators, where quotes keep separators inside a word.

A text falls into pieces: separators, plain characters and quoted runs, each run ended only by
the quote that began it. The words are what the pieces between separators hold.
-/

namespace RtlTcpAndro.QuotedWords

/-- One piece of a text. -/
inductive Piece (α : Type)
  | separator
  | plain (character : α)
  | quoted (body : List α)
  deriving DecidableEq, Repr

/-- What a piece adds to its word; the quotes around a run are not part of it. -/
def Piece.content {α : Type} : Piece α → List α
  | .separator => []
  | .plain character => [character]
  | .quoted body => body

def Piece.isSeparator {α : Type} : Piece α → Bool
  | .separator => true
  | _ => false

/-- A word unless it is empty. -/
def kept {α : Type} (word : List α) : List (List α) :=
  if word.isEmpty then [] else [word]

/-- The nonempty words of a text already cut, the first of them continuing a word begun. -/
def wordsAfter {α : Type} (begun : List α) (pieces : List (Piece α)) : List (List α) :=
  (((pieces.splitOnP Piece.isSeparator).map (List.flatMap Piece.content)).modifyHead
    (begun ++ ·)).flatMap kept

section Pieces

variable {α : Type}

/-- At the end of a text the word in progress is kept if there is one. -/
@[simp] theorem wordsAfter_nil (begun : List α) : wordsAfter begun [] = kept begun := by
  simp [wordsAfter, List.splitOnP_nil]

/-- A separator ends the word in progress, and the words of the rest start anew. -/
@[simp] theorem wordsAfter_separator (begun : List α) (rest : List (Piece α))
    : wordsAfter begun (.separator :: rest) = kept begun ++ wordsAfter [] rest := by
  have whole (words : List (List α)) : words.modifyHead ([] ++ ·) = words := by
    cases words <;> rfl
  rw [wordsAfter, wordsAfter, whole, List.splitOnP_cons_eq_if_modifyHead,
    if_pos (by rfl : Piece.isSeparator (.separator : Piece α) = true)]
  simp

/-- Any other piece adds its content to the word in progress. Witness: splitting leaves it in
the first stretch.
-/
theorem wordsAfter_content {piece : Piece α} (inside : piece.isSeparator = false)
    (begun : List α) (rest : List (Piece α))
    : wordsAfter begun (piece :: rest) = wordsAfter (begun ++ piece.content) rest := by
  rw [wordsAfter, wordsAfter, List.splitOnP_cons_eq_if_modifyHead, if_neg (by simp [inside])]
  cases split : rest.splitOnP Piece.isSeparator with
  | nil => exact absurd split (List.splitOnP_ne_nil _ _)
  | cons first others => simp

end Pieces

section Texts

variable {α : Type} [DecidableEq α] (separator : α) (isQuote : α → Bool)

/-- The pieces of a text. An unclosed run reaches to the end. -/
def pieces : List α → List (Piece α)
  | [] => []
  | character :: rest =>
      if isQuote character then
        .quoted (rest.takeWhile (· ≠ character)) :: pieces (rest.dropWhile (· ≠ character)).tail
      else if character = separator then .separator :: pieces rest
      else .plain character :: pieces rest
termination_by text => text.length
decreasing_by
  · have shorter : (rest.dropWhile (· ≠ character)).tail.length ≤ rest.length :=
      ((List.tail_suffix _).trans (List.dropWhile_suffix _)).length_le
    simp only [List.length_cons]
    omega
  all_goals simp

/-- The words of a text. -/
def words (text : List α) : List (List α) := wordsAfter [] (pieces separator isQuote text)

variable {separator isQuote}

/-- A separator that is no quote is a piece of its own. -/
theorem pieces_separator (quoteless : isQuote separator = false) (rest : List α)
    : pieces separator isQuote (separator :: rest)
      = .separator :: pieces separator isQuote rest := by
  rw [pieces]
  simp [quoteless]

/-- A character that is neither quote nor separator is a piece of its own. -/
theorem pieces_plain {character : α} (unquoted : isQuote character = false)
    (inside : character ≠ separator) (rest : List α)
    : pieces separator isQuote (character :: rest)
      = .plain character :: pieces separator isQuote rest := by
  rw [pieces]
  simp [unquoted, inside]

/-- A run ends at the first quote of its kind. -/
theorem pieces_quoted {quote : α} (quotes : isQuote quote = true) {body : List α}
    (absent : quote ∉ body) (rest : List α)
    : pieces separator isQuote (quote :: (body ++ quote :: rest))
      = .quoted body :: pieces separator isQuote rest := by
  have others : ∀ character ∈ body, decide (character ≠ quote) = true := by
    intro character member
    have different : character ≠ quote := fun same => absent (same ▸ member)
    simpa using different
  rw [pieces, if_pos quotes, List.takeWhile_append_of_pos others,
    List.dropWhile_append_of_pos others]
  simp

/-- A stretch of text that adds one content to the word it stands in, whatever is around it. -/
def Contributes (separator : α) (isQuote : α → Bool) (stretch content : List α) : Prop :=
  ∀ (begun rest : List α),
    wordsAfter begun (pieces separator isQuote (stretch ++ rest))
      = wordsAfter (begun ++ content) (pieces separator isQuote rest)

/-- No text contributes nothing. -/
theorem Contributes.nil : Contributes separator isQuote [] [] := by
  intro begun rest
  simp

/-- Two stretches in a row contribute the content of both. -/
theorem Contributes.append {stretch next content added : List α}
    (first : Contributes separator isQuote stretch content)
    (second : Contributes separator isQuote next added)
    : Contributes separator isQuote (stretch ++ next) (content ++ added) := by
  intro begun rest
  rw [List.append_assoc, first, second, List.append_assoc]

/-- Characters that neither separate nor quote stand for themselves. -/
theorem Contributes.plain {stretch : List α}
    (free : ∀ character ∈ stretch, character ≠ separator ∧ isQuote character = false)
    : Contributes separator isQuote stretch stretch := by
  induction stretch with
  | nil => exact .nil
  | cons character others ih =>
      have first : Contributes separator isQuote [character] [character] := by
        intro begun rest
        have ⟨inside, unquoted⟩ := free character List.mem_cons_self
        rw [List.singleton_append, pieces_plain unquoted inside, wordsAfter_content rfl]
        rfl
      exact first.append (ih (fun other member => free other (List.mem_cons_of_mem _ member)))

/-- A quoted run contributes what stands between its quotes. -/
theorem Contributes.quoted {quote : α} (quotes : isQuote quote = true) {body : List α}
    (absent : quote ∉ body)
    : Contributes separator isQuote (quote :: body ++ [quote]) body := by
  intro begun rest
  rw [List.append_assoc, List.cons_append, List.singleton_append, pieces_quoted quotes absent,
    wordsAfter_content rfl]
  rfl

/-- A text of stretches, one or more separators between any two of them. -/
inductive Spaced (separator : α) : List (List α) → List α → Prop
  | nil : Spaced separator [] []
  | last (stretch : List α) : Spaced separator [stretch] stretch
  | cons (stretch : List α) (gap : Nat) {next : List α} {others : List (List α)} {text : List α}
      (rest : Spaced separator (next :: others) text)
      : Spaced separator (stretch :: next :: others)
          (stretch ++ List.replicate (gap + 1) separator ++ text)

/-- Separators end the word that was begun. -/
theorem wordsAfter_replicate (quoteless : isQuote separator = false) (gap : Nat)
    (begun rest : List α)
    : wordsAfter begun (pieces separator isQuote (List.replicate (gap + 1) separator ++ rest))
      = kept begun ++ words separator isQuote rest := by
  induction gap generalizing begun with
  | zero =>
      simp [pieces_separator quoteless, words]
  | succ gap ih =>
      rw [List.replicate_succ, List.cons_append, pieces_separator quoteless,
        wordsAfter_separator, ih]
      simp [kept]

/-- The words of a spaced text are the nonempty contents of its stretches, by induction on
the stretches.
-/
theorem words_of_spaced (quoteless : isQuote separator = false) {stretches : List (List α)}
    {text : List α} (spaced : Spaced separator stretches text) {contents : List (List α)}
    (contributed : List.Forall₂ (Contributes separator isQuote) stretches contents)
    : words separator isQuote text = contents.flatMap kept := by
  induction spaced generalizing contents with
  | nil =>
      cases contributed
      simp [words, pieces, kept]
  | last stretch =>
      obtain _ | ⟨holds, none⟩ := contributed
      cases none
      have whole := holds [] []
      simpa [words, pieces] using whole
  | cons stretch gap rest ih =>
      obtain _ | ⟨holds, others⟩ := contributed
      rw [words, List.append_assoc, holds, wordsAfter_replicate quoteless, ih others]
      rfl

-----------------------------------------------------------------------------------------
-- Texts one after the other
-----------------------------------------------------------------------------------------

/-- The quote that is open after a character. -/
def quoteAfter (isQuote : α → Bool) (opened : Option α) (character : α) : Option α :=
  match opened with
  | none => if isQuote character then some character else none
  | some quote => if character = quote then none else some quote

/-- The quote that a text leaves open. -/
def openQuote (isQuote : α → Bool) (text : List α) : Option α :=
  text.foldl (quoteAfter isQuote) none

/-- A body without the quote of its run stays in the run, by induction on the body. -/
theorem foldl_quoteAfter_body {quote : α} {body : List α} (absent : quote ∉ body)
    : body.foldl (quoteAfter isQuote) (some quote) = some quote := by
  induction body with
  | nil => rfl
  | cons character rest ih =>
      obtain ⟨different, others⟩ := not_or.mp (mt List.mem_cons.mpr absent)
      have kept : quoteAfter isQuote (some quote) character = some quote :=
        if_neg (Ne.symm different)
      rw [List.foldl_cons, kept, ih others]

/-- A run without its closing quote is left open. -/
theorem openQuote_unclosed {quote : α} (quotes : isQuote quote = true) {body : List α}
    (absent : quote ∉ body)
    : openQuote isQuote (quote :: body) = some quote := by
  have opened : quoteAfter isQuote none quote = some quote := if_pos quotes
  rw [openQuote, List.foldl_cons, opened, foldl_quoteAfter_body absent]

/-- Behind a closed run the open quote is that of the rest. -/
theorem openQuote_quoted {quote : α} (quotes : isQuote quote = true) {body : List α}
    (absent : quote ∉ body) (rest : List α)
    : openQuote isQuote (quote :: (body ++ quote :: rest)) = openQuote isQuote rest := by
  have opened : quoteAfter isQuote none quote = some quote := if_pos quotes
  have closed : quoteAfter isQuote (some quote) quote = none := if_pos rfl
  rw [openQuote, List.foldl_cons, opened, List.foldl_append, foldl_quoteAfter_body absent,
    List.foldl_cons, closed, openQuote]

/-- Behind a character that is no quote the open quote is that of the rest. -/
theorem openQuote_plain {character : α} (unquoted : isQuote character = false) (rest : List α)
    : openQuote isQuote (character :: rest) = openQuote isQuote rest := by
  have outside : quoteAfter isQuote none character = none := by
    simp [quoteAfter, unquoted]
  rw [openQuote, List.foldl_cons, outside, openQuote]

/-- What follows a quote: a body that reaches to the end, or a body, the quote and the rest. -/
theorem body_cases (quote : α) (text : List α)
    : quote ∉ text
      ∨ ∃ body rest,
          quote ∉ body
          ∧ text = body ++ quote :: rest
          ∧ (text.dropWhile (· ≠ quote)).tail = rest := by
  by_cases found : quote ∈ text
  · obtain ⟨body, rest, rfl, absent⟩ := List.eq_append_cons_of_mem found
    refine .inr ⟨body, rest, absent, rfl, ?_⟩
    rw [List.dropWhile_append_of_pos]
    · simp
    · intro character member
      have different : character ≠ quote := fun same => absent (same ▸ member)
      simpa using different
  · exact .inl found

/-- The words of a text that leaves no quote open and of what follows it after separators, by
induction on the pieces of the text.
-/
theorem wordsAfter_append (quoteless : isQuote separator = false) (gap : Nat) (rest : List α)
    {text : List α} (closed : openQuote isQuote text = none) (begun : List α)
    : wordsAfter begun
          (pieces separator isQuote (text ++ List.replicate (gap + 1) separator ++ rest))
      = wordsAfter begun (pieces separator isQuote text) ++ words separator isQuote rest := by
  induction text using pieces.induct separator isQuote generalizing begun with
  | case1 =>
      rw [List.nil_append, wordsAfter_replicate quoteless, pieces, wordsAfter_nil]
  | case2 quote following quotes ih =>
      obtain absent | ⟨body, after, absent, rfl, left⟩ := body_cases quote following
      · rw [openQuote_unclosed quotes absent] at closed
        cases closed
      · rw [left] at ih
        rw [openQuote_quoted quotes absent] at closed
        rw [pieces_quoted quotes absent, wordsAfter_content rfl, List.cons_append,
          List.cons_append, List.append_assoc, List.append_assoc, List.cons_append,
          pieces_quoted quotes absent, wordsAfter_content rfl, ← List.append_assoc, ih closed]
  | case3 following unquoted ih =>
      rw [openQuote_plain quoteless] at closed
      rw [List.cons_append, List.cons_append, pieces_separator quoteless, wordsAfter_separator,
        ih closed, pieces_separator quoteless, wordsAfter_separator, List.append_assoc]
  | case4 character following unquoted inside ih =>
      have plain : isQuote character = false := by
        simpa using unquoted
      rw [openQuote_plain plain] at closed
      rw [List.cons_append, List.cons_append, pieces_plain plain inside, wordsAfter_content rfl,
        ih closed, pieces_plain plain inside, wordsAfter_content rfl]

/-- Texts that are closed and separated have the words of both, by the same fact about the
word in progress.
-/
theorem words_append (quoteless : isQuote separator = false) (gap : Nat) {text : List α}
    (closed : openQuote isQuote text = none) (rest : List α)
    : words separator isQuote (text ++ List.replicate (gap + 1) separator ++ rest)
      = words separator isQuote text ++ words separator isQuote rest :=
  wordsAfter_append quoteless gap rest closed []

end Texts

end RtlTcpAndro.QuotedWords
