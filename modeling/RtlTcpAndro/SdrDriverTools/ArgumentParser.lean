import Mathlib.Logic.Function.Basic
import RtlTcpAndro.JavaLang.Decimal

/-! The class `ArgumentParser`, statement by statement. -/

namespace RtlTcpAndro.SdrDriverTools

open RtlTcpAndro.JavaLang

/-- U+0027, U+0022 and U+002D -/
def singleQuote : JavaChar := 0x27
def doubleQuote : JavaChar := 0x22
def dash : JavaChar := 0x2d

/-- `unquote` -/
def unquote (string : JavaString) : Except Thrown JavaString := do
  let length := string.length
  if length < 2 then
    return string
  let firstChar ← charAt string 0
  let lastChar ← charAt string (length - 1)
  if (firstChar = doubleQuote ∧ lastChar = doubleQuote)
      ∨ (firstChar = singleQuote ∧ lastChar = singleQuote) then
    substring string 1 (length - 1)
  else
    return string

/-- The locals of `splitIgnoringQuotes`; 0 is no quote. -/
structure Splitting where
  result : List JavaString
  currentqoute : JavaChar
  resultingString : JavaString
  deriving DecidableEq, Repr

/-- The use of a character in its word. -/
def Splitting.append (splitting : Splitting) (current_char : JavaChar) : Splitting :=
  { splitting with resultingString := splitting.resultingString ++ [current_char] }

/-- The end of a word. -/
def Splitting.add (splitting : Splitting) : List JavaString :=
  if splitting.resultingString.length ≠ 0 then splitting.result ++ [splitting.resultingString]
  else splitting.result

/-- One round of the loop in `splitIgnoringQuotes`. -/
def Splitting.step (splitting : Splitting) (current_char : JavaChar) : Splitting :=
  if current_char = singleQuote ∨ current_char = doubleQuote then
    if splitting.currentqoute = 0 then { splitting with currentqoute := current_char }
    else if splitting.currentqoute = current_char then { splitting with currentqoute := 0 }
    else splitting.append current_char
  else if current_char = space then
    if splitting.currentqoute = 0 then
      { splitting with result := splitting.add, resultingString := [] }
    else splitting.append current_char
  else splitting.append current_char

/-- `splitIgnoringQuotes` -/
def splitIgnoringQuotes (rawArguments : JavaString) : List JavaString :=
  (rawArguments.foldl Splitting.step
    { result := [], currentqoute := 0, resultingString := [] }).add

/-- A `Map<String, String>` -/
abbrev ArgumentsMap := JavaString → Option JavaString

/-- `get` of a list -/
def listGet (list : List JavaString) (index : Nat) : Except Thrown JavaString :=
  match list[index]? with
  | some element => .ok element
  | none => .error .indexOutOfBounds

/-- The loop of `toMap` from one index on. -/
def toMapFrom (parsedArg : List JavaString) (i : Nat) (argumentsMap : ArgumentsMap)
    : Except Thrown ArgumentsMap := do
  if i < parsedArg.length then
    let argument := trim (← listGet parsedArg i)
    if i = parsedArg.length - 1 then
      throw (.illegalArgument (text "No value for argument " ++ argument))
    if ¬ [dash] <+: argument then
      throw (.illegalArgument
        (text "Argument " ++ argument ++ text " must start with a dash!"))
    if argument.length < 2 then
      throw (.illegalArgument (text "Missing argument after dash"))
    let value ← unquote (trim (← listGet parsedArg (i + 1)))
    let name ← substring argument 1 argument.length
    toMapFrom parsedArg (i + 2) (Function.update argumentsMap name (some value))
  else
    return argumentsMap
termination_by parsedArg.length - i

/-- `toMap` -/
def toMap (rawArguments : JavaString) : Except Thrown ArgumentsMap :=
  toMapFrom (splitIgnoringQuotes rawArguments) 0 (fun _ => none)

/-- An `ArgumentParser`. -/
structure ArgumentParser where
  argumentsMap : ArgumentsMap

namespace ArgumentParser

/-- The constructor. -/
def new (rawArguments : JavaString) : Except Thrown ArgumentParser := do
  let argumentsMap ← toMap rawArguments
  return { argumentsMap }

variable (arguments : ArgumentParser) (argument : JavaString)

/-- `getStringArgumentRaw` -/
def getStringArgumentRaw : Except Thrown (Option JavaString) := do
  if argument.length < 1 then
    throw (.illegalArgument (text "Argument must be at least one character long!"))
  if trim argument ≠ argument then
    throw (.illegalArgument (text "Arguments cannot have trailing or leading spaces!"))
  return arguments.argumentsMap argument

/-- What the getters without a default throw when there is no value. -/
def expected (kind : String) : Thrown :=
  .illegalArgument (text "Expected " ++ text kind ++ text " argument '" ++ argument ++ text "'")

/-- `getStringArgument` -/
def getStringArgument : Except Thrown JavaString := do
  match ← arguments.getStringArgumentRaw argument with
  | none => throw (expected argument "string")
  | some value => return value

/-- `getIntArgument` -/
def getIntArgument : Except Thrown Int32 := do
  match ← arguments.getStringArgumentRaw argument with
  | none => throw (expected argument "integer")
  | some value => parseInt value

/-- `getIntArgumentOrDefault` -/
def getIntArgumentOrDefault (defValue : Int32) : Except Thrown Int32 := do
  match ← arguments.getStringArgumentRaw argument with
  | none => return defValue
  | some value => parseInt value

/-- `getLongArgumentOrDefault` -/
def getLongArgumentOrDefault (defValue : Int64) : Except Thrown Int64 := do
  match ← arguments.getStringArgumentRaw argument with
  | none => return defValue
  | some value => parseLong value

end ArgumentParser

end RtlTcpAndro.SdrDriverTools
