import RtlTcpAndro.SdrDriverTools.ArgumentParser

/-! The class `SdrTcpArguments` and `Check.stringLessThan`. -/

namespace RtlTcpAndro.SdrDriverTools

open RtlTcpAndro.JavaLang

/-- The fields of a `SdrTcpArguments`. -/
structure SdrTcpArguments where
  gain : Int32
  samplerateHz : Int64
  frequencyHz : Int64
  address : JavaString
  port : Int32
  ppm : Int32
  biast : Int32
  deriving DecidableEq, Repr

/-- `MAX_STRING_LENGTH` and the defaults. -/
def maxStringLength : Nat := 256
def defaultGain : Int32 := 24
def defaultPpm : Int32 := 0
def defaultFrequency : Int64 := 100000000
def defaultSamplingRate : Int64 := 2048000
def defaultBiast : Int32 := 0

/-- `Check.stringLessThan` -/
def stringLessThan (string : JavaString) (max_length : Nat) : Except Thrown JavaString := do
  if string.length > max_length then
    throw (.illegalArgument
      (text "String cannot exceed " ++ decimal max_length))
  return string

/-- The private constructor. -/
def SdrTcpArguments.new (arguments : ArgumentParser) : Except Thrown SdrTcpArguments := do
  let gain ← arguments.getIntArgumentOrDefault (text "g") defaultGain
  let samplerateHz ← arguments.getLongArgumentOrDefault (text "s") defaultSamplingRate
  let frequencyHz ← arguments.getLongArgumentOrDefault (text "f") defaultFrequency
  let address ← stringLessThan (← arguments.getStringArgument (text "a")) maxStringLength
  let port ← arguments.getIntArgument (text "p")
  let ppm ← arguments.getIntArgumentOrDefault (text "P") defaultPpm
  let biast ← arguments.getIntArgumentOrDefault (text "T") defaultBiast
  return { gain, samplerateHz, frequencyHz, address, port, ppm, biast }

/-- `fromString` -/
def SdrTcpArguments.fromString (arguments : JavaString) : Except Thrown SdrTcpArguments := do
  new (← ArgumentParser.new arguments)

/-- The arguments that `fromString` makes of `-a 127.0.0.1 -p 1234`. -/
def SdrTcpArguments.local1234 : SdrTcpArguments :=
  ⟨24, 2048000, 100000000, text "127.0.0.1", 1234, 0, 0⟩

example
    : SdrTcpArguments.fromString (text "-a 127.0.0.1 -p 1234") = .ok .local1234 := by
  decide +kernel

end RtlTcpAndro.SdrDriverTools
