import TransportStream.Decimal.Binary
import TransportStream.Json.Reader
import TransportStream.Options

/-!
Options as JSON text: an object with any of the options, or an array with the first of
them in order. Unknown keys are passed over; a known key given twice is refused, and so is
a value of the wrong kind.
-/
namespace TransportStream.Options

open TransportStream.Json

/-- An option, named by the key that sets it. -/
inductive Key where
  | packetSize
  | stampedMode
  | program
  | checkCrc
  | tolerateTransportErrors
  | minSyncRun
  | maxResyncBytes
  | maxPesBuffer
  | minPesBuffer
  | bitrateSmoothing
  | readChunkSize
  deriving DecidableEq, Repr

namespace Key

/-- All keys, in the order in which an array lists their values. -/
def all : List Key :=
  [packetSize, stampedMode, program, checkCrc, tolerateTransportErrors, minSyncRun,
    maxResyncBytes, maxPesBuffer, minPesBuffer, bitrateSmoothing, readChunkSize]

def name : Key → String
  | packetSize => "packet_size"
  | stampedMode => "m2ts_mode"
  | program => "program_number"
  | checkCrc => "check_crc"
  | tolerateTransportErrors => "tolerate_transport_errors"
  | minSyncRun => "min_sync_run"
  | maxResyncBytes => "max_resync_bytes"
  | maxPesBuffer => "max_pes_buffer"
  | minPesBuffer => "min_pes_buffer"
  | bitrateSmoothing => "bitrate_smoothing"
  | readChunkSize => "read_chunk_size"

def ofName? (name : String) : Option Key := all.find? (fun key => key.name == name)

end Key

/-- The number that digits write, and how many of them were taken: digits count as long as
the number fits 64 bits. -/
def takeDigits (number : Nat) : List Char → Nat × List Char
  | [] => (number, [])
  | digit :: rest =>
    let next := number * 10 + (digit.toNat - '0'.toNat)
    if next < wordRange then takeDigits next rest else (number, digit :: rest)

/-- A whole number without sign, fraction and exponent, up to a limit. -/
def naturalOf (limit : Nat) (numeral : Numeral) : Option Nat :=
  if numeral.negative || numeral.fraction.isSome || numeral.exponent.isSome then none
  else
    match takeDigits 0 numeral.whole with
    | (number, []) => if number ≤ limit then some number else none
    | (_, _ :: _) => none

/-- Divides by a power of ten, in steps of `1e308`. -/
def divideByTen (value : Float) (power : Nat) : Float :=
  if power ≤ 308 then value / Decimal.nearest (Nat.pow 10 power) 1
  else if value == 0.0 then value
  else divideByTen (value / 1e308) (power - 308)
termination_by power

/-- Multiplies by a power of ten; nothing if the result is too great. -/
def multiplyByTen (value : Float) (power : Nat) : Option Float :=
  if power ≤ 308 then
    let product := value * Decimal.nearest (Nat.pow 10 power) 1
    if Decimal.isFinite product then some product else none
  else if value == 0.0 then some value
  else none

/-- A significand times a power of ten, each as a double. -/
def scaleByTen (significand : Nat) (exponent : Int) : Option Float :=
  let value := significand.toUInt64.toFloat
  if exponent < 0 then some (divideByTen value (-exponent).toNat)
  else multiplyByTen value exponent.toNat

/-- The significand and the power of ten of a number without its exponent. Digits that do
not fit 64 bits are dropped; those before the point still count their place. -/
def significandOf (numeral : Numeral) : Nat × Int :=
  let (whole, droppedWhole) := takeDigits 0 numeral.whole
  let fraction := numeral.fraction.getD []
  let (significand, droppedFraction) := takeDigits whole fraction
  (significand, (droppedWhole.length : Int) - (fraction.length - droppedFraction.length : Nat))

/-- How many exponents 31 bits write. -/
def exponentRange : Nat := 0x80000000

/-- A magnitude with an exponent. An exponent beyond 31 bits gives zero if it is negative
or the significand is zero, and is refused otherwise. -/
def magnitudeOf (numeral : Numeral) : Option Float :=
  let (significand, place) := significandOf numeral
  match numeral.exponent with
  | none => scaleByTen significand place
  | some (negative, digits) =>
    let exponent := digits.foldl
      (fun number digit => min exponentRange (number * 10 + (digit.toNat - '0'.toNat))) 0
    if exponent < exponentRange then
      scaleByTen significand (if negative then place - exponent else place + exponent)
    else if significand ≠ 0 ∧ negative = false then none
    else some 0.0

/-- A number as a double. Whole numbers of 64 bits are rounded once; others take one
multiplication or division by a power of ten. -/
def realOf (numeral : Numeral) : Option Float :=
  (magnitudeOf numeral).map (Decimal.withSign numeral.negative)

def readNatural (limit : Nat) (input : List Char) : Option (Nat × List Char) := do
  let (numeral, rest) ← readNumeral input
  return (← naturalOf limit numeral, rest)

def readReal (input : List Char) : Option (Float × List Char) := do
  let (numeral, rest) ← readNumeral input
  return (← realOf numeral, rest)

def readBoolean : List Char → Option (Bool × List Char)
  | 't' :: rest => (readWord ['r', 'u', 'e'] rest).map (fun rest => (true, rest))
  | 'f' :: rest => (readWord ['a', 'l', 's', 'e'] rest).map (fun rest => (false, rest))
  | _ => none

/-- Reads null as nothing and any other value by `read`. -/
def readOptional (read : List Char → Option (Nat × List Char)) :
    List Char → Option (Option Nat × List Char)
  | 'n' :: rest => (readWord ['u', 'l', 'l'] rest).map (fun rest => (none, rest))
  | input => (read input).map (fun (value, rest) => (some value, rest))

/-- The greatest number of 64 bits. -/
def limit64 : Nat := wordRange - 1

/-- Reads the value of a key into the options. -/
def readKey (options : Options) (key : Key) (input : List Char) :
    Option (Options × List Char) :=
  let natural := fun (store : Nat → Options) =>
    (readNatural limit64 input).map (fun (value, rest) => (store value, rest))
  let boolean := fun (store : Bool → Options) =>
    (readBoolean input).map (fun (value, rest) => (store value, rest))
  match key with
  | .packetSize => (readOptional (readNatural limit64) input).map
      (fun (packetSize, rest) => ({ options with packetSize }, rest))
  | .stampedMode => boolean (fun stampedMode => { options with stampedMode })
  | .program => (readOptional (readNatural 65535) input).map
      (fun (program, rest) => ({ options with program }, rest))
  | .checkCrc => boolean (fun checkCrc => { options with checkCrc })
  | .tolerateTransportErrors =>
    boolean (fun tolerateTransportErrors => { options with tolerateTransportErrors })
  | .minSyncRun => natural (fun minSyncRun => { options with minSyncRun })
  | .maxResyncBytes => natural (fun maxResyncBytes => { options with maxResyncBytes })
  | .maxPesBuffer => natural (fun maxPesBuffer => { options with maxPesBuffer })
  | .minPesBuffer => natural (fun minPesBuffer => { options with minPesBuffer })
  | .bitrateSmoothing => (readReal input).map
      (fun (bitrateSmoothing, rest) => ({ options with bitrateSmoothing }, rest))
  | .readChunkSize => natural (fun readChunkSize => { options with readChunkSize })

/-- Reads a key between quotes and the colon behind it. -/
def readName (input : List Char) : Option (String × List Char) :=
  match skipSpace input with
  | '"' :: rest => do
    let (name, rest) ← readText rest
    match skipSpace rest with
    | ':' :: rest => some (name, skipSpace rest)
    | _ => none
  | _ => none

/-- Reads one entry of an object; `seen` are the known keys before it. -/
def readEntry (options : Options) (seen : List Key) (input : List Char) :
    Option (Options × List Key × List Char) := do
  let (name, rest) ← readName input
  match Key.ofName? name with
  | none => return (options, seen, ← skipValue rest)
  | some key =>
    if key ∈ seen then none
    else
      let (options, rest) ← readKey options key rest
      return (options, key :: seen, rest)

/-- Reads the entries of an object up to its closing bracket. Each takes at least one
character, so `fuel` characters are always enough for an input of that length. -/
def readEntries (fuel : Nat) (options : Options) (seen : List Key) (input : List Char) :
    Option (Options × List Char) :=
  match fuel with
  | 0 => none
  | fuel + 1 => do
    let (options, seen, rest) ← readEntry options seen input
    match skipSpace rest with
    | ',' :: rest => readEntries fuel options seen rest
    | '}' :: rest => some (options, rest)
    | _ => none

/-- Reads an object from behind its opening bracket. -/
def readObject (input : List Char) : Option (Options × List Char) :=
  match skipSpace input with
  | '}' :: rest => some ({}, rest)
  | input => readEntries (input.length + 1) {} [] input

/-- Reads values for the first of `keys`, up to the closing bracket of an array. -/
def readItems (options : Options) : List Key → List Char → Option (Options × List Char)
  | [], _ => none
  | key :: keys, input => do
    let (options, rest) ← readKey options key (skipSpace input)
    match skipSpace rest with
    | ',' :: rest => readItems options keys rest
    | ']' :: rest => some (options, rest)
    | _ => none

/-- Reads an array from behind its opening bracket. -/
def readArray (input : List Char) : Option (Options × List Char) :=
  match skipSpace input with
  | ']' :: rest => some ({}, rest)
  | input => readItems {} Key.all input

/-- Reads options from a whole text, without a check of their values. -/
def parse? (text : String) : Option Options := do
  let (options, rest) ←
    match skipSpace text.toList with
    | '{' :: rest => readObject rest
    | '[' :: rest => readArray rest
    | _ => none
  if (skipSpace rest).isEmpty then some options else none

/-- Reads options from a text and checks them. -/
def ofText (text : String) : Except Error Options :=
  match parse? text with
  | none => .error .malformedDocument
  | some options => do
    options.validate
    return options

end TransportStream.Options
