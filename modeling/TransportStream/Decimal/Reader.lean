import TransportStream.Decimal.Binary

/-!
Reading a double from text: a sign, digits around an optional point, an optional exponent;
or a word for an infinite or undefined number. The double is the one nearest to what is
written.
-/
namespace TransportStream.Decimal

/-- A number as digits times a power of ten. -/
structure Written where
  digits : Nat
  exponent : Int
  deriving DecidableEq, Repr

/-- The number that decimal digits write. -/
def naturalOf (digits : List Char) : Nat :=
  digits.foldl (fun number digit => number * 10 + (digit.toNat - '0'.toNat)) 0

/-- Reads a sign: true if it is negative. -/
def readSign : List Char → Bool × List Char
  | '-' :: rest => (true, rest)
  | '+' :: rest => (false, rest)
  | input => (false, input)

/-- An exponent that no double reaches; longer ones read as this one. -/
def exponentCap : Nat := 100000

/-- Reads the exponent that ends a text, zero if there is none. -/
def readExponent? : List Char → Option Int
  | [] => some 0
  | mark :: rest =>
    let (negative, digits) := readSign rest
    if (mark = 'e' ∨ mark = 'E') ∧ digits ≠ [] ∧ digits.all Char.isDigit = true then
      let size := digits.foldl
        (fun number digit => min exponentCap (number * 10 + (digit.toNat - '0'.toNat))) 0
      some (if negative then -(size : Int) else size)
    else none

/-- Reads the digits after a point, none if there is no point. -/
def splitFraction : List Char → List Char × List Char
  | '.' :: rest => (rest.takeWhile Char.isDigit, rest.dropWhile Char.isDigit)
  | input => ([], input)

/-- Reads an unsigned number from a whole text. There is a digit before or after the
point. -/
def readMagnitude? (input : List Char) : Option Written := do
  let whole := input.takeWhile Char.isDigit
  let (fraction, rest) := splitFraction (input.dropWhile Char.isDigit)
  if whole.isEmpty && fraction.isEmpty then none
  else
    let exponent ← readExponent? rest
    return { digits := naturalOf (whole ++ fraction), exponent := exponent - fraction.length }

/-- The bits of the double nearest to a written number. Beyond four hundred decimal places
either way every number is infinite or zero. -/
def Written.nearestBits (written : Written) : Nat :=
  let place : Int := (toString written.digits).length + written.exponent
  if written.digits = 0 ∨ place < -400 then 0
  else if 400 < place then infinityBits
  else
    Decimal.nearestBits (written.digits * Nat.pow 10 written.exponent.toNat)
      (Nat.pow 10 (-written.exponent).toNat)

/-- The bits of an undefined number. -/
def undefinedBits : Nat := infinityBits + exponentUnit / 2

/-- The bits of what a text without sign writes. -/
def magnitudeBits? (input : List Char) : Option Nat :=
  let word := String.ofList (input.map Char.toLower)
  if word = "inf" ∨ word = "infinity" then some infinityBits
  else if word = "nan" then some undefinedBits
  else (readMagnitude? input).map Written.nearestBits

/-- The bits of the double that a text writes, sign included. -/
def bitsOfText? (text : String) : Option UInt64 :=
  let (negative, rest) := readSign text.toList
  (magnitudeBits? rest).map fun bits =>
    UInt64.ofNat (bits + if negative then signUnit else 0)

end TransportStream.Decimal
