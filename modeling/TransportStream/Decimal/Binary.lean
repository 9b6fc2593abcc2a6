/-!
Double-precision numbers as exact quotients of natural numbers, in both directions: the
value a double stands for, and the double nearest to a quotient, ties to even.
-/
namespace TransportStream.Decimal

/-- The quotient rounded to the nearest natural number, a tie to the even one. -/
def roundQuotient (numerator denominator : Nat) : Nat :=
  let quotient := numerator / denominator
  let twice := 2 * (numerator % denominator)
  if denominator < twice ∨ (twice = denominator ∧ quotient % 2 = 1) then quotient + 1
  else quotient

/-- A finite magnitude `mantissa * 2 ^ exponent`. -/
structure Dyadic where
  mantissa : Nat
  exponent : Int
  deriving DecidableEq, Repr

namespace Dyadic

/-- The magnitude as a quotient. -/
def toQuotient (value : Dyadic) : Nat × Nat :=
  (value.mantissa * Nat.pow 2 value.exponent.toNat, Nat.pow 2 (-value.exponent).toNat)

end Dyadic

/-- The least exponent of a double's last bit. -/
def leastExponent : Int := -1074

/-- The weight of a double's sign bit. -/
def signUnit : Nat := 0x8000000000000000

/-- The weight of the lowest exponent bit of a double. -/
def exponentUnit : Nat := 0x10000000000000

/-- The bits of a double below its sign. -/
def magnitudeBits (value : Float) : Nat := value.toBits.toNat % signUnit

/-- Whether the sign bit of a double is set. -/
def isNegative (value : Float) : Bool := value.toBits.toNat.testBit 63

/-- The bits of the infinite magnitude. -/
def infinityBits : Nat := 0x7FF * exponentUnit

def isFinite (value : Float) : Bool := decide (magnitudeBits value < infinityBits)

/-- The magnitude of a double from its bits below the sign. -/
def Dyadic.ofBits (bits : Nat) : Dyadic :=
  if bits / exponentUnit = 0 then ⟨bits, leastExponent⟩
  else ⟨exponentUnit + bits % exponentUnit, leastExponent + (bits / exponentUnit - 1 : Nat)⟩

/-- The magnitude of a double, none if it is not finite. -/
def magnitude? (value : Float) : Option Dyadic :=
  if isFinite value then some (Dyadic.ofBits (magnitudeBits value)) else none

/-- The quotient divided by a power of two, as a quotient. -/
def scale (numerator denominator : Nat) (exponent : Int) : Nat × Nat :=
  (numerator * Nat.pow 2 (-exponent).toNat, denominator * Nat.pow 2 exponent.toNat)

/-- The exponent of the last bit of the double nearest to a positive quotient, before any
carry from rounding. -/
def lastBitExponent (numerator denominator : Nat) : Int :=
  let guess : Int := (numerator.log2 : Int) - denominator.log2 - 52
  let (top, bottom) := scale numerator denominator guess
  max leastExponent (if top < exponentUnit * bottom then guess - 1 else guess)

/-- The bits of the double nearest to a quotient; infinite when it is out of range. -/
def nearestBits (numerator denominator : Nat) : Nat :=
  if numerator = 0 then 0
  else
    let exponent := lastBitExponent numerator denominator
    let (top, bottom) := scale numerator denominator exponent
    min infinityBits
      ((exponent - leastExponent).toNat * exponentUnit + roundQuotient top bottom)

/-- The double nearest to a quotient. -/
def nearest (numerator denominator : Nat) : Float :=
  Float.ofBits (UInt64.ofNat (nearestBits numerator denominator))

/-- The double with a sign and the magnitude of another. -/
def withSign (negative : Bool) (value : Float) : Float := if negative then -value else value

end TransportStream.Decimal
