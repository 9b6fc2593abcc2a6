import TransportStream.Decimal.Binary

/-!
The shortest decimal that reads back as a given double, and of several the one nearest to
it; a tie goes to the even last digit.
-/
namespace TransportStream.Decimal

/-- The decimal `digits * 10 ^ exponent`. -/
structure Scientific where
  digits : Nat
  exponent : Int
  deriving DecidableEq, Repr

/-- The reals that read back as one double, as three quotients over one denominator: the
lower end, the double itself and the upper end. `closed` says whether the ends belong. -/
structure Interval where
  lower : Nat
  value : Nat
  upper : Nat
  denominator : Nat
  closed : Bool

/-- The interval of a positive finite double, from its bits. Below a power of two the
doubles are twice as dense. -/
def Interval.ofBits (bits : Nat) : Interval :=
  let value := Dyadic.ofBits bits
  let below := if bits % exponentUnit = 0 ∧ exponentUnit < bits then 1 else 2
  let (top, bottom) := value.toQuotient
  let unit := Nat.pow 2 value.exponent.toNat
  { lower := 4 * top - below * unit
    value := 4 * top
    upper := 4 * top + 2 * unit
    denominator := 4 * bottom
    closed := value.mantissa % 2 = 0 }

namespace Interval

/-- Whether `count * 10 ^ exponent` lies in the interval. -/
def holds (interval : Interval) (count : Nat) (exponent : Int) : Bool :=
  let scaled := count * Nat.pow 10 exponent.toNat * interval.denominator
  let unit := Nat.pow 10 (-exponent).toNat
  if interval.closed then
    decide (interval.lower * unit ≤ scaled ∧ scaled ≤ interval.upper * unit)
  else decide (interval.lower * unit < scaled ∧ scaled < interval.upper * unit)

/-- The multiple of `10 ^ exponent` that is in the interval and nearest to the value. -/
def nearestOnGrid? (interval : Interval) (exponent : Int) : Option Nat :=
  let top := interval.value * Nat.pow 10 (-exponent).toNat
  let bottom := interval.denominator * Nat.pow 10 exponent.toNat
  let nearest := roundQuotient top bottom
  let below := top / bottom
  [nearest, below, below + 1].find? (fun count => interval.holds count exponent)

/-- The exponent of the leading decimal digit of the value. -/
def leadingExponent (interval : Interval) : Int :=
  let guess : Int :=
    ((interval.value.log2 : Int) - interval.denominator.log2) * 30103 / 100000
  let reaches := fun (exponent : Int) =>
    decide (interval.denominator * Nat.pow 10 exponent.toNat ≤
      interval.value * Nat.pow 10 (-exponent).toNat)
  if reaches (guess + 1) then guess + 1
  else if reaches guess then guess
  else guess - 1

/-- Tries grids from the coarsest on; `finest` is the last to try. -/
def search (interval : Interval) (finest : Int) : Nat → Scientific
  | 0 => ⟨(interval.nearestOnGrid? finest).getD 0, finest⟩
  | steps + 1 =>
    match interval.nearestOnGrid? (finest + (steps + 1 : Nat)) with
    | some digits => ⟨digits, finest + (steps + 1 : Nat)⟩
    | none => interval.search finest steps

end Interval

/-- The shortest decimal of a positive finite double, from its bits. Seventeen digits are
always enough. -/
def shortest (bits : Nat) : Scientific :=
  let interval := Interval.ofBits bits
  interval.search (interval.leadingExponent - 16) 17

/-- The digits of a number, as text. -/
def Scientific.text (decimal : Scientific) : String := toString decimal.digits

/-- Digits with a point after the first `place` of them, zeros added where digits are
missing. -/
def Scientific.positional (decimal : Scientific) (whole : String) : String :=
  let digits := decimal.text.toList
  let place : Int := digits.length + decimal.exponent
  if 0 ≤ decimal.exponent then
    String.ofList (digits ++ List.replicate decimal.exponent.toNat '0') ++ whole
  else if 0 < place then
    String.ofList (digits.take place.toNat ++ '.' :: digits.drop place.toNat)
  else
    String.ofList ('0' :: '.' :: List.replicate (-place).toNat '0' ++ digits)

/-- One digit, a point, the others, and the exponent of the first. -/
def Scientific.exponential (decimal : Scientific) : String :=
  let exponent : Int := decimal.text.length + decimal.exponent - 1
  match decimal.text.toList with
  | [] => ""
  | [digit] => String.ofList [digit, 'e'] ++ toString exponent
  | digit :: others => String.ofList (digit :: '.' :: others) ++ "e" ++ toString exponent

end TransportStream.Decimal
