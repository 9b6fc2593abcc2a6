/-!
Hexadecimal digits: as this library writes them, zero padded to a least width, and as texts
may write them, in either case.
-/
namespace TransportStream.Hex

/-- At least `width` digits of a number. -/
def padded (width number : Nat) : List Char :=
  let digits := Nat.toDigits 16 number
  List.replicate (width - digits.length) '0' ++ digits

/-- At least `width` upper-case digits of a number. -/
def upper (width number : Nat) : String := String.ofList ((padded width number).map Char.toUpper)

/-- At least `width` lower-case digits of a number. -/
def lower (width number : Nat) : String := String.ofList (padded width number)

/-- The value of a digit of either case. -/
def digit? (char : Char) : Option Nat :=
  if '0' ≤ char ∧ char ≤ '9' then some (char.toNat - '0'.toNat)
  else if 'a' ≤ char ∧ char ≤ 'f' then some (char.toNat - 'a'.toNat + 10)
  else if 'A' ≤ char ∧ char ≤ 'F' then some (char.toNat - 'A'.toNat + 10)
  else none

end TransportStream.Hex
