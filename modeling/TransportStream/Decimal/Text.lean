import TransportStream.Decimal.Shortest

/-!
The two written forms of doubles: in documents, where numbers far from one use an exponent
and whole numbers keep a point, and in messages, where every digit is written out.
-/
namespace TransportStream.Decimal

/-- A double as documents write it: positional from `0.00001` up to sixteen digits before
the point, with an exponent otherwise. A number that is not finite is null. -/
def documentText (value : Float) : String :=
  let bits := magnitudeBits value
  let sign := if isNegative value then "-" else ""
  if !isFinite value then "null"
  else if bits = 0 then sign ++ "0.0"
  else
    let decimal := shortest bits
    let place : Int := decimal.text.length + decimal.exponent
    if -5 < place ∧ place ≤ 16 then sign ++ decimal.positional ".0"
    else sign ++ decimal.exponential

/-- A double as messages write it: every digit, and no point after a whole number. -/
def messageText (value : Float) : String :=
  let bits := magnitudeBits value
  let sign := if isNegative value then "-" else ""
  if infinityBits < bits then "NaN"
  else if bits = infinityBits then sign ++ "inf"
  else if bits = 0 then sign ++ "0"
  else sign ++ (shortest bits).positional ""

end TransportStream.Decimal
