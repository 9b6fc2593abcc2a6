import TransportStream.Decimal.Binary

/-!
Spans of time in whole nanoseconds, and their exchange with seconds as doubles.
-/
namespace TransportStream

/-- A span of time; `nanos` is below a second. -/
structure Duration where
  seconds : Nat
  nanos : Nat
  deriving DecidableEq, Repr

namespace Duration

def nanosPerSecond : Nat := 1000000000

/-- How many whole seconds a span can have. -/
def secondsRange : Nat := 0x10000000000000000

def ofNanos (nanos : Nat) : Duration := ⟨nanos / nanosPerSecond, nanos % nanosPerSecond⟩

theorem ofNanos_inj {one two : Nat} : ofNanos one = ofNanos two ↔ one = two := by
  simp only [ofNanos, nanosPerSecond, Duration.mk.injEq]
  omega

def ofMicros (micros : Nat) : Duration := ofNanos (micros * 1000)

/-- The span in seconds: whole seconds and the fraction are rounded on their own. -/
def toSeconds (duration : Duration) : Float :=
  duration.seconds.toUInt64.toFloat + duration.nanos.toUInt64.toFloat / 1e9

/-- The span nearest to a number of seconds, a tie to the even nanosecond. None for a
negative or infinite number, and for one that has no 64-bit count of seconds. -/
def ofSeconds? (seconds : Float) : Option Duration :=
  match Decimal.magnitude? seconds with
  | none => none
  | some magnitude =>
    let (top, bottom) := magnitude.toQuotient
    if Decimal.isNegative seconds && top != 0 then none
    else if secondsRange * bottom ≤ top then none
    else some (ofNanos (Decimal.roundQuotient (top * nanosPerSecond) bottom))

end Duration

end TransportStream
