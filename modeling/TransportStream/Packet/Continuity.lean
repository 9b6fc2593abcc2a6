/-!
The four-bit counter that packets of one PID carry, and what a value of it says about
lost and repeated packets.
-/
namespace TransportStream

/-- What one counter value says. -/
inductive Continuity where
  /-- There was no expectation, or the packet announced a break. -/
  | first
  | ok
  /-- A single repeat of the packet before. -/
  | duplicate
  | gap (expected actual : Nat)
  deriving DecidableEq, Repr

/-- The expectation for the next packet of one PID. -/
structure ContinuityCounter where
  last : Option Nat := none
  duplicateSeen : Bool := false
  deriving DecidableEq, Repr

namespace ContinuityCounter

/-- Judges a packet without payload, on which the counter must not move. -/
def checkIdle (counter : ContinuityCounter) (previous value : Nat) :
    Continuity × ContinuityCounter :=
  if value = previous then (.ok, counter)
  else (.gap previous value, { last := some value })

/-- Judges a packet with payload, on which the counter moves by one. Its value may
stand still once, for a repeat. -/
def checkPayload (counter : ContinuityCounter) (previous value : Nat) :
    Continuity × ContinuityCounter :=
  let expected := (previous + 1) % 16
  if value = expected then (.ok, { last := some value })
  else if value = previous ∧ counter.duplicateSeen = false then
    (.duplicate, { counter with duplicateSeen := true })
  else (.gap expected value, { last := some value })

/-- Judges the next packet of a PID and moves the expectation on. -/
def check (counter : ContinuityCounter) (value : Nat) (hasPayload announced : Bool) :
    Continuity × ContinuityCounter :=
  let value := value % 16
  if announced then (.first, { last := some value })
  else
    match counter.last with
    | none => (.first, { counter with last := some value })
    | some previous =>
      if hasPayload then counter.checkPayload previous value
      else counter.checkIdle previous value

/-- Forgets the expectation. -/
def reset (_ : ContinuityCounter) : ContinuityCounter := {}

end ContinuityCounter

end TransportStream
