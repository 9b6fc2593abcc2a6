import TransportStream.AccessUnit

/-!
The world around a session, as the calls the session makes into it and the answers it
gives. An answer may depend on every call made before.
-/
namespace TransportStream

/-- One call of a session into its surroundings, with the answer. Sinks have serial
numbers in the order of their creation. -/
inductive Call where
  /-- Asks for an output; without a sink the stream is declined. -/
  | create (info : StreamInfo) (sink : Option Nat)
  /-- Hands a unit to a sink. -/
  | deliver (sink : Nat) (unit : AccessUnit) (failure : Option String)
  /-- Tells a sink that its stream ended. -/
  | finish (sink pid : Nat) (failure : Option String)
  /-- Shows an entitlement section. -/
  | entitlement (pid : Nat) (cls : StreamClass) (data : Bytes)
  /-- Asks to descramble a payload; without an answer it is left scrambled. -/
  | descramble (pid control : Nat) (payload : Bytes) (clear : Option Bytes)
  deriving DecidableEq, Repr

/-- Whether a call was answered with a failure. -/
def Call.failed : Call → Bool
  | deliver _ _ failure | finish _ _ failure => failure.isSome
  | create _ _ | entitlement _ _ _ | descramble _ _ _ _ => false

/-- What descrambles: from the calls so far, newest first, a PID, the scrambling control
and a payload to the clear payload, if there is a key. -/
abbrev Descrambler := List Call → Nat → Nat → Bytes → Option Bytes

/-- The surroundings of a session. Every answer is given the calls so far, newest first.
Without a descrambler nothing is asked or shown about conditional access. -/
structure Host where
  /-- Whether a stream gets an output. -/
  accepts : List Call → StreamInfo → Bool
  /-- The text of the failure to take a unit. -/
  deliverFailure : List Call → Nat → AccessUnit → Option String
  /-- The text of the failure to take the end of a stream. -/
  finishFailure : List Call → Nat → Option String
  descrambler : Option Descrambler := none

namespace Host

/-- Surroundings that accept every stream and never fail. -/
def willing : Host :=
  { accepts := fun _ _ => true
    deliverFailure := fun _ _ _ => none
    finishFailure := fun _ _ => none }

/-- Whether no sink ever fails. -/
def Reliable (host : Host) : Prop :=
  (∀ calls sink unit, host.deliverFailure calls sink unit = none) ∧
    ∀ calls sink, host.finishFailure calls sink = none

end Host

end TransportStream
