import TransportStream.Bytes
import TransportStream.Duration
import TransportStream.StreamType

/-!
What a session delivers: access units of elementary streams, each stream with the facts
by which its output was created.
-/
namespace TransportStream

/-- The role of a PID a session listens to. -/
inductive StreamClass where
  | pat
  | pmt
  | cat
  | ecm
  | emm
  | pes
  deriving DecidableEq, Repr

/-- An elementary stream as the program map describes it. -/
structure StreamInfo where
  pid : Nat
  program : Nat
  streamType : StreamType
  pcrPid : Nat
  ecmPids : List Nat
  deriving DecidableEq, Repr

/-- One reassembled PES packet of an elementary stream. -/
structure AccessUnit where
  pid : Nat
  streamId : UInt8
  streamType : StreamType
  pts : Option Nat
  dts : Option Nat
  /-- Presentation time from the stream's time base on. -/
  timestamp : Option Duration
  payload : Bytes
  /-- Data was lost before or inside this unit. -/
  discontinuity : Bool
  randomAccess : Bool
  /-- Stream offset of the packet that started this unit. -/
  offset : Nat
  deriving DecidableEq, Repr

end TransportStream
