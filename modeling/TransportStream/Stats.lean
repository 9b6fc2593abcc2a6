import TransportStream.AccessUnit
import TransportStream.NatMap

/-!
Counters of a session and of each PID it listens to.
-/
namespace TransportStream

/-- Counters of a whole session. Every anomaly that does not end it lands in one. -/
structure SessionStats where
  bytes : Nat := 0
  packets : Nat := 0
  resyncs : Nat := 0
  invalidPackets : Nat := 0
  transportErrors : Nat := 0
  continuityErrors : Nat := 0
  duplicates : Nat := 0
  crcErrors : Nat := 0
  truncatedSections : Nat := 0
  malformedSections : Nat := 0
  pesOverflows : Nat := 0
  pesDropped : Nat := 0
  pesInvalid : Nat := 0
  scrambledPackets : Nat := 0
  tableVersionChanges : Nat := 0
  unsupportedStreams : Nat := 0
  accessUnits : Nat := 0
  deriving DecidableEq, Repr

/-- Counters of one PID. -/
structure StreamStats where
  cls : StreamClass
  packets : Nat := 0
  payloadBytes : Nat := 0
  continuityErrors : Nat := 0
  duplicates : Nat := 0
  scrambled : Nat := 0
  accessUnits : Nat := 0
  lastPts : Option Nat := none
  deriving DecidableEq, Repr

/-- The counters of a session and of its PIDs. -/
structure Stats where
  session : SessionStats := {}
  streams : NatMap StreamStats := {}

namespace Stats

/-- Starts to count a PID. One counted before keeps its counters in its new role. -/
def addStream (stats : Stats) (pid : Nat) (cls : StreamClass) : Stats :=
  let entry : StreamStats :=
    match stats.streams.get? pid with
    | none => { cls }
    | some entry => { entry with cls }
  { stats with streams := stats.streams.insert pid entry }

def recordPacket (stats : Stats) (pid payloadLength : Nat) (scrambled : Bool) : Stats :=
  let more := scrambled.toNat
  { session := { stats.session with
      packets := stats.session.packets + 1
      scrambledPackets := stats.session.scrambledPackets + more }
    streams := stats.streams.modify pid (fun entry => { entry with
      packets := entry.packets + 1
      payloadBytes := entry.payloadBytes + payloadLength
      scrambled := entry.scrambled + more }) }

def recordTransportError (stats : Stats) : Stats :=
  { stats with session := { stats.session with
      transportErrors := stats.session.transportErrors + 1 } }

def recordContinuityError (stats : Stats) (pid : Nat) : Stats :=
  { session := { stats.session with
      continuityErrors := stats.session.continuityErrors + 1 }
    streams := stats.streams.modify pid (fun entry =>
      { entry with continuityErrors := entry.continuityErrors + 1 }) }

def recordDuplicate (stats : Stats) (pid : Nat) : Stats :=
  { session := { stats.session with duplicates := stats.session.duplicates + 1 }
    streams := stats.streams.modify pid (fun entry =>
      { entry with duplicates := entry.duplicates + 1 }) }

def recordAccessUnit (stats : Stats) (pid : Nat) (pts : Option Nat) : Stats :=
  { session := { stats.session with accessUnits := stats.session.accessUnits + 1 }
    streams := stats.streams.modify pid (fun entry =>
      { entry with accessUnits := entry.accessUnits + 1, lastPts := pts.or entry.lastPts }) }

def recordUnsupported (stats : Stats) : Stats :=
  { stats with session := { stats.session with
      unsupportedStreams := stats.session.unsupportedStreams + 1 } }

end Stats

end TransportStream
