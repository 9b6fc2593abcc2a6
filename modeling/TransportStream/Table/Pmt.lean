import TransportStream.Section
import TransportStream.Table.Descriptor

/-!
Program maps: the elementary streams of one program and the PID of its clock.
-/
namespace TransportStream

/-- One elementary stream of a program map. -/
structure PmtStream where
  streamType : UInt8
  pid : Nat
  descriptors : List Descriptor
  deriving DecidableEq, Repr

/-- A program map, or one section of it. -/
structure Pmt extends SectionPosition where
  program : Nat
  pcrPid : Nat
  descriptors : List Descriptor
  streams : List PmtStream
  deriving DecidableEq, Repr

/-- The PIDs of the entitlement messages that open this stream. -/
def PmtStream.ecmPids (stream : PmtStream) : List Nat := Descriptor.caPids stream.descriptors

namespace Pmt

def tableId : UInt8 := 0x02

def stream? (pmt : Pmt) (pid : Nat) : Option PmtStream :=
  pmt.streams.find? (fun stream => stream.pid == pid)

/-- Every entitlement PID of the program and of its streams, ascending, each once. -/
def ecmPids (pmt : Pmt) : List Nat :=
  let pids := Descriptor.caPids pmt.descriptors ++ pmt.streams.flatMap PmtStream.ecmPids
  (pids.mergeSort (fun left right => left ≤ right)).eraseReps

/-- Joins the sections of one version, in the order of their numbers. The clock PID is
that of the first. -/
def merge (parts : List Pmt) : Option Pmt :=
  match parts.mergeSort (fun left right => left.number ≤ right.number) with
  | [] => none
  | first :: rest => some { first with
      number := 0
      descriptors := first.descriptors ++ rest.flatMap (·.descriptors)
      streams := first.streams ++ rest.flatMap (·.streams) }

/-- Reads the stream loop; `seen` are the PIDs listed before. -/
def parseStreams (seen : List Nat) : Bytes → Except Error (List PmtStream)
  | [] => .ok []
  | streamType :: high :: low :: lengthHigh :: lengthLow :: rest =>
    let pid := Descriptor.pidOf high low
    let length := LongSection.declaredLength lengthHigh lengthLow
    if rest.length < length then .error (.invalidSection (.streamInfoOverrun pid))
    else if pid ∈ seen then .error (.invalidSection (.repeatedPid pid))
    else do
      let descriptors ← Descriptor.parseLoop (rest.take length)
      let others ← parseStreams (pid :: seen) (rest.drop length)
      return { streamType, pid, descriptors } :: others
  | _ => .error (.invalidSection .truncatedStream)
termination_by data => data.length
decreasing_by simp only [List.length_drop, List.length_cons]; omega

/-- Reads the body after its clock PID: the program's descriptors and the stream loop. -/
def parseBody (length : Nat) (rest : Bytes) :
    Except Error (List Descriptor × List PmtStream) :=
  if rest.length < length then .error (.invalidSection .programInfoOverrun)
  else do
    let descriptors ← Descriptor.parseLoop (rest.take length)
    let streams ← parseStreams [] (rest.drop length)
    return (descriptors, streams)

/-- Reads one section of the map. -/
def parse (data : Bytes) : Except Error Pmt := do
  let part ← LongSection.parse data
  if part.tableId ≠ tableId then throw (.invalidSection (.wrongTable part.tableId .pmt))
  match part.body with
  | high :: low :: lengthHigh :: lengthLow :: rest =>
    let (descriptors, streams) ←
      parseBody (LongSection.declaredLength lengthHigh lengthLow) rest
    return { part.toSectionPosition with
      program := part.extension, pcrPid := Descriptor.pidOf high low, descriptors, streams }
  | _ => throw (.invalidSection .shortMapBody)

/-- A PID and a descriptor loop with its length, as they stand in a map. -/
def encodeLoop (pid : Nat) (descriptors : List Descriptor) : Bytes :=
  let loop := Descriptor.encodeLoop descriptors
  [UInt8.ofNat (0xE0 + pid / 256 % 32), UInt8.ofNat pid,
    UInt8.ofNat (0xF0 + loop.length / 256 % 16), UInt8.ofNat loop.length] ++ loop

/-- One entry of the stream loop. -/
def encodeStream (stream : PmtStream) : Bytes :=
  stream.streamType :: encodeLoop stream.pid stream.descriptors

def encodeBody (pmt : Pmt) : Bytes :=
  encodeLoop pmt.pcrPid pmt.descriptors ++ pmt.streams.flatMap encodeStream

/-- The map as one section. -/
def encode (pmt : Pmt) : Bytes :=
  LongSection.encode { pmt.toSectionPosition with
    tableId, extension := pmt.program, body := pmt.encodeBody }

end Pmt

end TransportStream
