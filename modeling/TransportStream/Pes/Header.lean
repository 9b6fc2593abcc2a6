import TransportStream.Pes.Timestamp

/-!
The header of a PES packet: start code, stream id, declared length and, for most stream
ids, flags and timestamps.
-/
namespace TransportStream

/-- What a PES header says. A `packetLength` of zero leaves the length open;
`size` counts the bytes before the payload. -/
structure PesHeader where
  streamId : UInt8
  packetLength : Nat
  dataAlignment : Bool
  pts : Option Nat
  dts : Option Nat
  size : Nat
  deriving DecidableEq, Repr

namespace PesHeader

/-- Bytes of the part every PES header has. -/
def fixedSize : Nat := 6

/-- The stream id of packets that only fill space. -/
def paddingId : UInt8 := 0xBE

/-- Stream ids without the optional part of the header. -/
def plainIds : List UInt8 := [0xBC, 0xBE, 0xBF, 0xF0, 0xF1, 0xF2, 0xF8, 0xFF]

/-- Reads the timestamps that the two flag bits announce. -/
def parseTimestamps (flags : Nat) (fields : Bytes) :
    Except Error (Option Nat × Option Nat) :=
  match flags with
  | 0 => .ok (none, none)
  | 1 => .error (.invalidPes .forbiddenTimestampFlags)
  | 2 => do
    let pts ← Timestamp.parse fields
    return (some pts, none)
  | _ =>
    if fields.length < 10 then .error (.invalidPes .truncatedTimestamps)
    else do
      let pts ← Timestamp.parse fields
      let dts ← Timestamp.parse (fields.drop 5)
      return (some pts, some dts)

/-- Reads the optional part from its marker bits on. -/
def parseOptional (streamId : UInt8) (packetLength : Nat) : Bytes → Except Error PesHeader
  | marker :: flags :: length :: rest =>
    if marker.toNat / 64 ≠ 2 then .error (.invalidPes .badMarkerBits)
    else if rest.length < length.toNat then .error (.invalidPes .headerOverrun)
    else do
      let (pts, dts) ← parseTimestamps (flags.toNat / 64) (rest.take length.toNat)
      return {
        streamId, packetLength, dataAlignment := bit marker 2, pts, dts
        size := 9 + length.toNat }
  | _ => .error (.invalidPes .truncatedOptionalHeader)

/-- Reads a header from the start of a PES packet. -/
def parse : Bytes → Except Error PesHeader
  | first :: second :: third :: streamId :: high :: low :: rest =>
    if first = 0 ∧ second = 0 ∧ third = 1 then
      let packetLength := high.toNat * 256 + low.toNat
      if streamId ∈ plainIds then
        .ok {
          streamId, packetLength, dataAlignment := false, pts := none, dts := none
          size := fixedSize }
      else parseOptional streamId packetLength rest
    else .error (.invalidPes (.badStartCode first second third))
  | _ => .error (.invalidPes .shortFixedHeader)

end PesHeader

end TransportStream
