import TransportStream.Packet.Pcr

/-!
Adaptation fields: flags, clock references and the splice countdown between a packet's
header and its payload.
-/
namespace TransportStream

/-- The parts of an adaptation field that demultiplexing acts upon. `length` counts the
bytes after the length byte. -/
structure AdaptationField where
  length : Nat
  discontinuity : Bool := false
  randomAccess : Bool := false
  priority : Bool := false
  pcr : Option Pcr := none
  opcr : Option Pcr := none
  spliceCountdown : Option Int := none
  deriving DecidableEq, Repr

namespace AdaptationField

/-- Reads a clock reference if it is flagged, and returns what follows it. -/
def takePcr (flagged : Bool) (truncated : PacketFault) (fields : Bytes) :
    Except Error (Option Pcr × Bytes) :=
  if flagged then
    if fields.length < 6 then .error (.invalidPacket truncated)
    else do
      let pcr ← Pcr.parse fields
      return (some pcr, fields.drop 6)
  else .ok (none, fields)

/-- Reads the bytes that the length byte counts. -/
def parseBody (length : Nat) : Bytes → Except Error AdaptationField
  | [] => .ok { length }
  | flags :: fields => do
    let (pcr, fields) ← takePcr (bit flags 4) .truncatedPcr fields
    let (opcr, fields) ← takePcr (bit flags 3) .truncatedOpcr fields
    return {
      length
      discontinuity := bit flags 7
      randomAccess := bit flags 6
      priority := bit flags 5
      pcr
      opcr
      spliceCountdown :=
        if bit flags 2 then fields.head?.map (fun byte => byte.toInt8.toInt) else none }

/-- Reads an adaptation field from its length byte on. -/
def parse : Bytes → Except Error AdaptationField
  | [] => .error (.invalidPacket .missingAdaptationLength)
  | length :: rest =>
    if rest.length < length.toNat then
      .error (.invalidPacket (.adaptationOverrun length.toNat))
    else parseBody length.toNat (rest.take length.toNat)

end AdaptationField

end TransportStream
