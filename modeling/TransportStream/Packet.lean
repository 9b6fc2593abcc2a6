import TransportStream.Packet.Header
import TransportStream.Packet.AdaptationField
import TransportStream.Packet.Stride

/-!
Transport packets: 188 bytes, read once and kept with their place in the stream.
-/
namespace TransportStream

/-- One transport packet. `place` is that of its first byte in the stream, counted without end,
and `arrival` the 30-bit stamp that came before it, if framing carries stamps. -/
structure TransportPacket where
  header : PacketHeader
  adaptation : Option AdaptationField
  place : Nat
  arrival : Option Nat
  bytes : Bytes
  deriving DecidableEq, Repr

namespace TransportPacket

/-- The stream offset of a packet. -/
def offset (packet : TransportPacket) : Nat := offsetOf packet.place

/-- Where the payload would start: after the header and the adaptation field. -/
def payloadStart (packet : TransportPacket) : Nat :=
  match packet.adaptation with
  | none => 4
  | some field => 5 + field.length

/-- The payload, if the header announces one. -/
def payload? (packet : TransportPacket) : Option Bytes :=
  if packet.header.hasPayload then some (packet.bytes.drop packet.payloadStart) else none

def pid (packet : TransportPacket) : Nat := packet.header.pid

def pcr (packet : TransportPacket) : Option Pcr := packet.adaptation.bind (·.pcr)

/-- Whether the packet announces a break of its own timeline and counter. -/
def discontinuity (packet : TransportPacket) : Bool :=
  packet.adaptation.any (·.discontinuity)

def randomAccess (packet : TransportPacket) : Bool :=
  packet.adaptation.any (·.randomAccess)

/-- Reads the adaptation field that follows a header, if the header announces one. -/
def parseAdaptation (header : PacketHeader) (data : Bytes) :
    Except Error (Option AdaptationField) :=
  if header.hasAdaptationField then some <$> AdaptationField.parse data else .ok none

/-- Reads a packet from the first 188 bytes of `data`. -/
def parse (data : Bytes) (place : Nat) : Except Error TransportPacket :=
  if data.length < packetSize then .error (.invalidPacket (.shortPacket data.length))
  else do
    let bytes := data.take packetSize
    let header ← PacketHeader.parse bytes
    if header.adaptationControl = 0 then throw (.invalidPacket .reservedControl)
    let adaptation ← parseAdaptation header (bytes.drop 4)
    let packet : TransportPacket := { header, adaptation, place, arrival := none, bytes }
    if header.hasPayload && decide (packetSize ≤ packet.payloadStart) then
      throw (.invalidPacket .noPayloadRoom)
    return packet

end TransportPacket

end TransportStream
