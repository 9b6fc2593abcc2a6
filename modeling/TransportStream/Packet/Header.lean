import TransportStream.Bytes
import TransportStream.Error
import TransportStream.Packet.Stride

/-!
The four-byte header of a transport packet.
-/
namespace TransportStream

/-- The fields of a packet header. `adaptationControl` says in its upper bit whether an
adaptation field is present and in its lower bit whether a payload is. -/
structure PacketHeader where
  transportError : Bool
  payloadUnitStart : Bool
  priority : Bool
  pid : Nat
  scrambling : Nat
  adaptationControl : Nat
  continuity : Nat
  deriving DecidableEq, Repr

namespace PacketHeader

/-- Reads the first four bytes; what follows them does not matter. -/
def parse : Bytes → Except Error PacketHeader
  | sync :: second :: third :: fourth :: _ =>
    if sync = syncByte then
      .ok {
        transportError := bit second 7
        payloadUnitStart := bit second 6
        priority := bit second 5
        pid := second.toNat % 32 * 256 + third.toNat
        scrambling := fourth.toNat / 64
        adaptationControl := fourth.toNat / 16 % 4
        continuity := fourth.toNat % 16 }
    else .error (.invalidPacket (.badSyncByte sync))
  | data => .error (.invalidPacket (.shortHeader data.length))

def hasAdaptationField (header : PacketHeader) : Bool := header.adaptationControl.testBit 1

def hasPayload (header : PacketHeader) : Bool := header.adaptationControl.testBit 0

def isScrambled (header : PacketHeader) : Bool := header.scrambling != 0

end PacketHeader

end TransportStream
