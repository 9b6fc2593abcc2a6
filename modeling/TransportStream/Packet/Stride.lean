import TransportStream.Bytes

/-!
Sizes of transport packets and of the units that carry them.
-/
namespace TransportStream

/-- Bytes of one transport packet. -/
def packetSize : Nat := 188

/-- The byte every transport packet starts with. -/
def syncByte : UInt8 := 0x47

/-- Distances between packets that framing knows: bare packets, packets led by an
arrival stamp, and packets trailed by either kind of parity. -/
def strides : List Nat := [188, 192, 204, 208]

/-- The stride at which each packet is led by a four-byte arrival stamp. -/
def stampedStride : Nat := 192

/-- Bytes of the arrival stamp before a packet. -/
def stampSize : Nat := stampedStride - packetSize

/-- The widest stride. -/
def widestStride : Nat := 208

/-- The offset that is told of a place in the stream: what of the place fits 64 bits. -/
def offsetOf (place : Nat) : Nat := place % wordRange

theorem offsetOf_eq_self {place : Nat} (fits : place < wordRange) : offsetOf place = place :=
  Nat.mod_eq_of_lt fits

/-- The PID of the program association table. -/
def patPid : Nat := 0x0000

/-- The PID of the conditional access table. -/
def catPid : Nat := 0x0001

/-- The PID of packets without content. -/
def nullPid : Nat := 0x1FFF

end TransportStream
