import TransportStream.Bytes
import TransportStream.Error

/-!
Program clock references: a 33-bit count at 90 kHz and an extension that divides each
of its ticks into 300, together a 27 MHz clock.
-/
namespace TransportStream

/-- A program clock reference. -/
structure Pcr where
  base : Nat
  extension : Nat
  deriving DecidableEq, Repr

namespace Pcr

/-- Ticks of the 27 MHz clock in a second. -/
def frequency : Nat := 27000000

/-- How many values the base has. -/
def baseRange : Nat := 0x200000000

/-- Ticks after which the clock starts over. -/
def wrap : Nat := baseRange * 300

/-- The reference with these parts, each reduced to its range. -/
def ofParts (base extension : Nat) : Pcr := ⟨base % baseRange, extension % 300⟩

/-- The reference at a count of 27 MHz ticks. -/
def ofTicks (ticks : Nat) : Pcr :=
  ofParts (ticks % wrap / 300) (ticks % wrap % 300)

/-- The 27 MHz ticks a reference stands for. They fit 64 bits if the base has no more than its
33 bits. -/
def ticks (pcr : Pcr) : Nat := pcr.base * 300 + pcr.extension

/-- Reads the six-byte field: 33 bits of base, six reserved bits, nine bits of
extension. -/
def parse (data : Bytes) : Except Error Pcr :=
  if data.length < 6 then .error (.invalidPacket .shortPcr)
  else
    let field := Bytes.toNat (data.take 6)
    .ok ⟨field / 0x8000, field % 0x200⟩

/-- The six-byte field, with the reserved bits set. -/
def encode (pcr : Pcr) : Bytes :=
  Bytes.ofNat 6 (pcr.base * 0x8000 + 0x7E00 + pcr.extension % 0x200)

end Pcr

end TransportStream
