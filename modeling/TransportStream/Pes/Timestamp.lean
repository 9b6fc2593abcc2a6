import TransportStream.Bytes
import TransportStream.Error

/-!
Presentation and decoding timestamps: 33 bits at 90 kHz, written in five bytes around
three marker bits behind a four-bit label.
-/
namespace TransportStream.Timestamp

/-- Ticks of a timestamp in a second. -/
def frequency : Nat := 90000

/-- Ticks after which timestamps start over. -/
def wrap : Nat := 0x200000000

/-- Reads a timestamp. The marker bits must be set; the label is not checked. -/
def parse : Bytes → Except Error Nat
  | first :: second :: third :: fourth :: fifth :: _ =>
    if bit first 0 && bit third 0 && bit fifth 0 then
      .ok (first.toNat / 2 % 8 * 0x40000000 + second.toNat * 0x400000 +
        third.toNat / 2 * 0x8000 + fourth.toNat * 0x80 + fifth.toNat / 2)
    else .error (.invalidPes .clearedMarker)
  | _ => .error (.invalidPes .shortTimestamp)

/-- Writes the low 33 bits of a value behind a label, of which four bits count. -/
def encode (value : Nat) (label : UInt8) : Bytes :=
  [UInt8.ofNat (label.toNat % 16 * 16 + value / 0x40000000 % 8 * 2 + 1),
    UInt8.ofNat (value / 0x400000),
    UInt8.ofNat (value / 0x8000 % 128 * 2 + 1),
    UInt8.ofNat (value / 0x80),
    UInt8.ofNat (value % 128 * 2 + 1)]

end TransportStream.Timestamp
