/-!
Byte strings and the numbers written in them, most significant byte first.
-/
namespace TransportStream

/-- A byte string, first byte first. -/
abbrev Bytes := List UInt8

namespace Bytes

/-- The number a byte string writes, most significant byte first. -/
def toNat (bytes : Bytes) : Nat :=
  bytes.foldl (fun number byte => number * 256 + byte.toNat) 0

/-- Exactly `width` bytes that write `number`, most significant byte first;
higher bytes are dropped. -/
def ofNat : (width number : Nat) → Bytes
  | 0, _ => []
  | width + 1, number => ofNat width (number / 256) ++ [UInt8.ofNat number]

@[simp] theorem length_ofNat (width number : Nat) : (ofNat width number).length = width := by
  induction width generalizing number with
  | zero => rfl
  | succ width ih => simp [ofNat, ih]

/-- Whether there are fewer than `count` bytes; reads no further than it must. -/
def isShorter (bytes : Bytes) (count : Nat) : Bool := decide ((bytes.take count).length < count)

@[simp] theorem isShorter_iff (bytes : Bytes) (count : Nat) :
    bytes.isShorter count = true ↔ bytes.length < count := by
  simp only [isShorter, List.length_take, decide_eq_true_eq]
  omega

end Bytes

/-- How many values a 64-bit number has. -/
def wordRange : Nat := 0x10000000000000000

/-- The bit of a byte that weighs two to the power `index`. -/
abbrev bit (byte : UInt8) (index : Nat) : Bool := byte.toNat.testBit index

end TransportStream
