import TransportStream.Bytes
import TransportStream.Error

/-!
Descriptors: tagged byte strings, one after another, in the loops of program tables.
-/
namespace TransportStream

/-- A tagged byte string. -/
structure Descriptor where
  tag : UInt8
  data : Bytes
  deriving DecidableEq, Repr

/-- What a conditional access descriptor names: a system, and the PID of its entitlement
messages. -/
structure CaDescriptor where
  systemId : Nat
  pid : Nat
  deriving DecidableEq, Repr

namespace Descriptor

/-- The tag of conditional access descriptors. -/
def caTag : UInt8 := 0x09

/-- The thirteen bits of a PID in two bytes. -/
def pidOf (high low : UInt8) : Nat := high.toNat % 32 * 256 + low.toNat

/-- Reads a conditional access descriptor. -/
def ca? (descriptor : Descriptor) : Option CaDescriptor :=
  match descriptor.data with
  | a :: b :: c :: d :: _ =>
    if descriptor.tag = caTag then some ⟨a.toNat * 256 + b.toNat, pidOf c d⟩ else none
  | _ => none

/-- The PIDs of the conditional access descriptors in a loop, in order. -/
def caPids (descriptors : List Descriptor) : List Nat :=
  descriptors.filterMap (fun descriptor => descriptor.ca?.map (·.pid))

/-- Reads a whole loop. -/
def parseLoop : Bytes → Except Error (List Descriptor)
  | [] => .ok []
  | [_] => .error (.invalidSection .truncatedDescriptor)
  | tag :: length :: rest =>
    if rest.length < length.toNat then
      .error (.invalidSection (.descriptorOverrun tag length.toNat))
    else do
      let others ← parseLoop (rest.drop length.toNat)
      return ⟨tag, rest.take length.toNat⟩ :: others
termination_by data => data.length
decreasing_by simp only [List.length_drop, List.length_cons]; omega

/-- One descriptor: tag, length, data. The length byte drops what it cannot hold. -/
def encode (descriptor : Descriptor) : Bytes :=
  descriptor.tag :: UInt8.ofNat descriptor.data.length :: descriptor.data

/-- A whole loop. -/
def encodeLoop (descriptors : List Descriptor) : Bytes := descriptors.flatMap encode

end Descriptor

end TransportStream
