import TransportStream.Section
import TransportStream.Table.Descriptor

/-!
The conditional access table: where entitlement management messages travel.
-/
namespace TransportStream

/-- A conditional access table, or one section of it. -/
structure Cat extends SectionPosition where
  descriptors : List Descriptor
  deriving DecidableEq, Repr

namespace Cat

def tableId : UInt8 := 0x01

/-- The PIDs of the entitlement management messages, in the order of the table. -/
def emmPids (cat : Cat) : List Nat := Descriptor.caPids cat.descriptors

/-- Joins the sections of one version, in the order of their numbers. -/
def merge (parts : List Cat) : Option Cat :=
  match parts.mergeSort (fun left right => left.number ≤ right.number) with
  | [] => none
  | first :: rest => some { first with
      number := 0
      descriptors := first.descriptors ++ rest.flatMap (·.descriptors) }

/-- Reads one section of the table. -/
def parse (data : Bytes) : Except Error Cat := do
  let part ← LongSection.parse data
  if part.tableId ≠ tableId then throw (.invalidSection (.wrongTable part.tableId .cat))
  let descriptors ← Descriptor.parseLoop part.body
  return { part.toSectionPosition with descriptors }

/-- The table as one section. -/
def encode (cat : Cat) : Bytes :=
  LongSection.encode { cat.toSectionPosition with
    tableId, extension := 0xFFFF, body := Descriptor.encodeLoop cat.descriptors }

end Cat

end TransportStream
