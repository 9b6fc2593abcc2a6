import TransportStream.NatMap
import TransportStream.Section

/-!
Collecting the sections of one table version until every number up to the last is there.
-/
namespace TransportStream

/-- The sections of one table version received so far, by section number. After a version
is complete its version is remembered and its sections are let go. -/
structure Assembly (α : Type) where
  version : Option Nat := none
  currentNext : Bool := true
  last : Nat := 0
  parts : NatMap α := {}

namespace Assembly

variable {α : Type}

instance : Inhabited (Assembly α) := ⟨{}⟩

/-- Drops what was collected. -/
def clear (assembly : Assembly α) : Assembly α := { assembly with version := none, parts := {} }

/-- Whether a section belongs to the version being collected. -/
def continues (assembly : Assembly α) (position : SectionPosition) : Bool :=
  assembly.version == some position.version && assembly.currentNext == position.currentNext

/-- Adds a section that fits, and hands out all sections if it was the last missing. -/
def add (assembly : Assembly α) (position : SectionPosition) (part : α) :
    Assembly α × Option (List α) :=
  let parts := assembly.parts.insert position.number part
  let assembly := { assembly with last := position.last, parts }
  if parts.size = position.last + 1 then ({ assembly with parts := {} }, some parts.values)
  else (assembly, none)

/-- Takes one section. A section of another version starts over; one that changes the
last number within a version is refused, and what was collected is dropped. -/
def offer (assembly : Assembly α) (position : SectionPosition) (part : α) :
    Assembly α × Except Error (Option (List α)) :=
  if assembly.continues position then
    if !assembly.parts.isEmpty && assembly.last != position.last then
      (assembly.clear,
        .error (.invalidSection (.lastNumberChanged assembly.last position.last position.version)))
    else
      let (assembly, complete) := assembly.add position part
      (assembly, .ok complete)
  else
    let fresh : Assembly α :=
      { assembly with
        version := some position.version, currentNext := position.currentNext, parts := {} }
    let (assembly, complete) := fresh.add position part
    (assembly, .ok complete)

end Assembly

end TransportStream
