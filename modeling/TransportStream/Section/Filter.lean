import TransportStream.Section

/-!
Reassembly of sections from the payloads of one PID. A section may span payloads, a
payload may hold several sections, and only complete sections with a right check value
come out.
-/
namespace TransportStream

/-- Reassembly of the sections of one PID. `held` is the section in progress; it is
empty between sections. The counters tell what was discarded. -/
structure SectionFilter where
  pid : Nat
  checkCrc : Bool
  longFormOnly : Bool
  held : Bytes := []
  crcErrors : Nat := 0
  truncated : Nat := 0
  malformed : Nat := 0
  deriving DecidableEq, Repr

namespace SectionFilter

/-- A filter for program tables, which use the long form. -/
def psi (pid : Nat) (checkCrc : Bool) : SectionFilter := { pid, checkCrc, longFormOnly := true }

/-- A filter for private sections, which may use the short form. -/
def privateData (pid : Nat) (checkCrc : Bool) : SectionFilter :=
  { pid, checkCrc, longFormOnly := false }

/-- Whether a section is in progress. -/
def isActive (filter : SectionFilter) : Bool := !filter.held.isEmpty

/-- Drops the section in progress. -/
def reset (filter : SectionFilter) : SectionFilter := { filter with held := [] }

/-- Drops the section in progress and counts it. -/
def truncate (filter : SectionFilter) : SectionFilter :=
  if filter.isActive then { filter with held := [], truncated := filter.truncated + 1 }
  else filter

/-- Data was lost on this PID: a section in progress cannot be completed. -/
def discontinuity (filter : SectionFilter) : SectionFilter := filter.truncate

/-- The bytes of a whole section, as declared in its first three bytes. -/
def wholeSize? : Bytes → Option Nat
  | _ :: second :: third :: _ =>
    some (LongSection.headerSize + LongSection.declaredLength second third)
  | _ => none

/-- Whether a section is in long form. -/
def isLongForm : Bytes → Bool
  | _ :: second :: _ => bit second 7
  | _ => false

/-- Judges a complete section: it comes out, or is counted and dropped. -/
def complete (filter : SectionFilter) (data : Bytes) : SectionFilter × Option Bytes :=
  let filter := { filter with held := [] }
  if filter.longFormOnly && !isLongForm data then
    ({ filter with malformed := filter.malformed + 1 }, none)
  else if filter.checkCrc && isLongForm data && !(Crc.verify data).isOk then
    ({ filter with crcErrors := filter.crcErrors + 1 }, none)
  else (filter, some data)

/-- Continues the section in progress, or starts one, with `data`. Returns the section
if it is complete now and accepted, and the bytes after it. A section that declares too
great a length takes all bytes with it. -/
def absorb (filter : SectionFilter) (data : Bytes) : SectionFilter × Option Bytes × Bytes :=
  let held := filter.held ++ data
  match wholeSize? held with
  | none => ({ filter with held }, none, [])
  | some size =>
    if LongSection.headerSize + LongSection.lengthLimit < size then
      ({ filter with held := [], malformed := filter.malformed + 1 }, none, [])
    else if held.length < size then ({ filter with held }, none, [])
    else
      let (filter, accepted) := filter.complete (held.take size)
      (filter, accepted, held.drop size)

theorem absorb_rest_length (filter : SectionFilter) (data : Bytes) (idle : filter.held = [])
    (fed : data ≠ []) : (filter.absorb data).2.2.length < data.length := by
  have positive : 0 < data.length := List.length_pos_iff.mpr fed
  unfold absorb
  simp only [idle, List.nil_append]
  split
  · simpa using positive
  · rename_i size found
    have sized : 3 ≤ size := by
      unfold wholeSize? at found
      split at found
      · simp only [Option.some.injEq] at found
        simp only [LongSection.headerSize] at found
        omega
      · cases found
    split
    · simpa using positive
    · split
      · simpa using positive
      · simp only [List.length_drop]
        omega

/-- Takes the sections that start in `data`, one after another, until the data ends,
stuffing starts or a section stays in progress. -/
def takeSections (filter : SectionFilter) (data : Bytes) : SectionFilter × List Bytes :=
  match data with
  | [] => (filter, [])
  | first :: rest =>
    if first = 0xFF then (filter, [])
    else
      let filter := filter.reset
      let step := filter.absorb (first :: rest)
      if step.1.isActive then (step.1, step.2.1.toList)
      else
        let (filter, sections) := step.1.takeSections step.2.2
        (filter, step.2.1.toList ++ sections)
termination_by data.length
decreasing_by exact absorb_rest_length _ _ rfl (by simp)

/-- Ends the section in progress with the bytes before the first new section. What is
still in progress after them is counted as truncated. -/
def finishHeld (filter : SectionFilter) (tail : Bytes) : SectionFilter × List Bytes :=
  if filter.isActive then
    let (filter, accepted, _) := filter.absorb tail
    (filter.truncate, accepted.toList)
  else (filter, [])

/-- Takes a payload in which sections start; its first byte points to the first. -/
def pushStart (filter : SectionFilter) : Bytes → SectionFilter × List Bytes
  | [] => (filter, [])
  | pointer :: data =>
    if data.length < pointer.toNat then
      ({ filter with held := [], malformed := filter.malformed + 1 }, [])
    else
      let (filter, finished) := filter.finishHeld (data.take pointer.toNat)
      let (filter, started) := filter.takeSections (data.drop pointer.toNat)
      (filter, finished ++ started)

/-- Takes a payload in which no section starts. Bytes after the end of the section in
progress are stuffing. -/
def pushContinuation (filter : SectionFilter) (payload : Bytes) : SectionFilter × List Bytes :=
  if filter.isActive then
    let (filter, accepted, _) := filter.absorb payload
    (filter, accepted.toList)
  else (filter, [])

/-- Takes one payload and returns the sections it completes. -/
def push (filter : SectionFilter) (payload : Bytes) (unitStart : Bool) :
    SectionFilter × List Bytes :=
  if unitStart then filter.pushStart payload else filter.pushContinuation payload

end SectionFilter

end TransportStream
