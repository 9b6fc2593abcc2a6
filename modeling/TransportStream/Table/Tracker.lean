import TransportStream.Packet.Stride
import TransportStream.Table.Assembly
import TransportStream.Table.Pat
import TransportStream.Table.Pmt
import TransportStream.Table.Cat

/-!
The program tables of a stream as they stand now. A complete table whose version differs
from the one in force replaces it and is reported as an event. Tables announced for later
are held aside and never applied.
-/
namespace TransportStream

/-- A table came into force. -/
inductive TableEvent where
  | pat (previous : Option Pat) (current : Pat)
  | pmt (mapPid : Nat) (previous : Option Pmt) (current : Pmt)
  | cat (previous : Option Cat) (current : Cat)
  deriving DecidableEq, Repr

/-- The tables in force, the tables held for later, and what is being collected. Maps are
keyed by program number; those in force and in collection carry the PID they came on.
The counters tell how often a table was replaced and how many sections were refused. -/
structure TableTracker where
  pat : Option Pat := none
  nextPat : Option Pat := none
  patParts : Assembly Pat := {}
  pmts : NatMap (Nat × Pmt) := {}
  nextPmts : NatMap Pmt := {}
  pmtParts : NatMap (Nat × Assembly Pmt) := {}
  cat : Option Cat := none
  nextCat : Option Cat := none
  catParts : Assembly Cat := {}
  versionChanges : Nat := 0
  malformed : Nat := 0

namespace TableTracker

instance : Inhabited TableTracker := ⟨{}⟩

/-- The map of a program that is in force. -/
def pmt? (tracker : TableTracker) (program : Nat) : Option Pmt :=
  (tracker.pmts.get? program).map (·.2)

/-- The map of a program that is held for later. -/
def nextPmt? (tracker : TableTracker) (program : Nat) : Option Pmt :=
  tracker.nextPmts.get? program

/-- The PID on which the table in force announces a program's map. -/
def mapPid? (tracker : TableTracker) (program : Nat) : Option Nat :=
  tracker.pat.bind (·.mapPid? program)

def isMapPid (tracker : TableTracker) (pid : Nat) : Bool := tracker.pat.any (·.isMapPid pid)

/-- The requested program if it is there, else none; without a request the lowest. -/
def selectProgram (tracker : TableTracker) (requested : Option Nat) : Option Nat :=
  match tracker.pat with
  | none => none
  | some pat =>
    match requested with
    | some program => (pat.mapPid? program).map (fun _ => program)
    | none => pat.lowestProgram?

/-- Drops what is being collected; tables in force stay. -/
def discardPartial (tracker : TableTracker) : TableTracker :=
  { tracker with
    patParts := tracker.patParts.clear, pmtParts := {}, catParts := tracker.catParts.clear }

/-- Counts a replaced table. -/
def countReplaced {α : Type} (tracker : TableTracker) (previous : Option α) : TableTracker :=
  if previous.isSome then { tracker with versionChanges := tracker.versionChanges + 1 }
  else tracker

/-- Puts a program association table in force. Maps whose program is gone, or has moved
to another PID, are forgotten. -/
def replacePat (tracker : TableTracker) (pat : Pat) : TableTracker :=
  let held := tracker.nextPat.any (fun next => next.version == pat.version)
  let announced := fun (program : Nat) (pid : Nat) => pat.mapPid? program == some pid
  { tracker.countReplaced tracker.pat with
    pat := some pat
    nextPat := if held then none else tracker.nextPat
    pmts := tracker.pmts.filter (fun program entry => announced program entry.1)
    nextPmts := tracker.nextPmts.filter (fun program _ => (pat.mapPid? program).isSome)
    pmtParts := tracker.pmtParts.filter (fun program entry => announced program entry.1) }

/-- Takes a complete program association table. -/
def completePat (tracker : TableTracker) (pat : Pat) : TableTracker × Option TableEvent :=
  if !pat.currentNext then ({ tracker with nextPat := some pat }, none)
  else if tracker.pat.any (fun current => current.version == pat.version) then (tracker, none)
  else (tracker.replacePat pat, some (.pat tracker.pat pat))

/-- Puts a program map in force. -/
def replacePmt (tracker : TableTracker) (pid : Nat) (program : Nat) (pmt : Pmt) :
    TableTracker :=
  let held := (tracker.nextPmt? program).any (fun next => next.version == pmt.version)
  { tracker.countReplaced (tracker.pmt? program) with
    pmts := tracker.pmts.insert program (pid, pmt)
    nextPmts := if held then tracker.nextPmts.erase program else tracker.nextPmts }

/-- Takes a complete program map. -/
def completePmt (tracker : TableTracker) (pid : Nat) (program : Nat) (pmt : Pmt) :
    TableTracker × Option TableEvent :=
  if !pmt.currentNext then
    ({ tracker with nextPmts := tracker.nextPmts.insert program pmt }, none)
  else if (tracker.pmt? program).any (fun current => current.version == pmt.version) then
    (tracker, none)
  else (tracker.replacePmt pid program pmt, some (.pmt pid (tracker.pmt? program) pmt))

/-- Puts a conditional access table in force. -/
def replaceCat (tracker : TableTracker) (cat : Cat) : TableTracker :=
  { tracker.countReplaced tracker.cat with cat := some cat, nextCat := none }

/-- Takes a complete conditional access table. -/
def completeCat (tracker : TableTracker) (cat : Cat) : TableTracker × Option TableEvent :=
  if !cat.currentNext then ({ tracker with nextCat := some cat }, none)
  else if tracker.cat.any (fun current => current.version == cat.version) then (tracker, none)
  else (tracker.replaceCat cat, some (.cat tracker.cat cat))

/-- Counts a refused section. -/
def refuse (tracker : TableTracker) : TableTracker × Option TableEvent :=
  ({ tracker with malformed := tracker.malformed + 1 }, none)

/-- Takes a section of the program association table. -/
def onPat (tracker : TableTracker) (data : Bytes) : TableTracker × Option TableEvent :=
  match Pat.parse data with
  | .error _ => tracker.refuse
  | .ok part =>
    let (patParts, result) := tracker.patParts.offer part.toSectionPosition part
    let tracker := { tracker with patParts }
    match result with
    | .error _ => tracker.refuse
    | .ok none => (tracker, none)
    | .ok (some parts) =>
      match Pat.merge parts with
      | none => (tracker, none)
      | some pat => tracker.completePat pat

/-- What is collected of a program's map on a PID. -/
def partsOn (tracker : TableTracker) (pid : Nat) (program : Nat) : Assembly Pmt :=
  match tracker.pmtParts.get? program with
  | none => {}
  | some (other, parts) => if other = pid then parts else {}

/-- Takes a section of a program map that the table in force announces on this PID. -/
def onAnnouncedPmt (tracker : TableTracker) (pid : Nat) (program : Nat) (data : Bytes) :
    TableTracker × Option TableEvent :=
  match Pmt.parse data with
  | .error _ => tracker.refuse
  | .ok part =>
    let (parts, result) := (tracker.partsOn pid program).offer part.toSectionPosition part
    let tracker := { tracker with pmtParts := tracker.pmtParts.insert program (pid, parts) }
    match result with
    | .error _ => tracker.refuse
    | .ok none => (tracker, none)
    | .ok (some parts) =>
      match Pmt.merge parts with
      | none => (tracker, none)
      | some pmt => tracker.completePmt pid program pmt

/-- Takes a section of a program map. Maps on a PID that is not theirs are ignored. -/
def onPmt (tracker : TableTracker) (pid : Nat) (data : Bytes) :
    TableTracker × Option TableEvent :=
  match LongSection.parse data with
  | .error _ => tracker.refuse
  | .ok part =>
    if tracker.mapPid? part.extension = some pid then
      tracker.onAnnouncedPmt pid part.extension data
    else (tracker, none)

/-- Takes a section of the conditional access table. -/
def onCat (tracker : TableTracker) (data : Bytes) : TableTracker × Option TableEvent :=
  match Cat.parse data with
  | .error _ => tracker.refuse
  | .ok part =>
    let (catParts, result) := tracker.catParts.offer part.toSectionPosition part
    let tracker := { tracker with catParts }
    match result with
    | .error _ => tracker.refuse
    | .ok none => (tracker, none)
    | .ok (some parts) =>
      match Cat.merge parts with
      | none => (tracker, none)
      | some cat => tracker.completeCat cat

/-- Takes one section received on a PID. Sections that are no program table are ignored;
malformed ones are counted and dropped. -/
def handleSection (tracker : TableTracker) (pid : Nat) (data : Bytes) :
    TableTracker × Option TableEvent :=
  match data with
  | [] => (tracker, none)
  | tableId :: _ =>
    if pid = patPid ∧ tableId = Pat.tableId then tracker.onPat data
    else if pid = catPid ∧ tableId = Cat.tableId then tracker.onCat data
    else if tableId = Pmt.tableId ∧ tracker.isMapPid pid = true then tracker.onPmt pid data
    else (tracker, none)

end TableTracker

end TransportStream
