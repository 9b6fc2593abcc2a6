import TransportStream.Section
import TransportStream.Table.Descriptor

/-!
The program association table: which programs a stream carries and on which PID each
program's map travels.
-/
namespace TransportStream

/-- One program and the PID of its map. -/
structure PatEntry where
  program : Nat
  mapPid : Nat
  deriving DecidableEq, Repr

/-- A program association table, or one section of it. Program number zero is not a
program; its PID is the network PID. -/
structure Pat extends SectionPosition where
  streamId : Nat
  programs : List PatEntry
  networkPid : Option Nat
  deriving DecidableEq, Repr

namespace Pat

def tableId : UInt8 := 0x00

/-- The map PID of a program: the first entry counts. -/
def mapPid? (pat : Pat) (program : Nat) : Option Nat :=
  (pat.programs.find? (fun entry => entry.program == program)).map (·.mapPid)

def isMapPid (pat : Pat) (pid : Nat) : Bool := pat.programs.any (fun entry => entry.mapPid == pid)

/-- The lowest program number, the program to take when none is asked for. -/
def lowestProgram? (pat : Pat) : Option Nat := (pat.programs.map (·.program)).min?

/-- Joins the sections of one version, in the order of their numbers. -/
def merge (parts : List Pat) : Option Pat :=
  match parts.mergeSort (fun left right => left.number ≤ right.number) with
  | [] => none
  | first :: rest => some { first with
      number := 0
      programs := first.programs ++ rest.flatMap (·.programs)
      networkPid := (first :: rest).findSome? (·.networkPid) }

/-- Reads the program loop. Of several network PIDs the last counts. -/
def parsePrograms : Bytes → Except Error (List PatEntry × Option Nat)
  | a :: b :: c :: d :: rest =>
    let program := a.toNat * 256 + b.toNat
    let pid := Descriptor.pidOf c d
    if program = 0 then do
      let (programs, networkPid) ← parsePrograms rest
      return (programs, networkPid.or (some pid))
    else if pid = 0 then .error (.invalidSection (.programOnPidZero program))
    else do
      let (programs, networkPid) ← parsePrograms rest
      return (⟨program, pid⟩ :: programs, networkPid)
  | _ => .ok ([], none)

/-- Reads one section of the table. -/
def parse (data : Bytes) : Except Error Pat := do
  let part ← LongSection.parse data
  if part.tableId ≠ tableId then throw (.invalidSection (.wrongTable part.tableId .pat))
  if part.body.length % 4 ≠ 0 then throw (.invalidSection .raggedProgramLoop)
  let (programs, networkPid) ← parsePrograms part.body
  return { part.toSectionPosition with streamId := part.extension, programs, networkPid }

/-- One entry of the program loop. -/
def encodeEntry (entry : PatEntry) : Bytes :=
  Bytes.ofNat 2 entry.program ++
    [UInt8.ofNat (0xE0 + entry.mapPid / 256 % 32), UInt8.ofNat entry.mapPid]

/-- The entry of the network PID. Its PID is not cut to thirteen bits. -/
def encodeNetwork (pid : Nat) : Bytes :=
  [0x00, 0x00, 0xE0 ||| UInt8.ofNat (pid / 256), UInt8.ofNat pid]

/-- The program loop, network PID first. -/
def encodeBody (pat : Pat) : Bytes :=
  (match pat.networkPid with
    | none => []
    | some pid => encodeNetwork pid) ++ pat.programs.flatMap encodeEntry

/-- The table as one section. -/
def encode (pat : Pat) : Bytes :=
  LongSection.encode { pat.toSectionPosition with
    tableId, extension := pat.streamId, body := pat.encodeBody }

end Pat

end TransportStream
