import Std.Time.Format
import TransportStream.CommandLine.Arguments
import TransportStream.CommandLine.Extraction
import TransportStream.Report.Document

/-!
The command line: loads the files a request names, carries it out, and writes what comes
out.
-/
namespace TransportStream.CommandLine

/-- Loads a file. -/
def NamedFile.load (path : String) : IO NamedFile := do
  let opened ← EIO.toBaseIO (IO.FS.Handle.mk path .read)
  match opened with
  | .error _ => return unopenable
  | .ok handle =>
    let content ← EIO.toBaseIO handle.readBinToEnd
    match content with
    | .error fault => return unreadable (toString fault)
    | .ok data => return readable data.toList

/-- Loads a file if one is named. -/
def NamedFile.loadIf (path : Option String) : IO NamedFile :=
  match path with
  | none => return unopenable
  | some path => load path

/-- Makes a directory if one is named; false if it cannot be made. -/
def makeDirectory (path : Option String) : IO Bool :=
  match path with
  | none => return true
  | some path => do
    let made ← EIO.toBaseIO (IO.FS.createDirAll path)
    return made.isOk

/-- Finds what a request names. -/
def Surroundings.find (request : Request) : IO Surroundings := do
  let outDirReady ← makeDirectory request.outDir
  let config ← NamedFile.loadIf request.config
  let input ← NamedFile.loadIf request.input
  return { outDirReady, config, input }

/-- The time now. -/
def timestamp : IO String := do
  let moment ← Std.Time.Timestamp.now
  return Std.Time.Formats.iso8601.format
    (Std.Time.DateTime.ofTimestamp moment Std.Time.TimeZone.ZoneRules.UTC)

/-- Writes the files of an outcome. -/
def Outcome.write (outcome : Outcome) (outDir : Option String) : IO Unit := do
  for directory in outDir.toList do
    for file in outcome.files do
      IO.FS.writeBinFile (directory ++ "/" ++ file.name) ⟨file.data.toArray⟩

/-- Prints the outcome of a request. -/
def Outcome.print (outcome : Outcome) : IO UInt32 := do
  match outcome.result with
  | .error failure =>
    IO.eprintln ("Error: " ++ failure.message)
    return 1
  | .ok none => return 0
  | .ok (some report) =>
    IO.println (report.render (← timestamp))
    return 0

/-- Says that datagrams cannot be received, or why their address is refused. -/
def refuseDatagrams (address : String) : IO UInt32 := do
  match Endpoint.ofText address with
  | .error error => IO.eprintln ("Error: " ++ error.message)
  | .ok _ => IO.eprintln "Error: this program reads files only"
  return 1

/-- Carries out a request. -/
def Request.execute (request : Request) : IO UInt32 := do
  let outcome := request.perform (← Surroundings.find request)
  outcome.write request.outDir
  match outcome.result, request.input, request.udp with
  | .ok _, none, some address => refuseDatagrams address
  | _, _, _ => outcome.print

end TransportStream.CommandLine

open TransportStream.CommandLine in
/-- Runs the command line. -/
def main (arguments : List String) : IO UInt32 := do
  match Request.ofArguments arguments with
  | .ok request => request.execute
  | .error .helpAsked =>
    IO.println Refusal.helpAsked.message
    return 0
  | .error refusal =>
    IO.eprintln ("error: " ++ refusal.message)
    return 2
