import TransportStream.Session

/-!
A summary of a session: programs and streams, counters, byte rate and duration.
-/
namespace TransportStream

/-- An elementary stream of a program. -/
structure StreamReport where
  pid : Nat
  streamType : UInt8
  codec : String
  /-- Whether the stream has an output. -/
  output : Bool
  ecmPids : List Nat

/-- A program of the stream, with its map as far as it is known. -/
structure ProgramReport where
  program : Nat
  mapPid : Nat
  pcrPid : Option Nat
  version : Option Nat
  selected : Bool
  streams : List StreamReport

/-- A summary of a session. -/
structure Report where
  phase : Phase
  packetSize : Option Nat
  streamId : Option Nat
  programs : List ProgramReport
  bitsPerSecond : Option Float
  durationSeconds : Option Float
  stats : SessionStats
  clock : ClockStats
  pids : NatMap StreamStats

namespace Report

def ofStream (session : Session) (selected : Bool) (stream : PmtStream) : StreamReport :=
  { pid := stream.pid
    streamType := stream.streamType
    codec := (StreamType.ofCode stream.streamType).codecName
    output := session.router.outputs.contains stream.pid && selected
    ecmPids := stream.ecmPids }

def ofProgram (session : Session) (entry : PatEntry) : ProgramReport :=
  let pmt := session.router.tables.pmt? entry.program
  let selected := session.router.program == some entry.program
  { program := entry.program
    mapPid := entry.mapPid
    pcrPid := pmt.map (·.pcrPid)
    version := pmt.map (·.version)
    selected
    streams := (pmt.map (·.streams)).getD [] |>.map (ofStream session selected) }

/-- The summary of a session as it stands. -/
def ofSession (session : Session) : Report :=
  let router := session.router
  { phase := session.phase
    packetSize := session.sync.stride
    streamId := router.tables.pat.map (·.streamId)
    programs := ((router.tables.pat.map (·.programs)).getD []).map (ofProgram session)
    bitsPerSecond := router.clock.bitrate.map (fun bitrate => bitrate * 8.0)
    durationSeconds := router.clock.duration?.map Duration.toSeconds
    stats := router.stats.session
    clock := router.clock.stats
    pids := router.stats.streams }

end Report

end TransportStream
