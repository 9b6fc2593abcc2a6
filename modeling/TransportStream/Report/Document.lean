import TransportStream.Json.Value
import TransportStream.Report

/-!
A session's summary as JSON text.
-/
namespace TransportStream

open Json (Value)

def Phase.name : Phase → String
  | init => "Init"
  | syncing => "Syncing"
  | patPending => "PatPending"
  | pmtPending => "PmtPending"
  | streaming => "Streaming"
  | flushing => "Flushing"
  | ended => "Eos"

def StreamClass.name : StreamClass → String
  | pat => "Pat"
  | pmt => "Pmt"
  | cat => "Cat"
  | ecm => "Ecm"
  | emm => "Emm"
  | pes => "Pes"

/-- The counters of a session under their names. -/
def SessionStats.entries (stats : SessionStats) : List (String × Nat) :=
  [("bytes", stats.bytes),
    ("packets", stats.packets),
    ("resyncs", stats.resyncs),
    ("invalid_packets", stats.invalidPackets),
    ("transport_errors", stats.transportErrors),
    ("cc_errors", stats.continuityErrors),
    ("duplicates", stats.duplicates),
    ("crc_errors", stats.crcErrors),
    ("truncated_sections", stats.truncatedSections),
    ("malformed_sections", stats.malformedSections),
    ("pes_overflows", stats.pesOverflows),
    ("pes_dropped", stats.pesDropped),
    ("pes_invalid", stats.pesInvalid),
    ("scrambled_packets", stats.scrambledPackets),
    ("table_version_changes", stats.tableVersionChanges),
    ("unsupported_streams", stats.unsupportedStreams),
    ("access_units", stats.accessUnits)]

/-- The counters of a clock under their names. -/
def ClockStats.entries (stats : ClockStats) : List (String × Nat) :=
  [("samples", stats.samples), ("wraps", stats.wraps), ("jitter", stats.jitter),
    ("gaps", stats.gaps)]

namespace Report

/-- An entry that is left out when there is no value. -/
def optional {α : Type} (key : String) (write : α → Value) (value : Option α) :
    List (String × Value) :=
  match value with
  | none => []
  | some value => [(key, write value)]

def counters (entries : List (String × Nat)) : List (String × Value) :=
  entries.map (fun (key, count) => (key, .natural count))

def streamDocument (stream : StreamReport) : Value :=
  .object ([("pid", .natural stream.pid),
    ("stream_type", .natural stream.streamType.toNat),
    ("codec", .text stream.codec),
    ("output", .boolean stream.output)] ++
    if stream.ecmPids.isEmpty then []
    else [("ecm_pids", .array (stream.ecmPids.map .natural))])

def programDocument (program : ProgramReport) : Value :=
  .object ([("program", .natural program.program), ("pmt_pid", .natural program.mapPid)] ++
    optional "pcr_pid" .natural program.pcrPid ++
    optional "pmt_version" .natural program.version ++
    [("selected", .boolean program.selected),
      ("streams", .array (program.streams.map streamDocument))])

def pidDocument (stats : StreamStats) : Value :=
  .object ([("class", .text stats.cls.name)] ++
    counters [("packets", stats.packets),
      ("payload_bytes", stats.payloadBytes),
      ("cc_errors", stats.continuityErrors),
      ("duplicates", stats.duplicates),
      ("scrambled", stats.scrambled),
      ("access_units", stats.accessUnits)] ++
    optional "last_pts" .natural stats.lastPts)

/-- The summary as a document, with the time it was made. -/
def document (report : Report) (timestamp : String) : Value :=
  .object ([("timestamp", .text timestamp), ("state", .text report.phase.name)] ++
    optional "packet_size" .natural report.packetSize ++
    optional "transport_stream_id" .natural report.streamId ++
    [("programs", .array (report.programs.map programDocument))] ++
    optional "bitrate_bps" .real report.bitsPerSecond ++
    optional "duration_secs" .real report.durationSeconds ++
    [("stats", .object (counters report.stats.entries)),
      ("clock", .object (counters report.clock.entries)),
      ("pids", .object (report.pids.entries.map (fun (pid, stats) =>
        (toString pid, pidDocument stats))))])

/-- The summary as text. -/
def render (report : Report) (timestamp : String) : String := (report.document timestamp).render

end Report

end TransportStream
