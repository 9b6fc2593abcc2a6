import TransportStream.Hex
import TransportStream.Host
import TransportStream.NatMap

/-!
The files elementary streams are written to: one for each output, named by PID and type,
with the payloads of its units one after another.
-/
namespace TransportStream

/-- The usual extension of a file that holds such a stream. -/
def StreamType.fileExtension : StreamType → String
  | mpeg1Video | mpeg2Video => "m2v"
  | mpeg4Video => "m4v"
  | h264 => "h264"
  | hevc => "h265"
  | vvc => "h266"
  | mpeg1Audio | mpeg2Audio => "mp2"
  | adtsAac | latmAac => "aac"
  | ac3 => "ac3"
  | eac3 => "eac3"
  | dts => "dts"
  | privateSections | privatePes | metadata | trueHd | scte35 | unknown _ => "es"

namespace CommandLine

/-- A file by its name in the output directory. -/
structure StreamFile where
  name : String
  data : Bytes
  deriving DecidableEq, Repr

namespace StreamFile

/-- The name of a stream's file: its PID in four digits, and the extension of its type. -/
def nameFor (info : StreamInfo) : String :=
  "pid_0x" ++ Hex.lower 4 info.pid ++ "." ++ info.streamType.fileExtension

/-- What a walk through calls, newest first, knows: the data of sinks whose creation it has
yet to reach, and the files it has found. -/
structure Gathering where
  data : NatMap Bytes := {}
  files : List StreamFile := []

/-- Takes in the call before those seen. A file made again starts over, so of one name
only the newest counts. -/
def Gathering.take (gathering : Gathering) : Call → Gathering
  | .deliver sink unit none =>
    { gathering with
      data := gathering.data.insert sink
        (unit.payload ++ (gathering.data.get? sink).getD []) }
  | .create info (some sink) =>
    let name := nameFor info
    if gathering.files.any (fun file => file.name == name) then gathering
    else
      { gathering with
        files := ⟨name, (gathering.data.get? sink).getD []⟩ :: gathering.files }
  | .deliver _ _ (some _) | .create _ none | .finish _ _ _ | .entitlement _ _ _
  | .descramble _ _ _ _ => gathering

/-- The files that calls into a host leave behind; the calls are given newest first. -/
def ofCalls (calls : List Call) : List StreamFile := (calls.foldl Gathering.take {}).files

end StreamFile

end CommandLine

end TransportStream
