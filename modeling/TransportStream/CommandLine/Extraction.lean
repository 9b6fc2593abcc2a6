import TransportStream.CommandLine.Request
import TransportStream.CommandLine.StreamFile
import TransportStream.Decimal.Text
import TransportStream.Endpoint
import TransportStream.Options.Document
import TransportStream.Report

/-!
Carrying out a request: options are put together, a file is read from the start or from a
time on, and its elementary streams and summary come out.
-/
namespace TransportStream.CommandLine

/-- What a named file turns out to be. -/
inductive NamedFile where
  /-- It cannot be opened. -/
  | unopenable
  /-- It can be opened, and reading fails with this text. -/
  | unreadable (text : String)
  | readable (data : Bytes)
  deriving DecidableEq, Repr

/-- What a request finds: whether the output directory is there or could be made, and the
files it names. -/
structure Surroundings where
  outDirReady : Bool
  config : NamedFile
  input : NamedFile
  deriving DecidableEq, Repr

/-- Why a request fails. -/
inductive Failure where
  | outDir (path : String)
  | config (path : String) (cause : Error)
  | input (path : String)
  | seekTarget (seconds : Float)
  | rateUnknown
  | session (cause : Error)

/-- What a request leaves behind. `options` are those in effect, if it came to that. -/
structure Outcome where
  options : Option Options := none
  result : Except Failure (Option Report)
  files : List StreamFile := []

/-- The wording of a failure. -/
def Failure.message : Failure → String
  | outDir path => "creating " ++ path
  | config path _ => "loading config " ++ path
  | input path => "opening " ++ path
  | seekTarget seconds => "invalid seek target " ++ Decimal.messageText seconds
  | rateUnknown => "no bitrate estimate before end of input, cannot seek"
  | session cause => cause.message

/-! ### Options -/

/-- Reads options from a file. -/
def NamedFile.options : NamedFile → Except Error Options
  | unopenable => .error (.io "the file cannot be opened")
  | unreadable text => .error (.io text)
  | readable data =>
    match String.fromUTF8? ⟨data.toArray⟩ with
    | none => .error (.io "stream did not contain valid UTF-8")
    | some text => Options.ofText text

namespace Request

/-- The options of the file that a request names, or the standard ones. -/
def baseOptions (request : Request) (file : NamedFile) : Except Failure Options :=
  match request.config with
  | none => .ok {}
  | some path => file.options.mapError (.config path)

/-- Lets what the request says itself take the place of options. A packet size also decides
whether packets are led by arrival stamps. -/
def override (request : Request) (options : Options) : Options :=
  { options with
    program := request.program.or options.program
    packetSize := request.packetSize.or options.packetSize
    stampedMode :=
      match request.packetSize with
      | none => options.stampedMode
      | some size => size == stampedStride
    checkCrc := options.checkCrc && !request.noCrc }

/-- The options in effect. -/
def options (request : Request) (file : NamedFile) : Except Failure Options := do
  let options := request.override (← request.baseOptions file)
  options.validate.mapError .session
  return options

end Request

/-! ### Reading a file -/

/-- The time to move to. What is not after the start, and no number at all, is the start. -/
def seekTarget (seconds : Float) : Except Failure Duration :=
  match Duration.ofSeconds? (if seconds > 0.0 then seconds else 0.0) with
  | none => .error (.seekTarget seconds)
  | some time => .ok time

/-- Bytes of a file that are read ahead at once. -/
def readAhead : Nat := 8192

/-- A file as the source of a session, none if it cannot be opened. -/
def NamedFile.source? : NamedFile → Option Source
  | unopenable => none
  | unreadable text => some { data := [], block := some readAhead, fault := some (0, text) }
  | readable data => some { data, block := some readAhead }

/-- A session and the source it reads, and why reading ended if it failed. -/
structure Progress where
  session : Session
  source : Source
  failure : Option Failure := none

namespace Progress

/-- The progress after an operation of the session. -/
def after {α : Type} (source : Source) : SessionResult α → Progress
  | .ok _ session => { session, source }
  | .error error session => { session, source, failure := some (.session error) }

/-- Reads on until the byte rate is known. -/
def awaitRate (session : Session) (source : Source) : Progress :=
  if session.router.clock.bitrate.isSome then { session, source }
  else
    match _step : session.pump Host.willing source with
    | (source, .error error session) =>
      { session, source, failure := some (.session error) }
    | (source, .ok false session) => { session, source, failure := some .rateUnknown }
    | (source, .ok true session) => awaitRate session source
termination_by source.remaining
decreasing_by exact Session.remaining_pump _step

/-- Goes on unless there was a failure. -/
def andThen (progress : Progress) (next : Session → Source → Progress) : Progress :=
  match progress.failure with
  | none => next progress.session progress.source
  | some _ => progress

/-- Moves to a time. -/
def moveTo (time : Duration) (session : Session) (source : Source) : Progress :=
  let (source, result) := session.seekSource time source
  after source result

/-- Moves to the second a request names, if it names one. -/
def start (seekBits : Option UInt64) (session : Session) (source : Source) : Progress :=
  match seekBits with
  | none => { session, source }
  | some bits =>
    match seekTarget (Float.ofBits bits) with
    | .error failure => { session, source, failure := some failure }
    | .ok time => (awaitRate session source).andThen (moveTo time)

/-- Reads to the end. -/
def finish (session : Session) (source : Source) : Progress :=
  let (source, result) := session.run Host.willing source
  after source result

end Progress

namespace Request

/-- What a session has to show for a request. -/
def conclude (request : Request) (options : Options) (progress : Progress) : Outcome :=
  { options := some options
    result :=
      match progress.failure with
      | some failure => .error failure
      | none => .ok (if request.report then some (.ofSession progress.session) else none)
    files :=
      if request.outDir.isSome then StreamFile.ofCalls progress.session.router.calls else [] }

/-- Reads the file that a request names. -/
def extract (request : Request) (options : Options) (session : Session) (path : String)
    (file : NamedFile) : Outcome :=
  match file.source? with
  | none => { options := some options, result := .error (.input path) }
  | some source =>
    request.conclude options
      ((Progress.start request.seekBits session source).andThen Progress.finish)

/-- Carries out a request up to the point where datagrams would be received. -/
def perform (request : Request) (surroundings : Surroundings) : Outcome :=
  match request.outDir.filter (fun _ => !surroundings.outDirReady) with
  | some path => { result := .error (.outDir path) }
  | none =>
    match request.options surroundings.config with
    | .error failure => { result := .error failure }
    | .ok options =>
      match Session.new options, request.input with
      | .error error, _ => { options := some options, result := .error (.session error) }
      | .ok session, some path => request.extract options session path surroundings.input
      | .ok _, none => { options := some options, result := .ok none }

end Request

end TransportStream.CommandLine
