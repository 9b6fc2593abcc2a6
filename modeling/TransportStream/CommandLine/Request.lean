import TransportStream.Options

/-!
What one run of the command line is asked to do, and why arguments are refused.
-/
namespace TransportStream.CommandLine

/-- A run: where the stream comes from, how to read it and what to make of it. -/
structure Request where
  /-- The file to read. -/
  input : Option String := none
  /-- The address to receive datagrams on. -/
  udp : Option String := none
  program : Option Nat := none
  packetSize : Option Nat := none
  /-- Take sections without a look at their check values. -/
  noCrc : Bool := false
  /-- A file with options. -/
  config : Option String := none
  /-- The directory to write elementary streams to. -/
  outDir : Option String := none
  /-- The second to start at, as the bits of a double. -/
  seekBits : Option UInt64 := none
  /-- Print a summary at the end. -/
  report : Bool := false
  deriving DecidableEq, Repr

/-- An argument that takes a value. -/
inductive Setting where
  | input
  | udp
  | program
  | packetSize
  | config
  | outDir
  | seek
  deriving DecidableEq, Repr

/-- An argument that stands alone. -/
inductive Switch where
  | noCrc
  | report
  deriving DecidableEq, Repr

/-- Why arguments make no request. -/
inductive Refusal where
  | helpAsked
  | unknown (argument : String)
  /-- A switch was given a value. -/
  | unexpectedValue (argument : String)
  | missingValue (setting : Setting)
  /-- The value is not of the setting's kind. -/
  | badValue (setting : Setting) (text : String)
  | repeatedSetting (setting : Setting)
  | repeatedSwitch (switch : Switch)
  | twoSources
  | noSource
  deriving DecidableEq, Repr

namespace Setting

def all : List Setting := [input, udp, program, packetSize, config, outDir, seek]

def name : Setting → String
  | input => "input"
  | udp => "udp"
  | program => "program"
  | packetSize => "packet-size"
  | config => "config"
  | outDir => "out-dir"
  | seek => "seek"

def ofName? (name : String) : Option Setting := all.find? (fun setting => setting.name == name)

end Setting

namespace Switch

def all : List Switch := [noCrc, report]

def name : Switch → String
  | noCrc => "no-crc"
  | report => "report"

def ofName? (name : String) : Option Switch := all.find? (fun switch => switch.name == name)

end Switch

/-- The wording of a refusal. -/
def Refusal.message : Refusal → String
  | helpAsked =>
    "options: --input FILE | --udp ADDRESS, --program NUMBER, --packet-size BYTES, --no-crc, " ++
      "--config FILE, --out-dir DIRECTORY, --seek SECONDS, --report"
  | unknown argument => "unexpected argument " ++ argument
  | unexpectedValue argument => "no value is taken by " ++ argument
  | missingValue setting => "a value is required for --" ++ setting.name
  | badValue setting text => "invalid value '" ++ text ++ "' for --" ++ setting.name
  | repeatedSetting setting => "--" ++ setting.name ++ " cannot be used multiple times"
  | repeatedSwitch switch => "--" ++ switch.name ++ " cannot be used multiple times"
  | twoSources => "--input cannot be used with --udp"
  | noSource => "either --input or --udp is required"

/-- Whether a setting has its value. -/
def Request.has (request : Request) : Setting → Bool
  | .input => request.input.isSome
  | .udp => request.udp.isSome
  | .program => request.program.isSome
  | .packetSize => request.packetSize.isSome
  | .config => request.config.isSome
  | .outDir => request.outDir.isSome
  | .seek => request.seekBits.isSome

end TransportStream.CommandLine
