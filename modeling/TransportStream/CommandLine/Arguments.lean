import TransportStream.CommandLine.Request
import TransportStream.Decimal.Reader

/-!
Reading a request from the arguments of a program. A setting's value is the argument behind
it, or follows an equals sign; it is stored once the next option is reached, so a fault in
it is found there, and after a fault in the form of that option.
-/
namespace TransportStream.CommandLine

/-- What one argument is by its form. -/
inductive Token where
  | plain (text : String)
  | setting (setting : Setting) (attached : Option String)
  | switch (switch : Switch)
  | help
  /-- A switch or the request for help with a value attached. -/
  | overfull
  | unknown
  /-- Two dashes: no option comes behind them. -/
  | escape
  deriving DecidableEq, Repr

namespace Token

/-- Splits what stands behind two dashes at the first equals sign. -/
def splitAttached (body : List Char) : String × Option String :=
  let name := String.ofList (body.takeWhile (fun char => char != '='))
  match body.dropWhile (fun char => char != '=') with
  | [] => (name, none)
  | _ :: value => (name, some (String.ofList value))

/-- An option that stands alone, with a value attached or not. -/
def alone (token : Token) : Option String → Token
  | none => token
  | some _ => overfull

/-- What an argument behind two dashes is. -/
def ofBody (body : List Char) : Token :=
  let (name, attached) := splitAttached body
  match Setting.ofName? name with
  | some found => setting found attached
  | none =>
    match Switch.ofName? name with
    | some found => alone (switch found) attached
    | none => if name = "help" then alone help attached else unknown

/-- What an argument is by its form. A single dash is a plain text. -/
def ofArgument (argument : String) : Token :=
  match argument.toList with
  | ['-', '-'] => escape
  | '-' :: '-' :: body => ofBody body
  | ['-', 'h'] => help
  | '-' :: 'h' :: _ => help
  | '-' :: _ :: _ => unknown
  | _ => plain argument

end Token

/-! ### Values -/

/-- Reads digits alone as a number up to a limit. -/
def digitsUpTo? (limit : Nat) (digits : List Char) : Option Nat :=
  let value := Decimal.naturalOf digits
  if digits ≠ [] ∧ digits.all Char.isDigit = true ∧ value ≤ limit then some value else none

/-- Reads a program number. It may have a sign; minus zero is zero. -/
def programOf? (text : String) : Option Nat :=
  let (negative, digits) := Decimal.readSign text.toList
  digitsUpTo? (if negative then 0 else 0xFFFF) digits

/-- Reads a packet size of at most 64 bits. It may have a plus sign. -/
def sizeOf? (text : String) : Option Nat :=
  let (negative, digits) := Decimal.readSign text.toList
  if negative then none else digitsUpTo? 0xFFFFFFFFFFFFFFFF digits

/-- A path is not empty. -/
def pathOf (setting : Setting) (text : String) : Except Refusal String :=
  if text.isEmpty then .error (.missingValue setting) else .ok text

/-- A value that was read, if it is of the setting's kind. -/
def kindOf {α : Type} (setting : Setting) (text : String) : Option α → Except Refusal α
  | none => .error (.badValue setting text)
  | some value => .ok value

namespace Request

/-- Stores the value of a setting that has none yet. -/
def assign (request : Request) (setting : Setting) (text : String) : Except Refusal Request :=
  match setting with
  | .input => do return { request with input := some (← pathOf setting text) }
  | .udp => .ok { request with udp := some text }
  | .program => do return { request with program := some (← kindOf setting text (programOf? text)) }
  | .packetSize => do
    return { request with packetSize := some (← kindOf setting text (sizeOf? text)) }
  | .config => do return { request with config := some (← pathOf setting text) }
  | .outDir => do return { request with outDir := some (← pathOf setting text) }
  | .seek => do
    return { request with seekBits := some (← kindOf setting text (Decimal.bitsOfText? text)) }

/-- Stores the value of a setting. A second value is refused before it is read. -/
def store (request : Request) (setting : Setting) (text : String) : Except Refusal Request :=
  if request.has setting then .error (.repeatedSetting setting) else request.assign setting text

/-- Turns a switch on, once. -/
def turnOn (request : Request) (switch : Switch) : Except Refusal Request :=
  match switch with
  | .noCrc =>
    if request.noCrc then .error (.repeatedSwitch switch) else .ok { request with noCrc := true }
  | .report =>
    if request.report then .error (.repeatedSwitch switch) else .ok { request with report := true }

/-- A setting whose value has not been stored. -/
inductive Pending where
  | nothing
  /-- Its value is the next argument. -/
  | awaiting (setting : Setting)
  | holding (setting : Setting) (text : String)
  deriving DecidableEq, Repr

/-- Stores what is pending. -/
def settle (request : Request) : Pending → Except Refusal Request
  | .nothing => .ok request
  | .awaiting setting => .error (.missingValue setting)
  | .holding setting text => request.store setting text

/-- Reads arguments into a request. -/
def readArguments (request : Request) (pending : Pending) :
    List String → Except Refusal Request
  | [] => request.settle pending
  | argument :: others =>
    match Token.ofArgument argument with
    | .plain text =>
      match pending with
      | .awaiting setting => request.readArguments (.holding setting text) others
      | .nothing | .holding _ _ => .error (.unknown argument)
    | .setting setting none => do
      let request ← request.settle pending
      request.readArguments (.awaiting setting) others
    | .setting setting (some text) => do
      let request ← request.settle pending
      let request ← request.store setting text
      request.readArguments .nothing others
    | .switch switch => do
      let request ← request.settle pending
      let request ← request.turnOn switch
      request.readArguments .nothing others
    | .help => do
      let _ ← request.settle pending
      throw .helpAsked
    | .overfull => .error (.unexpectedValue argument)
    | .unknown => .error (.unknown argument)
    | .escape =>
      match others with
      | [] => request.settle pending
      | other :: _ => .error (.unknown other)

/-- A request names one source of its stream. -/
def checkSource (request : Request) : Except Refusal Unit :=
  match request.input, request.udp with
  | some _, some _ => .error .twoSources
  | none, none => .error .noSource
  | some _, none | none, some _ => .ok ()

/-- The request that the arguments of a program make. -/
def ofArguments (arguments : List String) : Except Refusal Request := do
  let request ← readArguments {} .nothing arguments
  request.checkSource
  return request

end Request

end TransportStream.CommandLine
