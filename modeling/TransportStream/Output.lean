import TransportStream.AccessUnit
import TransportStream.Pes.Reassembler

/-!
The output of one elementary stream: its sink, its time base, and what the sink still has
to be told.
-/
namespace TransportStream

/-- Unwraps 33-bit timestamps into a timeline. `adjust` is a whole number of wraps. -/
structure PtsUnwrapper where
  adjust : Nat := 0
  last : Option Nat := none
  deriving DecidableEq, Repr

namespace PtsUnwrapper

/-- The number of wraps in ticks that brings a timestamp closest to a reference; it moves
by at most one wrap and never below zero. -/
def adjustTo (adjust pts reference : Nat) : Nat :=
  let current := pts + adjust
  if current + Timestamp.wrap / 2 < reference then adjust + Timestamp.wrap
  else if reference + Timestamp.wrap / 2 < current ∧ Timestamp.wrap ≤ adjust then
    adjust - Timestamp.wrap
  else adjust

/-- Puts a timestamp on the timeline, by the one before it or else by `reference`. -/
def unwrap (unwrapper : PtsUnwrapper) (pts : Nat) (reference : Option Nat) :
    PtsUnwrapper × Nat :=
  let adjust :=
    match unwrapper.last.or reference with
    | none => unwrapper.adjust
    | some reference => adjustTo unwrapper.adjust pts reference
  ({ adjust, last := some (pts + adjust) }, pts + adjust)

end PtsUnwrapper

/-- The output of one elementary stream. `sink` is the serial number of its sink and
`timeBase` the 90 kHz origin of its timestamps. -/
structure Output where
  info : StreamInfo
  sink : Nat
  timeBase : Option Nat := none
  unwrapper : PtsUnwrapper := {}
  pendingDiscontinuity : Bool := false
  ended : Bool := false
  deriving DecidableEq, Repr

namespace Output

/-- The next unit carries the discontinuity flag. -/
def markDiscontinuity (output : Output) : Output := { output with pendingDiscontinuity := true }

/-- The stream has ended. -/
def markEnded (output : Output) : Output := { output with ended := true }

/-- Signals the end of the stream: what the output is when its sink is to be told. None if it was
told before. -/
def signalEnd? (output : Output) : Option Output :=
  if output.ended then none else some output.markEnded

/-- The time base of an output: once set it stays; else the program's first clock
reference in 27 MHz ticks, or the timestamp of the first unit. -/
def baseFor (output : Output) (firstPcr pts : Option Nat) : Option Nat :=
  output.timeBase.or ((firstPcr.map (fun ticks => ticks / 300)).or pts)

/-- A place on the 90 kHz timeline as a time after the base. Of the product, what does not fit
64 bits is lost. -/
def timeAfter (base : Option Nat) (place : Nat) : Duration :=
  Duration.ofMicros
    ((place - base.getD place) * 1000000 % wordRange / Timestamp.frequency)

/-- Makes the access unit of a PES packet. A pending flag waits while packets carry the
flag themselves. An output that has ended makes none. -/
def deliver (output : Output) (packet : PesPacket) (firstPcr : Option Nat) :
    Output × Option AccessUnit :=
  if output.ended then (output, none)
  else
    let timeBase := output.baseFor firstPcr packet.header.pts
    let placed := packet.header.pts.map (fun pts => output.unwrapper.unwrap pts timeBase)
    let unit : AccessUnit := {
      pid := output.info.pid
      streamId := packet.header.streamId
      streamType := output.info.streamType
      pts := packet.header.pts
      dts := packet.header.dts
      timestamp := placed.map (fun placed => timeAfter timeBase placed.2)
      payload := packet.payload
      discontinuity := packet.discontinuity || output.pendingDiscontinuity
      randomAccess := packet.randomAccess
      offset := packet.offset }
    ({ output with
      timeBase
      unwrapper := (placed.map (·.1)).getD output.unwrapper
      pendingDiscontinuity := packet.discontinuity && output.pendingDiscontinuity },
      some unit)

end Output

end TransportStream
