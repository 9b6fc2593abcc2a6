import TransportStream.AccessUnit
import TransportStream.Packet.Continuity
import TransportStream.Pes.Reassembler
import TransportStream.Section.Filter

/-!
What a session keeps for one PID it listens to.
-/
namespace TransportStream

/-- How the payloads of a PID are put together. -/
inductive Reassembly where
  | sections (filter : SectionFilter)
  | pes (reassembler : PesReassembler)
  deriving DecidableEq, Repr

/-- Everything kept for one PID. -/
structure StreamState where
  pid : Nat
  cls : StreamClass
  continuity : ContinuityCounter := {}
  reassembly : Reassembly
  deriving DecidableEq, Repr

namespace StreamState

/-- A PID that carries sections. Entitlement messages use the private form. -/
def table (pid : Nat) (cls : StreamClass) (checkCrc : Bool) : StreamState :=
  let filter :=
    match cls with
    | .ecm | .emm => SectionFilter.privateData pid checkCrc
    | .pat | .pmt | .cat | .pes => SectionFilter.psi pid checkCrc
  { pid, cls, reassembly := .sections filter }

/-- A PID that carries an elementary stream. -/
def elementary (pid bufferLimit : Nat) : StreamState :=
  { pid, cls := .pes, reassembly := .pes { pid, bufferLimit } }

/-- Data was lost on this PID. -/
def discontinuity (stream : StreamState) : StreamState :=
  match stream.reassembly with
  | .sections filter => { stream with reassembly := .sections filter.discontinuity }
  | .pes reassembler => { stream with reassembly := .pes reassembler.markDiscontinuity }

/-- Drops what is in progress and the expectation of the counter. -/
def reset (stream : StreamState) : StreamState :=
  let stream := { stream with continuity := stream.continuity.reset }
  match stream.reassembly with
  | .sections filter => { stream with reassembly := .sections filter.reset }
  | .pes reassembler => { stream with reassembly := .pes reassembler.reset }

/-- The frame was lost: nothing is known of the packets in between. -/
def resync (stream : StreamState) : StreamState :=
  { stream with continuity := stream.continuity.reset }.discontinuity

end StreamState

end TransportStream
