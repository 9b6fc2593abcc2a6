import TransportStream.Pes.Header

/-!
Reassembly of PES packets from the payloads of one PID. A packet with a declared length
ends there; one without ends where the next starts. What is lost is counted, and the next
packet that comes out carries a flag.
-/
namespace TransportStream

/-- A complete PES packet without its header bytes. -/
structure PesPacket where
  header : PesHeader
  payload : Bytes
  discontinuity : Bool
  randomAccess : Bool
  offset : Nat
  deriving DecidableEq, Repr

/-- A PES packet in progress: what arrived of it and the facts of its first payload. -/
structure PesUnit where
  bytes : Bytes
  discontinuity : Bool
  randomAccess : Bool
  offset : Nat
  deriving DecidableEq, Repr

/-- Where reassembly stands: before a start, inside a packet, or past a packet that was
given up. -/
inductive PesPhase where
  | idle
  | collecting (unit : PesUnit)
  | skipping
  deriving DecidableEq, Repr

/-- Reassembly of one PID. The counters tell why packets did not come out: too long, cut
short, or not PES at all. -/
structure PesReassembler where
  pid : Nat
  bufferLimit : Nat
  phase : PesPhase := .idle
  pendingDiscontinuity : Bool := false
  overflows : Nat := 0
  dropped : Nat := 0
  invalid : Nat := 0
  deriving DecidableEq, Repr

namespace PesUnit

/-- How much of a packet is known to come. -/
inductive Extent where
  /-- The length field has not arrived. -/
  | undetermined
  /-- The packet ends where the next starts. -/
  | unbounded
  | bounded (total : Nat)
  deriving DecidableEq, Repr

/-- The extent that the bytes so far declare. -/
def extentOf : Bytes → Extent
  | _ :: _ :: _ :: _ :: high :: low :: _ =>
    let length := high.toNat * 256 + low.toNat
    if length = 0 then .unbounded else .bounded (PesHeader.fixedSize + length)
  | _ => .undetermined

def extent (unit : PesUnit) : Extent := extentOf unit.bytes

/-- Whether the bytes so far can start a PES packet: once the fixed part is there, it
begins with the start code. -/
def hasStartCode : Bytes → Bool
  | first :: second :: third :: _ :: _ :: _ :: _ => first == 0 && second == 0 && third == 1
  | _ => true

/-- The first bytes of a packet declare nothing, or what the packet declares. -/
theorem extentOf_front (front back : Bytes) :
    extentOf front = .undetermined ∨ extentOf front = extentOf (front ++ back) := by
  unfold extentOf
  split
  · exact .inr rfl
  · exact .inl rfl

theorem hasStartCode_of_append {front back : Bytes}
    (code : hasStartCode (front ++ back) = true) : hasStartCode front = true := by
  unfold hasStartCode
  split
  · simpa [hasStartCode] using code
  · rfl

/-- Bytes behind the length field change nothing about what it says and what comes before it. -/
theorem append_of_determined {front : Bytes} (determined : extentOf front ≠ .undetermined)
    (back : Bytes) :
    extentOf (front ++ back) = extentOf front ∧
      hasStartCode (front ++ back) = hasStartCode front := by
  unfold extentOf at determined
  split at determined
  · exact ⟨rfl, rfl⟩
  · exact absurd rfl determined

end PesUnit

namespace PesReassembler

def isCollecting (reassembler : PesReassembler) : Bool :=
  match reassembler.phase with
  | .collecting _ => true
  | .idle | .skipping => false

/-- Forgets the packet in progress and the pending flag. -/
def reset (reassembler : PesReassembler) : PesReassembler :=
  { reassembler with phase := .idle, pendingDiscontinuity := false }

/-- Starts a packet, which takes over the pending flag. -/
def start (reassembler : PesReassembler) (randomAccess : Bool) (offset : Nat) :
    PesReassembler × PesUnit :=
  ({ reassembler with pendingDiscontinuity := false },
    { bytes := [], discontinuity := reassembler.pendingDiscontinuity, randomAccess, offset })

/-- Gives up a packet that cannot be completed. -/
def drop (reassembler : PesReassembler) (unit : PesUnit) : PesReassembler :=
  { reassembler with
    phase := .skipping
    pendingDiscontinuity := reassembler.pendingDiscontinuity || unit.discontinuity
    dropped := reassembler.dropped + 1 }

/-- Ends a packet at its last byte. Padding is passed over, and a packet whose header does
not parse is counted. -/
def close (reassembler : PesReassembler) (unit : PesUnit) :
    PesReassembler × Option PesPacket :=
  match PesHeader.parse unit.bytes with
  | .error _ =>
    ({ reassembler with
      phase := .idle
      pendingDiscontinuity := reassembler.pendingDiscontinuity || unit.discontinuity
      invalid := reassembler.invalid + 1 }, none)
  | .ok header =>
    let reassembler := { reassembler with phase := .idle }
    if header.streamId = PesHeader.paddingId then (reassembler, none)
    else
      (reassembler, some {
        header
        payload := unit.bytes.drop header.size
        discontinuity := unit.discontinuity
        randomAccess := unit.randomAccess
        offset := unit.offset })

/-- Adds a payload to the packet in progress. -/
def extend (reassembler : PesReassembler) (unit : PesUnit) (payload : Bytes) :
    PesReassembler × Option PesPacket :=
  let bytes := unit.bytes ++ payload
  if reassembler.bufferLimit < bytes.length then
    ({ reassembler with
      phase := .skipping
      pendingDiscontinuity := true
      overflows := reassembler.overflows + 1 }, none)
  else if !PesUnit.hasStartCode bytes then
    ({ reassembler with phase := .skipping, invalid := reassembler.invalid + 1 }, none)
  else
    match PesUnit.extentOf bytes with
    | .undetermined | .unbounded =>
      ({ reassembler with phase := .collecting { unit with bytes } }, none)
    | .bounded total =>
      if bytes.length < total then
        ({ reassembler with phase := .collecting { unit with bytes } }, none)
      else reassembler.close { unit with bytes := bytes.take total }

/-- Ends the packet in progress because nothing more of it will come: complete if its
length was open, cut short otherwise. -/
def finishUnit (reassembler : PesReassembler) (unit : PesUnit) :
    PesReassembler × Option PesPacket :=
  match unit.extent with
  | .unbounded => reassembler.close unit
  | .undetermined | .bounded _ => (reassembler.drop unit, none)

/-- Ends whatever is in progress. -/
def finishAny (reassembler : PesReassembler) : PesReassembler × Option PesPacket :=
  match reassembler.phase with
  | .collecting unit => reassembler.finishUnit unit
  | .idle | .skipping => (reassembler, none)

/-- Takes one payload and returns the packets it ends: the one before a start, and one
that fits its declared length now. -/
def push (reassembler : PesReassembler) (payload : Bytes) (unitStart randomAccess : Bool)
    (offset : Nat) : PesReassembler × List PesPacket :=
  if unitStart then
    let (reassembler, before) := reassembler.finishAny
    let (reassembler, unit) := reassembler.start randomAccess offset
    let (reassembler, now) := reassembler.extend unit payload
    (reassembler, before.toList ++ now.toList)
  else
    match reassembler.phase with
    | .collecting unit =>
      let (reassembler, now) := reassembler.extend unit payload
      (reassembler, now.toList)
    | .idle | .skipping => (reassembler, [])

/-- Data was lost on this PID. A packet of open length is kept and flagged; any other in
progress is given up. -/
def markDiscontinuity (reassembler : PesReassembler) : PesReassembler :=
  match reassembler.phase with
  | .collecting unit =>
    match unit.extent with
    | .unbounded => { reassembler with phase := .collecting { unit with discontinuity := true } }
    | .undetermined | .bounded _ =>
      { reassembler.drop unit with pendingDiscontinuity := true }
  | .idle | .skipping => { reassembler with pendingDiscontinuity := true }

/-- The input ended. -/
def flushEnd (reassembler : PesReassembler) : PesReassembler × Option PesPacket :=
  let (reassembler, last) := reassembler.finishAny
  (reassembler.reset, last)

end PesReassembler

end TransportStream
