import TransportStream.Packet
import TransportStream.Router.StreamState

/-!
What the packets of one PID do to the reassembly of its elementary stream. The counter of
each packet is judged first: a repeat is dropped, and a gap is reported before the payload
goes in.
-/
namespace TransportStream

/-- The counters of these packets follow one another, modulo sixteen, from `next` on. -/
def CountedFrom : Nat → List TransportPacket → Prop
  | _, [] => True
  | next, packet :: others =>
    packet.header.continuity % 16 = next % 16 ∧ CountedFrom (next + 1) others

theorem countedFrom_append (next : Nat) (front back : List TransportPacket) :
    CountedFrom next (front ++ back) ↔
      CountedFrom next front ∧ CountedFrom (next + front.length) back := by
  induction front generalizing next with
  | nil => simp [CountedFrom]
  | cons packet others ih =>
    simp only [List.cons_append, CountedFrom, ih, and_assoc, List.length_cons]
    rw [show next + 1 + others.length = next + (others.length + 1) by omega]

theorem countedFrom_congr {next other : Nat} (same : next % 16 = other % 16)
    {packets : List TransportPacket} (counted : CountedFrom next packets) :
    CountedFrom other packets := by
  induction packets generalizing next other with
  | nil => trivial
  | cons packet others ih =>
    obtain ⟨value, counted⟩ := counted
    exact ⟨value.trans same, ih (by omega) counted⟩

namespace TransportPacket

/-- The bytes behind the header and the adaptation field. -/
def payload (packet : TransportPacket) : Bytes := packet.bytes.drop packet.payloadStart

/-- Whether the packet carries a payload and announces no break. -/
def Steady (packet : TransportPacket) : Prop :=
  packet.header.hasPayload = true ∧ packet.discontinuity = false

instance (packet : TransportPacket) : Decidable packet.Steady :=
  inferInstanceAs (Decidable (_ ∧ _))

/-- A packet without adaptation field. -/
def bare (pid continuity : Nat) (payloadUnitStart : Bool) (payload : Bytes) : TransportPacket :=
  let second := UInt8.ofNat (payloadUnitStart.toNat * 0x40 + pid / 256)
  { header :=
      { transportError := false, payloadUnitStart, priority := false, pid, scrambling := 0
        adaptationControl := 1, continuity }
    adaptation := none
    place := 0
    arrival := none
    bytes := 0x47 :: second :: UInt8.ofNat pid :: UInt8.ofNat (0x10 + continuity) :: payload }

theorem payload?_eq {packet : TransportPacket} (present : packet.header.hasPayload = true) :
    packet.payload? = some packet.payload := by
  simp [payload?, present, payload]

end TransportPacket

namespace ContinuityCounter

/-- What a counter expects after a packet with this value, which was no repeat. -/
def after (value : Nat) : ContinuityCounter := { last := some (value % 16) }

theorem check_fresh (value : Nat) (hasPayload : Bool) :
    check {} value hasPayload false = (.first, after value) := rfl

/-- The next value is expected whether the last packet was repeated or not. -/
theorem check_after_next {previous value : Nat} (repeated : Bool)
    (next : value % 16 = (previous + 1) % 16) :
    check { after previous with duplicateSeen := repeated } value true false =
      (.ok, after value) := by
  have expected : (previous % 16 + 1) % 16 = value % 16 := by omega
  simp [check, after, checkPayload, expected]

/-- A value that skips one to fourteen others is a gap: it can be taken neither for the
next one nor for a repeat. -/
theorem check_after_lost {previous value lost : Nat} (some_ : 1 ≤ lost) (few : lost ≤ 14)
    (skipped : value % 16 = (previous + lost + 1) % 16) :
    check (after previous) value true false =
      (.gap ((previous + 1) % 16) (value % 16), after value) := by
  have notNext : value % 16 ≠ (previous + 1) % 16 := by omega
  have notRepeat : value % 16 ≠ previous % 16 := by omega
  simp [check, after, checkPayload, notNext, notRepeat]

/-- Whether a payload that is counted `value` is the first or the next one. -/
def Expects (counter : ContinuityCounter) (value : Nat) : Prop :=
  counter.check value true false = (.ok, after value) ∨
    counter.check value true false = (.first, after value)

theorem expects_fresh (value : Nat) : Expects {} value := .inr (check_fresh value true)

theorem expects_next {previous value : Nat} (next : value % 16 = (previous + 1) % 16) :
    (after previous).Expects value := .inl (check_after_next false next)

/-- The same value again is a repeat, which does not move the expectation. -/
theorem check_after_repeat {previous value : Nat} (same : value % 16 = previous % 16) :
    check (after previous) value true false =
      (.duplicate, { after previous with duplicateSeen := true }) := by
  have notNext : previous % 16 ≠ (previous + 1) % 16 := by omega
  simp [check, after, checkPayload, same, notNext]

/-- A packet without payload repeats the value, which says nothing. -/
theorem check_after_idle {previous value : Nat} (repeated : Bool)
    (same : value % 16 = previous % 16) :
    check { after previous with duplicateSeen := repeated } value false false =
      (.ok, { after previous with duplicateSeen := repeated }) := by
  simp [check, after, checkIdle, same]

end ContinuityCounter

namespace PesReassembler

variable {reassembler : PesReassembler} {unit : PesUnit}

/-! ### The limit of the buffer never changes -/

theorem close_limit : (reassembler.close unit).1.bufferLimit = reassembler.bufferLimit := by
  unfold close
  split
  · rfl
  · dsimp only
    split <;> rfl

theorem extend_limit (payload : Bytes) :
    (reassembler.extend unit payload).1.bufferLimit = reassembler.bufferLimit := by
  unfold extend
  dsimp only
  split
  · rfl
  · split
    · rfl
    · split
      · rfl
      · rfl
      · split
        · rfl
        · exact close_limit

theorem finishAny_limit : (reassembler.finishAny).1.bufferLimit = reassembler.bufferLimit := by
  unfold finishAny finishUnit
  split
  · split
    · exact close_limit
    · rfl
    · rfl
  · rfl
  · rfl

theorem push_limit (payload : Bytes) (unitStart randomAccess : Bool) (offset : Nat) :
    (reassembler.push payload unitStart randomAccess offset).1.bufferLimit = reassembler.bufferLimit := by
  unfold push
  split
  · exact (extend_limit _).trans finishAny_limit
  · split
    · exact extend_limit _
    · rfl
    · rfl

/-! ### Packets -/

/-- The reassembler once its counters are moved into those of the session. -/
def withoutCounts (reassembler : PesReassembler) : PesReassembler :=
  { reassembler with overflows := 0, dropped := 0, invalid := 0 }

/-- Takes the payload of a packet. -/
def take (reassembler : PesReassembler) (packet : TransportPacket) :
    PesReassembler × List PesPacket :=
  let (reassembler, packets) := reassembler.push packet.payload packet.header.payloadUnitStart
    packet.randomAccess packet.offset
  (reassembler.withoutCounts, packets)

/-- Takes the payloads of packets in turn. -/
def takeAll (reassembler : PesReassembler) : List TransportPacket → PesReassembler × List PesPacket
  | [] => (reassembler, [])
  | packet :: others =>
    let (reassembler, packets) := reassembler.take packet
    let (reassembler, later) := reassembler.takeAll others
    (reassembler, packets ++ later)

theorem takeAll_cons (reassembler : PesReassembler) (packet : TransportPacket)
    (others : List TransportPacket) :
    reassembler.takeAll (packet :: others) =
      (((reassembler.take packet).1.takeAll others).1,
        (reassembler.take packet).2 ++ ((reassembler.take packet).1.takeAll others).2) := rfl

theorem takeAll_append (reassembler : PesReassembler) (front back : List TransportPacket) :
    reassembler.takeAll (front ++ back) =
      (((reassembler.takeAll front).1.takeAll back).1,
        (reassembler.takeAll front).2 ++ ((reassembler.takeAll front).1.takeAll back).2) := by
  induction front generalizing reassembler with
  | nil => rfl
  | cons packet others ih => simp [takeAll, ih]

end PesReassembler

namespace StreamState

/-- A PID that carries an elementary stream, whatever it has received. -/
def carrying (pid : Nat) (continuity : ContinuityCounter) (reassembler : PesReassembler) :
    StreamState :=
  { pid, cls := .pes, continuity, reassembly := .pes reassembler }

/-- Puts the payload of a packet, if it has one, into the reassembly of an elementary
stream. -/
def takePayload (stream : StreamState) (packet : TransportPacket) :
    StreamState × List PesPacket :=
  match packet.payload?, stream.reassembly with
  | some _, .pes reassembler =>
    let (reassembler, packets) := reassembler.take packet
    ({ stream with reassembly := .pes reassembler }, packets)
  | _, _ => (stream, [])

/-- Receives a packet on the PID of an elementary stream. -/
def receive (stream : StreamState) (packet : TransportPacket) : StreamState × List PesPacket :=
  let (status, continuity) := stream.continuity.check packet.header.continuity
    packet.header.hasPayload packet.discontinuity
  let stream := { stream with continuity }
  match status with
  | .duplicate => (stream, [])
  | .first | .ok => stream.takePayload packet
  | .gap _ _ => stream.discontinuity.takePayload packet

/-- Receives packets in turn. -/
def receiveAll (stream : StreamState) : List TransportPacket → StreamState × List PesPacket
  | [] => (stream, [])
  | packet :: others =>
    let (stream, packets) := stream.receive packet
    let (stream, later) := stream.receiveAll others
    (stream, packets ++ later)

/-- What the end of input completes. -/
def lastPackets (stream : StreamState) : List PesPacket :=
  match stream.reassembly with
  | .sections _ => []
  | .pes reassembler => reassembler.flushEnd.2.toList

/-- Every PES packet that comes out when these packets are received and input ends. -/
def play (stream : StreamState) (packets : List TransportPacket) : List PesPacket :=
  let (stream, complete) := stream.receiveAll packets
  complete ++ stream.lastPackets

variable {pid : Nat} {continuity next : ContinuityCounter} {reassembler : PesReassembler}
variable {packet : TransportPacket}

theorem takePayload_carrying (pid : Nat) (continuity : ContinuityCounter)
    (reassembler : PesReassembler) (present : packet.header.hasPayload = true) :
    (carrying pid continuity reassembler).takePayload packet =
      (carrying pid continuity (reassembler.take packet).1, (reassembler.take packet).2) := by
  simp [takePayload, carrying, TransportPacket.payload?_eq present]

theorem receive_expected (steady : packet.Steady)
    (expected : continuity.Expects packet.header.continuity) :
    (carrying pid continuity reassembler).receive packet =
      (carrying pid (.after packet.header.continuity) (reassembler.take packet).1,
        (reassembler.take packet).2) := by
  obtain ⟨present, unbroken⟩ := steady
  rcases expected with judged | judged <;>
    simpa [receive, carrying, present, unbroken, judged] using
      takePayload_carrying pid (.after packet.header.continuity) reassembler present

theorem receive_gap {expected actual : Nat} (steady : packet.Steady)
    (judged : continuity.check packet.header.continuity true false = (.gap expected actual, next)) :
    (carrying pid continuity reassembler).receive packet =
      (carrying pid next (reassembler.markDiscontinuity.take packet).1,
        (reassembler.markDiscontinuity.take packet).2) := by
  obtain ⟨present, unbroken⟩ := steady
  simpa [receive, carrying, present, unbroken, judged, discontinuity] using
    takePayload_carrying pid next reassembler.markDiscontinuity present

theorem receive_repeat (steady : packet.Steady)
    (judged : continuity.check packet.header.continuity true false = (.duplicate, next)) :
    (carrying pid continuity reassembler).receive packet =
      (carrying pid next reassembler, []) := by
  obtain ⟨present, unbroken⟩ := steady
  simp [receive, carrying, present, unbroken, judged]

/-- A packet without payload that breaks nothing changes nothing. -/
theorem receive_idle (empty : packet.header.hasPayload = false)
    (unbroken : packet.discontinuity = false)
    (judged : continuity.check packet.header.continuity false false = (.ok, continuity)) :
    (carrying pid continuity reassembler).receive packet =
      (carrying pid continuity reassembler, []) := by
  simp [receive, carrying, takePayload, TransportPacket.payload?, empty, unbroken, judged]

theorem receiveAll_append (stream : StreamState) (front back : List TransportPacket) :
    stream.receiveAll (front ++ back) =
      (((stream.receiveAll front).1.receiveAll back).1,
        (stream.receiveAll front).2 ++ ((stream.receiveAll front).1.receiveAll back).2) := by
  induction front generalizing stream with
  | nil => rfl
  | cons packet others ih => simp [receiveAll, ih]

theorem play_append (stream : StreamState) (front back : List TransportPacket) :
    stream.play (front ++ back) =
      (stream.receiveAll front).2 ++ (stream.receiveAll front).1.play back := by
  simp [play, receiveAll_append]

theorem play_cons (stream : StreamState) (packet : TransportPacket)
    (others : List TransportPacket) :
    stream.play (packet :: others) =
      (stream.receive packet).2 ++ (stream.receive packet).1.play others := by
  simp [play, receiveAll]

end StreamState

end TransportStream
