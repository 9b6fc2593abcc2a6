import TransportStream.Proofs.PesGrammar
import TransportStream.Proofs.Reception

/-!
PES packets cut into the payloads of transport packets come out of reassembly as they went
in. A packet with a declared length comes out with its last payload, one without when the
next starts or input ends.
-/
namespace TransportStream

/-- A PES packet as it is sent: its bytes, what its header says, and the transport packets
that carry it. It is no padding, declares no length or its own, and fits the buffer. -/
structure SentPes (limit : Nat) where
  bytes : Bytes
  header : PesHeader
  first : TransportPacket
  rest : List TransportPacket
  parsed : PesHeader.parse bytes = .ok header
  media : header.streamId ≠ PesHeader.paddingId
  declared : header.packetLength = 0 ∨ PesHeader.fixedSize + header.packetLength = bytes.length
  fits : bytes.length ≤ limit
  starts : first.header.payloadUnitStart = true
  continues : ∀ packet ∈ rest, packet.header.payloadUnitStart = false
  filled : ∀ packet ∈ rest, packet.payload ≠ []
  whole : first.payload ++ rest.flatMap TransportPacket.payload = bytes

namespace SentPes

variable {limit : Nat}

/-- The transport packets in their order. -/
def packets (sent : SentPes limit) : List TransportPacket := sent.first :: sent.rest

/-- What comes out of reassembly. -/
def received (sent : SentPes limit) : PesPacket :=
  { header := sent.header
    payload := sent.bytes.drop sent.header.size
    discontinuity := false
    randomAccess := sent.first.randomAccess
    offset := sent.first.offset }

/-- The unit in progress once these bytes of it have arrived. -/
def unitOf (sent : SentPes limit) (bytes : Bytes) : PesUnit :=
  { bytes
    discontinuity := false
    randomAccess := sent.first.randomAccess
    offset := sent.first.offset }

end SentPes

namespace PesHeader

/-- What reads as a header starts with the start code and declares the length that its
fields say. -/
theorem parse_fixed {bytes : Bytes} {header : PesHeader} (parsed : parse bytes = .ok header) :
    ∃ streamId high low rest, bytes = 0 :: 0 :: 1 :: streamId :: high :: low :: rest ∧
      header.packetLength = high.toNat * 256 + low.toNat := by
  cases written_of_parse parsed with
  | plain _ high low behind => exact ⟨_, high, low, behind, rfl, rfl⟩
  | optional _ high low _ _ _ _ => exact ⟨_, high, low, _, rfl, rfl⟩

end PesHeader

namespace PesUnit

/-- The extent that a packet declares. -/
theorem extentOf_parsed {bytes : Bytes} {header : PesHeader}
    (parsed : PesHeader.parse bytes = .ok header) :
    extentOf bytes = if header.packetLength = 0 then .unbounded
      else .bounded (PesHeader.fixedSize + header.packetLength) := by
  obtain ⟨streamId, high, low, rest, rfl, length⟩ := PesHeader.parse_fixed parsed
  rw [length]
  rfl

/-- The first bytes of a packet do not contradict its start code. -/
theorem hasStartCode_front (front back : Bytes) {header : PesHeader}
    (parsed : PesHeader.parse (front ++ back) = .ok header) : hasStartCode front = true := by
  obtain ⟨streamId, high, low, rest, bytes, _⟩ := PesHeader.parse_fixed parsed
  unfold hasStartCode
  split
  · simp only [List.cons_append, List.cons.injEq] at bytes
    obtain ⟨rfl, rfl, rfl, _⟩ := bytes
    rfl
  · rfl

end PesUnit

namespace PesReassembler

variable {limit : Nat} {reassembler : PesReassembler} {before : Option PesPacket}

/-! ### One payload -/

/-- Before its end, a packet goes on to be collected. -/
theorem extend_front (sent : SentPes limit) {arrived payload back : Bytes}
    (bound : reassembler.bufferLimit = limit) (more : back ≠ [])
    (split : arrived ++ payload ++ back = sent.bytes) :
    reassembler.extend (sent.unitOf arrived) payload =
      ({ reassembler with phase := .collecting (sent.unitOf (arrived ++ payload)) }, none) := by
  have parsed : PesHeader.parse (arrived ++ payload ++ back) = .ok sent.header := by
    rw [split, sent.parsed]
  have shorter : (arrived ++ payload).length < sent.bytes.length := by
    have positive := List.length_pos_iff.mpr more
    simp only [← split, List.length_append]
    omega
  have fits := sent.fits
  have extent := PesUnit.extentOf_front (arrived ++ payload) back
  rw [PesUnit.extentOf_parsed parsed] at extent
  have code := PesUnit.hasStartCode_front _ _ parsed
  unfold extend
  simp only [SentPes.unitOf, bound, code]
  rw [if_neg (by omega)]
  rcases extent with undetermined | known
  · simp [undetermined]
  · rcases sent.declared with opened | length
    · simp [known, opened]
    · by_cases opened : sent.header.packetLength = 0
      · simp [known, opened]
      · rw [if_neg opened] at known
        simp only [known, length]
        rw [if_pos shorter]
        simp

/-- What the last payload of a packet does. -/
theorem extend_whole (sent : SentPes limit) {arrived payload : Bytes}
    (bound : reassembler.bufferLimit = limit) (whole : arrived ++ payload = sent.bytes) :
    reassembler.extend (sent.unitOf arrived) payload =
      if sent.header.packetLength = 0 then
        ({ reassembler with phase := .collecting (sent.unitOf sent.bytes) }, none)
      else ({ reassembler with phase := .idle }, some sent.received) := by
  have fits := sent.fits
  have extent := PesUnit.extentOf_parsed sent.parsed
  have code := PesUnit.hasStartCode_front sent.bytes []
    (by rw [List.append_nil]; exact sent.parsed)
  unfold extend
  simp only [SentPes.unitOf, bound, whole, code]
  rw [if_neg (by omega)]
  by_cases opened : sent.header.packetLength = 0
  · rw [if_pos opened] at extent
    simp [extent, opened]
  · have length := sent.declared.resolve_left opened
    rw [if_neg opened] at extent
    simp [extent, opened, length, close, bound, sent.parsed, sent.media,
      SentPes.received]

theorem take_collecting {unit : PesUnit} (reassembler : PesReassembler)
    (packet : TransportPacket) (collecting : reassembler.phase = .collecting unit)
    (goesOn : packet.header.payloadUnitStart = false) :
    reassembler.take packet =
      ((reassembler.extend unit packet.payload).1.withoutCounts,
        (reassembler.extend unit packet.payload).2.toList) := by
  simp [take, push, goesOn, collecting]

theorem take_starting (reassembler : PesReassembler) {packet : TransportPacket}
    (starts : packet.header.payloadUnitStart = true) :
    reassembler.take packet =
      let fresh := { reassembler.finishAny.1 with pendingDiscontinuity := false }
      let unit : PesUnit :=
        { bytes := []
          discontinuity := reassembler.finishAny.1.pendingDiscontinuity
          randomAccess := packet.randomAccess
          offset := packet.offset }
      ((fresh.extend unit packet.payload).1.withoutCounts,
        reassembler.finishAny.2.toList ++ (fresh.extend unit packet.payload).2.toList) := by
  simp [take, push, starts, start]

/-! ### Whole packets -/

/-- Between two packets: `before` is what the end of the one in progress would give. -/
structure Rests (limit : Nat) (reassembler : PesReassembler) (before : Option PesPacket) :
    Prop where
  bound : reassembler.bufferLimit = limit
  last : reassembler.finishAny.2 = before
  calm : reassembler.finishAny.1.pendingDiscontinuity = false

theorem rests_fresh (pid limit : Nat) : Rests limit { pid, bufferLimit := limit } none :=
  ⟨rfl, rfl, rfl⟩

/-- With its last payload a packet comes out, or it is what the end would give. -/
theorem rests_whole (sent : SentPes limit) {arrived payload : Bytes}
    (bound : reassembler.bufferLimit = limit) (calm : reassembler.pendingDiscontinuity = false)
    (whole : arrived ++ payload = sent.bytes) :
    ∃ later,
      Rests limit (reassembler.extend (sent.unitOf arrived) payload).1.withoutCounts later ∧
        (reassembler.extend (sent.unitOf arrived) payload).2.toList ++ later.toList =
          [sent.received] := by
  rw [extend_whole sent bound whole]
  by_cases opened : sent.header.packetLength = 0
  · have extent := PesUnit.extentOf_parsed sent.parsed
    rw [if_pos opened] at extent
    rw [if_pos opened]
    refine ⟨some sent.received, ⟨bound, ?_, ?_⟩, rfl⟩
    · simp [withoutCounts, finishAny, finishUnit, PesUnit.extent, SentPes.unitOf, extent, close,
        sent.parsed, sent.media, SentPes.received]
    · simp [withoutCounts, finishAny, finishUnit, PesUnit.extent, SentPes.unitOf, extent, close,
        sent.parsed, sent.media, calm]
  · rw [if_neg opened]
    exact ⟨none, ⟨bound, rfl, calm⟩, rfl⟩

/-- From a payload on, the rest of a packet comes in. -/
theorem rests_extend (reassembler : PesReassembler) (sent : SentPes limit)
    (arrived payload : Bytes) {others : List TransportPacket} (bound : reassembler.bufferLimit = limit)
    (calm : reassembler.pendingDiscontinuity = false)
    (continues : ∀ packet ∈ others, packet.header.payloadUnitStart = false)
    (filled : ∀ packet ∈ others, packet.payload ≠ [])
    (whole : arrived ++ payload ++ others.flatMap TransportPacket.payload = sent.bytes) :
    ∃ later,
      Rests limit ((reassembler.extend (sent.unitOf arrived) payload).1.withoutCounts.takeAll
        others).1 later ∧
        (reassembler.extend (sent.unitOf arrived) payload).2.toList ++
          ((reassembler.extend (sent.unitOf arrived) payload).1.withoutCounts.takeAll others).2 ++
          later.toList = [sent.received] := by
  induction others generalizing reassembler arrived payload with
  | nil =>
    rw [List.flatMap_nil, List.append_nil] at whole
    simpa [takeAll] using rests_whole sent bound calm whole
  | cons packet others ih =>
    have nonempty : packet.payload ++ others.flatMap TransportPacket.payload ≠ [] := by
      simp [filled packet List.mem_cons_self]
    rw [List.flatMap_cons] at whole
    rw [extend_front sent bound nonempty whole]
    let collecting : PesReassembler :=
      { reassembler with phase := .collecting (sent.unitOf (arrived ++ payload)) }
    have later := ih collecting.withoutCounts (arrived ++ payload) packet.payload bound calm
      (fun other member => continues other (List.mem_cons_of_mem _ member))
      (fun other member => filled other (List.mem_cons_of_mem _ member))
      (by rw [← whole]; simp)
    have taken := take_collecting collecting.withoutCounts packet rfl
      (continues packet List.mem_cons_self)
    simp only [takeAll, collecting, taken]
    simpa using later

/-- A packet that is sent comes out, after what its start ends. -/
theorem takeAll_sent (rests : Rests limit reassembler before) (sent : SentPes limit) :
    ∃ now later, (reassembler.takeAll sent.packets).2 = before.toList ++ now ∧
      Rests limit (reassembler.takeAll sent.packets).1 later ∧
        now ++ later.toList = [sent.received] := by
  obtain ⟨bound, last, calm⟩ := rests
  have started := take_starting reassembler sent.starts
  rw [last, calm] at started
  obtain ⟨later, rests, out⟩ := rests_extend
    { reassembler.finishAny.1 with pendingDiscontinuity := false } sent [] sent.first.payload
    (finishAny_limit.trans bound) rfl sent.continues sent.filled (by simpa using sent.whole)
  refine ⟨_, later, ?_, ?_, out⟩
  · simp only [SentPes.packets, takeAll, started, List.append_assoc]
    rfl
  · simp only [SentPes.packets, takeAll, started]
    exact rests

/-- Packets that are sent come out, each once and in their order. -/
theorem takeAll_sents (rests : Rests limit reassembler before) (sents : List (SentPes limit)) :
    ∃ later, Rests limit (reassembler.takeAll (sents.flatMap SentPes.packets)).1 later ∧
      (reassembler.takeAll (sents.flatMap SentPes.packets)).2 ++ later.toList =
        before.toList ++ sents.map SentPes.received := by
  induction sents generalizing reassembler before with
  | nil => exact ⟨before, rests, by simp [takeAll]⟩
  | cons sent others ih =>
    obtain ⟨now, next, first, rests, out⟩ := takeAll_sent rests sent
    obtain ⟨later, rests, rest⟩ := ih rests
    refine ⟨later, ?_, ?_⟩
    · rw [List.flatMap_cons, takeAll_append]
      exact rests
    · rw [List.flatMap_cons, takeAll_append, first, List.append_assoc, List.append_assoc, rest,
        ← List.append_assoc now, out]
      rfl

end PesReassembler

end TransportStream
