import TransportStream.Synchronizer

/-!
Where framing stands in the stream. No byte is passed over without being counted, and a packet
that is handed on is what the buffer held at its offset.
-/
namespace TransportStream

namespace TransportPacket

/-- What a packet is read from, step by step. -/
theorem parse_eq_ok_iff {data : Bytes} {place : Nat} {packet : TransportPacket} :
    parse data place = .ok packet ↔
      packetSize ≤ data.length ∧ ∃ header adaptation,
        PacketHeader.parse (data.take packetSize) = .ok header ∧ header.adaptationControl ≠ 0 ∧
          parseAdaptation header ((data.take packetSize).drop 4) = .ok adaptation ∧
          packet =
            { header, adaptation, place, arrival := none, bytes := data.take packetSize } ∧
          (packet.header.hasPayload → packet.payloadStart < packetSize) := by
  unfold parse
  split
  · simp only [reduceCtorEq, false_iff, not_and]
    omega
  · rename_i room
    simp only [Error.bind_eq_ok, Error.check_eq_ok, Bool.and_eq_true, decide_eq_true_eq, not_and,
      Nat.not_le]
    constructor
    · rintro ⟨header, read, control, adaptation, field, fits, same⟩
      cases same
      exact ⟨Nat.le_of_not_lt room, header, adaptation, read, control, field, rfl, fits⟩
    · rintro ⟨_, header, adaptation, read, control, field, rfl, fits⟩
      exact ⟨header, read, control, adaptation, field, fits, rfl⟩

/-- Bytes behind the first 188 are not read. -/
theorem parse_take {data : Bytes} (enough : packetSize ≤ data.length) (place : Nat) :
    parse (data.take packetSize) place = parse data place := by
  have whole : (data.take packetSize).length = packetSize := by
    rw [List.length_take, Nat.min_eq_left enough]
  unfold parse
  rw [if_neg (by omega), if_neg (by omega), List.take_take, Nat.min_self]

/-- A packet keeps the bytes and the place that it was read from. -/
theorem parse_spec {data : Bytes} {place : Nat} {packet : TransportPacket}
    (parsed : parse data place = .ok packet) :
    packetSize ≤ data.length ∧ packet.bytes = data.take packetSize ∧ packet.place = place ∧
      parse packet.bytes packet.place = .ok { packet with arrival := none } := by
  obtain ⟨enough, header, adaptation, _, _, _, rfl, _⟩ := parse_eq_ok_iff.mp parsed
  exact ⟨enough, rfl, rfl, (parse_take enough place).trans parsed⟩

/-- What is read from bytes alone bears no stamp. -/
theorem parse_unstamped {data : Bytes} {place : Nat} {packet : TransportPacket}
    (parsed : parse data place = .ok packet) : { packet with arrival := none } = packet := by
  obtain ⟨enough, bytes, place, again⟩ := parse_spec parsed
  have same : parse packet.bytes packet.place = .ok packet := by
    rw [bytes, place, parse_take enough, parsed]
  exact Except.ok.inj (again.symm.trans same)

end TransportPacket

namespace Synchronizer

/-- `Consumes sync next`: framing stands further on, behind bytes that it held. -/
def Consumes (sync next : Synchronizer) : Prop :=
  ∃ gone, sync.buffer = gone ++ next.buffer ∧ next.base = sync.base + gone.length

/-- `Yields sync next packet`: the packet is among the bytes that framing went behind, at its
offset. -/
structure Yields (sync next : Synchronizer) (packet : TransportPacket) : Prop where
  place : ∃ front back, sync.buffer = front ++ packet.bytes ++ back ++ next.buffer ∧
    packet.place = sync.base + front.length ∧
      next.base = sync.base + (front ++ packet.bytes ++ back).length
  size : packet.bytes.length = packetSize
  read : TransportPacket.parse packet.bytes packet.place = .ok { packet with arrival := none }

variable {sync between next : Synchronizer} {packet : TransportPacket}

theorem Consumes.refl (sync : Synchronizer) : Consumes sync sync := ⟨[], by simp⟩

theorem Consumes.trans (first : Consumes sync between) (second : Consumes between next) :
    Consumes sync next := by
  obtain ⟨gone, held, base⟩ := first
  obtain ⟨more, rest, further⟩ := second
  refine ⟨gone ++ more, by rw [held, rest, List.append_assoc], ?_⟩
  rw [further, base, List.length_append]
  omega

theorem Consumes.base_le (consumes : Consumes sync next) : sync.base ≤ next.base := by
  obtain ⟨gone, _, base⟩ := consumes
  rw [base]
  exact Nat.le_add_right ..

theorem Consumes.yields (first : Consumes sync between) (second : Yields between next packet) :
    Yields sync next packet := by
  obtain ⟨gone, held, base⟩ := first
  obtain ⟨⟨front, back, rest, offset, further⟩, size, read⟩ := second
  refine ⟨⟨gone ++ front, back, ?_, ?_, ?_⟩, size, read⟩
  · rw [held, rest]
    simp only [List.append_assoc]
  · rw [offset, base, List.length_append]
    omega
  · rw [further, base]
    simp only [List.length_append]
    omega

theorem consumes_discard {count : Nat} (within : count ≤ sync.buffer.length) :
    Consumes sync (sync.discard count) := by
  refine ⟨sync.buffer.take count, (List.take_append_drop ..).symm, ?_⟩
  rw [List.length_take, Nat.min_eq_left within]
  rfl

theorem consumes_takeUnit (sync : Synchronizer) (stride : Nat) :
    Consumes sync (sync.takeUnit stride) :=
  ⟨sync.buffer.take stride, (List.take_append_drop ..).symm, rfl⟩

/-- A search ends within the buffer. -/
def Search.Within (total : Nat) : Search → Prop
  | .aligned position _ | .undecided position => position ≤ total
  | .exhausted => True

theorem search_within (minRun : Nat) (ended : Bool) (strides : List Nat) (total position : Nat)
    (data : Bytes) :
    (search minRun ended strides total position data).Within (position + data.length) := by
  induction data generalizing position with
  | nil => trivial
  | cons first rest ih =>
    have later := ih (position + 1)
    rw [Nat.add_assoc, Nat.add_comm 1] at later
    unfold search
    split
    · dsimp only
      split
      · exact Nat.le_add_right ..
      · exact Nat.le_add_right ..
      · exact later
    · exact later

theorem tryLock_consumes (sync : Synchronizer) : Consumes sync sync.tryLock.1 := by
  have within := search_within sync.minRun sync.ended sync.candidates sync.buffer.length 0
    sync.buffer
  rw [Nat.zero_add] at within
  unfold tryLock
  dsimp only
  split
  · rename_i position stride found
    rw [found] at within
    have skipped : Consumes sync (({ sync with
        pendingArrival := sync.stampBefore position stride } : Synchronizer).discard position) :=
      consumes_discard within
    unfold lock
    dsimp only
    split <;> exact skipped
  · rename_i position found
    rw [found] at within
    exact consumes_discard within
  · exact consumes_discard (Nat.le_refl _)

/-- A search for the frame hands on no packet. -/
theorem tryLock_locks {item : SyncItem} (handed : sync.tryLock.2 = .ok (some item)) :
    ∃ stride offset, item = .locked stride offset := by
  obtain ⟨position, stride, _, locked⟩ := tryLock_item (Prod.ext rfl handed)
  exact ⟨stride, _, (lock_item locked).1⟩

/-- What a step of framing goes behind, it held; a packet that it hands on was there. -/
theorem nextItem_consumes (sync : Synchronizer) :
    Consumes sync sync.nextItem.1 ∧
      ∀ packet, sync.nextItem.2 = .ok (some (.packet packet)) →
        Yields sync sync.nextItem.1 packet := by
  fun_induction nextItem sync with
  | case1 sync locked stride ready start parsed read =>
    refine ⟨consumes_takeUnit sync stride, ?_⟩
    rintro packet ⟨⟩
    obtain ⟨enough, bytes, offset, again⟩ := TransportPacket.parse_spec read
    refine ⟨⟨[], (sync.buffer.take stride).drop packetSize, ?_, offset, ?_⟩, ?_, again⟩
    · rw [List.nil_append, bytes, List.take_append_drop]
      exact (List.take_append_drop ..).symm
    · rw [List.nil_append, bytes, List.take_append_drop]
      rfl
    · rw [bytes, List.length_take, Nat.min_eq_left enough]
  | case2 sync locked stride ready start fault refused ih =>
    have skipped : Consumes sync { sync.takeUnit stride with invalid := sync.invalid + 1 } :=
      consumes_takeUnit sync stride
    exact ⟨skipped.trans ih.1, fun packet handed => skipped.yields (ih.2 packet handed)⟩
  | case3 sync locked stride ready noStart =>
    refine ⟨?_, by simp [lose]⟩
    have filled : 1 ≤ sync.buffer.length := by
      have shorter := takeUnit_shorter ready
      omega
    have lost : Consumes { sync with
        locked := false, resyncs := sync.resyncs + 1, pendingArrival := none } sync.lose.1 :=
      consumes_discard filled
    exact lost
  | case4 sync locked stride notReady => exact ⟨.refl sync, by simp⟩
  | case5 sync unlocked =>
    refine ⟨tryLock_consumes sync, ?_⟩
    intro packet handed
    obtain ⟨stride, offset, locked⟩ := tryLock_locks handed
    cases locked

/-! ### The place of the buffer in its input -/

/-- `Stands start input future sync`: of an input that begins at a place in the stream, framing
has gone behind a part and holds what comes next, up to the bytes still to come. -/
def Stands (start : Nat) (input future : Bytes) (sync : Synchronizer) : Prop :=
  ∃ gone, input = gone ++ sync.buffer ++ future ∧ sync.base = start + gone.length

variable {start : Nat} {input future : Bytes}

theorem Stands.consumes (stands : Stands start input future sync) (consumes : Consumes sync next) :
    Stands start input future next := by
  obtain ⟨before, whole, place⟩ := stands
  obtain ⟨gone, held, base⟩ := consumes
  refine ⟨before ++ gone, by rw [whole, held]; simp only [List.append_assoc], ?_⟩
  rw [base, place, List.length_append]
  omega

/-- A packet that framing hands on is among the input, at its offset. -/
theorem Stands.yields {packet : TransportPacket} (stands : Stands start input future sync)
    (yields : Yields sync next packet) :
    (∃ front back, input = front ++ packet.bytes ++ back ∧
      packet.place = start + front.length) ∧
      sync.base ≤ packet.place ∧ packet.place < next.base := by
  obtain ⟨before, whole, place⟩ := stands
  obtain ⟨⟨front, back, held, offset, base⟩, size, _⟩ := yields
  refine ⟨⟨before ++ front, back ++ next.buffer ++ future, ?_, ?_⟩, by omega, ?_⟩
  · rw [whole, held]
    simp only [List.append_assoc]
  · rw [offset, place, List.length_append]
    omega
  · simp only [List.length_append, size, packetSize] at base
    omega

theorem Stands.push {data : Bytes} (stands : Stands start input (data ++ future) sync) :
    Stands start input future (sync.push data) := by
  obtain ⟨gone, whole, place⟩ := stands
  refine ⟨gone, ?_, place⟩
  simp only [whole, Synchronizer.push, List.append_assoc]

end Synchronizer

end TransportStream
