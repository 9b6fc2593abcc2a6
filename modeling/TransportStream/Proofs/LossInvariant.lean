import TransportStream.Proofs.Reception

/-!
A run that loses packets beside the run that loses none. What the lossy run puts together
without a discontinuity flag, the whole run puts together too: a gap of up to fourteen
packets never goes unnoticed, and a unit that survives it is flagged.
-/
namespace TransportStream

/-- The unit with its discontinuity flag taken off. -/
def PesUnit.unflagged (unit : PesUnit) : PesUnit := { unit with discontinuity := false }

/-- The packet with its discontinuity flag taken off. -/
def PesPacket.unflagged (packet : PesPacket) : PesPacket := { packet with discontinuity := false }

/-- The phase with the flag of a unit in progress taken off. -/
def PesPhase.unflagged : PesPhase → PesPhase
  | .idle => .idle
  | .collecting unit => .collecting unit.unflagged
  | .skipping => .skipping

/-- The packets that carry no discontinuity flag. -/
def clean (packets : List PesPacket) : List PesPacket :=
  packets.filter (fun packet => !packet.discontinuity)

@[simp] theorem clean_append (front back : List PesPacket) :
    clean (front ++ back) = clean front ++ clean back := by
  simp [clean]

/-- Packets that all carry the flag leave nothing when it is asked for clean ones. -/
theorem clean_eq_nil {packets : List PesPacket}
    (flagged : ∀ packet ∈ packets, packet.discontinuity = true) : clean packets = [] := by
  simp only [clean, List.filter_eq_nil_iff]
  intro packet member
  simp [flagged packet member]

/-- Clean packets are their own unflagged form. -/
theorem clean_sublist_unflagged (packets : List PesPacket) :
    (clean packets).Sublist (packets.map PesPacket.unflagged) := by
  have unchanged : ∀ packet ∈ clean packets, packet.unflagged = packet := by
    intro packet member
    have unmarked : packet.discontinuity = false := by
      simpa [clean] using (List.mem_filter.mp member).2
    simp [PesPacket.unflagged, ← unmarked]
  have same : (clean packets).map PesPacket.unflagged = clean packets := by
    rw [List.map_congr_left unchanged, List.map_id']
  rw [← same]
  exact List.filter_sublist.map _

namespace PesReassembler

variable {unit other : PesUnit} {whole lossy first second : PesReassembler}

private theorem unflagged_fields (same : unit.unflagged = other.unflagged) :
    unit.bytes = other.bytes ∧ unit.randomAccess = other.randomAccess ∧
      unit.offset = other.offset := by
  simpa [PesUnit.unflagged] using same

/-! ### What a unit becomes does not depend on its flag -/

theorem close_unflagged (same : unit.unflagged = other.unflagged) :
    (first.close unit).1.phase.unflagged = (second.close other).1.phase.unflagged ∧
      (first.close unit).2.map PesPacket.unflagged =
        (second.close other).2.map PesPacket.unflagged := by
  obtain ⟨bytes, access, offset⟩ := unflagged_fields same
  unfold close
  rw [bytes]
  cases PesHeader.parse other.bytes with
  | error fault => exact ⟨rfl, rfl⟩
  | ok header =>
    by_cases padding : header.streamId = PesHeader.paddingId
    · simp [padding, PesPhase.unflagged]
    · simp [padding, PesPhase.unflagged, PesPacket.unflagged, access, offset]

theorem extend_unflagged (same : unit.unflagged = other.unflagged)
    (limits : first.bufferLimit = second.bufferLimit) (payload : Bytes) :
    (first.extend unit payload).1.phase.unflagged =
        (second.extend other payload).1.phase.unflagged ∧
      (first.extend unit payload).2.map PesPacket.unflagged =
        (second.extend other payload).2.map PesPacket.unflagged := by
  obtain ⟨bytes, access, offset⟩ := unflagged_fields same
  unfold extend
  rw [bytes, limits]
  dsimp only
  split
  · exact ⟨rfl, rfl⟩
  · split
    · exact ⟨rfl, rfl⟩
    · split
      · simp [PesPhase.unflagged, PesUnit.unflagged, access, offset]
      · simp [PesPhase.unflagged, PesUnit.unflagged, access, offset]
      · split
        · simp [PesPhase.unflagged, PesUnit.unflagged, access, offset]
        · apply close_unflagged
          simp [PesUnit.unflagged, access, offset]

theorem finishAny_unflagged (same : first.phase.unflagged = second.phase.unflagged) :
    (first.finishAny).2.map PesPacket.unflagged = (second.finishAny).2.map PesPacket.unflagged := by
  unfold finishAny
  cases left : first.phase <;> cases right : second.phase <;>
    simp only [left, right, PesPhase.unflagged, reduceCtorEq, PesPhase.collecting.injEq] at same
  · rfl
  · rename_i unit other
    obtain ⟨bytes, _, _⟩ := unflagged_fields same
    simp only [finishUnit, PesUnit.extent, bytes]
    split
    · exact (close_unflagged same).2
    · rfl
    · rfl
  · rfl

/-! ### The flag of a unit stays on what it becomes -/

theorem close_phase : (first.close unit).1.phase = .idle := by
  unfold close
  split
  · rfl
  · dsimp only
    split <;> rfl

theorem close_flag {packet : PesPacket} (closed : packet ∈ (first.close unit).2) :
    packet.discontinuity = unit.discontinuity := by
  unfold close at closed
  split at closed
  · cases closed
  · dsimp only at closed
    split at closed
    · cases closed
    · simp only [Option.mem_def, Option.some.injEq] at closed
      rw [← closed]

theorem extend_flag (first : PesReassembler) (unit : PesUnit) (payload : Bytes) :
    (∀ packet ∈ (first.extend unit payload).2, packet.discontinuity = unit.discontinuity) ∧
      ∀ next, (first.extend unit payload).1.phase = .collecting next →
        next.discontinuity = unit.discontinuity := by
  unfold extend
  dsimp only
  split
  · exact ⟨by simp, by simp⟩
  · split
    · exact ⟨by simp, by simp⟩
    · split
      · exact ⟨by simp, by rintro next ⟨⟩; rfl⟩
      · exact ⟨by simp, by rintro next ⟨⟩; rfl⟩
      · split
        · exact ⟨by simp, by rintro next ⟨⟩; rfl⟩
        · refine ⟨?_, ?_⟩
          · intro packet closed
            have flag := close_flag closed
            exact flag
          · intro next collecting
            rw [close_phase] at collecting
            cases collecting

theorem finishAny_flag (collecting : first.phase = .collecting unit) :
    ∀ packet ∈ (first.finishAny).2, packet.discontinuity = unit.discontinuity := by
  intro packet closed
  simp only [finishAny, collecting, finishUnit] at closed
  split at closed
  · exact close_flag closed
  · cases closed
  · cases closed

theorem markDiscontinuity_limit : first.markDiscontinuity.bufferLimit = first.bufferLimit := by
  unfold markDiscontinuity
  split
  · split <;> rfl
  · rfl
  · rfl

/-! ### The lossy run shadows the whole one -/

/-- A unit that the lossy side collects without a flag is the one the whole side collects. -/
structure Shadows (whole lossy : PesReassembler) : Prop where
  limit : lossy.bufferLimit = whole.bufferLimit
  phase : ∀ unit, lossy.phase = .collecting unit → unit.discontinuity = false →
    whole.phase.unflagged = lossy.phase.unflagged

/-- A gap leaves no unit in progress without a flag, so nothing is asked of the whole side. -/
theorem shadows_marked (limit : lossy.bufferLimit = whole.bufferLimit) :
    Shadows whole lossy.markDiscontinuity := by
  refine ⟨markDiscontinuity_limit.trans limit, ?_⟩
  intro unit collecting unmarked
  unfold markDiscontinuity at collecting
  split at collecting
  · split at collecting
    · cases collecting
      cases unmarked
    · cases collecting
    · cases collecting
  · rename_i idle
    simp [idle] at collecting
  · rename_i skipping
    simp [skipping] at collecting

private theorem sublist_of_unflagged {left right : Option PesPacket}
    (same : left.map PesPacket.unflagged = right.map PesPacket.unflagged) :
    (clean left.toList).Sublist (right.toList.map PesPacket.unflagged) := by
  have lists := congrArg Option.toList same
  rw [Option.toList_map, Option.toList_map] at lists
  rw [← lists]
  exact clean_sublist_unflagged _

theorem Shadows.finishAny (related : Shadows whole lossy) :
    (clean lossy.finishAny.2.toList).Sublist
      (whole.finishAny.2.toList.map PesPacket.unflagged) := by
  cases phase : lossy.phase with
  | idle => simp [PesReassembler.finishAny, phase, clean]
  | skipping => simp [PesReassembler.finishAny, phase, clean]
  | collecting unit =>
    cases flag : unit.discontinuity with
    | false =>
      exact sublist_of_unflagged (finishAny_unflagged (related.phase unit phase flag).symm)
    | true =>
      have flagged : ∀ packet ∈ lossy.finishAny.2.toList, packet.discontinuity = true := by
        intro packet member
        rw [← flag]
        exact finishAny_flag phase packet (Option.mem_toList.mp member)
      rw [clean_eq_nil flagged]
      exact List.nil_sublist _

/-- Both sides go on with units that differ in their flag alone. -/
private theorem shadows_extend (same : unit.unflagged = other.unflagged)
    (limit : lossy.bufferLimit = whole.bufferLimit) (payload : Bytes) :
    Shadows (whole.extend other payload).1 (lossy.extend unit payload).1 ∧
      (clean (lossy.extend unit payload).2.toList).Sublist
        ((whole.extend other payload).2.toList.map PesPacket.unflagged) := by
  obtain ⟨phases, packets⟩ := extend_unflagged same limit payload
  refine ⟨⟨?_, fun _ _ _ => phases.symm⟩, sublist_of_unflagged packets⟩
  rw [extend_limit, extend_limit, limit]

/-- The unit of the whole side that a unit without a flag shadows. -/
private theorem Shadows.partner (related : Shadows whole lossy)
    (collecting : lossy.phase = .collecting unit) (unmarked : unit.discontinuity = false) :
    ∃ other, whole.phase = .collecting other ∧ unit.unflagged = other.unflagged := by
  have same := related.phase unit collecting unmarked
  rw [collecting] at same
  cases phase : whole.phase with
  | idle => simp [phase, PesPhase.unflagged] at same
  | skipping => simp [phase, PesPhase.unflagged] at same
  | collecting other =>
    rw [phase] at same
    exact ⟨other, rfl, (PesPhase.collecting.inj same).symm⟩

private theorem push_collecting {randomAccess : Bool} {payload : Bytes} {offset : Nat}
    (collecting : first.phase = .collecting unit) :
    first.push payload false randomAccess offset =
      ((first.extend unit payload).1, (first.extend unit payload).2.toList) := by
  simp [PesReassembler.push, collecting]

/-- Between units a payload that starts none is ignored. -/
private theorem Shadows.push_waiting (related : Shadows whole lossy)
    (waiting : lossy.isCollecting = false) (payload : Bytes) (randomAccess : Bool)
    (offset : Nat) :
    Shadows (whole.push payload false randomAccess offset).1
        (lossy.push payload false randomAccess offset).1 ∧
      (clean (lossy.push payload false randomAccess offset).2).Sublist
        ((whole.push payload false randomAccess offset).2.map PesPacket.unflagged) := by
  have ignored : lossy.push payload false randomAccess offset = (lossy, []) := by
    cases phase : lossy.phase with
    | idle => simp [PesReassembler.push, phase]
    | skipping => simp [PesReassembler.push, phase]
    | collecting unit => simp [isCollecting, phase] at waiting
  rw [ignored]
  refine ⟨⟨related.limit.trans (push_limit ..).symm, ?_⟩, List.nil_sublist _⟩
  intro unit collecting
  change lossy.phase = .collecting unit at collecting
  simp [isCollecting, collecting] at waiting

theorem Shadows.push (related : Shadows whole lossy) (payload : Bytes)
    (unitStart randomAccess : Bool) (offset : Nat) :
    Shadows (whole.push payload unitStart randomAccess offset).1
        (lossy.push payload unitStart randomAccess offset).1 ∧
      (clean (lossy.push payload unitStart randomAccess offset).2).Sublist
        ((whole.push payload unitStart randomAccess offset).2.map PesPacket.unflagged) := by
  cases unitStart with
  | true =>
    -- a start begins the same unit on both sides, whatever was in progress
    let lossyStart := lossy.finishAny.1.start randomAccess offset
    let wholeStart := whole.finishAny.1.start randomAccess offset
    have units : lossyStart.2.unflagged = wholeStart.2.unflagged := rfl
    have limits : lossyStart.1.bufferLimit = wholeStart.1.bufferLimit := by
      change lossy.finishAny.1.bufferLimit = whole.finishAny.1.bufferLimit
      rw [finishAny_limit, finishAny_limit, related.limit]
    obtain ⟨next, now⟩ := shadows_extend units limits payload
    refine ⟨next, ?_⟩
    simp only [PesReassembler.push, if_true, clean_append, List.map_append]
    exact related.finishAny.append now
  | false =>
    cases phase : lossy.phase with
    | idle => exact related.push_waiting (by simp [isCollecting, phase]) payload _ _
    | skipping => exact related.push_waiting (by simp [isCollecting, phase]) payload _ _
    | collecting unit =>
      cases flag : unit.discontinuity with
      | false =>
        obtain ⟨other, collecting, same⟩ := related.partner phase flag
        rw [push_collecting phase, push_collecting collecting]
        exact shadows_extend same related.limit payload
      | true =>
        rw [push_collecting phase]
        obtain ⟨packets, next⟩ := extend_flag lossy unit payload
        refine ⟨⟨?_, ?_⟩, ?_⟩
        · rw [extend_limit, push_limit, related.limit]
        · intro after collecting unmarked
          rw [next after collecting, flag] at unmarked
          cases unmarked
        · rw [clean_eq_nil]
          · exact List.nil_sublist _
          · intro packet member
            rw [packets packet (Option.mem_toList.mp member), flag]

theorem Shadows.take (related : Shadows whole lossy) (packet : TransportPacket) :
    Shadows (whole.take packet).1 (lossy.take packet).1 ∧
      (clean (lossy.take packet).2).Sublist
        ((whole.take packet).2.map PesPacket.unflagged) := by
  obtain ⟨next, packets⟩ := related.push packet.payload packet.header.payloadUnitStart
    packet.randomAccess packet.offset
  exact ⟨⟨next.limit, next.phase⟩, packets⟩

end PesReassembler

/-- `Lossy sent arrived`: what arrived is what was sent but for runs of at most fourteen
packets, each before a packet that arrived. -/
inductive Lossy : List TransportPacket → List TransportPacket → Prop where
  | done : Lossy [] []
  | arrival {sent arrived : List TransportPacket} (lost : List TransportPacket)
      (packet : TransportPacket) (few : lost.length ≤ 14) (others : Lossy sent arrived) :
      Lossy (lost ++ packet :: sent) (packet :: arrived)

namespace StreamState

open PesReassembler (Shadows)

variable {pid next previous : Nat} {counter : ContinuityCounter}
variable {whole lossy : PesReassembler} {sent arrived lost : List TransportPacket}

/-- Packets in sequence leave the counter at the one that follows them. -/
theorem receiveAll_counted (pid : Nat) (whole : PesReassembler)
    (steady : ∀ packet ∈ lost, packet.Steady)
    (counted : CountedFrom next lost)
    (ready : ∀ value, value % 16 = next % 16 → counter.Expects value) :
    ∃ latest reassembler,
      ((carrying pid counter whole).receiveAll lost).1 = carrying pid latest reassembler ∧
        reassembler.bufferLimit = whole.bufferLimit ∧
        ∀ value, value % 16 = (next + lost.length) % 16 → latest.Expects value := by
  induction lost generalizing next counter whole with
  | nil => exact ⟨counter, whole, rfl, rfl, ready⟩
  | cons packet others ih =>
    obtain ⟨value, counted⟩ := counted
    have received : (carrying pid counter whole).receive packet =
        (carrying pid (.after packet.header.continuity) (whole.take packet).1,
          (whole.take packet).2) :=
      receive_expected (steady packet List.mem_cons_self) (ready _ value)
    have expected : ∀ later, later % 16 = (next + 1) % 16 →
        (ContinuityCounter.after packet.header.continuity).Expects later :=
      fun later same => ContinuityCounter.expects_next (by omega)
    obtain ⟨latest, reassembler, state, limit, follows⟩ := ih (whole.take packet).1
      (fun other member => steady other (List.mem_cons_of_mem _ member)) counted expected
    refine ⟨latest, reassembler, ?_, limit.trans (PesReassembler.push_limit ..), ?_⟩
    · rw [receiveAll, received]
      exact state
    · rw [show next + (packet :: others).length = next + 1 + others.length by
        rw [List.length_cons]; omega]
      exact follows

/-- What the lossy side expects before the packet that the whole side expects with the
value `next`: it follows the last one received, or nothing was received yet. -/
inductive Awaits (counter : ContinuityCounter) (lossy : PesReassembler) (next : Nat) : Prop where
  | fresh (unused : counter = {}) (waiting : lossy.isCollecting = false)
  | following (previous : Nat) (received : counter = .after previous)
      (adjacent : next % 16 = (previous + 1) % 16)

/-- The packet that arrives after some were lost, or none. If some were, the counter
notices, or nothing was in progress to be corrupted. -/
theorem receive_arrival (pid : Nat) {packet : TransportPacket} {skipped : Nat}
    (awaits : Awaits counter lossy next) (steady : packet.Steady) (few : skipped ≤ 14)
    (value : packet.header.continuity % 16 = (next + skipped) % 16)
    (limit : lossy.bufferLimit = whole.bufferLimit)
    (related : skipped = 0 → Shadows whole lossy) :
    ∃ reassembler packets,
      (carrying pid counter lossy).receive packet =
          (carrying pid (.after packet.header.continuity) reassembler, packets) ∧
        Shadows (whole.take packet).1 reassembler ∧
        (clean packets).Sublist ((whole.take packet).2.map PesPacket.unflagged) := by
  cases awaits with
  | fresh unused waiting =>
    have related : Shadows whole lossy := by
      refine ⟨limit, ?_⟩
      intro unit collecting
      simp [PesReassembler.isCollecting, collecting] at waiting
    obtain ⟨related, packets⟩ := related.take packet
    refine ⟨_, _, receive_expected steady ?_, related, packets⟩
    rw [unused]
    exact ContinuityCounter.expects_fresh _
  | following previous received adjacent =>
    subst received
    by_cases none : skipped = 0
    · obtain ⟨related, packets⟩ := (related none).take packet
      exact ⟨_, _, receive_expected steady (ContinuityCounter.expects_next (by omega)),
        related, packets⟩
    · obtain ⟨related, packets⟩ := (PesReassembler.shadows_marked limit).take packet
      have missed : packet.header.continuity % 16 = (previous + skipped + 1) % 16 := by omega
      have gap := ContinuityCounter.check_after_lost (by omega) few missed
      exact ⟨_, _, receive_gap steady gap, related, packets⟩

/-- The run lemma: whatever a lossy run completes without a flag, the whole run completes
in the same order. -/
theorem clean_play_sublist (pid : Nat) {latest : ContinuityCounter} (run : Lossy sent arrived)
    (steady : ∀ packet ∈ sent, packet.Steady) (counted : CountedFrom next sent)
    (ready : ∀ value, value % 16 = next % 16 → counter.Expects value)
    (awaits : Awaits latest lossy next) (related : Shadows whole lossy) :
    (clean ((carrying pid latest lossy).play arrived)).Sublist
      (((carrying pid counter whole).play sent).map PesPacket.unflagged) := by
  induction run generalizing next counter latest whole lossy with
  | done =>
    have last := related.finishAny
    simpa [play, receiveAll, lastPackets, carrying, PesReassembler.flushEnd] using last
  | @arrival sent arrived lost packet few others ih =>
    rw [countedFrom_append] at counted
    obtain ⟨lostCounted, value, counted⟩ := counted
    have packetSteady : packet.Steady := steady packet (by simp)
    obtain ⟨reached, through, state, limit, expected⟩ :=
      receiveAll_counted pid whole
        (fun other member => steady other (by simp [member])) lostCounted ready
    have shadowed : lost.length = 0 → Shadows through lossy := by
      intro none
      rw [List.length_eq_zero_iff] at none
      subst none
      have same : whole = through := by simpa [receiveAll, carrying] using (congrArg reassembly state)
      rwa [← same]
    obtain ⟨reassembler, packets, received, related, sublist⟩ :=
      receive_arrival pid awaits packetSteady few value
        (related.limit.trans limit.symm) shadowed
    have counted : CountedFrom (packet.header.continuity + 1) sent :=
      countedFrom_congr (by omega) counted
    have ready : ∀ value, value % 16 = (packet.header.continuity + 1) % 16 →
        (ContinuityCounter.after packet.header.continuity).Expects value :=
      fun value same => ContinuityCounter.expects_next same
    have later := ih (fun other member => steady other (by simp [member])) counted ready
      (.following _ rfl rfl) related
    rw [play_cons, received, clean_append, play_append, state, play_cons,
      receive_expected packetSteady (expected _ value), List.map_append, List.map_append]
    exact (sublist.append later).trans (List.sublist_append_right _ _)

/-- Loss is never silent: when packets of an elementary stream are lost in runs of at most
fourteen, every PES packet that comes out without a discontinuity flag comes out of the
whole stream too, with the same header, payload, random access and offset. -/
theorem unflagged_of_lossy (pid bufferLimit first : Nat)
    (steady : ∀ packet ∈ sent, packet.Steady) (counted : CountedFrom first sent)
    (run : Lossy sent arrived) :
    ∀ packet ∈ (elementary pid bufferLimit).play arrived, packet.discontinuity = false →
      ∃ original ∈ (elementary pid bufferLimit).play sent,
        original.header = packet.header ∧ original.payload = packet.payload ∧
          original.randomAccess = packet.randomAccess ∧ original.offset = packet.offset := by
  intro packet member unmarked
  let fresh : PesReassembler := { pid, bufferLimit }
  have start : Shadows fresh fresh := by
    refine ⟨rfl, ?_⟩
    rintro unit ⟨⟩
  have ready : ∀ value, value % 16 = first % 16 → ContinuityCounter.Expects {} value :=
    fun value _ => ContinuityCounter.expects_fresh value
  have sublist := clean_play_sublist pid run steady counted ready (.fresh rfl rfl) start
  have kept : packet ∈ clean ((elementary pid bufferLimit).play arrived) := by
    simp only [clean, List.mem_filter]
    exact ⟨member, by simp [unmarked]⟩
  obtain ⟨original, present, same⟩ := List.mem_map.mp (sublist.subset kept)
  subst same
  exact ⟨original, present, rfl, rfl, rfl, rfl⟩

/-- The second fragment of the first of three PES packets is lost: the third still comes out
without a flag. -/
theorem unflagged_of_lossy_third :
    ∃ sent arrived, Lossy sent arrived ∧ arrived.length < sent.length ∧
      ∃ packet ∈ (elementary 0x101 1000).play arrived, packet.discontinuity = false ∧
        ∃ original ∈ (elementary 0x101 1000).play sent,
          original.header = packet.header ∧ original.payload = packet.payload ∧
            original.randomAccess = packet.randomAccess ∧ original.offset = packet.offset := by
  let data : Bytes := [0x00, 0x00, 0x01, 0xE0, 0x00, 0x05, 0x80, 0x00, 0x00]
  let front : TransportPacket := .bare 0x101 14 true data
  let lost : TransportPacket := .bare 0x101 15 false [0x01, 0x02]
  let second : TransportPacket := .bare 0x101 0 true (data ++ [0x03, 0x04])
  let third : TransportPacket := .bare 0x101 1 true (data ++ [0x05, 0x06])
  have run : Lossy [front, lost, second, third] [front, second, third] :=
    .arrival [] front (by decide) (.arrival [lost] second (by decide)
      (.arrival [] third (by decide) .done))
  have counted : CountedFrom 14 [front, lost, second, third] :=
    ⟨by decide, by decide, by decide, by decide, trivial⟩
  have survived : ∃ packet ∈ (elementary 0x101 1000).play [front, second, third],
      packet.discontinuity = false := by
    decide +kernel
  obtain ⟨packet, member, unmarked⟩ := survived
  exact ⟨_, _, run, by decide, packet, member, unmarked,
    unflagged_of_lossy 0x101 1000 14 (by decide) counted run packet member unmarked⟩

end StreamState

end TransportStream
