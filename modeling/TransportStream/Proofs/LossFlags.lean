import TransportStream.Proofs.LossInvariant

/-!
How the memory of a loss travels through reassembly. Each input leaves events behind: packets
that came out, units that ended otherwise, and losses. A loss flags the next packet that comes
out. The flag passes from a unit that was cut short or does not parse to the unit after it,
but a unit that is padding or has no start code takes it along.
-/
namespace TransportStream

/-- What reassembly is given between two resets. -/
inductive PesInput where
  | payload (data : Bytes) (unitStart randomAccess : Bool) (offset : Nat)
  | gap
  deriving DecidableEq, Repr

/-- The end of a unit, or a gap in what was received. -/
inductive PesEvent where
  | delivered (packet : PesPacket)
  /-- Given up before its last byte. -/
  | cutShort
  /-- Longer than the buffer. -/
  | overflowed
  /-- Begun without a start code. -/
  | misplaced
  /-- Complete, with a header that does not parse. -/
  | malformed
  | padding
  | gap
  deriving DecidableEq, Repr

namespace PesEvent

/-- The packet that came out. -/
def packet? : PesEvent → Option PesPacket
  | .delivered packet => some packet
  | .cutShort | .overflowed | .misplaced | .malformed | .padding | .gap => none

/-- Whether data was lost. -/
def isLoss : PesEvent → Bool
  | .overflowed | .gap => true
  | .delivered _ | .cutShort | .misplaced | .malformed | .padding => false

/-- Whether a unit ended of which nothing is said: neither does it come out, nor does the
next one learn that data was lost before it. -/
def isSilent : PesEvent → Bool
  | .misplaced | .padding => true
  | .delivered _ | .cutShort | .overflowed | .malformed | .gap => false

/-- Whether a loss has still to be told after an event, given whether it had before. -/
def carry (due : Bool) : PesEvent → Bool
  | .overflowed | .gap => true
  | .delivered _ | .misplaced | .padding => false
  | .cutShort | .malformed => due

/-- Every packet among the events carries what is due when it comes out. -/
def Flagged : Bool → List PesEvent → Prop
  | _, [] => True
  | due, event :: others =>
    (∀ packet ∈ event.packet?, packet.discontinuity = due) ∧ Flagged (event.carry due) others

theorem flagged_append {due : Bool} {front back : List PesEvent} :
    Flagged due (front ++ back) ↔ Flagged due front ∧ Flagged (front.foldl carry due) back := by
  induction front generalizing due with
  | nil => simp [Flagged]
  | cons event others ih => simp [Flagged, ih, and_assoc]

/-- Whether every silent end among the events is followed by another loss. -/
def Remembered (events : List PesEvent) : Prop :=
  ∀ front silent back, events = front ++ silent :: back → silent.isSilent = true →
    ∃ loss ∈ back, loss.isLoss = true

theorem remembered_cons {event : PesEvent} {others : List PesEvent} :
    Remembered (event :: others) ↔
      (event.isSilent = true → ∃ loss ∈ others, loss.isLoss = true) ∧ Remembered others := by
  constructor
  · intro remembered
    refine ⟨remembered [] event others rfl, ?_⟩
    intro front silent back split
    exact remembered (event :: front) silent back (by rw [split, List.cons_append])
  · rintro ⟨head, tail⟩ front silent back split
    rcases List.cons_eq_append_iff.mp split with ⟨_, same⟩ | ⟨front, _, same⟩
    · obtain ⟨rfl, rfl⟩ := List.cons.inj same
      exact head
    · exact tail front silent back same

instance decidableRemembered : (events : List PesEvent) → Decidable (Remembered events)
  | [] => .isTrue (by simp [Remembered])
  | event :: others =>
    have := decidableRemembered others
    decidable_of_iff _ (@remembered_cons event others).symm

/-- What is due after events of which none is a packet. -/
theorem foldl_carry_iff {events : List PesEvent} (due : Bool)
    (unsent : ∀ event ∈ events, event.packet? = none) :
    events.foldl carry due = true ↔
      (due = true ∨ ∃ loss ∈ events, loss.isLoss = true) ∧ Remembered events := by
  induction events generalizing due with
  | nil => simp [Remembered]
  | cons event others ih =>
    have later := ih (event.carry due) fun other member => unsent other (by simp [member])
    have first := unsent event List.mem_cons_self
    rw [List.foldl_cons, later, remembered_cons]
    cases event <;> simp_all [packet?, carry, isLoss, isSilent]

/-- The events before the first packet that comes out. -/
def beforeFirst (events : List PesEvent) : List PesEvent :=
  events.takeWhile (fun event => event.packet?.isNone)

/-- The first packet that comes out carries what is due after the events before it. -/
theorem Flagged.first {due : Bool} {events : List PesEvent} {packet : PesPacket}
    (flags : Flagged due events) (first : (events.filterMap packet?).head? = some packet) :
    packet.discontinuity = (beforeFirst events).foldl carry due ∧
      ∀ event ∈ beforeFirst events, event.packet? = none := by
  obtain ⟨others, sent⟩ := List.head?_eq_some_iff.mp first
  obtain ⟨before, event, after, rfl, unsent, out, _⟩ := List.filterMap_eq_cons_iff.mp sent
  have here : beforeFirst (before ++ event :: after) = before := by
    rw [beforeFirst, List.takeWhile_append_of_pos (by simpa using unsent)]
    simp [out]
  rw [here]
  exact ⟨(flagged_append.mp flags).2.1 packet out, unsent⟩

end PesEvent

namespace PesUnit

/-- What becomes of a unit that is complete. -/
def closing (unit : PesUnit) : PesEvent :=
  match PesHeader.parse unit.bytes with
  | .error _ => .malformed
  | .ok header =>
    if header.streamId = PesHeader.paddingId then .padding
    else .delivered {
      header
      payload := unit.bytes.drop header.size
      discontinuity := unit.discontinuity
      randomAccess := unit.randomAccess
      offset := unit.offset }

/-- What a payload brings a unit to, if it ends it. -/
def extending (limit : Nat) (unit : PesUnit) (payload : Bytes) : List PesEvent :=
  let bytes := unit.bytes ++ payload
  if limit < bytes.length then [.overflowed]
  else if !hasStartCode bytes then [.misplaced]
  else
    match extentOf bytes with
    | .undetermined | .unbounded => []
    | .bounded total =>
      if bytes.length < total then [] else [closing { unit with bytes := bytes.take total }]

/-- What becomes of a unit of which nothing more will come. -/
def finishing (unit : PesUnit) : PesEvent :=
  match unit.extent with
  | .unbounded => unit.closing
  | .undetermined | .bounded _ => .cutShort

end PesUnit

namespace PesReassembler

variable {reassembler after next : PesReassembler} {unit : PesUnit}

/-- The unit in progress. -/
def unit? (reassembler : PesReassembler) : Option PesUnit :=
  match reassembler.phase with
  | .collecting unit => some unit
  | .idle | .skipping => none

/-- Ends whatever is in progress, as events. -/
def finishing (reassembler : PesReassembler) : List PesEvent :=
  reassembler.unit?.toList.map PesUnit.finishing

/-- Gives reassembly one input. -/
def feed (reassembler : PesReassembler) : PesInput → PesReassembler × List PesPacket
  | .payload data unitStart randomAccess offset =>
    reassembler.push data unitStart randomAccess offset
  | .gap => (reassembler.markDiscontinuity, [])

/-- The events of one input, in their order. -/
def events (reassembler : PesReassembler) : PesInput → List PesEvent
  | .payload data true randomAccess offset =>
    let unit := (reassembler.finishAny.1.start randomAccess offset).2
    reassembler.finishing ++ unit.extending reassembler.bufferLimit data
  | .payload data false _ _ =>
    reassembler.unit?.toList.flatMap (fun unit => unit.extending reassembler.bufferLimit data)
  | .gap =>
    match reassembler.unit?.map PesUnit.extent with
    | none | some .unbounded => [.gap]
    | some .undetermined | some (.bounded _) => [.cutShort, .gap]

/-- Gives reassembly inputs in turn. -/
def feedAll (reassembler : PesReassembler) : List PesInput → PesReassembler × List PesPacket
  | [] => (reassembler, [])
  | input :: others =>
    let (reassembler, packets) := reassembler.feed input
    let (reassembler, later) := reassembler.feedAll others
    (reassembler, packets ++ later)

/-- The events of inputs in turn. -/
def eventsAll (reassembler : PesReassembler) : List PesInput → List PesEvent
  | [] => []
  | input :: others => reassembler.events input ++ (reassembler.feed input).1.eventsAll others

/-- The packets that come out when inputs are given in turn, and input ends then or not. -/
def output (reassembler : PesReassembler) (inputs : List PesInput) (ended : Bool) :
    List PesPacket :=
  let (reassembler, packets) := reassembler.feedAll inputs
  packets ++ if ended then reassembler.flushEnd.2.toList else []

/-- The events when inputs are given in turn, and input ends then or not. -/
def history (reassembler : PesReassembler) (inputs : List PesInput) (ended : Bool) :
    List PesEvent :=
  reassembler.eventsAll inputs ++
    if ended then (reassembler.feedAll inputs).1.finishing else []

/-! ### What is due -/

/-- Whether a loss has still to be told. A unit in progress carries it, or the next one
will. -/
def due (reassembler : PesReassembler) : Bool :=
  match reassembler.phase with
  | .collecting unit => unit.discontinuity
  | .idle | .skipping => reassembler.pendingDiscontinuity

/-- A unit in progress has taken over what was pending. -/
def Settled (reassembler : PesReassembler) : Prop :=
  reassembler.isCollecting = true → reassembler.pendingDiscontinuity = false

/-- `Accords owed events after packets`: from a state in which a loss is due or not, these
events lead to this state and give these packets. -/
structure Accords (owed : Bool) (events : List PesEvent) (after : PesReassembler)
    (packets : List PesPacket) : Prop where
  packets : packets = events.filterMap PesEvent.packet?
  settled : after.Settled
  due : after.due = events.foldl PesEvent.carry owed
  flags : PesEvent.Flagged owed events

variable {owed : Bool} {front back : List PesEvent} {packets later : List PesPacket}

theorem Accords.append (first : Accords owed front after packets)
    (second : Accords after.due back next later) :
    Accords owed (front ++ back) next (packets ++ later) where
  packets := by rw [first.packets, second.packets, List.filterMap_append]
  settled := second.settled
  due := by rw [second.due, first.due, List.foldl_append]
  flags := PesEvent.flagged_append.mpr ⟨first.flags, first.due ▸ second.flags⟩

/-- Between units nothing happens by itself. -/
theorem Accords.refl (settled : reassembler.Settled) :
    Accords reassembler.due [] reassembler [] := ⟨rfl, settled, rfl, trivial⟩

/-- With no unit in progress the next one will tell. -/
theorem due_of_waiting (waiting : reassembler.isCollecting = false) :
    reassembler.due = reassembler.pendingDiscontinuity := by
  unfold due
  split
  · rename_i collecting
    simp [isCollecting, collecting] at waiting
  · rfl
  · rfl

/-- An event without a packet, after which no unit is in progress. -/
theorem Accords.single {event : PesEvent} (waiting : after.isCollecting = false)
    (pending : after.pendingDiscontinuity = event.carry owed) (unsent : event.packet? = none) :
    Accords owed [event] after [] where
  packets := by simp [unsent]
  settled := by simp [Settled, waiting]
  due := by rw [due_of_waiting waiting, pending, List.foldl_cons, List.foldl_nil]
  flags := by simp [PesEvent.Flagged, unsent]

/-- A complete unit hands its flag to the packet, or on to the next unit. -/
theorem close_accords (unit : PesUnit) (clear : reassembler.pendingDiscontinuity = false) :
    Accords unit.discontinuity [unit.closing] (reassembler.close unit).1
      (reassembler.close unit).2.toList := by
  unfold close PesUnit.closing
  cases PesHeader.parse unit.bytes with
  | error fault => exact .single rfl (by simp [clear, PesEvent.carry]) rfl
  | ok header =>
    by_cases padding : header.streamId = PesHeader.paddingId
    · simp only [padding, if_true]
      exact .single rfl (by simp [clear, PesEvent.carry]) rfl
    · simp only [padding, if_false]
      exact ⟨rfl, by simp [Settled, isCollecting], by simp [due, clear, PesEvent.carry],
        by simp [PesEvent.Flagged, PesEvent.packet?]⟩

/-- A unit that goes on keeps its flag. -/
theorem extend_accords (unit : PesUnit) (payload : Bytes)
    (clear : reassembler.pendingDiscontinuity = false) :
    Accords unit.discontinuity (unit.extending reassembler.bufferLimit payload)
      (reassembler.extend unit payload).1 (reassembler.extend unit payload).2.toList := by
  have collects (bytes : Bytes) : Accords unit.discontinuity []
      { reassembler with phase := .collecting { unit with bytes } } [] :=
    ⟨rfl, fun _ => clear, rfl, trivial⟩
  unfold extend PesUnit.extending
  dsimp only
  split
  · exact .single rfl rfl rfl
  · split
    · exact .single rfl (by simp [clear, PesEvent.carry]) rfl
    · cases PesUnit.extentOf (unit.bytes ++ payload) with
      | undetermined => exact collects _
      | unbounded => exact collects _
      | bounded total =>
        dsimp only
        split
        · exact collects _
        · exact close_accords { unit with bytes := (unit.bytes ++ payload).take total } clear

/-- Whatever is in progress ends, and no unit is in progress then. -/
theorem finishAny_accords (settled : reassembler.Settled) :
    Accords reassembler.due reassembler.finishing reassembler.finishAny.1
        reassembler.finishAny.2.toList ∧
      reassembler.finishAny.1.isCollecting = false := by
  unfold finishAny finishing unit?
  cases phase : reassembler.phase with
  | idle => exact ⟨.refl settled, by simp [isCollecting, phase]⟩
  | skipping => exact ⟨.refl settled, by simp [isCollecting, phase]⟩
  | collecting unit =>
    have clear := settled (by simp [isCollecting, phase])
    have flag : reassembler.due = unit.discontinuity := by simp [due, phase]
    have dropped : Accords unit.discontinuity [.cutShort] (reassembler.drop unit) [] :=
      .single rfl (by simp [drop, clear, PesEvent.carry]) rfl
    rw [flag]
    simp only [finishUnit, PesUnit.finishing, Option.toList_some, List.map_cons, List.map_nil]
    cases unit.extent with
    | undetermined => exact ⟨dropped, rfl⟩
    | unbounded => exact ⟨close_accords unit clear, by simp [isCollecting, close_phase]⟩
    | bounded total => exact ⟨dropped, rfl⟩

theorem push_accords (settled : reassembler.Settled) (data : Bytes)
    (unitStart randomAccess : Bool) (offset : Nat) :
    Accords reassembler.due (reassembler.events (.payload data unitStart randomAccess offset))
      (reassembler.push data unitStart randomAccess offset).1
      (reassembler.push data unitStart randomAccess offset).2 := by
  cases unitStart with
  | true =>
    obtain ⟨ended, waiting⟩ := finishAny_accords settled
    let begun := reassembler.finishAny.1.start randomAccess offset
    have limit : begun.1.bufferLimit = reassembler.bufferLimit := finishAny_limit
    have grown : Accords reassembler.finishAny.1.due
        (begun.2.extending reassembler.bufferLimit data)
        (begun.1.extend begun.2 data).1 (begun.1.extend begun.2 data).2.toList := by
      rw [due_of_waiting waiting, ← limit]
      exact extend_accords begun.2 data rfl
    simp only [push, events, if_true]
    exact ended.append grown
  | false =>
    unfold push events unit?
    cases phase : reassembler.phase with
    | idle => exact .refl settled
    | skipping => exact .refl settled
    | collecting unit =>
      have flag : reassembler.due = unit.discontinuity := by simp [due, phase]
      have grown := extend_accords unit data (settled (by simp [isCollecting, phase]))
      simpa [flag] using grown

theorem markDiscontinuity_accords (settled : reassembler.Settled) :
    Accords reassembler.due (reassembler.events .gap) reassembler.markDiscontinuity [] := by
  unfold markDiscontinuity events unit?
  cases phase : reassembler.phase with
  | idle => exact .single (by simp [isCollecting]) rfl rfl
  | skipping => exact .single (by simp [isCollecting]) rfl rfl
  | collecting unit =>
    have clear := settled (by simp [isCollecting, phase])
    have given_up : Accords reassembler.due ([.cutShort] ++ [.gap])
        { reassembler.drop unit with pendingDiscontinuity := true } [] :=
      ⟨rfl, by simp [Settled, isCollecting, drop], rfl,
        by simp [PesEvent.Flagged, PesEvent.packet?]⟩
    simp only [Option.map_some]
    cases unit.extent with
    | undetermined => exact given_up
    | unbounded => exact ⟨rfl, fun _ => clear, rfl, by simp [PesEvent.Flagged, PesEvent.packet?]⟩
    | bounded total => exact given_up

theorem feed_accords (settled : reassembler.Settled) (input : PesInput) :
    Accords reassembler.due (reassembler.events input) (reassembler.feed input).1
      (reassembler.feed input).2 := by
  cases input with
  | payload data unitStart randomAccess offset => exact push_accords settled ..
  | gap => exact markDiscontinuity_accords settled

theorem feedAll_accords (settled : reassembler.Settled) (inputs : List PesInput) :
    Accords reassembler.due (reassembler.eventsAll inputs) (reassembler.feedAll inputs).1
      (reassembler.feedAll inputs).2 := by
  induction inputs generalizing reassembler with
  | nil => exact .refl settled
  | cons input others ih =>
    have first := feed_accords settled input
    exact first.append (ih first.settled)

/-- The packets that come out are those of the history, and each carries what is due when it
comes out. -/
theorem history_accords (settled : reassembler.Settled) (inputs : List PesInput) (ended : Bool) :
    reassembler.output inputs ended =
        (reassembler.history inputs ended).filterMap PesEvent.packet? ∧
      PesEvent.Flagged reassembler.due (reassembler.history inputs ended) := by
  have run := feedAll_accords settled inputs
  cases ended with
  | false =>
    simp only [output, history, Bool.false_eq_true, if_false, List.append_nil]
    exact ⟨run.packets, run.flags⟩
  | true =>
    have whole := run.append (finishAny_accords run.settled).1
    exact ⟨whole.packets, whole.flags⟩

/-! ### Losses -/

/-- `Reachable`: what reassembly can come to, its counters taken at any time. -/
inductive Reachable : PesReassembler → Prop where
  | fresh (pid bufferLimit : Nat) : Reachable { pid, bufferLimit }
  | fed {reassembler : PesReassembler} (input : PesInput) (before : Reachable reassembler) :
      Reachable (reassembler.feed input).1
  | counted {reassembler : PesReassembler} (before : Reachable reassembler) :
      Reachable reassembler.withoutCounts
  | reset {reassembler : PesReassembler} (before : Reachable reassembler) :
      Reachable reassembler.reset
  | ended {reassembler : PesReassembler} (before : Reachable reassembler) :
      Reachable reassembler.flushEnd.1

theorem Reachable.settled (reachable : Reachable reassembler) : reassembler.Settled := by
  induction reachable with
  | fresh pid bufferLimit => exact fun _ => rfl
  | fed input before settled => exact (feed_accords settled input).settled
  | counted before settled => exact settled
  | reset before settled => exact fun _ => rfl
  | ended before settled => exact fun _ => rfl

/-- Whether data is lost with an input: a gap is reported, or a unit outgrows the buffer. -/
def Loses (reassembler : PesReassembler) (input : PesInput) : Prop :=
  input = .gap ∨ reassembler.overflows < (reassembler.feed input).1.overflows

theorem close_overflows : (reassembler.close unit).1.overflows = reassembler.overflows := by
  unfold close
  split
  · rfl
  · dsimp only
    split <;> rfl

theorem finishAny_overflows : reassembler.finishAny.1.overflows = reassembler.overflows := by
  unfold finishAny finishUnit
  split
  · split
    · exact close_overflows
    · rfl
    · rfl
  · rfl
  · rfl

/-- A unit that outgrows the buffer leaves a loss to tell. -/
theorem extend_overflowed {payload : Bytes}
    (counted : reassembler.overflows < (reassembler.extend unit payload).1.overflows) :
    (reassembler.extend unit payload).1.due = true := by
  unfold extend at counted ⊢
  dsimp only at counted ⊢
  split
  · rfl
  · rename_i fits
    simp only [fits, if_false] at counted
    split at counted
    · simp at counted
    · split at counted
      · simp at counted
      · simp at counted
      · split at counted
        · simp at counted
        · simp [close_overflows] at counted

theorem markDiscontinuity_due (reassembler : PesReassembler) :
    reassembler.markDiscontinuity.due = true := by
  unfold markDiscontinuity
  cases phase : reassembler.phase with
  | idle => simp [due]
  | skipping => simp [due]
  | collecting unit =>
    dsimp only
    split <;> rfl

/-- Whatever was lost has still to be told after the input it was lost with. -/
theorem Loses.due {input : PesInput} (lost : reassembler.Loses input) :
    (reassembler.feed input).1.due = true := by
  cases input with
  | gap => exact markDiscontinuity_due reassembler
  | payload data unitStart randomAccess offset =>
    have counted := lost.resolve_left PesInput.noConfusion
    cases unitStart with
    | true =>
      have before : (reassembler.finishAny.1.start randomAccess offset).1.overflows =
          reassembler.overflows := finishAny_overflows
      simp only [feed, push, if_true] at counted ⊢
      exact extend_overflowed (before ▸ counted)
    | false =>
      simp only [feed, push, Bool.false_eq_true, if_false] at counted ⊢
      cases phase : reassembler.phase with
      | idle => simp [phase] at counted
      | skipping => simp [phase] at counted
      | collecting unit =>
        simp only [phase] at counted ⊢
        exact extend_overflowed counted

/-- After a loss, and whatever is given then, the next packet that comes out carries the flag
unless, since the last loss before it, a unit was passed over as padding or for want of a
start code. -/
theorem next_flagged_iff (reachable : Reachable reassembler) {input : PesInput}
    (lost : reassembler.Loses input) (inputs : List PesInput) (ended : Bool) {packet : PesPacket}
    (next : ((reassembler.feed input).1.output inputs ended).head? = some packet) :
    packet.discontinuity = true ↔
      PesEvent.Remembered
        (PesEvent.beforeFirst ((reassembler.feed input).1.history inputs ended)) := by
  obtain ⟨packets, flags⟩ := history_accords (reachable.fed input).settled inputs ended
  rw [packets] at next
  rw [lost.due] at flags
  obtain ⟨flag, unsent⟩ := flags.first next
  rw [flag, PesEvent.foldl_carry_iff true unsent]
  simp

/-- A complete PES packet of a video stream, with two bytes in it. -/
def wholePes : Bytes := [0x00, 0x00, 0x01, 0xE0, 0x00, 0x05, 0x80, 0x00, 0x00, 0x61, 0x62]

/-- A complete padding packet. -/
def paddingPes : Bytes := [0x00, 0x00, 0x01, 0xBE, 0x00, 0x02, 0xFF, 0xFF]

/-- A gap, a unit that is cut short, padding and another gap: the packet behind them carries
the flag. -/
theorem second_gap_flagged :
    let fresh : PesReassembler := { pid := 0x101, bufferLimit := 1000 }
    let inputs : List PesInput := [.payload (wholePes.take 8) true false 0,
      .payload paddingPes true false 188, .gap, .payload wholePes true false 376]
    fresh.Reachable ∧ fresh.Loses .gap ∧
      ∃ packet, ((fresh.feed .gap).1.output inputs false).head? = some packet ∧
        PesEvent.Remembered (PesEvent.beforeFirst ((fresh.feed .gap).1.history inputs false)) ∧
        packet.discontinuity = true := by
  intro fresh inputs
  have reachable : fresh.Reachable := .fresh 0x101 1000
  have lost : fresh.Loses .gap := .inl rfl
  have remembered : PesEvent.Remembered
      (PesEvent.beforeFirst ((fresh.feed .gap).1.history inputs false)) := by decide +kernel
  have sent : ((fresh.feed .gap).1.output inputs false).head?.isSome = true := by decide +kernel
  obtain ⟨packet, next⟩ := Option.isSome_iff_exists.mp sent
  exact ⟨reachable, lost, packet, next, remembered,
    (next_flagged_iff reachable lost inputs false next).mpr remembered⟩

/-- A gap and a padding packet: the packet behind them carries no flag. -/
theorem padding_hides_gap :
    let fresh : PesReassembler := { pid := 0x101, bufferLimit := 1000 }
    fresh.Reachable ∧ fresh.Loses .gap ∧
      ((fresh.feed .gap).1.output
        [.payload paddingPes true false 0, .payload wholePes true false 188] false).map
          PesPacket.discontinuity = [false] := by
  intro fresh
  exact ⟨.fresh 0x101 1000, .inl rfl, by decide +kernel⟩

end PesReassembler

end TransportStream
