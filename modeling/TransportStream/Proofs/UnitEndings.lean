import TransportStream.Proofs.PesBuffer

/-!
Every unit of an elementary stream ends once. It comes out, is passed over as padding, or is
counted for one of three reasons; none is forgotten and none is counted twice. What is in progress
never outgrows the buffer, nor the length that it declares.
-/
namespace TransportStream

namespace PesEvent

/-- Whether a unit ended. -/
def endsUnit : PesEvent → Bool
  | .gap => false
  | .delivered _ | .cutShort | .overflowed | .misplaced | .malformed | .padding => true

/-- The ways in which units end, one by one. -/
theorem countP_endsUnit (log : List PesEvent) :
    log.countP endsUnit =
      (log.filterMap packet?).length + log.count .cutShort +
        (log.count .misplaced + log.count .malformed) + log.count .overflowed +
          log.count .padding := by
  induction log with
  | nil => rfl
  | cons event others ih =>
    rw [List.countP_cons, ih]
    cases event <;> simp [endsUnit, packet?, List.filterMap_cons] <;> omega

end PesEvent

namespace PesReassembler

variable {reassembler between after : PesReassembler} {unit : PesUnit} {opened more : Nat}
variable {log later : List PesEvent} {size : Nat}

/-- The events of a call, in their order. -/
def callEvents (reassembler : PesReassembler) : PesCall → List PesEvent
  | .feed input => reassembler.events input
  | .finish => reassembler.finishing

/-- The events of calls in turn. -/
def callAllEvents (reassembler : PesReassembler) : List PesCall → List PesEvent
  | [] => []
  | call :: calls => reassembler.callEvents call ++ (reassembler.call call).1.callAllEvents calls

/-- The bytes that are buffered. -/
def held (reassembler : PesReassembler) : Bytes :=
  match reassembler.phase with
  | .collecting unit => unit.bytes
  | .idle | .skipping => []

/-! ### Counts -/

/-- `Counted opened log before after`: of so many units that were in progress or started, each
that ended is among the events, and the counters have gone up by them. -/
structure Counted (opened : Nat) (log : List PesEvent) (before after : PesReassembler) :
    Prop where
  dropped : after.dropped = before.dropped + log.count .cutShort
  overflows : after.overflows = before.overflows + log.count .overflowed
  invalid : after.invalid = before.invalid + (log.count .misplaced + log.count .malformed)
  units : log.countP PesEvent.endsUnit + after.isCollecting.toNat = opened

/-- Events after others, with units that were started in between. -/
theorem Counted.append (first : Counted opened log reassembler between)
    (second : Counted (between.isCollecting.toNat + more) later between after) :
    Counted (opened + more) (log ++ later) reassembler after where
  dropped := by rw [second.dropped, first.dropped, List.count_append, Nat.add_assoc]
  overflows := by rw [second.overflows, first.overflows, List.count_append, Nat.add_assoc]
  invalid := by
    rw [second.invalid, first.invalid, List.count_append, List.count_append]
    omega
  units := by
    have before := first.units
    have units := second.units
    rw [List.countP_append]
    omega

/-- Nothing happens to what is in progress. -/
theorem Counted.refl (reassembler : PesReassembler) :
    Counted reassembler.isCollecting.toNat [] reassembler reassembler :=
  ⟨rfl, rfl, rfl, Nat.zero_add _⟩

theorem close_counted (reassembler : PesReassembler) (unit : PesUnit) :
    Counted 1 [unit.closing] reassembler (reassembler.close unit).1 := by
  unfold close PesUnit.closing
  cases PesHeader.parse unit.bytes with
  | error fault => constructor <;> simp [PesEvent.endsUnit, isCollecting]
  | ok header =>
    by_cases padding : header.streamId = PesHeader.paddingId
    · simp only [padding, if_true]
      constructor <;> simp [PesEvent.endsUnit, isCollecting]
    · simp only [padding, if_false]
      constructor <;> simp [PesEvent.endsUnit, isCollecting]

theorem drop_counted (reassembler : PesReassembler) (unit : PesUnit) :
    Counted 1 [.cutShort] reassembler (reassembler.drop unit) := by
  constructor <;> simp [drop, PesEvent.endsUnit, isCollecting]

theorem extend_counted (reassembler : PesReassembler) (unit : PesUnit) (payload : Bytes) :
    Counted 1 (unit.extending reassembler.bufferLimit payload) reassembler
      (reassembler.extend unit payload).1 := by
  have collects (bytes : Bytes) : Counted 1 [] reassembler
      { reassembler with phase := .collecting { unit with bytes } } := ⟨rfl, rfl, rfl, rfl⟩
  unfold extend PesUnit.extending
  dsimp only
  split
  · constructor <;> simp [PesEvent.endsUnit, isCollecting]
  · split
    · constructor <;> simp [PesEvent.endsUnit, isCollecting]
    · cases PesUnit.extentOf (unit.bytes ++ payload) with
      | undetermined => exact collects _
      | unbounded => exact collects _
      | bounded total =>
        dsimp only
        split
        · exact collects _
        · exact close_counted reassembler _

theorem finishAny_counted (reassembler : PesReassembler) :
    Counted reassembler.isCollecting.toNat reassembler.finishing reassembler
        reassembler.finishAny.1 ∧ reassembler.finishAny.1.isCollecting = false := by
  unfold finishAny finishing unit?
  cases phase : reassembler.phase with
  | idle => simpa [isCollecting, phase] using Counted.refl reassembler
  | skipping => simpa [isCollecting, phase] using Counted.refl reassembler
  | collecting unit =>
    have opened : reassembler.isCollecting.toNat = 1 := by simp [isCollecting, phase]
    rw [opened]
    simp only [finishUnit, PesUnit.finishing, Option.toList_some, List.map_cons, List.map_nil]
    cases unit.extent with
    | undetermined => exact ⟨drop_counted reassembler unit, rfl⟩
    | unbounded => exact ⟨close_counted reassembler unit, by simp [isCollecting, close_phase]⟩
    | bounded total => exact ⟨drop_counted reassembler unit, rfl⟩

theorem push_counted (reassembler : PesReassembler) (data : Bytes)
    (unitStart randomAccess : Bool) (offset : Nat) :
    Counted (reassembler.isCollecting.toNat + unitStart.toNat)
      (reassembler.events (.payload data unitStart randomAccess offset)) reassembler
      (reassembler.push data unitStart randomAccess offset).1 := by
  cases unitStart with
  | true =>
    obtain ⟨ended, waiting⟩ := finishAny_counted reassembler
    let begun := reassembler.finishAny.1.start randomAccess offset
    have limit : begun.1.bufferLimit = reassembler.bufferLimit := finishAny_limit
    have grown := extend_counted begun.1 begun.2 data
    rw [limit] at grown
    have started : Counted (reassembler.finishAny.1.isCollecting.toNat + 1)
        (begun.2.extending reassembler.bufferLimit data) reassembler.finishAny.1
        (begun.1.extend begun.2 data).1 := by
      rw [waiting]
      exact ⟨grown.dropped, grown.overflows, grown.invalid, grown.units⟩
    simp only [push, events, if_true]
    exact ended.append started
  | false =>
    unfold push events unit?
    cases phase : reassembler.phase with
    | idle => simpa [isCollecting, phase] using Counted.refl reassembler
    | skipping => simpa [isCollecting, phase] using Counted.refl reassembler
    | collecting unit =>
      have opened : reassembler.isCollecting.toNat = 1 := by simp [isCollecting, phase]
      simpa [opened] using extend_counted reassembler unit data

theorem markDiscontinuity_counted (reassembler : PesReassembler) :
    Counted reassembler.isCollecting.toNat (reassembler.events .gap) reassembler
      reassembler.markDiscontinuity := by
  unfold markDiscontinuity events unit?
  cases phase : reassembler.phase with
  | idle => constructor <;> simp [PesEvent.endsUnit, isCollecting, phase]
  | skipping => constructor <;> simp [PesEvent.endsUnit, isCollecting, phase]
  | collecting unit =>
    have given_up : Counted reassembler.isCollecting.toNat ([.cutShort] ++ [.gap]) reassembler
        { reassembler.drop unit with pendingDiscontinuity := true } := by
      constructor <;> simp [drop, PesEvent.endsUnit, List.countP_cons, isCollecting, phase]
    simp only [Option.map_some]
    cases unit.extent with
    | undetermined => exact given_up
    | unbounded => constructor <;> simp [PesEvent.endsUnit, isCollecting, phase]
    | bounded total => exact given_up

theorem call_counted (reassembler : PesReassembler) (call : PesCall) :
    Counted (reassembler.isCollecting.toNat + call.isStart.toNat) (reassembler.callEvents call)
      reassembler (reassembler.call call).1 := by
  match call with
  | .feed (.payload data unitStart randomAccess offset) =>
    exact push_counted reassembler data unitStart randomAccess offset
  | .feed .gap => exact markDiscontinuity_counted reassembler
  | .finish =>
    obtain ⟨ended, waiting⟩ := finishAny_counted reassembler
    have units := ended.units
    rw [waiting] at units
    exact ⟨ended.dropped, ended.overflows, ended.invalid, units⟩

theorem callAll_counted (reassembler : PesReassembler) (calls : List PesCall) :
    Counted (reassembler.isCollecting.toNat + calls.countP PesCall.isStart)
      (reassembler.callAllEvents calls) reassembler (reassembler.callAll calls).1 := by
  induction calls generalizing reassembler with
  | nil => exact .refl reassembler
  | cons call calls ih =>
    have first := call_counted reassembler call
    have opened : (call :: calls).countP PesCall.isStart =
        call.isStart.toNat + calls.countP PesCall.isStart := by
      rw [List.countP_cons, Nat.add_comm]
      cases call.isStart <;> rfl
    rw [opened, ← Nat.add_assoc]
    exact first.append (ih _)

/-- The packets that come out are those among the events. -/
theorem callAll_packets (settled : reassembler.Settled) (calls : List PesCall) :
    (reassembler.callAll calls).2 =
      (reassembler.callAllEvents calls).filterMap PesEvent.packet? := by
  induction calls generalizing reassembler with
  | nil => rfl
  | cons call calls ih =>
    have step : (reassembler.call call).2 =
          (reassembler.callEvents call).filterMap PesEvent.packet? ∧
        (reassembler.call call).1.Settled := by
      cases call with
      | feed input =>
        have accords := feed_accords settled input
        exact ⟨accords.packets, accords.settled⟩
      | finish => exact ⟨(finishAny_accords settled).1.packets, fun _ => rfl⟩
    rw [callAllEvents, List.filterMap_append, ← step.1, ← ih step.2]
    rfl

/-! ### Bounds -/

/-- A unit in progress fits the buffer, and has not reached the length that it declares. -/
structure InBounds (limit : Nat) (unit : PesUnit) : Prop where
  fits : unit.bytes.length ≤ limit
  short : ∀ total, unit.extent = .bounded total → unit.bytes.length < total

/-- What is in progress, if anything, is within the bounds of a buffer. -/
structure Bounded (limit : Nat) (reassembler : PesReassembler) : Prop where
  room : reassembler.bufferLimit = limit
  unit : ∀ unit, reassembler.phase = .collecting unit → InBounds limit unit

theorem extend_bounded (limit : reassembler.bufferLimit = size) (unit : PesUnit)
    (payload : Bytes) : Bounded size (reassembler.extend unit payload).1 := by
  refine ⟨(extend_limit payload).trans limit, fun next collecting => ?_⟩
  unfold extend at collecting
  rw [limit] at collecting
  dsimp only at collecting
  split at collecting
  · cases collecting
  · rename_i fits
    have room := Nat.not_lt.mp fits
    split at collecting
    · cases collecting
    · split at collecting
      · rename_i undetermined
        cases collecting
        exact ⟨room, fun total bounded => by simp [PesUnit.extent, undetermined] at bounded⟩
      · rename_i unbounded
        cases collecting
        exact ⟨room, fun total bounded => by simp [PesUnit.extent, unbounded] at bounded⟩
      · rename_i total declared
        split at collecting
        · rename_i short
          cases collecting
          refine ⟨room, fun other bounded => ?_⟩
          cases declared.symm.trans bounded
          exact short
        · rw [close_phase] at collecting
          cases collecting

theorem Bounded.push (bounded : Bounded size reassembler) (data : Bytes)
    (unitStart randomAccess : Bool) (offset : Nat) :
    Bounded size (reassembler.push data unitStart randomAccess offset).1 := by
  unfold PesReassembler.push
  cases unitStart with
  | true =>
    have begun : (reassembler.finishAny.1.start randomAccess offset).1.bufferLimit = size :=
      finishAny_limit.trans bounded.room
    exact extend_bounded begun _ data
  | false =>
    cases phase : reassembler.phase with
    | idle => exact bounded
    | skipping => exact bounded
    | collecting unit => exact extend_bounded bounded.room unit data

theorem Bounded.markDiscontinuity (bounded : Bounded size reassembler) :
    Bounded size reassembler.markDiscontinuity := by
  refine ⟨markDiscontinuity_limit.trans bounded.room, fun next collecting => ?_⟩
  unfold PesReassembler.markDiscontinuity at collecting
  split at collecting
  · rename_i unit held
    obtain ⟨fits, short⟩ := bounded.unit unit held
    split at collecting
    · cases collecting
      exact ⟨fits, short⟩
    · cases collecting
    · cases collecting
  · exact bounded.unit next collecting
  · exact bounded.unit next collecting

theorem Bounded.callAll (bounded : Bounded size reassembler) (calls : List PesCall) :
    Bounded size (reassembler.callAll calls).1 := by
  induction calls generalizing reassembler with
  | nil => exact bounded
  | cons call calls ih =>
    apply ih
    match call with
    | .feed (.payload data unitStart randomAccess offset) =>
      exact bounded.push data unitStart randomAccess offset
    | .feed .gap => exact bounded.markDiscontinuity
    | .finish => exact ⟨finishAny_limit.trans bounded.room, nofun⟩

theorem Bounded.held (bounded : Bounded size reassembler) :
    reassembler.held.length ≤ size ∧
      ∀ total, PesUnit.extentOf reassembler.held = .bounded total →
        reassembler.held.length < total := by
  unfold PesReassembler.held
  cases phase : reassembler.phase with
  | idle => exact ⟨Nat.zero_le _, nofun⟩
  | skipping => exact ⟨Nat.zero_le _, nofun⟩
  | collecting unit =>
    obtain ⟨fits, short⟩ := bounded.unit unit phase
    exact ⟨fits, short⟩

theorem held_of_waiting (waiting : reassembler.isCollecting = false) : reassembler.held = [] := by
  unfold held
  cases phase : reassembler.phase with
  | idle => rfl
  | skipping => rfl
  | collecting unit => simp [isCollecting, phase] at waiting

/-- The buffer holds what is buffered. -/
theorem held_of_cleared {buffered : BufferedPes} (cleared : buffered.Cleared) :
    buffered.reassembler.held = buffered.buffer := by
  cases stage : buffered.stage with
  | collecting => simp [held, BufferedPes.phase_collecting stage, BufferedPes.unit]
  | idle =>
    rw [cleared.empty (by simp [stage])]
    exact held_of_waiting (by simp [isCollecting, BufferedPes.reassembler, BufferedPes.phase, stage])
  | skipping =>
    rw [cleared.empty (by simp [stage])]
    exact held_of_waiting (by simp [isCollecting, BufferedPes.reassembler, BufferedPes.phase, stage])

/-- The bounds of what is in progress are those of the buffer. -/
theorem Bounded.buffer {buffered : BufferedPes} (cleared : buffered.Cleared)
    (bounded : Bounded size buffered.reassembler) :
    buffered.buffer.length ≤ size ∧
      ∀ total, buffered.stage = .collecting → buffered.expected = some total →
        buffered.buffer.length < total := by
  obtain ⟨fits, short⟩ := bounded.held
  rw [held_of_cleared cleared] at fits short
  refine ⟨fits, fun total collecting expected => short total ?_⟩
  have known := cleared.known collecting
  rw [expected] at known
  exact BufferedPes.declared_bounded known

/-- Whatever reassembly is given, every unit that was started is accounted for once: it came out,
is one of those that the counters count, was padding, or is in progress. What is buffered is part
of a unit in progress, is within the buffer, and is less than what the unit declares. The buffer
that is cleared and filled from call to call does the same, and holds no more. -/
theorem starts_accounted (pid bufferLimit : Nat) (calls : List PesCall) :
    let fresh : PesReassembler := { pid, bufferLimit }
    let last := (fresh.callAll calls).1
    let packets := (fresh.callAll calls).2
    let buffered := (BufferedPes.callAll { pid, bufferLimit } calls).1
    calls.countP PesCall.isStart =
        packets.length + last.dropped + last.invalid + last.overflows +
          (fresh.callAllEvents calls).count .padding + last.isCollecting.toNat ∧
      last.held.length ≤ bufferLimit ∧ (last.isCollecting = false → last.held = []) ∧
        (∀ total, PesUnit.extentOf last.held = .bounded total → last.held.length < total) ∧
      buffered.reassembler = last ∧
        (BufferedPes.callAll { pid, bufferLimit } calls).2 = packets ∧
      buffered.buffer.length ≤ bufferLimit ∧
        (buffered.stage ≠ .collecting → buffered.buffer = []) ∧
        ∀ total, buffered.stage = .collecting → buffered.expected = some total →
          buffered.buffer.length < total := by
  intro fresh last packets buffered
  have counted := callAll_counted fresh calls
  have events := PesEvent.countP_endsUnit (fresh.callAllEvents calls)
  have out : packets = (fresh.callAllEvents calls).filterMap PesEvent.packet? :=
    callAll_packets (fun _ => rfl) calls
  have start : Bounded bufferLimit fresh := ⟨rfl, fun unit collecting => by cases collecting⟩
  have bounded := start.callAll calls
  obtain ⟨cleared, same, handed⟩ :=
    BufferedPes.callAll_follows (BufferedPes.fresh_cleared pid bufferLimit) calls
  have buffers : Bounded bufferLimit buffered.reassembler := same ▸ bounded
  obtain ⟨fits, short⟩ := buffers.buffer cleared
  refine ⟨?_, bounded.held.1, held_of_waiting, bounded.held.2, same, handed, fits, cleared.empty,
    short⟩
  have units : _ + last.isCollecting.toNat = fresh.isCollecting.toNat + _ := counted.units
  have dropped : last.dropped = 0 + _ := counted.dropped
  have overflows : last.overflows = 0 + _ := counted.overflows
  have invalid : last.invalid = 0 + _ := counted.invalid
  have waiting : fresh.isCollecting.toNat = 0 := rfl
  rw [out]
  omega

end PesReassembler

end TransportStream
