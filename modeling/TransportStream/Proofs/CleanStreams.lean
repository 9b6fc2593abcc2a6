import TransportStream.Proofs.FramingBudget

/-!
Streams without damage. Packets that follow each other at one stride pass through framing as
they are, however few they are and however they are cut: after the lock comes every packet that
can be read, and the others are counted.
-/
namespace TransportStream

namespace Synchronizer

/-! ### Units on the wire -/

/-- A packet as it is sent, with the bytes that its stride adds behind it. -/
structure WireUnit where
  packet : Bytes
  padding : Bytes
  size : packet.length = packetSize
  start : plausibleStart packet = true

def WireUnit.bytes (unit : WireUnit) : Bytes := unit.packet ++ unit.padding

/-- The bytes of units, one behind the other. -/
def wire (units : List WireUnit) : Bytes := units.flatMap WireUnit.bytes

/-- Units at a stride, at least one: all of them fill it, but for the last. -/
inductive Evenly (stride : Nat) : List WireUnit → Prop where
  | last (unit : WireUnit) (fits : unit.bytes.length ≤ stride) : Evenly stride [unit]
  | more (unit : WireUnit) {units : List WireUnit} (full : unit.bytes.length = stride)
      (later : Evenly stride units) : Evenly stride (unit :: units)

/-- The packets that can be read from units, with the places where they start. -/
def legible (stride first : Nat) (units : List WireUnit) : List TransportPacket :=
  (units.zipIdx first).filterMap fun (unit, index) =>
    (TransportPacket.parse unit.packet (index * stride)).toOption

variable {sync : Synchronizer} {unit : WireUnit} {units front back : List WireUnit}
variable {stride index run : Nat} {future : Bytes}

theorem wire_cons (unit : WireUnit) (units : List WireUnit) :
    wire (unit :: units) = unit.packet ++ (unit.padding ++ wire units) := by
  rw [wire, List.flatMap_cons, WireUnit.bytes, List.append_assoc]
  rfl

theorem WireUnit.bytes_length (unit : WireUnit) :
    unit.bytes.length = packetSize + unit.padding.length := by
  rw [bytes, List.length_append, unit.size]

theorem Evenly.packetSize_le (evenly : Evenly stride units) : packetSize ≤ stride := by
  cases evenly with
  | last unit fits => exact Nat.le_trans (Nat.le.intro unit.bytes_length.symm) fits
  | more unit full => exact Nat.le_trans (Nat.le.intro unit.bytes_length.symm) (Nat.le_of_eq full)

theorem Evenly.tail (evenly : Evenly stride (unit :: units)) :
    units = [] ∨ Evenly stride units := by
  cases evenly with
  | last => exact .inl rfl
  | more _ _ later => exact .inr later

theorem legible_cons (stride index : Nat) (unit : WireUnit) (units : List WireUnit) :
    legible stride index (unit :: units) =
      (TransportPacket.parse unit.packet (index * stride)).toOption.toList ++
        legible stride (index + 1) units := by
  cases read : (TransportPacket.parse unit.packet (index * stride)).toOption with
  | none => simp [legible, read]
  | some packet => simp [legible, read]

theorem legible_append (stride index : Nat) (front back : List WireUnit) :
    legible stride index (front ++ back) =
      legible stride index front ++ legible stride (index + front.length) back := by
  rw [legible, List.zipIdx_append, List.filterMap_append]
  rfl

/-- A packet that is read from a unit is the one sent there. -/
theorem legible_place {packet : TransportPacket} (member : packet ∈ legible stride 0 units) :
    ∃ index unit, units[index]? = some unit ∧ packet.place = index * stride ∧
      packet.bytes = unit.packet := by
  obtain ⟨⟨unit, index⟩, entry, read⟩ := List.mem_filterMap.mp member
  have place : units[index]? = some unit := List.mk_mem_zipIdx_iff_getElem?.mp entry
  cases parsed : TransportPacket.parse unit.packet (index * stride) with
  | error error => simp [parsed, Except.toOption] at read
  | ok found =>
    simp only [parsed, Except.toOption, Option.some.injEq] at read
    subst read
    obtain ⟨_, bytes, start, _⟩ := TransportPacket.parse_spec parsed
    refine ⟨index, unit, place, start, ?_⟩
    rw [bytes, ← unit.size, List.take_length]

/-- What is buffered of units starts with the first of them. -/
structure Fronts (unit : WireUnit) (data : Bytes) : Prop where
  head : data ≠ [] → data.head? = some syncByte
  start : 4 ≤ data.length → plausibleStart data = true
  packet : packetSize ≤ data.length → data.take packetSize = unit.packet

theorem fronts_of_held {data : Bytes} (held : data ++ future = wire (unit :: units)) :
    Fronts unit data := by
  rw [wire_cons] at held
  have four : 4 ≤ unit.packet.length := by
    rw [unit.size]
    decide
  refine ⟨fun filled => ?_, fun enough => ?_, fun enough => ?_⟩
  · have head := plausibleStart_head unit.start
    obtain ⟨first, rest, rfl⟩ := List.exists_cons_of_ne_nil filled
    have same := congrArg List.head? held
    rw [List.head?_append, List.head?_append, head] at same
    exact same
  · rw [← plausibleStart_append future enough, held, plausibleStart_append _ four]
    exact unit.start
  · have taken := congrArg (List.take packetSize) held
    rwa [List.take_append_of_le_length enough, ← unit.size, List.take_left, unit.size] at taken

/-- Behind a whole unit of the buffer come the other units. -/
theorem Evenly.rest (evenly : Evenly stride (unit :: units)) {data : Bytes}
    (held : data ++ future = wire (unit :: units)) (whole : stride ≤ data.length) :
    data.drop stride ++ future = wire units := by
  have length := congrArg List.length held
  rw [wire, List.flatMap_cons, List.length_append, List.length_append] at length
  have dropped := congrArg (List.drop stride) held
  rw [List.drop_append_of_le_length whole] at dropped
  rw [dropped]
  cases evenly with
  | last _ fits =>
    exact List.drop_eq_nil_of_le (by simpa [wire] using fits)
  | more _ full => exact List.drop_left' full

/-- `Before units future sync`: framing stands before units, some bytes of which are still to come
unless the input has ended. -/
structure Before (units : List WireUnit) (future : Bytes) (sync : Synchronizer) : Prop where
  held : sync.buffer ++ future = wire units
  whole : sync.ended = true → future = []

theorem Before.push {data : Bytes} (before : Before units (data ++ future) sync) :
    Before units future (sync.push data) where
  held := by
    have held := before.held
    rwa [← List.append_assoc] at held
  whole ended := (List.append_eq_nil_iff.mp (before.whole ended)).2

theorem Before.finish (before : Before units [] sync) : Before units [] sync.finish :=
  ⟨before.held, fun _ => rfl⟩

/-! ### In the frame -/

/-- `Along stride index units future sync`: framing is locked and stands before units, the first of
which has this index. -/
structure Along (stride index : Nat) (units : List WireUnit) (future : Bytes)
    (sync : Synchronizer) : Prop extends Before units future sync where
  locked : sync.locked = true
  tuned : sync.stride = some stride
  evenly : units = [] ∨ Evenly stride units
  place : units ≠ [] → sync.base = index * stride

/-- A unit that is taken leaves framing before the next one. -/
theorem Along.takeUnit (along : Along stride index (unit :: units) future sync)
    (ready : sync.hasUnit sync.unitSize = true) (invalid : Nat) :
    Along stride (index + 1) units future { sync.takeUnit sync.unitSize with invalid } := by
  rw [unitSize_eq along.tuned] at ready ⊢
  obtain ⟨_, _, enough⟩ := (hasUnit_spec sync).mp ready
  have evenly := along.evenly.resolve_left (by simp)
  by_cases whole : stride ≤ sync.buffer.length
  · refine ⟨⟨evenly.rest along.held whole, along.whole⟩, along.locked, along.tuned, evenly.tail,
      fun _ => ?_⟩
    have length : (sync.buffer.take stride).length = stride := List.length_take_of_le whole
    have base : sync.base + (sync.buffer.take stride).length = (index + 1) * stride := by
      rw [length, along.place (by simp), Nat.add_mul, Nat.one_mul]
    exact base
  · -- only the last unit can be short, and only at the end of input
    have none := along.whole (enough.resolve_right whole)
    have held := along.held
    rw [none, List.append_nil] at held
    cases evenly with
    | last _ fits =>
      refine ⟨⟨?_, along.whole⟩, along.locked, along.tuned, .inl rfl, by simp⟩
      have dropped : sync.buffer.drop stride = [] := List.drop_eq_nil_of_le (by omega)
      simp [Synchronizer.takeUnit, dropped, none, wire]
    | more _ full =>
      have length := congrArg List.length held
      rw [wire, List.flatMap_cons, List.length_append, full] at length
      omega

/-- At the end of input, framing has a unit as long as one is left. -/
theorem Along.ready (along : Along stride index (unit :: units) future sync)
    (ended : sync.ended = true) : sync.hasUnit sync.unitSize = true := by
  have narrow := (along.evenly.resolve_left (by simp)).packetSize_le
  have length := congrArg List.length along.held
  rw [along.whole ended, List.append_nil, wire, List.flatMap_cons, List.length_append,
    unit.bytes_length] at length
  rw [unitSize_eq along.tuned, hasUnit_spec]
  refine ⟨Nat.lt_of_lt_of_le (by decide) narrow, by omega, .inl ended⟩

/-- The unit that framing stands before is read as what was sent. -/
theorem Along.reads (along : Along stride index (unit :: units) future sync)
    (ready : sync.hasUnit sync.unitSize = true) :
    plausibleStart sync.buffer = true ∧
      TransportPacket.parse (sync.buffer.take sync.unitSize) sync.base =
        TransportPacket.parse unit.packet (index * stride) := by
  obtain ⟨_, start, packet⟩ := fronts_of_held along.held
  obtain ⟨_, enough, _⟩ := (hasUnit_spec sync).mp ready
  have narrow := (along.evenly.resolve_left (by simp)).packetSize_le
  refine ⟨start (Nat.le_trans (by decide) enough), ?_⟩
  have taken : packetSize ≤ (sync.buffer.take stride).length := by
    rw [List.length_take]
    omega
  rw [unitSize_eq along.tuned, along.place (by simp), ← packet enough,
    ← TransportPacket.parse_take taken, List.take_take, Nat.min_eq_left narrow]

/-- `Passes sync stride index front back future run`: a run of framing gave the packets of some
units and counted the others of them, and stands before those that come behind. -/
structure Passes (sync : Synchronizer) (stride index : Nat) (front back : List WireUnit)
    (future : Bytes) (run : Synchronizer × List SyncItem × Option Error) : Prop where
  items : run.2.1.map SyncItem.unstamped = (legible stride index front).map .packet
  success : run.2.2 = none
  counted : run.1.invalid + (legible stride index front).length = sync.invalid + front.length
  along : Along stride (index + front.length) back future run.1
  ended : sync.ended = true → back = []

/-- Without a unit to take, framing asks for more. -/
theorem Along.rests (along : Along stride index units future sync)
    (notReady : ¬sync.hasUnit sync.unitSize = true) :
    Passes sync stride index [] units future sync.drain := by
  rw [drain_eq, nextItem_short sync along.locked notReady]
  refine ⟨rfl, rfl, rfl, along, fun ended => ?_⟩
  cases units with
  | nil => rfl
  | cons unit units => exact absurd (along.ready ended) notReady

/-- A run over further units, behind one that was taken. -/
theorem Passes.before {invalid : Nat} {run : Synchronizer × List SyncItem × Option Error}
    (items : List SyncItem)
    (passes : Passes { sync.takeUnit sync.unitSize with invalid } stride (index + 1) front back
      future run)
    (given : items.map SyncItem.unstamped =
      (TransportPacket.parse unit.packet (index * stride)).toOption.toList.map .packet)
    (counted : invalid + items.length = sync.invalid + 1) :
    Passes sync stride index (unit :: front) back future (run.1, items ++ run.2.1, run.2.2) where
  items := by rw [legible_cons, List.map_append, List.map_append, given, passes.items]
  success := passes.success
  counted := by
    have more := passes.counted
    have same := congrArg List.length given
    simp only [List.length_map] at same
    rw [legible_cons, List.length_append, ← same, List.length_cons]
    dsimp only at more ⊢
    omega
  along := by
    have along := passes.along
    rwa [Nat.add_assoc, Nat.add_comm 1] at along
  ended := passes.ended

theorem Along.drained (along : Along stride index units future sync) :
    ∃ front back, units = front ++ back ∧
      Passes sync stride index front back future sync.drain := by
  induction units generalizing sync index with
  | nil =>
    refine ⟨[], [], rfl, along.rests fun ready => ?_⟩
    have enough := ((hasUnit_spec sync).mp ready).2.1
    have empty := (List.append_eq_nil_iff.mp along.held).1
    simp [empty, packetSize] at enough
  | cons unit units ih =>
    by_cases ready : sync.hasUnit sync.unitSize = true
    · obtain ⟨start, read⟩ := along.reads ready
      cases parsed : TransportPacket.parse unit.packet (index * stride) with
      | ok packet =>
        have item := nextItem_packet sync along.locked ready start (read.trans parsed)
        obtain ⟨front, back, rfl, passes⟩ := ih (along.takeUnit ready sync.invalid)
        refine ⟨unit :: front, back, rfl, ?_⟩
        rw [drain_eq, item]
        refine passes.before [_] ?_ rfl
        simp [parsed, SyncItem.unstamped, TransportPacket.parse_unstamped parsed, Except.toOption]
      | error error =>
        have item := nextItem_skip sync along.locked ready start (read.trans parsed)
        obtain ⟨front, back, rfl, passes⟩ := ih (along.takeUnit ready (sync.invalid + 1))
        refine ⟨unit :: front, back, rfl, ?_⟩
        rw [drain_eq, item, ← drain_eq]
        exact passes.before [] (by rw [parsed]; rfl) rfl
    · exact ⟨[], unit :: units, rfl, along.rests ready⟩

/-! ### Finding the frame -/

/-- Packets start wherever the stride lets one expect them. -/
theorem Evenly.plausibleRun (evenly : Evenly stride units) {data : Bytes}
    (held : data ++ future = wire units) (shown : run ≤ startsWithin data.length stride) :
    plausibleRun stride run data = true := by
  induction run generalizing units data with
  | zero => rfl
  | succ run ih =>
    cases units with
    | nil => cases evenly
    | cons unit units =>
      have four : 4 ≤ data.length := startsWithin_four (Nat.le_of_add_left_le shown)
      rw [Synchronizer.plausibleRun, (fronts_of_held held).start four, Bool.true_and]
      cases run with
      | zero => rfl
      | succ run =>
        obtain ⟨inside, behind⟩ := startsWithin_succ shown
        have rest := evenly.rest held inside
        rcases evenly.tail with rfl | later
        · have empty := (List.append_eq_nil_iff.mp rest).1
          rw [← List.length_drop, empty] at behind
          simp [startsWithin] at behind
        · exact ih later rest (by rwa [List.length_drop])

/-- At the first unit, the stride is found as soon as anything is. -/
theorem Evenly.alignedAt (evenly : Evenly stride units) {data : Bytes} {ended : Bool} (minRun : Nat)
    (held : data ++ future = wire units) (whole : ended = true → future = []) :
    alignedAt? minRun ended data.length stride data = some true ∨
      ended = false ∧ ∀ other, stride ≤ other →
        alignedAt? minRun ended data.length other data = none := by
  have positive : 0 < stride := Nat.lt_of_lt_of_le (by decide) evenly.packetSize_le
  by_cases shown : minRun ≤ startsWithin data.length stride
  · left
    rw [alignedAt?, if_pos shown, evenly.plausibleRun held shown]
  · cases ended with
    | true =>
      left
      have long : packetSize ≤ data.length := by
        rw [whole rfl, List.append_nil] at held
        cases units with
        | nil => cases evenly
        | cons unit units =>
          rw [held, wire_cons, List.length_append, unit.size]
          exact Nat.le_add_right ..
      have one : 1 ≤ startsWithin data.length stride := by
        rw [packetSize] at long
        exact startsWithin_reach positive (.inr (by omega))
      rw [alignedAt?, if_neg shown, if_pos rfl, evenly.plausibleRun held (Nat.le_refl _)]
      simp [one, long]
    | false =>
      refine .inr ⟨rfl, fun other wider => ?_⟩
      have fewer := startsWithin_antitone data.length positive wider
      simp only [alignedAt?, Bool.false_eq_true, if_false]
      rw [if_neg (by omega)]

theorem Evenly.filled (evenly : Evenly stride units) : wire units ≠ [] := by
  cases evenly with
  | last unit | more unit =>
    have length := unit.size
    intro empty
    rw [wire_cons] at empty
    simp [(List.append_eq_nil_iff.mp empty).1, packetSize] at length

/-- A search from the first unit on stops there: with their stride, or for more data. -/
theorem Evenly.search (evenly : Evenly stride units) {data : Bytes} {ended : Bool}
    {others : List Nat} (minRun : Nat) (held : data ++ future = wire units)
    (whole : ended = true → future = []) (wider : ∀ other ∈ others, stride ≤ other) :
    let found := Synchronizer.search minRun ended (stride :: others) data.length 0 data
    found = .aligned 0 stride ∨
      ended = false ∧ (found = .undecided 0 ∨ found = .exhausted ∧ data = []) := by
  have aligned := evenly.alignedAt minRun held whole
  cases data with
  | nil =>
    refine .inr ⟨eq_false_of_ne_true fun ended => ?_, .inr ⟨rfl, rfl⟩⟩
    rw [whole ended] at held
    exact evenly.filled held.symm
  | cons first rest =>
    have head : first = syncByte := by
      cases evenly <;> simpa using (fronts_of_held held).head
    rw [Synchronizer.search, if_pos head, Nat.sub_zero]
    rcases aligned with found | ⟨unended, none⟩
    · left
      simp only [judge, found]
    · refine .inr ⟨unended, .inl ?_⟩
      have judged := @judge_none (stride :: others)
        (fun stride => alignedAt? minRun ended (first :: rest).length stride (first :: rest))
        (by simp) (by simpa using ⟨none stride (Nat.le_refl _), fun other member =>
          none other (wider other member)⟩)
      simp only [judged]

/-- `Seeking stride units future sync`: framing has not found the first of the units yet, and tries
no narrower stride than theirs. -/
structure Seeking (stride : Nat) (units : List WireUnit) (future : Bytes) (sync : Synchronizer) :
    Prop extends Before units future sync where
  unlocked : sync.locked = false
  base : sync.base = 0
  skipped : sync.skipped = 0
  tried : ∃ others, sync.candidates = stride :: others ∧ ∀ other ∈ others, stride ≤ other

/-- Framing that seeks the first unit locks before it, or waits there. -/
theorem Seeking.step (seeking : Seeking stride units future sync) (evenly : Evenly stride units) :
    (∃ arrival, sync.nextItem =
      ({ (sync.discard 0).lockOn stride with pendingArrival := arrival },
        .ok (some (.locked stride 0)))) ∨
      sync.ended = false ∧ sync.nextItem = (sync.discard 0, .ok none) := by
  obtain ⟨others, tried, wider⟩ := seeking.tried
  have budget : sync.skipped + 0 ≤ sync.maxResync := by simp [seeking.skipped]
  rw [nextItem_unlocked sync (by simp [seeking.unlocked]), tryLock_eq, tried]
  rcases evenly.search sync.minRun seeking.held seeking.whole wider with
    found | ⟨unended, found | ⟨found, empty⟩⟩
  · left
    rw [found, follow, lock_within budget, seeking.base]
    exact ⟨_, rfl⟩
  · right
    rw [found, follow, giveUp_within budget]
    exact ⟨unended, rfl⟩
  · right
    rw [found, follow, empty, List.length_nil, giveUp_within budget]
    exact ⟨unended, rfl⟩

theorem Seeking.waits (seeking : Seeking stride units future sync) :
    Seeking stride units future (sync.discard 0) :=
  ⟨⟨seeking.held, seeking.whole⟩, seeking.unlocked, seeking.base, seeking.skipped, seeking.tried⟩

theorem Seeking.locks (seeking : Seeking stride units future sync) (evenly : Evenly stride units)
    (arrival : Option Nat) :
    Along stride 0 units future
      { (sync.discard 0).lockOn stride with pendingArrival := arrival } := by
  refine ⟨⟨seeking.held, seeking.whole⟩, rfl, rfl, .inr evenly, fun _ => ?_⟩
  rw [Nat.zero_mul]
  exact seeking.base

/-! ### The whole stream -/

/-- What framing gave and counted of units: the lock, the packets that can be read, and how many
others there are. -/
structure Passed (stride : Nat) (units : List WireUnit) (items : List SyncItem)
    (sync : Synchronizer) : Prop where
  given : items.map SyncItem.unstamped = .locked stride 0 :: (legible stride 0 units).map .packet
  counted : sync.invalid + (legible stride 0 units).length = units.length

/-- Where framing stands in a stream of units, behind items that it gave. -/
inductive Passing (stride : Nat) (units : List WireUnit) (items : List SyncItem) (future : Bytes)
    (sync : Synchronizer) : Prop where
  | seeking (seeking : Seeking stride units future sync) (none : items = [])
      (clear : sync.invalid = 0)
  | along {front back : List WireUnit} (split : units = front ++ back)
      (passed : Passed stride front items sync) (along : Along stride front.length back future sync)

variable {items : List SyncItem} {chunks : List Bytes}

theorem Passed.drained (passed : Passed stride front items sync)
    (along : Along stride front.length back future sync) :
    sync.drain.2.2 = none ∧
      Passing stride (front ++ back) (items ++ sync.drain.2.1) future sync.drain.1 ∧
      (sync.ended = true →
        Passed stride (front ++ back) (items ++ sync.drain.2.1) sync.drain.1) := by
  obtain ⟨more, rest, rfl, passes⟩ := along.drained
  have further : Passed stride (front ++ more) (items ++ sync.drain.2.1) sync.drain.1 := by
    refine ⟨?_, ?_⟩
    · rw [List.map_append, passed.given, passes.items, legible_append, List.map_append,
        Nat.zero_add]
      rfl
    · have before := passed.counted
      have after := passes.counted
      rw [legible_append, List.length_append, List.length_append, Nat.zero_add]
      omega
  refine ⟨passes.success, .along (List.append_assoc ..).symm further ?_, fun ended => ?_⟩
  · rw [List.length_append]
    exact passes.along
  · rwa [passes.ended ended, List.append_nil]

theorem Passing.drained (passing : Passing stride units items future sync)
    (evenly : Evenly stride units) :
    sync.drain.2.2 = none ∧ Passing stride units (items ++ sync.drain.2.1) future sync.drain.1 ∧
      (sync.ended = true → Passed stride units (items ++ sync.drain.2.1) sync.drain.1) := by
  cases passing with
  | seeking seeking none clear =>
    subst none
    rcases seeking.step evenly with ⟨arrival, locks⟩ | ⟨unended, waits⟩
    · have passed : Passed stride [] [.locked stride 0]
          { (sync.discard 0).lockOn stride with pendingArrival := arrival } := ⟨rfl, clear⟩
      rw [drain_eq, locks]
      exact passed.drained (seeking.locks evenly arrival)
    · rw [drain_eq, waits]
      exact ⟨rfl, .seeking seeking.waits rfl clear, by simp [unended]⟩
  | along split passed along =>
    rw [split]
    exact passed.drained along

/-- What framing is told of its input leaves it where it stands. -/
theorem Passing.told {future later : Bytes} {told : Synchronizer}
    (passing : Passing stride units items future sync)
    (before : ∀ {units}, Before units future sync → Before units later told)
    (same : told = { sync with
      buffer := told.buffer, ended := told.ended, received := told.received }) :
    Passing stride units items later told := by
  rw [same] at before ⊢
  cases passing with
  | seeking seeking none clear =>
    exact .seeking ⟨before seeking.toBefore, seeking.unlocked, seeking.base, seeking.skipped,
      seeking.tried⟩ none clear
  | along split passed along =>
    exact .along split ⟨passed.given, passed.counted⟩
      ⟨before along.toBefore, along.locked, along.tuned, along.evenly, along.place⟩

theorem Passing.pushedAll (passing : Passing stride units items chunks.flatten sync)
    (evenly : Evenly stride units) :
    (sync.pushAll chunks).2.2 = none ∧
      Passing stride units (items ++ (sync.pushAll chunks).2.1) [] (sync.pushAll chunks).1 := by
  fun_induction pushAll sync chunks generalizing items with
  | case1 sync => exact ⟨rfl, by simpa using passing⟩
  | case2 sync chunk chunks next others error drained =>
    obtain ⟨success, _⟩ := (passing.told Before.push rfl).drained evenly
    rw [drained] at success
    cases success
  | case3 sync chunk chunks next others drained last more error result ih =>
    obtain ⟨_, passed, _⟩ := (passing.told Before.push rfl).drained evenly
    rw [drained] at passed
    have later := ih passed
    rwa [result, List.append_assoc] at later

theorem seeking_fresh {options : Options}
    (known : options.forcedStride = some stride ∨
      options.forcedStride = none ∧ stride = packetSize) :
    Seeking stride units (wire units) (ofOptions options) := by
  refine ⟨⟨rfl, nofun⟩, rfl, rfl, rfl, ?_⟩
  simp only [candidates, ofOptions]
  rcases known with forced | ⟨free, rfl⟩
  · exact ⟨[], by rw [forced], by simp⟩
  · exact ⟨[192, 204, 208], by rw [free]; rfl, by decide⟩

/-- Packets at one stride, the last of them with as much behind it as there is, pass through framing
as they are, however the stream is cut: first the lock, then every packet that can be read, at its
place; the others are counted. -/
theorem play_wire {options : Options}
    (known : options.forcedStride = some stride ∨
      options.forcedStride = none ∧ stride = packetSize)
    (evenly : Evenly stride units) (cut : chunks.flatten = wire units) :
    let run := (ofOptions options).play chunks
    let packets := legible stride 0 units
    run.2.2 = none ∧
      run.2.1.map SyncItem.unstamped = .locked stride 0 :: packets.map .packet ∧
      (∀ packet ∈ packets, ∃ index unit, units[index]? = some unit ∧
        packet.place = index * stride ∧ packet.bytes = unit.packet) ∧
      run.1.invalid + packets.length = units.length := by
  have fresh : Passing stride units [] chunks.flatten (ofOptions options) :=
    .seeking (cut ▸ seeking_fresh known) rfl rfl
  obtain ⟨success, pushed⟩ := fresh.pushedAll evenly
  obtain ⟨ends, _, passed⟩ := (pushed.told Before.finish rfl).drained evenly
  have passed := passed rfl
  intro run packets
  simp only [run, play_of_success success]
  exact ⟨ends, passed.given, fun _ => legible_place, passed.counted⟩

/-- Three packets at a stride of 204 bytes: the adaptation field of the second is too long for it,
and the third has less behind it than the others. -/
private def threeUnits : List WireUnit :=
  let plain : Bytes := [0x47, 0x01, 0x00, 0x10] ++ List.replicate 184 0
  let broken : Bytes := [0x47, 0x01, 0x00, 0x30, 0xB8] ++ List.replicate 183 0
  [⟨plain, List.replicate 16 0x47, by decide +kernel, by decide +kernel⟩,
    ⟨broken, List.replicate 16 0x47, by decide +kernel, by decide +kernel⟩,
    ⟨plain, List.replicate 3 0x47, by decide +kernel, by decide +kernel⟩]

/-- So few packets pass, and the second is counted. -/
theorem threeUnits_pass :
    Evenly 204 threeUnits ∧
      ((ofOptions { packetSize := some 204 }).play
        [(wire threeUnits).take 300, (wire threeUnits).drop 300]).1.invalid = 1 := by
  have evenly : Evenly 204 threeUnits :=
    .more _ (by decide +kernel) (.more _ (by decide +kernel) (.last _ (by decide +kernel)))
  obtain ⟨_, _, _, counted⟩ := @play_wire threeUnits 204
    [(wire threeUnits).take 300, (wire threeUnits).drop 300] { packetSize := some 204 }
    (.inl rfl) evenly (by simp)
  have two : (legible 204 0 threeUnits).length = 2 := by decide +kernel
  have three : threeUnits.length = 3 := rfl
  exact ⟨evenly, by omega⟩

end Synchronizer

end TransportStream
