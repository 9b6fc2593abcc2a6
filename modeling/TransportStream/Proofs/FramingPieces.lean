import TransportStream.Proofs.FramingTrace

/-!
Framing of input that comes in pieces. Whatever framing does with the first pieces, it does
as a step over the whole input, so two ways to cut the input give the same items unless they
part at a lock.
-/
namespace TransportStream

namespace Synchronizer

variable {sync next other : Synchronizer} {item : SyncItem} {items others : List SyncItem}
variable {last : Option Synchronizer} {future : Bytes} {size count : Nat}

/-! ### Positions given up -/

/-- Giving up some of the positions at which no packet can start changes nothing else. -/
theorem settled_discard (inside : count ≤ sync.barrenFront) :
    (sync.discard count).settled = sync.settled := by
  have left : (sync.discard count).barrenFront = sync.barrenFront - count := barren_drop inside
  simp only [settled, left]
  simp only [discard, List.drop_drop, Nat.add_assoc, Nat.add_sub_cancel' inside]

theorem Trace.of_discard (unlocked : sync.locked = false) (inside : count ≤ sync.barrenFront)
    (trace : Trace (sync.discard count) items last) : Trace sync items last := by
  have same := settled_discard inside
  cases trace with
  | waits locked => exact absurd (unlocked.symm.trans locked) (by simp)
  | seeks _ none budget =>
    rw [same] at none budget ⊢
    exact .seeks unlocked none budget
  | fails _ spent =>
    rw [same] at spent
    exact .fails unlocked spent
  | step step later =>
    cases step with
    | packet locked => exact absurd (unlocked.symm.trans locked) (by simp)
    | skip locked => exact absurd (unlocked.symm.trans locked) (by simp)
    | lose locked => exact absurd (unlocked.symm.trans locked) (by simp)
    | lock _ order found first budget =>
      have step := Step.lock unlocked order (same ▸ found) (same ▸ first) (same ▸ budget)
      rw [same] at later ⊢
      exact .step step later

/-! ### The cases of an item -/

theorem nextItem_packet (sync : Synchronizer) {packet : TransportPacket}
    (locked : sync.locked = true) (ready : sync.hasUnit sync.unitSize = true)
    (start : plausibleStart sync.buffer = true)
    (parsed : TransportPacket.parse (sync.buffer.take sync.unitSize) sync.base = .ok packet) :
    sync.nextItem = (sync.takeUnit sync.unitSize,
      .ok (some (.packet { packet with arrival := sync.pendingArrival }))) := by
  unfold unitSize at ready parsed ⊢
  rw [nextItem, if_pos locked]
  simp only [dif_pos ready, if_pos start, parsed]

theorem nextItem_skip (sync : Synchronizer) {error : Error} (locked : sync.locked = true)
    (ready : sync.hasUnit sync.unitSize = true) (start : plausibleStart sync.buffer = true)
    (refused : TransportPacket.parse (sync.buffer.take sync.unitSize) sync.base = .error error) :
    sync.nextItem =
      { sync.takeUnit sync.unitSize with invalid := sync.invalid + 1 }.nextItem := by
  unfold unitSize at ready refused ⊢
  rw [nextItem, if_pos locked]
  simp only [dif_pos ready, if_pos start, refused]

theorem nextItem_lose (sync : Synchronizer) (locked : sync.locked = true)
    (ready : sync.hasUnit sync.unitSize = true) (noStart : ¬plausibleStart sync.buffer = true) :
    sync.nextItem = sync.lose := by
  unfold unitSize at ready
  rw [nextItem, if_pos locked]
  simp only [dif_pos ready, if_neg noStart]

theorem nextItem_short (sync : Synchronizer) (locked : sync.locked = true)
    (notReady : ¬sync.hasUnit sync.unitSize = true) : sync.nextItem = (sync, .ok none) := by
  unfold unitSize at notReady
  rw [nextItem, if_pos locked]
  simp only [dif_neg notReady]

theorem nextItem_unlocked (sync : Synchronizer) (unlocked : ¬sync.locked = true) :
    sync.nextItem = sync.tryLock := by
  rw [nextItem, if_neg unlocked]

/-! ### Taking units -/

theorem unitSize_eq {stride : Nat} (tuned : sync.stride = some stride) :
    sync.unitSize = stride := by
  rw [unitSize, tuned, Option.getD_some]

theorem hasUnit_spec (sync : Synchronizer) :
    sync.hasUnit size = true ↔ 0 < size ∧ packetSize ≤ sync.buffer.length ∧
      (sync.ended = true ∨ size ≤ sync.buffer.length) := by
  simp only [hasUnit, Bool.and_eq_true, Bool.or_eq_true, decide_eq_true_eq, Bool.not_eq_true',
    ← Bool.not_eq_true, Bytes.isShorter_iff, Nat.not_lt, and_assoc]

theorem hasUnit_iff (sync : Synchronizer) (unended : sync.ended = false) :
    sync.hasUnit size = true ↔
      0 < size ∧ packetSize ≤ sync.buffer.length ∧ size ≤ sync.buffer.length := by
  simp [hasUnit_spec, unended]

/-- Framing that has a unit takes it whatever follows. -/
structure Takes (sync : Synchronizer) (future : Bytes) : Prop where
  ready : (sync.ahead future).hasUnit sync.unitSize = true
  unit : (sync.ahead future).buffer.take sync.unitSize = sync.buffer.take sync.unitSize
  start : plausibleStart (sync.ahead future).buffer = plausibleStart sync.buffer
  taken : ((sync.ahead future).takeUnit sync.unitSize).bare =
    (sync.takeUnit sync.unitSize).ahead future
  lost : (sync.ahead future).lose.1.bare = sync.lose.1.ahead future

theorem takes_of_hasUnit (unended : sync.ended = false)
    (ready : sync.hasUnit sync.unitSize = true) (future : Bytes) : sync.Takes future := by
  obtain ⟨positive, packet, unit⟩ := (hasUnit_iff sync unended).mp ready
  have longer : (sync.ahead future).buffer.length = sync.buffer.length + future.length := by
    simp [ahead, bare]
  have taken : (sync.buffer ++ future).take sync.unitSize = sync.buffer.take sync.unitSize :=
    List.take_append_of_le_length unit
  refine ⟨(hasUnit_iff (sync.ahead future) unended).mpr ⟨positive, by omega, by omega⟩, taken,
    plausibleStart_append future (Nat.le_trans (by decide) packet), ?_, ?_⟩
  · simp only [ahead, bare, takeUnit, taken, List.drop_append_of_le_length unit]
  · have one : 1 ≤ sync.buffer.length := Nat.le_trans (by decide) packet
    simp only [ahead, bare, lose, discard, List.drop_append_of_le_length one]

theorem Takes.packet {packet : TransportPacket} (takes : sync.Takes future)
    (locked : sync.locked = true) (start : plausibleStart sync.buffer = true)
    (parsed : TransportPacket.parse (sync.buffer.take sync.unitSize) sync.base = .ok packet) :
    Step (sync.ahead future) (some (.packet { packet with arrival := none }))
      ((sync.takeUnit sync.unitSize).ahead future) := by
  rw [← takes.unit] at parsed
  rw [← takes.start] at start
  rw [← takes.taken]
  exact .packet locked takes.ready start parsed

theorem Takes.skip {error : Error} (takes : sync.Takes future)
    (locked : sync.locked = true) (start : plausibleStart sync.buffer = true)
    (refused : TransportPacket.parse (sync.buffer.take sync.unitSize) sync.base = .error error) :
    Step (sync.ahead future) none ((sync.takeUnit sync.unitSize).ahead future) := by
  rw [← takes.unit] at refused
  rw [← takes.start] at start
  rw [← takes.taken]
  exact .skip locked takes.ready start refused

theorem Takes.lose (takes : sync.Takes future) (locked : sync.locked = true)
    (noStart : plausibleStart sync.buffer = false) :
    Step (sync.ahead future) (some (.lost sync.base)) (sync.lose.1.ahead future) := by
  rw [← takes.start] at noStart
  rw [← takes.lost]
  exact .lose locked takes.ready noStart

/-! ### Probing -/

/-- What framing makes of a search. -/
def follow (sync : Synchronizer) : Search → Synchronizer × Except Error (Option SyncItem)
  | .aligned position stride => sync.lock position stride
  | .undecided position => sync.giveUp position
  | .exhausted => sync.giveUp sync.buffer.length

theorem tryLock_eq (sync : Synchronizer) :
    sync.tryLock = sync.follow
      (search sync.minRun sync.ended sync.candidates sync.buffer.length 0 sync.buffer) := by
  unfold tryLock follow
  rfl

/-- What a search for the frame comes to before the end of input. -/
inductive Probed (sync : Synchronizer) :
    Synchronizer × Except Error (Option SyncItem) → Prop where
  | locks {before after : List Nat} {stride : Nat} {next : Synchronizer}
      (order : sync.candidates = before ++ stride :: after)
      (found : HasRun sync.minRun stride sync.settled.buffer)
      (first : ∀ other ∈ before, ¬HasRun sync.minRun other sync.settled.buffer)
      (budget : sync.settled.skipped ≤ sync.maxResync)
      (locked : next.bare = (sync.settled.lockOn stride).bare) :
      Probed sync (next, .ok (some (.locked stride sync.settled.base)))
  | seeks (noRun : ∀ stride ∈ sync.candidates, ¬HasRun sync.minRun stride sync.settled.buffer)
      (budget : sync.settled.skipped ≤ sync.maxResync) : Probed sync (sync.settled, .ok none)
  | fails {next : Synchronizer} (error : Error) (spent : sync.maxResync < sync.settled.skipped) :
      Probed sync (next, .error error)

theorem checkBudget_cases (sync : Synchronizer) :
    (sync.skipped ≤ sync.maxResync ∧ sync.checkBudget = .ok ()) ∨
      (sync.maxResync < sync.skipped ∧ ∃ error, sync.checkBudget = .error error) := by
  unfold checkBudget
  by_cases budget : sync.skipped ≤ sync.maxResync
  · exact .inl ⟨budget, if_pos budget⟩
  · rw [if_neg budget]
    refine .inr ⟨Nat.not_le.mp budget, ?_⟩
    split <;> exact ⟨_, rfl⟩

theorem lock_probed {before after : List Nat} {stride : Nat}
    (order : sync.candidates = before ++ stride :: after)
    (found : HasRun sync.minRun stride sync.settled.buffer)
    (first : ∀ other ∈ before, ¬HasRun sync.minRun other sync.settled.buffer) :
    Probed sync (sync.lock sync.barrenFront stride) := by
  unfold lock
  dsimp only
  generalize sync.stampBefore sync.barrenFront stride = arrival
  rcases checkBudget_cases sync.settled with ⟨budget, checked⟩ | ⟨spent, error, checked⟩
  · have passed : ({ sync with pendingArrival := arrival }.discard sync.barrenFront).checkBudget =
        .ok () := checked
    rw [passed]
    exact .locks order found first budget rfl
  · have failed : ({ sync with pendingArrival := arrival }.discard sync.barrenFront).checkBudget =
        .error error := checked
    rw [failed]
    exact .fails error spent

theorem giveUp_probed
    (noRun : ∀ stride ∈ sync.candidates, ¬HasRun sync.minRun stride sync.settled.buffer) :
    Probed sync (sync.giveUp sync.barrenFront) := by
  have gaveUp : sync.giveUp sync.barrenFront =
    (sync.settled, sync.settled.checkBudget.map fun _ => none) := rfl
  rw [gaveUp]
  rcases checkBudget_cases sync.settled with ⟨budget, checked⟩ | ⟨spent, error, checked⟩
  · rw [checked]
    exact .seeks noRun budget
  · rw [checked]
    exact .fails error spent

theorem tryLock_probed (unended : sync.ended = false) : Probed sync sync.tryLock := by
  have searched := search_spec sync.minRun sync.candidates 0 sync.buffer
  rw [tryLock_eq, unended]
  rw [Nat.zero_add] at searched
  generalize search sync.minRun false sync.candidates sync.buffer.length 0 sync.buffer = result
    at searched
  cases searched with
  | aligned order found first =>
    rw [Nat.zero_add]
    exact lock_probed order found first
  | undecided noRun =>
    rw [Nat.zero_add]
    exact giveUp_probed noRun
  | exhausted all =>
    rw [follow, ← all]
    refine giveUp_probed fun stride _ found => ?_
    have sync := found.sync
    simp [settled, discard, barrenFront, all] at sync

/-! ### Probing with more data -/

theorem ahead_of_bare {other : Synchronizer} (same : sync.bare = other.bare) (future : Bytes) :
    sync.ahead future = other.ahead future :=
  congrArg (fun bare => { bare with buffer := bare.buffer ++ future }) same

theorem barrenFront_le (sync : Synchronizer) (future : Bytes) :
    sync.barrenFront ≤ (sync.ahead future).barrenFront := by
  have longer := barren_append sync.minRun sync.candidates sync.buffer future
  exact Nat.le.intro longer.symm

theorem discard_ahead (inside : count ≤ sync.buffer.length) (future : Bytes) :
    (sync.ahead future).discard count = (sync.discard count).ahead future := by
  simp only [ahead, bare, discard, List.drop_append_of_le_length inside]

theorem settled_ahead (same : (sync.ahead future).barrenFront = sync.barrenFront) :
    (sync.ahead future).settled = sync.settled.ahead future := by
  rw [settled, same]
  exact discard_ahead (barren_le _ _ _) future

/-- Strides tried before the one locked on have no run even with more data, unless they are
longer. -/
theorem lock_step {before after : List Nat} {stride : Nat}
    (unlocked : sync.locked = false) (order : sync.candidates = before ++ stride :: after)
    (found : HasRun sync.minRun stride sync.settled.buffer)
    (first : ∀ other ∈ before, ¬HasRun sync.minRun other sync.settled.buffer)
    (budget : sync.settled.skipped ≤ sync.maxResync) (future : Bytes) :
    Step (sync.ahead future) (some (.locked stride sync.settled.base))
      ((sync.settled.lockOn stride).ahead future) := by
  have member : stride ∈ sync.candidates := by simp [order]
  have same : (sync.ahead future).barrenFront = sync.barrenFront :=
    barren_of_hasRun member found future
  have settled := settled_ahead same
  have step : Step (sync.ahead future) (some (.locked stride (sync.ahead future).settled.base))
      ((sync.ahead future).settled.lockOn stride) := by
    refine .lock unlocked order ?_ ?_ ?_
    · rw [settled]
      exact found.append future
    · rw [settled]
      intro other earlier shorter run
      have filled : sync.settled.buffer ≠ [] := by
        intro empty
        have sync := found.sync
        rw [empty] at sync
        cases sync
      -- where the longer stride shows a whole run, so does the shorter one already
      apply first other earlier
      exact HasRun.of_append run filled
        (startsWithin_shorter found.shown (Nat.le_of_lt shorter) run.shown)
    · rw [settled]
      exact budget
  rwa [settled] at step

/-! ### One item -/

/-- What framing gives is what comes next out of the whole input. -/
def Advances (sync : Synchronizer) (future : Bytes) :
    Synchronizer × Except Error (Option SyncItem) → Prop
  | (next, .ok item) => ∀ {items last}, Trace (next.ahead future) items last →
      Trace (sync.ahead future) ((item.map SyncItem.unstamped).toList ++ items) last
  | (_, .error _) => Trace (sync.ahead future) [] none

theorem advances_of_step
    (step : Step (sync.ahead future) (some item.unstamped) (next.ahead future)) :
    sync.Advances future (next, .ok (some item)) := by
  intro items last later
  exact .step step later

theorem Advances.before {result : Synchronizer × Except Error (Option SyncItem)}
    (advances : next.Advances future result)
    (step : Step (sync.ahead future) none (next.ahead future)) :
    sync.Advances future result := by
  obtain ⟨next, error | item⟩ := result
  · have trace := Trace.step step advances
    exact trace
  · intro items last later
    have trace := Trace.step step (advances later)
    exact trace

theorem tryLock_advances (unended : sync.ended = false) (unlocked : sync.locked = false)
    (future : Bytes) : sync.Advances future sync.tryLock := by
  have inside : sync.barrenFront ≤ sync.buffer.length := barren_le _ _ _
  have more := barrenFront_le sync future
  have probed := tryLock_probed unended
  generalize sync.tryLock = result at probed
  cases probed with
  | locks order found first budget locked =>
    apply advances_of_step
    rw [ahead_of_bare locked]
    exact lock_step unlocked order found first budget future
  | seeks noRun budget =>
    intro items last later
    refine .of_discard unlocked more ?_
    rw [discard_ahead inside]
    exact later
  | fails error spent =>
    refine .fails unlocked (Nat.lt_of_lt_of_le spent ?_)
    exact Nat.add_le_add_left more sync.skipped

theorem nextItem_advances (unended : sync.ended = false) (future : Bytes) :
    sync.Advances future sync.nextItem := by
  fun_induction nextItem sync with
  | case1 sync locked stride ready start packet parsed =>
    have step := (takes_of_hasUnit unended ready future).packet locked start parsed
    apply advances_of_step
    exact step
  | case2 sync locked stride ready start fault refused ih =>
    apply (ih unended).before
    exact (takes_of_hasUnit unended ready future).skip locked start refused
  | case3 sync locked stride ready noStart =>
    apply advances_of_step
    exact (takes_of_hasUnit unended ready future).lose locked (eq_false_of_ne_true noStart)
  | case4 sync locked stride notReady => exact id
  | case5 sync unlocked => exact tryLock_advances unended (by simpa using unlocked) future

/-- Framing that asks for more has nothing left to give. -/
def Waiting (sync : Synchronizer) : Prop := Trace sync.bare [] (some sync.bare)

theorem nextItem_waiting (unended : sync.ended = false)
    (result : sync.nextItem = (next, .ok none)) : next.Waiting := by
  fun_induction nextItem sync with
  | case1 => cases result
  | case2 sync locked stride ready start fault refused ih => exact ih unended result
  | case3 => cases result
  | case4 sync locked stride notReady =>
    cases result
    have short : next.hasUnit next.unitSize = false := eq_false_of_ne_true notReady
    exact .waits locked short
  | case5 sync unlocked =>
    have probed := tryLock_probed unended
    rw [result] at probed
    cases probed with
    | seeks noRun budget =>
      have same : sync.settled.bare.settled = sync.settled.bare :=
        congrArg bare (settled_discard (Nat.le_refl sync.barrenFront))
      have still : sync.settled.bare.locked = false := eq_false_of_ne_true unlocked
      have trace : Trace sync.settled.bare [] (some sync.settled.bare.settled) :=
        .seeks still (by rw [same]; exact noRun) (by rw [same]; exact budget)
      rwa [same] at trace

/-! ### Counters and stamps -/

/-- Framing with other counters, and with another stamp read ahead. -/
def recount (sync : Synchronizer) (arrival : Option Nat) (received resyncs invalid : Nat) :
    Synchronizer :=
  { sync with pendingArrival := arrival, received, resyncs, invalid }

/-- What is left of a step without counters and stamps. -/
def bareResult (result : Synchronizer × Except Error (Option SyncItem)) :
    Synchronizer × Except Error (Option SyncItem) :=
  (result.1.bare, result.2.map (Option.map SyncItem.unstamped))

theorem bareResult_lock (sync : Synchronizer) (position stride : Nat) :
    bareResult (sync.lock position stride) =
      match (sync.discard position).checkBudget with
      | .error error => ((sync.discard position).bare, .error error)
      | .ok () => (((sync.discard position).lockOn stride).bare,
          .ok (some (.locked stride (sync.discard position).base))) := by
  unfold lock
  dsimp only
  generalize sync.stampBefore position stride = arrival
  have same : ({ sync with pendingArrival := arrival }.discard position).checkBudget =
      (sync.discard position).checkBudget := rfl
  rw [same]
  cases (sync.discard position).checkBudget <;> rfl

theorem bareResult_follow (sync : Synchronizer) (arrival : Option Nat)
    (received resyncs invalid : Nat) (found : Search) :
    bareResult ((sync.recount arrival received resyncs invalid).follow found) =
      bareResult (sync.follow found) := by
  cases found with
  | aligned position stride =>
    simp only [follow, bareResult_lock]
    rfl
  | undecided position => rfl
  | exhausted => rfl

theorem bareResult_nextItem (sync : Synchronizer) (arrival : Option Nat)
    (received resyncs invalid : Nat) :
    bareResult (sync.recount arrival received resyncs invalid).nextItem =
      bareResult sync.nextItem := by
  fun_induction nextItem sync generalizing arrival received resyncs invalid with
  | case1 sync locked stride ready start packet parsed =>
    rw [nextItem_packet (sync.recount arrival received resyncs invalid) locked ready start parsed]
    rfl
  | case2 sync locked stride ready start fault refused ih =>
    rw [nextItem_skip (sync.recount arrival received resyncs invalid) locked ready start refused]
    exact ih _ _ _ _
  | case3 sync locked stride ready noStart =>
    rw [nextItem_lose (sync.recount arrival received resyncs invalid) locked ready noStart]
    rfl
  | case4 sync locked stride notReady =>
    rw [nextItem_short (sync.recount arrival received resyncs invalid) locked notReady]
    rfl
  | case5 sync unlocked =>
    rw [nextItem_unlocked (sync.recount arrival received resyncs invalid) unlocked]
    rw [tryLock_eq, tryLock_eq]
    exact bareResult_follow sync arrival received resyncs invalid _

theorem eq_recount (same : sync.bare = other.bare) :
    other = sync.recount other.pendingArrival other.received other.resyncs other.invalid := by
  cases sync
  cases other
  simp only [bare, Synchronizer.mk.injEq] at same
  simp [recount, same]

theorem bareResult_agree (same : sync.bare = other.bare) :
    bareResult sync.nextItem = bareResult other.nextItem := by
  rw [eq_recount same]
  exact (bareResult_nextItem sync _ _ _ _).symm

/-- What is left of a run of framing without counters and stamps. -/
def bareRun (run : Synchronizer × List SyncItem × Option Error) :
    Synchronizer × List SyncItem × Option Error :=
  (run.1.bare, run.2.1.map SyncItem.unstamped, run.2.2)

theorem bareRun_drain (same : sync.bare = other.bare) :
    bareRun sync.drain = bareRun other.drain := by
  fun_induction drain sync generalizing other with
  | case1 sync next error step =>
    have agree := bareResult_agree same
    rw [step] at agree
    rw [drain_eq other]
    generalize other.nextItem = otherResult at agree
    obtain ⟨otherNext, otherError | otherItem⟩ := otherResult
    · simp only [bareResult, Except.map, Prod.mk.injEq, Except.error.injEq] at agree
      obtain ⟨left, rfl⟩ := agree
      simp only [bareRun, left]
    · simp [bareResult, Except.map] at agree
  | case2 sync next step =>
    have agree := bareResult_agree same
    rw [step] at agree
    rw [drain_eq other]
    generalize other.nextItem = otherResult at agree
    obtain ⟨otherNext, otherError | _ | otherItem⟩ := otherResult
    · simp [bareResult, Except.map] at agree
    · simp only [bareResult, Except.map, Prod.mk.injEq] at agree
      simp only [bareRun, agree.1]
    · simp [bareResult, Except.map] at agree
  | case3 sync next item step last items error result ih =>
    have agree := bareResult_agree same
    rw [step] at agree
    rw [drain_eq other]
    generalize other.nextItem = otherResult at agree
    obtain ⟨otherNext, otherError | _ | otherItem⟩ := otherResult
    · simp [bareResult, Except.map] at agree
    · simp [bareResult, Except.map] at agree
    · simp only [bareResult, Except.map, Prod.mk.injEq, Except.ok.injEq, Option.map_some,
        Option.some.injEq] at agree
      have later := ih agree.1
      rw [result] at later
      simp only [bareRun, Prod.mk.injEq] at later
      simp only [bareRun, List.map_cons, agree.2, later]

/-! ### Pieces -/

theorem tryLock_input (sync : Synchronizer) :
    sync.tryLock.1.ended = sync.ended ∧ sync.tryLock.1.received = sync.received := by
  rw [tryLock_eq]
  generalize search sync.minRun sync.ended sync.candidates sync.buffer.length 0 sync.buffer = found
  cases found with
  | aligned position stride =>
    unfold follow lock
    dsimp only
    split <;> exact ⟨rfl, rfl⟩
  | undecided position => exact ⟨rfl, rfl⟩
  | exhausted => exact ⟨rfl, rfl⟩

/-- Framing leaves alone what it was told of its input. -/
theorem nextItem_input (sync : Synchronizer) :
    sync.nextItem.1.ended = sync.ended ∧ sync.nextItem.1.received = sync.received := by
  fun_induction nextItem sync with
  | case1 sync locked stride ready start packet parsed => exact ⟨rfl, rfl⟩
  | case2 sync locked stride ready start fault refused ih => exact ih
  | case3 sync locked stride ready noStart => exact ⟨rfl, rfl⟩
  | case4 sync locked stride notReady => exact ⟨rfl, rfl⟩
  | case5 sync unlocked => exact tryLock_input sync

theorem drain_input (sync : Synchronizer) :
    sync.drain.1.ended = sync.ended ∧ sync.drain.1.received = sync.received := by
  fun_induction drain sync with
  | case1 sync next error step =>
    have input := nextItem_input sync
    rwa [step] at input
  | case2 sync next step =>
    have input := nextItem_input sync
    rwa [step] at input
  | case3 sync next item step last items error result ih =>
    have input := nextItem_input sync
    rw [step] at input
    rw [result] at ih
    exact ⟨ih.1.trans input.1, ih.2.trans input.2⟩

/-- A run of framing gives what comes first out of a buffer, and leaves the rest. -/
def Gives (start : Synchronizer) (future : Bytes) :
    Synchronizer × List SyncItem × Option Error → Prop
  | (next, items, none) => ∀ {later last}, Trace (next.ahead future) later last →
      Trace start (items.map SyncItem.unstamped ++ later) last
  | (_, items, some _) => Trace start (items.map SyncItem.unstamped) none

theorem drain_gives (unended : sync.ended = false) (future : Bytes) :
    (sync.ahead future).Gives future sync.drain := by
  fun_induction drain sync with
  | case1 sync next error step =>
    have advances := nextItem_advances unended future
    rw [step] at advances
    exact advances
  | case2 sync next step =>
    have advances := nextItem_advances unended future
    rw [step] at advances
    intro later last trace
    exact advances trace
  | case3 sync next item step last items error result ih =>
    have advances := nextItem_advances unended future
    have input := nextItem_input sync
    rw [step] at advances input
    have gives := ih (input.1.trans unended)
    rw [result] at gives
    cases error with
    | none =>
      intro later final trace
      exact advances (gives trace)
    | some error => exact advances gives

theorem drain_waiting (unended : sync.ended = false) (success : sync.drain.2.2 = none) :
    sync.drain.1.Waiting := by
  fun_induction drain sync with
  | case1 sync next error step => cases success
  | case2 sync next step => exact nextItem_waiting unended step
  | case3 sync next item step last items error result ih =>
    have input := nextItem_input sync
    rw [step] at input
    rw [result] at ih
    exact ih (input.1.trans unended) success

/-- Framing of input that comes in pieces, up to the first failure. -/
def pushAll (sync : Synchronizer) : List Bytes → Synchronizer × List SyncItem × Option Error
  | [] => (sync, [], none)
  | chunk :: chunks =>
    match (sync.push chunk).drain with
    | (next, items, some error) => (next, items, some error)
    | (next, items, none) =>
      let (last, others, error) := next.pushAll chunks
      (last, items ++ others, error)

/-- Framing of a whole input that comes in pieces, up to the first failure. -/
def play (sync : Synchronizer) (chunks : List Bytes) :
    Synchronizer × List SyncItem × Option Error :=
  match sync.pushAll chunks with
  | (next, items, some error) => (next, items, some error)
  | (next, items, none) =>
    let (last, others, error) := next.finish.drain
    (last, items ++ others, error)

/-- Where a run of framing stands, unless it failed. -/
def standing : Synchronizer × List SyncItem × Option Error → Option Synchronizer
  | (next, _, none) => some next.bare
  | (_, _, some _) => none

theorem ahead_push (sync : Synchronizer) (chunk future : Bytes) :
    (sync.push chunk).ahead future = sync.ahead (chunk ++ future) := by
  simp only [ahead, push, bare, List.append_assoc]

theorem pushAll_trace {chunks : List Bytes} (unended : sync.ended = false)
    (ready : sync.Waiting ∨ chunks ≠ []) :
    Trace (sync.ahead chunks.flatten) ((sync.pushAll chunks).2.1.map SyncItem.unstamped)
      (standing (sync.pushAll chunks)) := by
  fun_induction pushAll sync chunks with
  | case1 sync =>
    have waiting := ready.resolve_right (by simp)
    have same : sync.ahead [] = sync.bare := by simp only [ahead, List.append_nil]
    rw [List.flatten_nil, same]
    exact waiting
  | case2 sync chunk chunks next items error drained =>
    have gives := @drain_gives (sync.push chunk) unended chunks.flatten
    rw [drained, ahead_push] at gives
    exact gives
  | case3 sync chunk chunks next items drained last others error result ih =>
    have gives := @drain_gives (sync.push chunk) unended chunks.flatten
    have input := drain_input (sync.push chunk)
    have waiting := @drain_waiting (sync.push chunk) unended
    rw [drained] at gives input waiting
    rw [ahead_push] at gives
    have trace := gives (ih (input.1.trans unended) (.inl (waiting rfl)))
    rw [result] at trace
    simp only [List.map_append]
    cases error <;> exact trace

theorem play_of_success {chunks : List Bytes}
    (success : (sync.pushAll chunks).2.2 = none) :
    sync.play chunks =
      ((sync.pushAll chunks).1.finish.drain.1,
        (sync.pushAll chunks).2.1 ++ (sync.pushAll chunks).1.finish.drain.2.1,
        (sync.pushAll chunks).1.finish.drain.2.2) := by
  unfold play
  split
  · rename_i failed
    simp [failed] at success
  · rename_i pushed
    rw [pushed]

/-- The end of input adds to what came before. -/
theorem play_extends (sync : Synchronizer) (chunks : List Bytes) :
    ∃ more, (sync.play chunks).2.1 = (sync.pushAll chunks).2.1 ++ more := by
  unfold play
  split
  · rename_i pushed
    exact ⟨[], by rw [pushed, List.append_nil]⟩
  · rename_i pushed
    exact ⟨_, by rw [pushed]⟩

/-- Two runs that gave the same and stand at the same place end alike. -/
theorem play_agree {chunks others : List Bytes}
    (sameItems : (sync.pushAll chunks).2.1.map SyncItem.unstamped =
      (other.pushAll others).2.1.map SyncItem.unstamped)
    (sameStanding : standing (sync.pushAll chunks) = standing (other.pushAll others)) :
    (sync.play chunks).2.1.map SyncItem.unstamped =
        (other.play others).2.1.map SyncItem.unstamped ∧
      (sync.play chunks).2.2.isSome = (other.play others).2.2.isSome := by
  unfold play
  generalize sync.pushAll chunks = run at sameItems sameStanding
  generalize other.pushAll others = otherRun at sameItems sameStanding
  obtain ⟨next, items, _ | error⟩ := run <;>
    obtain ⟨otherNext, others, _ | otherError⟩ := otherRun
  · simp only [standing, Option.some.injEq] at sameStanding
    have finished : next.finish.bare = otherNext.finish.bare :=
      congrArg Synchronizer.finish sameStanding
    have drained := bareRun_drain finished
    simp only [bareRun, Prod.mk.injEq] at drained
    exact ⟨by simp only [List.map_append, sameItems, drained],
      congrArg Option.isSome drained.2.2⟩
  · cases sameStanding
  · cases sameStanding
  · exact ⟨sameItems, rfl⟩

/-- Two ways to cut an input give the same items, and both fail or none does, unless they part
at a lock: one goes on with the stride of the last lock, and the other with a shorter one that
also has a run there. -/
theorem play_agrees_or_parts {chunks others : List Bytes} (unended : sync.ended = false)
    (same : chunks.flatten = others.flatten)
    (ready : sync.nextItem = (sync, .ok none) ∨ chunks ≠ [] ∧ others ≠ []) :
    ((sync.play chunks).2.1.map SyncItem.unstamped =
          (sync.play others).2.1.map SyncItem.unstamped ∧
        (sync.play chunks).2.2.isSome = (sync.play others).2.2.isSome) ∨
      Part (sync.ahead chunks.flatten) ((sync.play chunks).2.1.map SyncItem.unstamped)
        ((sync.play others).2.1.map SyncItem.unstamped) := by
  have waiting := ready.imp_left (nextItem_waiting unended)
  have trace := pushAll_trace unended (waiting.imp_right And.left)
  have otherTrace := pushAll_trace unended (waiting.imp_right And.right)
  rw [← same] at otherTrace
  rcases trace.agree otherTrace with ⟨items, standing⟩ | part
  · exact .inl (play_agree items standing)
  · obtain ⟨more, extended⟩ := play_extends sync chunks
    obtain ⟨otherMore, otherExtended⟩ := play_extends sync others
    rw [extended, otherExtended, List.map_append, List.map_append]
    exact .inr (part.append _ _)

/-- Packet starts at a stride of 208 bytes, and after a loss at strides of 188 and 208. -/
private def twoStrides : Bytes :=
  let start : Bytes := [0x47, 0x01, 0x00, 0x10]
  start ++ List.replicate 204 0 ++ start ++ List.replicate 205 0 ++ start ++
    List.replicate 184 0 ++ start ++ List.replicate 16 0 ++ start

/-- Framing that is free to find its stride. -/
private def freeSync : Synchronizer := .ofOptions { minSyncRun := 2 }

/-- While the known stride needs more data, a shorter one is locked on. -/
theorem lateData_parts :
    Part (freeSync.ahead [twoStrides].flatten)
      ((freeSync.play [twoStrides]).2.1.map SyncItem.unstamped)
      ((freeSync.play [twoStrides.take 624, twoStrides.drop 624]).2.1.map SyncItem.unstamped) :=
  (play_agrees_or_parts rfl (by decide +kernel) (.inr ⟨by simp, by simp⟩)).resolve_left
    (by decide +kernel)

/-- So the same bytes give other items when the last of them come later. -/
theorem lateData_other_items :
    2 ≤ freeSync.minRun ∧ freeSync.forced = none ∧
      [twoStrides].flatten = [twoStrides.take 624, twoStrides.drop 624].flatten ∧
      (freeSync.play [twoStrides]).2.1.map SyncItem.unstamped ≠
        (freeSync.play [twoStrides.take 624, twoStrides.drop 624]).2.1.map
          SyncItem.unstamped := by
  decide +kernel

end Synchronizer

end TransportStream
