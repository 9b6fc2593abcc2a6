import TransportStream.Proofs.FramingPieces
import TransportStream.Proofs.FramingPlaces
import TransportStream.Proofs.PacketBounds

/-!
Framing on a buffer that is read by index. Places are sums of strides, lengths are differences,
what leaves the buffer is cut off at a place, and both the search for a frame and the reading of
units have a limited number of rounds. As long as every stride has a length, no byte is asked for
that is not there, no difference is negative, and the rounds suffice.
-/
namespace TransportStream

namespace Synchronizer

/-! ### Reading the buffer -/

/-- A quotient, if it is not by zero. -/
def quotient? (whole part : Nat) : Option Nat := if part = 0 then none else some (whole / part)

/-- Whether a packet can start at a place. The control field is read only behind a sync byte. -/
def startAt? (buffer : Bytes) (place : Nat) : Option Bool := do
  let first ← buffer[place]?
  if first = syncByte then
    let control ← buffer[place + 3]?
    some (control.toNat / 16 % 4 != 0)
  else some false

/-- Whether `run` packets can start at a place and on, one every `stride` bytes. Behind the first
that cannot, nothing is read. -/
def runAt? (buffer : Bytes) (stride : Nat) : Nat → Nat → Option Bool
  | 0, _ => some true
  | run + 1, place => do
    if ← startAt? buffer place then runAt? buffer stride run (place + stride)
    else some false

/-- How many packet starts `available` bytes show at a stride. -/
def startsWithin? (available stride : Nat) : Option Nat :=
  if available < 4 then some 0
  else do
    let room ← difference? available 4
    let behind ← quotient? room stride
    some (behind + 1)

/-- Whether packets at a stride start at a place of the buffer; the inner `none` asks for more
data. -/
def judgeAt? (sync : Synchronizer) (place stride : Nat) : Option (Option Bool) := do
  let available ← difference? sync.buffer.length place
  let starts ← startsWithin? available stride
  if sync.minRun ≤ starts then some <$> runAt? sync.buffer stride sync.minRun place
  else if sync.ended = true ∧ 1 ≤ starts ∧ packetSize ≤ available then
    some <$> runAt? sync.buffer stride starts place
  else some (if sync.ended then some false else none)

/-- Tries strides in order. -/
def judge? (test : Nat → Option (Option Bool)) : List Nat → Option Verdict
  | [] => some .unaligned
  | stride :: others => do
    match ← test stride with
    | some true => some (.aligned stride)
    | some false => judge? test others
    | none =>
      match ← judge? test others with
      | .aligned other => some (.aligned other)
      | .undecided | .unaligned => some .undecided

/-- Searches the buffer from a place on, in no more than the given number of rounds. -/
def search? (sync : Synchronizer) : Nat → Nat → Option Search
  | 0, _ => none
  | rounds + 1, place =>
    if place < sync.buffer.length then do
      let first ← sync.buffer[place]?
      if first = syncByte then
        match ← judge? (sync.judgeAt? place) sync.candidates with
        | .aligned stride => some (.aligned place stride)
        | .undecided => some (.undecided place)
        | .unaligned => sync.search? rounds (place + 1)
      else sync.search? rounds (place + 1)
    else some .exhausted

/-! ### Leaving bytes behind -/

/-- Drops bytes that the buffer must hold. -/
def discard? (sync : Synchronizer) (count : Nat) : Option Synchronizer := do
  let rest ← slice? sync.buffer count sync.buffer.length
  some { sync with buffer := rest, base := sync.base + count, skipped := sync.skipped + count }

/-- The arrival stamp in the first four of some bytes. -/
def arrivalStamp? (stamp : Bytes) : Option Nat := do
  let first ← stamp[0]?
  let second ← stamp[1]?
  let third ← stamp[2]?
  let fourth ← stamp[3]?
  some (arrivalStamp [first, second, third, fourth])

/-- The arrival stamp right before a place. -/
def stampBefore? (sync : Synchronizer) (place stride : Nat) : Option (Option Nat) :=
  if stride = stampedStride ∧ stampSize ≤ place then do
    let first ← difference? place stampSize
    let stamp ← slice? sync.buffer first place
    some <$> arrivalStamp? stamp
  else some none

/-- Locks on a stride at a place. -/
def lock? (sync : Synchronizer) (place stride : Nat) :
    Option (Synchronizer × Except Error (Option SyncItem)) := do
  let stamp ← sync.stampBefore? place stride
  let sync ← { sync with pendingArrival := stamp }.discard? place
  match sync.checkBudget with
  | .error error => some (sync, .error error)
  | .ok () =>
    some ({ sync with stride := some stride, locked := true, everLocked := true, skipped := 0 },
      .ok (some (.locked stride sync.base)))

/-- Drops bytes in which no packet can start. -/
def giveUp? (sync : Synchronizer) (count : Nat) :
    Option (Synchronizer × Except Error (Option SyncItem)) := do
  let sync ← sync.discard? count
  some (sync, sync.checkBudget.map fun _ => none)

/-- Searches the buffer for a lock. A round for each byte and one more are enough. -/
def tryLock? (sync : Synchronizer) :
    Option (Synchronizer × Except Error (Option SyncItem)) := do
  match ← sync.search? (sync.buffer.length + 1) 0 with
  | .aligned place stride => sync.lock? place stride
  | .undecided place => sync.giveUp? place
  | .exhausted => sync.giveUp? sync.buffer.length

/-- Gives up the frame at a byte where no packet starts. -/
def lose? (sync : Synchronizer) : Option (Synchronizer × Except Error (Option SyncItem)) := do
  let lost := { sync with locked := false, resyncs := sync.resyncs + 1, pendingArrival := none }
  let next ← lost.discard? 1
  some (next, .ok (some (.lost sync.base)))

/-- Takes one unit off the buffer, and reads the stamp behind its packet. The second result is the
unit. -/
def takeUnit? (sync : Synchronizer) (stride : Nat) : Option (Synchronizer × Bytes) := do
  let size := min stride sync.buffer.length
  let unit ← slice? sync.buffer 0 size
  let rest ← slice? sync.buffer size sync.buffer.length
  let stamp ←
    if stride = stampedStride ∧ unit.length = stampedStride then do
      let behind ← slice? unit packetSize unit.length
      some <$> arrivalStamp? behind
    else some none
  some ({ sync with buffer := rest, base := sync.base + size, pendingArrival := stamp }, unit)

/-- The next item of the stream, in no more than the given number of rounds. -/
def nextItem? : Nat → Synchronizer → Option (Synchronizer × Except Error (Option SyncItem))
  | 0, _ => none
  | rounds + 1, sync =>
    if sync.locked then
      if sync.buffer.length < packetSize ∨
          sync.ended = false ∧ sync.buffer.length < sync.unitSize then
        some (sync, .ok none)
      else do
        if ← startAt? sync.buffer 0 then
          let (next, unit) ← sync.takeUnit? sync.unitSize
          match ← (TransportPacket.read unit sync.base).run with
          | .ok packet =>
            some (next, .ok (some (.packet { packet with arrival := sync.pendingArrival })))
          | .error _ => nextItem? rounds { next with invalid := next.invalid + 1 }
        else sync.lose?
    else sync.tryLock?

variable {sync : Synchronizer} {buffer : Bytes} {place stride run rounds count : Nat}

/-! ### The buffer is read within its bounds -/

theorem quotient?_eq {whole part : Nat} (positive : 0 < part) :
    quotient? whole part = some (whole / part) := if_neg (Nat.ne_of_gt positive)

theorem startAt?_eq (inside : place + 4 ≤ buffer.length) :
    startAt? buffer place = some (plausibleStart (buffer.drop place)) := by
  have first : buffer[place]? = (buffer.drop place)[0]? := by rw [List.getElem?_drop, Nat.add_zero]
  have control : buffer[place + 3]? = (buffer.drop place)[3]? := by rw [List.getElem?_drop]
  have four : 4 ≤ (buffer.drop place).length := by
    rw [List.length_drop]
    omega
  rw [startAt?, first, control]
  match buffer.drop place, four with
  | first :: _ :: _ :: control :: _, _ =>
    by_cases sync : first = syncByte <;> simp [plausibleStart, sync]

/-- All starts of a run are there, and so is each of their control fields. -/
theorem runAt?_eq (shown : run ≤ startsWithin (buffer.length - place) stride) :
    runAt? buffer stride run place = some (plausibleRun stride run (buffer.drop place)) := by
  induction run generalizing place with
  | zero => rfl
  | succ run ih =>
    have four := startsWithin_four (Nat.le_of_add_left_le shown)
    rw [runAt?, plausibleRun, startAt?_eq (by omega), Option.bind_eq_bind, Option.bind_some]
    cases plausibleStart (buffer.drop place) with
    | false => rfl
    | true =>
      rw [if_pos rfl, Bool.true_and, List.drop_drop]
      cases run with
      | zero => rfl
      | succ run =>
        obtain ⟨_, behind⟩ := startsWithin_succ shown
        exact ih (by rwa [← Nat.sub_sub])

theorem startsWithin?_eq (available : Nat) (positive : 0 < stride) :
    startsWithin? available stride = some (startsWithin available stride) := by
  unfold startsWithin? startsWithin
  split
  · rfl
  · rename_i room
    rw [difference?_eq (Nat.not_lt.mp room), Option.bind_eq_bind, Option.bind_some,
      quotient?_eq positive]
    rfl

theorem judgeAt?_eq (within : place ≤ sync.buffer.length) (positive : 0 < stride) :
    sync.judgeAt? place stride =
      some (alignedAt? sync.minRun sync.ended (sync.buffer.length - place) stride
        (sync.buffer.drop place)) := by
  simp only [judgeAt?, difference?_eq within, startsWithin?_eq _ positive, Option.bind_eq_bind,
    Option.bind_some, alignedAt?]
  by_cases shown : sync.minRun ≤ startsWithin (sync.buffer.length - place) stride
  · rw [if_pos shown, if_pos shown, runAt?_eq shown]
    rfl
  · rw [if_neg shown, if_neg shown]
    cases sync.ended with
    | false => simp
    | true =>
      by_cases whole : 1 ≤ startsWithin (sync.buffer.length - place) stride ∧
          packetSize ≤ sync.buffer.length - place
      · rw [if_pos ⟨rfl, whole⟩, if_pos rfl, runAt?_eq (Nat.le_refl _), decide_eq_true whole]
        rfl
      · rw [if_neg fun short => whole short.2, if_pos rfl, if_pos rfl, decide_eq_false whole]
        rfl

theorem judge?_eq {strides : List Nat} {test? : Nat → Option (Option Bool)}
    {test : Nat → Option Bool} (tests : ∀ stride ∈ strides, test? stride = some (test stride)) :
    judge? test? strides = some (judge test strides) := by
  induction strides with
  | nil => rfl
  | cons first others ih =>
    have rest := ih fun stride member => tests stride (List.mem_cons_of_mem _ member)
    rw [judge?, judge, tests first List.mem_cons_self, Option.bind_eq_bind, Option.bind_some]
    cases test first with
    | none =>
      simp only [rest]
      cases judge test others <;> rfl
    | some aligned =>
      cases aligned with
      | true => rfl
      | false => exact rest

/-- The search ends: every round but the last goes on by a byte. -/
theorem search?_eq (positive : ∀ stride ∈ sync.candidates, 0 < stride)
    (within : place ≤ sync.buffer.length) (enough : sync.buffer.length - place < rounds) :
    sync.search? rounds place =
      some (search sync.minRun sync.ended sync.candidates sync.buffer.length place
        (sync.buffer.drop place)) := by
  induction rounds generalizing place with
  | zero => exact absurd enough (Nat.not_lt_zero _)
  | succ rounds ih =>
    unfold search?
    by_cases inside : place < sync.buffer.length
    · have later := ih inside (by omega)
      have judged := @judge?_eq sync.candidates _ _ fun stride member =>
        judgeAt?_eq within (positive stride member)
      rw [if_pos inside, List.getElem?_eq_getElem inside, Option.bind_eq_bind, Option.bind_some]
      rw [List.drop_eq_getElem_cons inside] at judged ⊢
      rw [search]
      split
      · rw [judged, Option.bind_eq_bind, Option.bind_some]
        dsimp only
        cases judge _ sync.candidates with
        | aligned stride => rfl
        | undecided => rfl
        | unaligned => exact later
      · exact later
    · rw [if_neg inside, List.drop_eq_nil_of_le (Nat.not_lt.mp inside)]
      rfl

/-! ### What leaves the buffer was there -/

theorem discard?_eq (within : count ≤ sync.buffer.length) :
    sync.discard? count = some (sync.discard count) := by
  rw [discard?, slice?_drop within]
  rfl

theorem arrivalStamp?_eq {stamp : Bytes} (whole : stamp.length = stampSize) :
    arrivalStamp? stamp = some (arrivalStamp stamp) := by
  match stamp, whole with
  | [_, _, _, _], _ => rfl

theorem stampBefore?_eq (within : place ≤ sync.buffer.length) (stride : Nat) :
    sync.stampBefore? place stride = some (sync.stampBefore place stride) := by
  unfold stampBefore? stampBefore
  split
  · rename_i stamped
    have front : place - stampSize ≤ place := Nat.sub_le ..
    have size : place - (place - stampSize) = stampSize := Nat.sub_sub_self stamped.2
    have whole : ((sync.buffer.drop (place - stampSize)).take stampSize).length = stampSize := by
      rw [List.length_take, List.length_drop]
      omega
    rw [difference?_eq stamped.2, Option.bind_eq_bind, Option.bind_some,
      slice?_eq front within, size, Option.bind_eq_bind, Option.bind_some, arrivalStamp?_eq whole]
    rfl
  · rfl

theorem lock?_eq (within : place ≤ sync.buffer.length) (stride : Nat) :
    sync.lock? place stride = some (sync.lock place stride) := by
  have dropped : ({ sync with pendingArrival := sync.stampBefore place stride } :
      Synchronizer).discard? place = some
        ({ sync with pendingArrival := sync.stampBefore place stride }.discard place) :=
    discard?_eq within
  simp only [lock?, stampBefore?_eq within, dropped, Option.bind_eq_bind, Option.bind_some, lock]
  generalize ({ sync with pendingArrival := sync.stampBefore place stride } :
    Synchronizer).discard place = behind
  cases behind.checkBudget <;> rfl

theorem giveUp?_eq (within : count ≤ sync.buffer.length) :
    sync.giveUp? count = some (sync.giveUp count) := by
  rw [giveUp?, discard?_eq within]
  rfl

theorem tryLock?_eq (positive : ∀ stride ∈ sync.candidates, 0 < stride) :
    sync.tryLock? = some sync.tryLock := by
  have within := search_within sync.minRun sync.ended sync.candidates sync.buffer.length 0
    sync.buffer
  rw [Nat.zero_add] at within
  rw [tryLock?, search?_eq positive (Nat.zero_le _) (Nat.lt_succ_of_le (Nat.sub_le ..)),
    List.drop_zero, tryLock_eq, Option.bind_eq_bind, Option.bind_some]
  generalize search sync.minRun sync.ended sync.candidates sync.buffer.length 0 sync.buffer = found
    at within
  cases found with
  | aligned place stride => exact lock?_eq within stride
  | undecided place => exact giveUp?_eq within
  | exhausted => exact giveUp?_eq (Nat.le_refl _)

theorem lose?_eq (filled : 1 ≤ sync.buffer.length) : sync.lose? = some sync.lose := by
  have dropped : ({ sync with
      locked := false, resyncs := sync.resyncs + 1, pendingArrival := none } :
      Synchronizer).discard? 1 = some sync.lose.1 := discard?_eq filled
  rw [lose?]
  simp only [dropped]
  rfl

theorem takeUnit?_eq (sync : Synchronizer) (stride : Nat) :
    sync.takeUnit? stride = some (sync.takeUnit stride, sync.buffer.take stride) := by
  have within : min stride sync.buffer.length ≤ sync.buffer.length := Nat.min_le_right ..
  have unit : slice? sync.buffer 0 (min stride sync.buffer.length) =
      some (sync.buffer.take stride) := by
    rw [slice?_eq (Nat.zero_le _) within, List.drop_zero, Nat.sub_zero, ← List.take_eq_take_min]
  have rest : slice? sync.buffer (min stride sync.buffer.length) sync.buffer.length =
      some (sync.buffer.drop stride) := by
    rw [slice?_drop within, ← (takeUnit_moves sync stride).1]
    rfl
  simp only [takeUnit?, takeUnit, unit, rest, Option.bind_eq_bind, Option.bind_some]
  by_cases stamped : stride = stampedStride ∧ (sync.buffer.take stride).length = stampedStride
  · have packet : packetSize ≤ (sync.buffer.take stride).length := by
      rw [stamped.2]
      decide
    have whole : ((sync.buffer.take stride).drop packetSize).length = stampSize := by
      rw [List.length_drop, stamped.2]
      rfl
    simp only [if_pos stamped, slice?_drop packet, arrivalStamp?_eq whole, Option.bind_some]
    simp
  · simp only [if_neg stamped]
    simp

/-! ### Items -/

/-- Whether the strides that framing tries and goes by have room for a packet. -/
structure Roomy (sync : Synchronizer) : Prop where
  forced : ∀ stride, sync.forced = some stride → packetSize ≤ stride
  known : ∀ stride, sync.stride = some stride → packetSize ≤ stride

theorem Roomy.candidates (roomy : sync.Roomy) :
    ∀ stride ∈ sync.candidates, packetSize ≤ stride := by
  have all : ∀ stride ∈ TransportStream.strides, packetSize ≤ stride := by decide
  unfold Synchronizer.candidates
  split
  · rename_i forced chosen
    simpa using roomy.forced forced chosen
  · split
    · exact all
    · rename_i known found
      intro stride member
      rcases List.mem_cons.mp member with rfl | other
      · exact roomy.known stride found
      · exact all stride (List.mem_filter.mp other).1

theorem Roomy.unitSize (roomy : sync.Roomy) : packetSize ≤ sync.unitSize := by
  unfold Synchronizer.unitSize
  cases found : sync.stride with
  | none => exact Nat.le_refl _
  | some stride => exact roomy.known stride found

theorem Roomy.takeUnit (roomy : sync.Roomy) (stride invalid : Nat) :
    Roomy { sync.takeUnit stride with invalid } := ⟨roomy.forced, roomy.known⟩

/-- Framing waits unless it has a unit. -/
theorem short_iff (positive : 0 < sync.unitSize) :
    (sync.buffer.length < packetSize ∨ sync.ended = false ∧ sync.buffer.length < sync.unitSize) ↔
      ¬sync.hasUnit sync.unitSize = true := by
  rw [hasUnit_spec]
  grind

/-- With a unit in the buffer, framing either loses the frame or takes the unit. -/
theorem nextItem?_ready (locked : sync.locked = true)
    (ready : sync.hasUnit sync.unitSize = true) :
    nextItem? (rounds + 1) sync =
      if plausibleStart sync.buffer then
        match TransportPacket.parse (sync.buffer.take sync.unitSize) sync.base with
        | .ok packet =>
          some (sync.takeUnit sync.unitSize,
            .ok (some (.packet { packet with arrival := sync.pendingArrival })))
        | .error _ =>
          nextItem? rounds { sync.takeUnit sync.unitSize with invalid := sync.invalid + 1 }
      else some sync.lose := by
  obtain ⟨positive, packet, _⟩ := (hasUnit_spec sync).mp ready
  have enough := fun short => (short_iff positive).mp short ready
  have start := @startAt?_eq sync.buffer 0 (Nat.le_trans (by decide) packet)
  rw [List.drop_zero] at start
  rw [nextItem?, if_pos locked, if_neg enough, start, Option.bind_eq_bind, Option.bind_some]
  by_cases starts : plausibleStart sync.buffer = true
  · rw [if_pos starts, if_pos starts, takeUnit?_eq, Option.bind_eq_bind, Option.bind_some]
    dsimp only
    rw [(TransportPacket.read_reads _ _).run, Option.bind_eq_bind, Option.bind_some]
    rfl
  · rw [if_neg starts, if_neg starts]
    exact lose?_eq (Nat.le_trans (by decide) packet)

/-- A call ends: every round but the last takes a unit. -/
theorem nextItem?_eq (roomy : sync.Roomy) (rounds : Nat) (enough : sync.buffer.length ≤ rounds) :
    nextItem? (rounds + 1) sync = some sync.nextItem := by
  fun_induction nextItem sync generalizing rounds with
  | case1 sync locked stride ready start packet parsed =>
    have parsed : TransportPacket.parse (sync.buffer.take sync.unitSize) sync.base = .ok packet :=
      parsed
    rw [nextItem?_ready locked ready, if_pos start, parsed]
    rfl
  | case2 sync locked stride ready start fault refused ih =>
    have refused : TransportPacket.parse (sync.buffer.take sync.unitSize) sync.base =
        .error fault := refused
    have shorter := takeUnit_shorter ready
    rw [nextItem?_ready locked ready, if_pos start, refused]
    cases rounds with
    | zero => omega
    | succ rounds =>
      have fewer : (sync.takeUnit stride).buffer.length ≤ rounds := by omega
      exact ih (roomy.takeUnit stride _) rounds fewer
  | case3 sync locked stride ready noStart =>
    rw [nextItem?_ready locked ready, if_neg noStart]
  | case4 sync locked stride notReady =>
    have positive : 0 < sync.unitSize := Nat.lt_of_lt_of_le (by decide) roomy.unitSize
    rw [nextItem?, if_pos locked, if_pos ((short_iff positive).mpr notReady)]
  | case5 sync unlocked =>
    rw [nextItem?, if_neg unlocked]
    exact tryLock?_eq fun stride member =>
      Nat.lt_of_lt_of_le (by decide) (roomy.candidates stride member)

end Synchronizer

end TransportStream
