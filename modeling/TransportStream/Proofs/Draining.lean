import TransportStream.Proofs.FirstLock
import TransportStream.Proofs.FramingBounds

/-!
Draining ends. A lock takes no byte and a loss only one, but a lock is never lost at once: what
comes next takes a whole packet, or waits for more data. So from a buffer come no more items than
two for each byte and one, and every call that brings one ends and stays within the buffer.
-/
namespace TransportStream

namespace Synchronizer

variable {sync next : Synchronizer} {item : SyncItem} {options : Options}
variable {minRun stride total position place : Nat} {strides : List Nat} {ended : Bool}
variable {data : Bytes}

/-! ### A lock is on a packet -/

/-- An alignment begins with a packet start, also the short one at the end of input. -/
theorem alignedAt?_start {available : Nat} (run : 0 < minRun)
    (aligned : alignedAt? minRun ended available stride data = some true) :
    plausibleStart data = true := by
  have starts {count : Nat} (positive : 0 < count)
      (packets : plausibleRun stride count data = true) : plausibleStart data = true := by
    obtain ⟨more, rfl⟩ := Nat.exists_eq_succ_of_ne_zero (Nat.ne_of_gt positive)
    exact (Bool.and_eq_true_iff.mp packets).1
  unfold alignedAt? at aligned
  dsimp only at aligned
  split at aligned
  · exact starts run (Option.some.inj aligned)
  · split at aligned
    · simp only [Option.some.injEq, Bool.and_eq_true, decide_eq_true_eq] at aligned
      exact starts aligned.1.1 aligned.2
    · cases aligned

/-- A search finds an alignment of a stride that it tries. -/
theorem search_aligned
    (found : search minRun ended strides total position data = .aligned place stride) :
    stride ∈ strides ∧ ∃ count, place = position + count ∧
      alignedAt? minRun ended (total - place) stride (data.drop count) = some true := by
  induction data generalizing position with
  | nil => cases found
  | cons first rest ih =>
    have later (found : search minRun ended strides total (position + 1) rest =
        .aligned place stride) : stride ∈ strides ∧ ∃ count, place = position + count ∧
          alignedAt? minRun ended (total - place) stride ((first :: rest).drop count) =
            some true := by
      obtain ⟨member, count, rfl, aligned⟩ := ih found
      exact ⟨member, count + 1, by omega, aligned⟩
    unfold search at found
    split at found
    · dsimp only at found
      split at found
      · rename_i judged
        cases found
        obtain ⟨aligned, before, after, order, _⟩ := judge_aligned judged
        exact ⟨by simp [order], 0, rfl, aligned⟩
      · cases found
      · exact later found
    · exact later found

/-- Behind a lock, a packet starts. -/
theorem tryLock_start (run : 0 < sync.minRun)
    (result : sync.tryLock = (next, .ok (some item))) :
    next.locked = true ∧ plausibleStart next.buffer = true := by
  obtain ⟨position, stride, found, locked⟩ := tryLock_item result
  obtain ⟨_, rfl⟩ := lock_item locked
  obtain ⟨_, count, rfl, aligned⟩ := search_aligned found
  rw [Nat.zero_add]
  exact ⟨rfl, alignedAt?_start run aligned⟩

/-- Behind a lock that framing gives, a packet starts. -/
theorem nextItem_start (run : 0 < sync.minRun)
    (result : sync.nextItem = (next, .ok (some (.locked stride place)))) :
    next.locked = true ∧ plausibleStart next.buffer = true := by
  fun_induction nextItem sync with
  | case1 => cases result
  | case2 sync locked stride ready start fault refused ih => exact ih run result
  | case3 => cases result
  | case4 => cases result
  | case5 sync unlocked =>
    -- Only a search gives a lock; whoever goes by one already gets packets or the loss of it.
    exact tryLock_start run result

/-- A unit is no shorter than a packet. -/
theorem Roomy.takeUnit_length (roomy : sync.Roomy) (ready : sync.hasUnit sync.unitSize = true) :
    (sync.takeUnit sync.unitSize).buffer.length + packetSize ≤ sync.buffer.length := by
  obtain ⟨_, packet, _⟩ := (hasUnit_spec sync).mp ready
  have room := roomy.unitSize
  simp only [Synchronizer.takeUnit, List.length_drop]
  omega

theorem Consumes.length_le (consumes : Consumes sync next) :
    next.buffer.length ≤ sync.buffer.length := by
  obtain ⟨gone, held, _⟩ := consumes
  rw [held, List.length_append]
  exact Nat.le_add_left ..

/-- Where a packet starts, the frame is not lost: framing waits, or goes behind a whole packet. -/
theorem Roomy.start_taken (roomy : sync.Roomy) (locked : sync.locked = true)
    (start : plausibleStart sync.buffer = true) :
    sync.nextItem.2 = .ok none ∨
      sync.nextItem.1.buffer.length + packetSize ≤ sync.buffer.length := by
  by_cases ready : sync.hasUnit sync.unitSize = true
  · right
    have taken := roomy.takeUnit_length ready
    cases read : TransportPacket.parse (sync.buffer.take sync.unitSize) sync.base with
    | ok packet =>
      rw [nextItem_packet sync locked ready start read]
      exact taken
    | error fault =>
      rw [nextItem_skip sync locked ready start read]
      exact Nat.le_trans (Nat.add_le_add_right (nextItem_consumes _).1.length_le _) taken
  · left
    rw [nextItem_short sync locked ready]

/-! ### Reachable states -/

/-- What framing comes to, whatever it is asked, in whatever order, and also behind an error. -/
inductive Reachable (options : Options) : Synchronizer → Prop where
  | start : Reachable options (ofOptions options)
  | push {sync : Synchronizer} (reached : Reachable options sync) (data : Bytes) :
      Reachable options (sync.push data)
  | next {sync : Synchronizer} (reached : Reachable options sync) :
      Reachable options sync.nextItem.1
  | finish {sync : Synchronizer} (reached : Reachable options sync) :
      Reachable options sync.finish
  | flush {sync : Synchronizer} (reached : Reachable options sync) (offset : Option Nat) :
      Reachable options (sync.flush offset)

/-- A search changes no setting. A stride that is new was tried. -/
theorem tryLock_settings (sync : Synchronizer) :
    sync.tryLock.1.forced = sync.forced ∧ sync.tryLock.1.minRun = sync.minRun ∧
      ∀ stride, sync.tryLock.1.stride = some stride →
        sync.stride = some stride ∨ stride ∈ sync.candidates := by
  rw [tryLock_eq]
  cases found : search sync.minRun sync.ended sync.candidates sync.buffer.length 0 sync.buffer with
  | aligned position stride =>
    unfold follow lock
    dsimp only
    split
    · exact ⟨rfl, rfl, fun _ => .inl⟩
    · refine ⟨rfl, rfl, ?_⟩
      rintro _ ⟨⟩
      exact .inr (search_aligned found).1
  | undecided position => exact ⟨rfl, rfl, fun _ => .inl⟩
  | exhausted => exact ⟨rfl, rfl, fun _ => .inl⟩

/-- No item changes a setting. A stride that is new was tried. -/
theorem nextItem_settings (sync : Synchronizer) :
    sync.nextItem.1.forced = sync.forced ∧ sync.nextItem.1.minRun = sync.minRun ∧
      ∀ stride, sync.nextItem.1.stride = some stride →
        sync.stride = some stride ∨ stride ∈ sync.candidates := by
  fun_induction nextItem sync with
  | case1 => exact ⟨rfl, rfl, fun _ => .inl⟩
  | case2 sync locked stride ready start fault refused ih => exact ih
  | case3 => exact ⟨rfl, rfl, fun _ => .inl⟩
  | case4 => exact ⟨rfl, rfl, fun _ => .inl⟩
  | case5 sync unlocked => exact tryLock_settings sync

/-- Options that are accepted force no stride without room for a packet. -/
theorem forcedStride_room (valid : options.validatePacketSize = .ok ()) :
    ∀ stride, options.forcedStride = some stride → packetSize ≤ stride := by
  have all : ∀ stride ∈ TransportStream.strides, packetSize ≤ stride := by decide
  exact fun stride forced => all stride (forcedStride_known valid forced)

theorem Roomy.step (roomy : sync.Roomy) : sync.nextItem.1.Roomy := by
  obtain ⟨forced, _, known⟩ := nextItem_settings sync
  refine ⟨fun stride chosen => roomy.forced stride (forced ▸ chosen), fun stride found => ?_⟩
  rcases known stride found with same | tried
  · exact roomy.known stride same
  · exact roomy.candidates stride tried

theorem Reachable.minRun_eq (reached : Reachable options sync) :
    sync.minRun = options.minSyncRun := by
  induction reached with
  | start => rfl
  | push _ data ih => exact ih
  | @next sync _ ih => rw [(nextItem_settings sync).2.1, ih]
  | finish _ ih => exact ih
  | flush _ offset ih => exact ih

theorem Reachable.roomy (reached : Reachable options sync)
    (room : ∀ stride, options.forcedStride = some stride → packetSize ≤ stride) : sync.Roomy := by
  induction reached with
  | start => exact ⟨room, nofun⟩
  | push _ data ih => exact ⟨ih.forced, ih.known⟩
  | next _ ih => exact ih.step
  | finish _ ih => exact ⟨ih.forced, ih.known⟩
  | flush _ offset ih => exact ⟨ih.forced, ih.known⟩

/-! ### All items -/

/-- Takes items until framing asks for more data or an error ends the run, in no more than the
given number of calls. For each call, a round for each byte and one more are enough. -/
def drain? : Nat → Synchronizer → Option (Synchronizer × List SyncItem × Option Error)
  | 0, _ => none
  | calls + 1, sync => do
    match ← nextItem? (sync.buffer.length + 1) sync with
    | (next, .error error) => some (next, [], some error)
    | (next, .ok none) => some (next, [], none)
    | (next, .ok (some item)) =>
      let (last, items, error) ← drain? calls next
      some (last, item :: items, error)

theorem drain_length (sync : Synchronizer) : sync.drain.2.1.length ≤ sync.potential := by
  fun_induction drain sync with
  | case1 => exact Nat.zero_le _
  | case2 => exact Nat.zero_le _
  | case3 sync next item step last items error rest ih =>
    rw [rest] at ih
    exact Nat.lt_of_le_of_lt ih (potential_nextItem step)

/-- The calls suffice: every item lowers the potential. -/
theorem drain?_eq {calls : Nat} (roomy : sync.Roomy) (enough : sync.potential < calls) :
    drain? calls sync = some sync.drain := by
  induction calls generalizing sync with
  | zero => exact absurd enough (Nat.not_lt_zero _)
  | succ calls ih =>
    have after := roomy.step
    rw [drain?, nextItem?_eq roomy _ (Nat.le_refl _), drain_eq, Option.bind_eq_bind,
      Option.bind_some]
    cases step : sync.nextItem with
    | mk next result =>
      rw [step] at after
      match result with
      | .error error => rfl
      | .ok none => rfl
      | .ok (some item) =>
        have fewer : next.potential < calls :=
          Nat.lt_of_lt_of_le (potential_nextItem step) (Nat.le_of_lt_succ enough)
        dsimp only
        rw [ih after fewer]
        rfl

/-- Whatever framing was asked before, its items come to an end: in two calls for each byte that it
holds and two, the last of which gives none. Each call ends, in a round for each byte and one, and
asks for no byte that is not there. The call behind a lock goes behind a whole packet, or waits.
Options that are accepted see to it that a forced stride has room for a packet. -/
theorem drain_ends (reached : Reachable options sync) (run : 2 ≤ options.minSyncRun)
    (room : ∀ stride, options.forcedStride = some stride → packetSize ≤ stride) :
    let size := sync.buffer.length
    nextItem? (size + 1) sync = some sync.nextItem ∧
      drain? (2 * size + 2) sync = some sync.drain ∧ sync.drain.2.1.length ≤ 2 * size + 1 ∧
      ∀ next stride place, sync.nextItem = (next, .ok (some (.locked stride place))) →
        next.nextItem.2 = .ok none ∨
          next.nextItem.1.buffer.length + packetSize ≤ next.buffer.length := by
  intro size
  have roomy := reached.roomy room
  have positive : 0 < sync.minRun := by
    rw [reached.minRun_eq]
    omega
  have few : sync.potential ≤ 2 * size + 1 := by
    unfold potential
    split <;> omega
  refine ⟨nextItem?_eq roomy _ (Nat.le_refl _), drain?_eq roomy (Nat.lt_succ_of_le few),
    Nat.le_trans (drain_length sync) few, fun next stride place locks => ?_⟩
  obtain ⟨locked, start⟩ := nextItem_start positive locks
  have after := roomy.step
  rw [locks] at after
  exact after.start_taken locked start

/-- Framing of packets led by arrival stamps. -/
private def ledOptions : Options := { stampedMode := true, minSyncRun := 2 }

/-- Two packets led by stamps, a stray byte, and two more packets at the end of input. -/
private def strayByte : Synchronizer :=
  let unit : Bytes := [0x00, 0x00, 0x00, 0x01, 0x47, 0x01, 0x00, 0x10] ++ List.replicate 184 0
  ((ofOptions ledOptions).push (unit ++ unit ++ [0x00] ++ unit ++ unit)).finish

/-- The stray byte costs the frame once, and all packets come out. -/
theorem strayByte_drained :
    Reachable ledOptions strayByte ∧ strayByte.buffer.length = 769 ∧
      drain? 1540 strayByte = some strayByte.drain ∧ strayByte.drain.2.1.length = 7 ∧
      strayByte.nextItem.2 = .ok (some (.locked 192 4)) ∧
      strayByte.nextItem.1.nextItem.1.buffer.length + packetSize ≤
        strayByte.nextItem.1.buffer.length := by
  have reached : Reachable ledOptions strayByte := .finish (.push .start _)
  have size : strayByte.buffer.length = 769 := by decide +kernel
  have lock : strayByte.nextItem.2.toOption = some (some (.locked 192 4)) := by decide +kernel
  have locks : strayByte.nextItem.2 = .ok (some (.locked 192 4)) := by
    cases result : strayByte.nextItem.2 with
    | error error => simp [result, Except.toOption] at lock
    | ok item => simpa [result, Except.toOption] using lock
  have goesOn : strayByte.nextItem.1.nextItem.2.toOption ≠ some none := by decide +kernel
  obtain ⟨_, drained, _, behind⟩ := drain_ends reached (by decide) (forcedStride_room rfl)
  rw [size] at drained
  have taken := behind strayByte.nextItem.1 192 4 (Prod.ext rfl locks)
  refine ⟨reached, size, drained, by decide +kernel, locks, taken.resolve_left fun waits => ?_⟩
  exact goesOn (congrArg Except.toOption waits)

end Synchronizer

end TransportStream
