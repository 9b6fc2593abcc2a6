import TransportStream.Proofs.FramingBudget

/-!
The first lock. However its input is cut, framing that starts afresh locks on the first position
from which packets follow at some stride, and on the smallest such stride there; or it fails
because that position is too far behind the start.
-/
namespace TransportStream

namespace Synchronizer

variable {minRun run stride position : Nat} {strides : List Nat} {data : Bytes}

/-! ### Runs in a whole input -/

/-- Whether a packet can start at a position of the data: there is a sync byte, and three bytes
behind it a control field that is not the reserved one. -/
structure StartAt (data : Bytes) (position : Nat) : Prop where
  sync : data[position]? = some syncByte
  control : ∃ control, data[position + 3]? = some control ∧ control.toNat / 16 % 4 ≠ 0

/-- Whether packets can start at a position and on, one every `stride` bytes, as many as a lock
asks for. -/
structure RunAt (minRun : Nat) (data : Bytes) (position stride : Nat) : Prop where
  sync : data[position]? = some syncByte
  starts : ∀ index < minRun, StartAt data (position + index * stride)

/-- `FirstRun strides minRun data position stride`: no run of one of the strides starts before the
position, and of those that start there this one has the smallest stride. -/
structure FirstRun (strides : List Nat) (minRun : Nat) (data : Bytes) (position stride : Nat) :
    Prop where
  member : stride ∈ strides
  run : RunAt minRun data position stride
  earliest : ∀ earlier < position, ∀ other ∈ strides, ¬RunAt minRun data earlier other
  smallest : ∀ other ∈ strides, other < stride → ¬RunAt minRun data position other

theorem plausibleStart_iff :
    plausibleStart (data.drop position) = true ↔ StartAt data position := by
  have sync : data[position]? = (data.drop position)[0]? := by rw [List.getElem?_drop, Nat.add_zero]
  have control : data[position + 3]? = (data.drop position)[3]? := by rw [List.getElem?_drop]
  have fields : StartAt data position ↔ (data.drop position)[0]? = some syncByte ∧
      ∃ control, (data.drop position)[3]? = some control ∧ control.toNat / 16 % 4 ≠ 0 := by
    rw [← sync, ← control]
    exact ⟨fun start => ⟨start.sync, start.control⟩, fun start => ⟨start.1, start.2⟩⟩
  rw [fields]
  generalize data.drop position = rest
  match rest with
  | [] | [_] | [_, _] | [_, _, _] => simp [plausibleStart]
  | _ :: _ :: _ :: _ :: _ => simp [plausibleStart]

instance : Decidable (StartAt data position) := decidable_of_iff _ plausibleStart_iff

instance : Decidable (RunAt minRun data position stride) :=
  decidable_of_iff
    (data[position]? = some syncByte ∧ ∀ index < minRun, StartAt data (position + index * stride))
    ⟨fun run => ⟨run.1, run.2⟩, fun run => ⟨run.sync, run.starts⟩⟩

theorem plausibleRun_iff : plausibleRun stride run (data.drop position) = true ↔
    ∀ index < run, StartAt data (position + index * stride) := by
  induction run generalizing position with
  | zero => simp [plausibleRun]
  | succ run ih =>
    have next (index : Nat) :
        position + (index + 1) * stride = position + stride + index * stride := by
      rw [Nat.add_mul]
      omega
    rw [plausibleRun, Bool.and_eq_true, plausibleStart_iff, List.drop_drop, ih,
      Nat.forall_lt_succ_left]
    simp only [next, Nat.zero_mul, Nat.add_zero]

/-- A run in a whole input is what framing finds there. -/
theorem hasRun_iff (positive : 0 < stride) :
    HasRun minRun stride (data.drop position) ↔ RunAt minRun data position stride := by
  have head : (data.drop position).head? = data[position]? := List.head?_drop
  refine ⟨fun found => ⟨head ▸ found.sync, plausibleRun_iff.mp found.packets⟩, fun run =>
    ⟨head ▸ run.sync, ?_, plausibleRun_iff.mpr run.starts⟩⟩
  apply startsWithin_reach positive
  rcases Nat.eq_zero_or_pos minRun with none | some
  · exact .inl none
  · right
    obtain ⟨_, present, _⟩ := (run.starts (minRun - 1) (by omega)).control
    obtain ⟨inside, _⟩ := List.getElem?_eq_some_iff.mp present
    rw [List.length_drop]
    omega

/-- Where the data behind a position shows any run there could be, framing knows that there is
none. -/
theorem hopeless_of_reach (known : ∀ stride ∈ strides, 0 < stride ∧ stride ≤ widestStride)
    (reach : position + minRun * widestStride ≤ data.length)
    (none : ∀ stride ∈ strides, ¬RunAt minRun data position stride) :
    Hopeless minRun strides (data.drop position) := by
  by_cases sync : (data.drop position).head? = some syncByte
  · right
    intro stride member
    obtain ⟨positive, narrow⟩ := known stride member
    have shown : minRun ≤ startsWithin (data.drop position).length stride := by
      apply startsWithin_reach positive
      rcases minRun with _ | more
      · exact .inl rfl
      · right
        have stretch : more * stride ≤ more * widestStride := Nat.mul_le_mul_left more narrow
        rw [Nat.add_mul, widestStride] at reach
        rw [List.length_drop, Nat.add_sub_cancel]
        rw [widestStride] at stretch
        omega
    refine ⟨shown, eq_false_of_ne_true fun packets => ?_⟩
    exact none stride member ((hasRun_iff positive).mp ⟨sync, shown, packets⟩)
  · exact .inl sync

/-- The positions passed over are those before the first that is not hopeless. -/
theorem barren_eq (hopeful : ¬Hopeless minRun strides (data.drop position))
    (before : ∀ earlier < position, Hopeless minRun strides (data.drop earlier)) :
    barren minRun strides data = position := by
  induction position generalizing data with
  | zero =>
    cases data with
    | nil => rfl
    | cons first rest =>
      have hopeful : ¬Hopeless minRun strides (first :: rest) := hopeful
      rw [barren, if_neg hopeful]
  | succ position ih =>
    cases data with
    | nil => exact absurd (.inl (by simp)) hopeful
    | cons first rest =>
      have passed : barren minRun strides rest = position :=
        ih hopeful fun earlier less => before (earlier + 1) (Nat.succ_lt_succ less)
      have hopeless : Hopeless minRun strides (first :: rest) := before 0 (Nat.succ_pos _)
      rw [barren, if_pos hopeless, passed]

/-- The positions before the first run are passed over. -/
theorem FirstRun.barren_eq (first : FirstRun strides minRun data position stride)
    (known : ∀ stride ∈ strides, 0 < stride ∧ stride ≤ widestStride)
    (reach : position + minRun * widestStride ≤ data.length) :
    barren minRun strides data = position := by
  apply Synchronizer.barren_eq
  · intro hopeless
    apply hopeless.not_hasRun first.member
    exact (hasRun_iff (known stride first.member).1).mpr first.run
  · intro earlier less
    exact hopeless_of_reach known (by omega) (first.earliest earlier less)

/-! ### The first step -/

theorem forcedStride_known {options : Options} (valid : options.validatePacketSize = .ok ())
    (forced : options.forcedStride = some stride) : stride ∈ TransportStream.strides := by
  unfold Options.forcedStride at forced
  split at forced
  · cases forced
    decide
  · rw [Options.validatePacketSize, forced] at valid
    refine Decidable.byContradiction fun unknown => ?_
    simp only [if_pos unknown] at valid
    cases valid

/-- The strides that framing tries at first, in the order of their width. -/
theorem candidates_fresh {options : Options} (valid : options.validatePacketSize = .ok ()) :
    (∀ stride ∈ (ofOptions options).candidates, 0 < stride ∧ stride ≤ widestStride) ∧
      (ofOptions options).candidates.Pairwise (· < ·) := by
  have all : (∀ stride ∈ TransportStream.strides, 0 < stride ∧ stride ≤ widestStride) ∧
      TransportStream.strides.Pairwise (· < ·) := by decide
  simp only [candidates, ofOptions]
  cases forced : options.forcedStride with
  | none => exact all
  | some stride =>
    have known := all.1 stride (forcedStride_known valid forced)
    exact ⟨by simpa using known, List.pairwise_singleton ..⟩

/-- Of ascending strides, one that is taken only when no smaller one before it has a run is the
smallest that has one. -/
theorem FirstRun.stride_eq {before after : List Nat} {other : Nat}
    (first : FirstRun strides minRun data position stride)
    (ascending : strides.Pairwise (· < ·)) (order : strides = before ++ other :: after)
    (found : RunAt minRun data position other)
    (passed : ∀ smaller ∈ before, smaller < other → ¬RunAt minRun data position smaller) :
    other = stride := by
  have notSmaller : ¬other < stride :=
    fun smaller => first.smallest other (by simp [order]) smaller found
  have member := first.member
  rw [order] at member ascending
  rw [List.pairwise_append, List.pairwise_cons] at ascending
  obtain ⟨_, ⟨behind, _⟩, across⟩ := ascending
  rcases List.mem_append.mp member with earlier | later
  · exact absurd first.run (passed stride earlier (across stride earlier other List.mem_cons_self))
  · rcases List.mem_cons.mp later with same | later
    · exact same.symm
    · exact absurd (behind stride later) notSmaller

/-- With all of its input there, framing that starts afresh locks on the first run, or fails if
that is too far away. -/
theorem FirstRun.trace {options : Options} {items : List SyncItem} {last : Option Synchronizer}
    (valid : options.validatePacketSize = .ok ())
    (first : FirstRun (ofOptions options).candidates options.minSyncRun data position stride)
    (reach : position + options.minSyncRun * widestStride ≤ data.length)
    (trace : Trace ((ofOptions options).ahead data) items last) :
    (position ≤ options.maxResyncBytes ∧ items.head? = some (.locked stride position)) ∨
      (options.maxResyncBytes < position ∧ items = [] ∧ last = none) := by
  obtain ⟨known, ascending⟩ := candidates_fresh valid
  have passed : ((ofOptions options).ahead data).barrenFront = position :=
    first.barren_eq known reach
  have settled : ((ofOptions options).ahead data).settled.buffer = data.drop position ∧
      ((ofOptions options).ahead data).settled.base = position ∧
      ((ofOptions options).ahead data).settled.skipped = position := by
    rw [settled, passed]
    exact ⟨rfl, Nat.zero_add _, Nat.zero_add _⟩
  obtain ⟨buffer, base, skipped⟩ := settled
  have runs {other : Nat} (member : other ∈ (ofOptions options).candidates) :
      HasRun options.minSyncRun other ((ofOptions options).ahead data).settled.buffer ↔
        RunAt options.minSyncRun data position other := by
    rw [buffer]
    exact hasRun_iff (known other member).1
  cases trace with
  | waits locked => cases locked
  | seeks _ none => exact absurd ((runs first.member).mpr first.run) (none stride first.member)
  | fails _ spent => exact .inr ⟨skipped ▸ spent, rfl, rfl⟩
  | step step later =>
    cases step with
    | packet locked => cases locked
    | skip locked => cases locked
    | lose locked => cases locked
    | @lock before after other _ order found none budget =>
      left
      have tried : (ofOptions options).candidates = before ++ other :: after := order
      have same : other = stride := by
        refine first.stride_eq ascending tried ((runs (by simp [tried])).mp found) ?_
        intro smaller earlier less
        exact mt (runs (by simp [tried, earlier])).mpr (none smaller earlier less)
      exact ⟨skipped ▸ budget, by rw [same, base]; rfl⟩

theorem error_of_standing {ran : Synchronizer × List SyncItem × Option Error}
    (failed : standing ran = none) : ∃ error, ran.2.2 = some error := by
  obtain ⟨_, _, _ | error⟩ := ran
  · cases failed
  · exact ⟨error, rfl⟩

/-- However an input is cut that goes on far enough behind its first run: if that is within reach,
framing that starts afresh first gives the lock there on its smallest stride, and if it is not,
framing fails for want of a frame and gives nothing. -/
theorem pushAll_firstRun {options : Options} {chunks : List Bytes}
    (valid : options.validatePacketSize = .ok ())
    (first : FirstRun (ofOptions options).candidates options.minSyncRun data position stride)
    (reach : position + options.minSyncRun * widestStride ≤ data.length)
    (cut : chunks.flatten = data) :
    let run := (ofOptions options).pushAll chunks
    (position ≤ options.maxResyncBytes → run.2.1.head? = some (.locked stride position)) ∧
      (options.maxResyncBytes < position →
        run.2.1 = [] ∧ ∃ scanned, run.2.2 = some (.noSync scanned)) := by
  intro run
  have filled : chunks ≠ [] := by
    rintro rfl
    have sync := first.run.sync
    simp [← cut] at sync
  have trace := @pushAll_trace (ofOptions options) chunks rfl (.inr filled)
  rw [cut] at trace
  rcases first.trace valid reach trace with ⟨near, locks⟩ | ⟨far, none, failed⟩
  · refine ⟨fun _ => ?_, fun far => absurd near (Nat.not_le.mpr far)⟩
    obtain ⟨item, handed, bare⟩ := Option.map_eq_some_iff.mp (List.head?_map ▸ locks)
    rw [handed]
    cases item <;> cases bare
    rfl
  · refine ⟨fun near => absurd near (Nat.not_le.mpr far), fun _ => ?_⟩
    have empty : ((ofOptions options).pushAll chunks).2.1 = [] := List.map_eq_nil_iff.mp none
    obtain ⟨error, fault⟩ := error_of_standing failed
    obtain ⟨_, count, _, _, _, told⟩ := (accounts_start options).pushAll_overspends fault
    -- no item was given, so none of them was a lock
    rw [empty] at told
    exact ⟨empty, count, fault.trans (congrArg some told)⟩

/-- Five bytes that begin like a packet, and three packets behind them. -/
private def strayStart : Bytes :=
  let packet : Bytes := [0x47, 0x01, 0x00, 0x10] ++ List.replicate 184 0
  [0x47, 0x00, 0x00, 0x10, 0x00] ++ packet ++ packet ++ packet

/-- What begins like a packet is passed over, or is already too much to pass over. -/
theorem strayStart_passed :
    FirstRun TransportStream.strides 2 strayStart 5 188 ∧
      ((ofOptions { minSyncRun := 2 }).pushAll
        [strayStart.take 200, strayStart.drop 200]).2.1.head? = some (.locked 188 5) ∧
      ((ofOptions { minSyncRun := 2, maxResyncBytes := 4 }).pushAll [strayStart]).2.1 = [] := by
  have first : FirstRun TransportStream.strides 2 strayStart 5 188 :=
    ⟨by decide, by decide +kernel, by decide +kernel, by decide +kernel⟩
  have reach : 5 + 2 * widestStride ≤ strayStart.length := by decide +kernel
  have near := @pushAll_firstRun 188 5 strayStart { minSyncRun := 2 }
    [strayStart.take 200, strayStart.drop 200] rfl first reach (by simp)
  have far := @pushAll_firstRun 188 5 strayStart { minSyncRun := 2, maxResyncBytes := 4 }
    [strayStart] rfl first reach (by simp)
  exact ⟨first, near.1 (by decide), (far.2 (by decide)).1⟩

end Synchronizer

end TransportStream
