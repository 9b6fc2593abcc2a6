import Mathlib.Data.List.Chain
import TransportStream.Clock

/-!
The program clock over runs of references. References taken from a timeline that never runs
back and has no gap of half a wrap are put back on it exactly, from the wrap in which it
starts. Whatever the references are, their places never run back, and seven million of them
fit 64 bits.
-/
namespace TransportStream.Clock

/-- Takes references in turn, each with the offset of its packet. -/
def observeAll (clock : Clock) : List (Nat × Nat) → Clock × List (Option Nat)
  | [] => (clock, [])
  | (pcr, offset) :: others =>
    let (clock, place) := clock.observe pcr offset
    let (clock, places) := clock.observeAll others
    (clock, place :: places)

/-- The places of the references that were not ignored. -/
def accepted (places : List (Option Nat)) : List Nat := places.filterMap id

/-! ### One reference -/

/-- What is added to the correction of a reference. -/
def Follow.shift : Follow → Nat
  | .forward | .jitter => 0
  | .wrapped => Pcr.wrap
  | .restarted back => back

/-- Whether a reference is counted as a wrap. -/
def Follow.wraps : Follow → Nat
  | .wrapped => 1
  | .forward | .restarted _ | .jitter => 0

/-- `Placed clock follow raw next`: the clock once a reference got its place. The byte rate
and what it is measured from are left open. -/
structure Placed (clock : Clock) (follow : Follow) (raw : Nat) (next : Clock) : Prop where
  lastRaw : next.lastRaw = some raw
  adjust : next.adjust = clock.adjust + follow.shift
  first : next.first = some (clock.first.getD (raw + next.adjust))
  last : next.last = some (max (clock.last.getD (raw + next.adjust)) (raw + next.adjust))
  wraps : next.stats.wraps = clock.stats.wraps + follow.wraps
  jitter : next.stats.jitter = clock.stats.jitter

variable {clock next : Clock} {raw pcr offset : Nat}

/-- Measuring a byte rate does not move the timeline. -/
theorem Placed.measure {follow : Follow} (placed : Placed clock follow raw next)
    (point : ClockAnchor) : Placed clock follow raw (next.measure point) := by
  obtain ⟨lastRaw, adjust, first, last, wraps, jitter⟩ := placed
  unfold Clock.measure
  split
  · exact ⟨lastRaw, adjust, first, last, wraps, jitter⟩
  · dsimp only
    split
    · exact ⟨lastRaw, adjust, first, last, wraps, jitter⟩
    · split
      · exact ⟨lastRaw, adjust, first, last, wraps, jitter⟩
      · exact ⟨lastRaw, adjust, first, last, wraps, jitter⟩

/-- A reference is put on the timeline of the clock whose correction was moved for it. -/
theorem accept_placed {moved : Clock} {follow : Follow} (offset : Nat)
    (adjust : moved.adjust = clock.adjust + follow.shift) (first : moved.first = clock.first)
    (last : moved.last = clock.last) (wraps : moved.stats.wraps = clock.stats.wraps + follow.wraps)
    (jitter : moved.stats.jitter = clock.stats.jitter) :
    Placed clock follow raw (moved.accept raw offset).1 ∧
      (moved.accept raw offset).2 = some (raw + (moved.accept raw offset).1.adjust) := by
  have placed : Placed clock follow raw (moved.accept raw offset).1 := by
    apply Placed.measure
    exact ⟨rfl, adjust, by rw [← first], by rw [← last], wraps, jitter⟩
  exact ⟨placed, by rw [placed.adjust, ← adjust]; rfl⟩

/-- A reference that is not jitter gets its place. -/
theorem observe_placed (heeded : follow clock.lastRaw (pcr % Pcr.wrap) ≠ .jitter) (offset : Nat) :
    Placed clock (follow clock.lastRaw (pcr % Pcr.wrap)) (pcr % Pcr.wrap)
        (clock.observe pcr offset).1 ∧
      (clock.observe pcr offset).2 =
        some (pcr % Pcr.wrap + (clock.observe pcr offset).1.adjust) := by
  cases judged : follow clock.lastRaw (pcr % Pcr.wrap) with
  | forward =>
    simp only [observe, judged]
    apply accept_placed <;> rfl
  | wrapped =>
    simp only [observe, judged]
    apply accept_placed <;> rfl
  | restarted back =>
    simp only [observe, judged]
    apply accept_placed <;> rfl
  | jitter => exact absurd judged heeded

/-- Jitter is counted, and changes nothing else. -/
theorem observe_ignored (ignored : follow clock.lastRaw (pcr % Pcr.wrap) = .jitter) (offset : Nat) :
    clock.observe pcr offset =
      ({ clock with stats := { clock.stats with jitter := clock.stats.jitter + 1 } }, none) := by
  simp [observe, ignored]

/-! ### A true timeline -/

theorem wrap_eq : Pcr.wrap = 2576980377600 := rfl

/-- A time is judged to be in the wrap of the one before it or in the next, as it is. -/
theorem follow_near {previous time : Nat} (later : previous ≤ time)
    (near : time - previous < Pcr.wrap / 2) :
    let judged := follow (some (previous % Pcr.wrap)) (time % Pcr.wrap)
    judged ≠ .jitter ∧ judged.wraps = time / Pcr.wrap - previous / Pcr.wrap ∧
      judged.shift = judged.wraps * Pcr.wrap := by
  rcases (by rw [wrap_eq] at *; omega : time / Pcr.wrap = previous / Pcr.wrap ∨
    time / Pcr.wrap = previous / Pcr.wrap + 1) with same | next
  · have judged : follow (some (previous % Pcr.wrap)) (time % Pcr.wrap) = .forward := by
      rw [follow, if_neg (by rw [wrap_eq] at *; omega), if_neg (by rw [wrap_eq] at *; omega)]
    simp [judged, Follow.wraps, Follow.shift, same]
  · have judged : follow (some (previous % Pcr.wrap)) (time % Pcr.wrap) = .wrapped := by
      rw [follow, if_pos (by rw [wrap_eq] at *; omega), if_pos (by rw [wrap_eq] at *; omega)]
    simp [judged, Follow.wraps, Follow.shift, next]

/-- `Tracks clock start time`: the clock has followed a timeline from one time to another. -/
structure Tracks (clock : Clock) (start time : Nat) : Prop where
  ordered : start ≤ time
  lastRaw : clock.lastRaw = some (time % Pcr.wrap)
  first : clock.first = some (start - Pcr.wrap * (start / Pcr.wrap))
  last : clock.last = some (time - Pcr.wrap * (start / Pcr.wrap))
  wraps : clock.stats.wraps = time / Pcr.wrap - start / Pcr.wrap
  adjust : clock.adjust = clock.stats.wraps * Pcr.wrap
  jitter : clock.stats.jitter = 0

/-- The place of a time in the wraps that begin with the first one's. -/
theorem place_eq {start time : Nat} (ordered : start ≤ time) :
    time % Pcr.wrap + (time / Pcr.wrap - start / Pcr.wrap) * Pcr.wrap =
      time - Pcr.wrap * (start / Pcr.wrap) := by
  rw [wrap_eq]
  omega

/-- A timeline starts where its first reference is. -/
theorem Tracks.start (smoothing : Float) (start offset : Nat) :
    (observe { smoothing } (start % Pcr.wrap) offset).2 =
        some (start - Pcr.wrap * (start / Pcr.wrap)) ∧
      Tracks (observe { smoothing } (start % Pcr.wrap) offset).1 start start := by
  have fresh : follow (none : Option Nat) (start % Pcr.wrap % Pcr.wrap) ≠ .jitter := by
    simp [follow]
  obtain ⟨placed, place⟩ := @observe_placed { smoothing } (start % Pcr.wrap) fresh offset
  have adjust : (observe { smoothing } (start % Pcr.wrap) offset).1.adjust = 0 := placed.adjust
  have own : start % Pcr.wrap % Pcr.wrap = start - Pcr.wrap * (start / Pcr.wrap) := by
    rw [Nat.mod_mod, Nat.mod_eq_sub]
  have wraps : (observe { smoothing } (start % Pcr.wrap) offset).1.stats.wraps = 0 := placed.wraps
  refine ⟨by rw [place, adjust, Nat.add_zero, own], Nat.le_refl _,
    by rw [placed.lastRaw, Nat.mod_mod], ?_, ?_, by rw [wraps, Nat.sub_self],
    by rw [adjust, wraps, Nat.zero_mul], placed.jitter⟩
  · rw [placed.first, adjust, Nat.add_zero, own]
    rfl
  · rw [placed.last, adjust, Nat.add_zero, own]
    simp

/-- The step lemma: a later time less than half a wrap away gets its own place. -/
theorem Tracks.observe {start time later : Nat} (tracks : Tracks clock start time)
    (ordered : time ≤ later) (near : later - time < Pcr.wrap / 2) (offset : Nat) :
    (clock.observe (later % Pcr.wrap) offset).2 =
        some (later - Pcr.wrap * (start / Pcr.wrap)) ∧
      Tracks (clock.observe (later % Pcr.wrap) offset).1 start later := by
  obtain ⟨heeded, wrapped, shifted⟩ := follow_near ordered near
  rw [← tracks.lastRaw, ← Nat.mod_mod later] at heeded wrapped shifted
  obtain ⟨placed, place⟩ := observe_placed heeded offset
  have onwards : start ≤ later := tracks.ordered.trans ordered
  have wraps : (clock.observe (later % Pcr.wrap) offset).1.stats.wraps =
      later / Pcr.wrap - start / Pcr.wrap := by
    have first := Nat.div_le_div_right (c := Pcr.wrap) tracks.ordered
    have second := Nat.div_le_div_right (c := Pcr.wrap) ordered
    rw [placed.wraps, wrapped, tracks.wraps]
    omega
  have adjust : (clock.observe (later % Pcr.wrap) offset).1.adjust =
      (clock.observe (later % Pcr.wrap) offset).1.stats.wraps * Pcr.wrap := by
    rw [placed.adjust, placed.wraps, shifted, tracks.adjust, Nat.add_mul]
  have own : later % Pcr.wrap % Pcr.wrap + (clock.observe (later % Pcr.wrap) offset).1.adjust =
      later - Pcr.wrap * (start / Pcr.wrap) := by
    rw [Nat.mod_mod, adjust, wraps, place_eq onwards]
  refine ⟨by rw [place, own], onwards, by rw [placed.lastRaw, Nat.mod_mod], ?_, ?_, wraps,
    adjust, ?_⟩
  · rw [placed.first, tracks.first, Option.getD_some]
  · rw [placed.last, tracks.last, Option.getD_some, own]
    congr 1
    omega
  · rw [placed.jitter, tracks.jitter]

/-- A point of a timeline: a time, and the offset at which its reference is sent. -/
structure Tick where
  time : Nat
  offset : Nat
  deriving DecidableEq, Repr

/-- The references that are sent of a timeline. -/
def sent (ticks : List Tick) : List (Nat × Nat) :=
  ticks.map (fun tick => (tick.time % Pcr.wrap, tick.offset))

/-- A timeline goes on by less than half a wrap. -/
def Onwards (previous next : Tick) : Prop :=
  previous.time ≤ next.time ∧ next.time - previous.time < Pcr.wrap / 2

instance : DecidableRel Onwards := fun _ _ => inferInstanceAs (Decidable (_ ∧ _))

/-- The run lemma: every time of a timeline gets its own place. -/
theorem Tracks.observeAll {start : Nat} {previous : Tick} {ticks : List Tick}
    (tracks : Tracks clock start previous.time)
    (onwards : List.IsChain Onwards (previous :: ticks)) :
    (clock.observeAll (sent ticks)).2 =
        ticks.map (fun tick => some (tick.time - Pcr.wrap * (start / Pcr.wrap))) ∧
      Tracks (clock.observeAll (sent ticks)).1 start (ticks.getLastD previous).time := by
  induction ticks generalizing clock previous with
  | nil => exact ⟨rfl, tracks⟩
  | cons tick others ih =>
    obtain ⟨⟨ordered, near⟩, later⟩ := List.isChain_cons_cons.mp onwards
    obtain ⟨place, tracks⟩ := tracks.observe ordered near tick.offset
    obtain ⟨places, tracks⟩ := ih tracks later
    refine ⟨?_, ?_⟩
    · rw [sent] at places
      simp only [sent, List.map_cons, Clock.observeAll, place, places]
    · simpa only [sent, List.map_cons, Clock.observeAll, List.getLastD_cons] using tracks

/-! ### Any references -/

/-- Where the reference that was heeded last has its place. -/
def reached (clock : Clock) : Nat := clock.lastRaw.getD 0 + clock.adjust

/-- `Within clock count`: the correction is what so many references can have added to it, of
which the first adds nothing. -/
def Within (clock : Clock) (count : Nat) : Prop :=
  match clock.lastRaw with
  | none => clock.adjust = 0
  | some raw => raw < Pcr.wrap ∧ clock.adjust + Pcr.wrap ≤ count * Pcr.wrap

theorem Within.mono {count more : Nat} (within : clock.Within count) (less : count ≤ more) :
    clock.Within more := by
  unfold Within at *
  split
  · rename_i none
    simpa [none] using within
  · rename_i raw last
    simp only [last] at within
    exact ⟨within.1, within.2.trans (Nat.mul_le_mul_right _ less)⟩

theorem Within.reached_le {count : Nat} (within : clock.Within count) :
    clock.reached ≤ count * Pcr.wrap := by
  unfold Within reached at *
  split at within
  · rename_i none
    simp [none, within]
  · rename_i raw last
    simp only [last, Option.getD_some]
    omega

/-- A reference that is heeded does not run back, and adds no more than a wrap. -/
theorem follow_ordered {previous raw : Nat} (heeded : follow (some previous) raw ≠ .jitter)
    (small : previous < Pcr.wrap) :
    previous ≤ raw + (follow (some previous) raw).shift ∧
      (follow (some previous) raw).shift ≤ Pcr.wrap := by
  by_cases back : raw < previous
  · by_cases far : Pcr.wrap / 2 < previous - raw
    · simp only [follow, back, far, if_true, Follow.shift]
      omega
    · by_cases restarts : longestGap < previous - raw
      · simp only [follow, back, far, restarts, if_true, if_false, Follow.shift]
        omega
      · simp [follow, back, far, restarts] at heeded
  · by_cases late : Pcr.wrap / 2 < raw - previous
    · simp [follow, back, late] at heeded
    · simp only [follow, back, late, if_false, Follow.shift]
      omega

/-- The step lemma: a reference that is heeded has its place at or after the one before. -/
theorem Within.observe {count : Nat} (within : clock.Within count) (pcr offset : Nat) :
    (clock.observe pcr offset).1.Within (count + 1) ∧
      clock.reached ≤ (clock.observe pcr offset).1.reached ∧
      ∀ place ∈ (clock.observe pcr offset).2, place = (clock.observe pcr offset).1.reached := by
  by_cases heeded : follow clock.lastRaw (pcr % Pcr.wrap) = .jitter
  · rw [observe_ignored heeded]
    exact ⟨within.mono (Nat.le_succ count), Nat.le_refl _, by simp⟩
  · obtain ⟨placed, place⟩ := observe_placed heeded offset
    have small : pcr % Pcr.wrap < Pcr.wrap := Nat.mod_lt _ (by rw [wrap_eq]; omega)
    have reaches : (clock.observe pcr offset).1.reached =
        pcr % Pcr.wrap + (clock.observe pcr offset).1.adjust := by
      rw [reached, placed.lastRaw, Option.getD_some]
    have ordered : (clock.observe pcr offset).1.adjust + Pcr.wrap ≤ (count + 1) * Pcr.wrap ∧
        clock.reached ≤ pcr % Pcr.wrap + (clock.observe pcr offset).1.adjust := by
      rw [placed.adjust, Nat.add_mul, Nat.one_mul]
      unfold Within reached at *
      cases last : clock.lastRaw with
      | none =>
        rw [last] at within
        simp only [within, follow, Follow.shift, Option.getD_none]
        omega
      | some previous =>
        rw [last] at within heeded
        obtain ⟨below, few⟩ := within
        obtain ⟨notBack, most⟩ := follow_ordered heeded below
        simp only [Option.getD_some]
        omega
    refine ⟨?_, by rw [reaches]; exact ordered.2, by simp [place, reaches]⟩
    simp only [Within, placed.lastRaw]
    exact ⟨small, ordered.1⟩

/-- The run lemma: the places of references never run back. -/
theorem Within.observeAll {count : Nat} (within : clock.Within count) (samples : List (Nat × Nat)) :
    (clock.observeAll samples).1.Within (count + samples.length) ∧
      clock.reached ≤ (clock.observeAll samples).1.reached ∧
      (accepted (clock.observeAll samples).2).Pairwise (· ≤ ·) ∧
      ∀ place ∈ accepted (clock.observeAll samples).2,
        clock.reached ≤ place ∧ place ≤ (clock.observeAll samples).1.reached := by
  induction samples generalizing clock count with
  | nil => exact ⟨within, Nat.le_refl _, .nil, by simp [Clock.observeAll, accepted]⟩
  | cons sample others ih =>
    obtain ⟨pcr, offset⟩ := sample
    obtain ⟨within, forward, here⟩ := within.observe pcr offset
    obtain ⟨within, onwards, ordered, between⟩ := ih within
    have all : clock.reached ≤ ((clock.observe pcr offset).1.observeAll others).1.reached :=
      forward.trans onwards
    have later : ∀ place ∈ accepted ((clock.observe pcr offset).1.observeAll others).2,
        clock.reached ≤ place ∧
          place ≤ ((clock.observe pcr offset).1.observeAll others).1.reached :=
      fun place member => ⟨forward.trans (between place member).1, (between place member).2⟩
    rw [List.length_cons, show count + (others.length + 1) = count + 1 + others.length by omega]
    refine ⟨within, all, ?_⟩
    cases place : (clock.observe pcr offset).2 with
    | none =>
      simp only [Clock.observeAll, accepted, place, List.filterMap_cons_none, id_eq] at *
      exact ⟨ordered, later⟩
    | some ticks =>
      obtain rfl := here ticks place
      simp only [Clock.observeAll, accepted, place, List.filterMap_cons, id_eq,
        List.pairwise_cons, List.forall_mem_cons] at *
      exact ⟨⟨fun value member => (between value member).1, ordered⟩, ⟨forward, onwards⟩, later⟩

/-- Unwrapping is exact and monotone. A timeline that never runs back and goes on by less than
half a wrap is put back from the wrap in which it starts, and nothing of it is ignored.
Whatever seven million references are, neither the correction nor a place outgrows 64 bits,
places never run back, and a reference that is ignored changes nothing but the count of
those. -/
theorem observeAll_exact (smoothing : Float) :
    (∀ (start : Tick) (ticks : List Tick), List.IsChain Onwards (start :: ticks) →
      let run := observeAll { smoothing } (sent (start :: ticks))
      let origin := start.time / Pcr.wrap
      run.2 = (start :: ticks).map (fun tick => some (tick.time - Pcr.wrap * origin)) ∧
        run.1.stats.wraps = (ticks.getLastD start).time / Pcr.wrap - origin ∧
        run.1.adjust = run.1.stats.wraps * Pcr.wrap ∧ run.1.stats.jitter = 0 ∧
        run.2.head? = some run.1.first ∧ run.2.getLast? = some run.1.last) ∧
    (∀ samples : List (Nat × Nat), samples.length ≤ 7000000 →
      let run := observeAll { smoothing } samples
      run.1.adjust < wordRange ∧ (∀ place ∈ accepted run.2, place < wordRange) ∧
        (accepted run.2).Pairwise (· ≤ ·)) ∧
    (∀ (clock : Clock) (pcr offset : Nat), (clock.observe pcr offset).2 = none →
      (clock.observe pcr offset).1 =
        { clock with stats := { clock.stats with jitter := clock.stats.jitter + 1 } }) := by
  refine ⟨?_, ?_, ?_⟩
  · intro start ticks onwards run origin
    obtain ⟨place, tracks⟩ := Tracks.start smoothing start.time start.offset
    obtain ⟨places, tracks⟩ := tracks.observeAll onwards
    have all : run.2 = (start :: ticks).map
        (fun tick => some (tick.time - Pcr.wrap * origin)) := by
      rw [List.map_cons, ← places, ← place]
      rfl
    refine ⟨all, tracks.wraps, tracks.adjust, tracks.jitter, ?_, ?_⟩
    · rw [all, List.map_cons, List.head?_cons]
      exact congrArg some tracks.first.symm
    · rw [all, List.getLast?_map, List.getLast?_cons, Option.map_some,
        ← List.getLastD_eq_getLast?]
      exact congrArg some tracks.last.symm
  · intro samples few run
    have fresh : Within { smoothing } 0 := rfl
    obtain ⟨within, _, ordered, between⟩ := fresh.observeAll samples
    have fits : run.1.reached < wordRange := by
      have bound := within.reached_le
      rw [wrap_eq] at bound
      simp only [run, wordRange]
      omega
    have part : run.1.adjust ≤ run.1.reached := Nat.le_add_left ..
    exact ⟨part.trans_lt fits, fun place member => (between place member).2.trans_lt fits, ordered⟩
  · intro clock pcr offset ignored
    by_cases jitter : follow clock.lastRaw (pcr % Pcr.wrap) = .jitter
    · rw [observe_ignored jitter]
    · rw [(observe_placed jitter offset).2] at ignored
      cases ignored

/-- A timeline that starts a second before the wrap and crosses two. A reference from before
the start, sent behind it, is ignored, and the places before and after that are in order. -/
theorem timeline_across_wraps :
    let start : Tick := ⟨Pcr.wrap - 27000000, 0⟩
    let ticks : List Tick := [⟨Pcr.wrap + 1000000, 188⟩, ⟨Pcr.wrap + 1288490189800, 376⟩,
      ⟨2 * Pcr.wrap + 5, 564⟩]
    let samples := sent [start, ⟨Pcr.wrap + 1000000, 188⟩, start, ⟨Pcr.wrap + 5000000, 188⟩]
    List.IsChain Onwards (start :: ticks) ∧ samples.length ≤ 7000000 ∧
      (observeAll { smoothing := 0.2 } (sent (start :: ticks))).2 =
        [some (Pcr.wrap - 27000000), some (Pcr.wrap + 1000000), some (Pcr.wrap + 1288490189800),
          some (2 * Pcr.wrap + 5)] ∧
      (accepted (observeAll { smoothing := 0.2 } samples).2).Pairwise (· ≤ ·) := by
  intro start ticks samples
  have onwards : List.IsChain Onwards (start :: ticks) := by decide
  have few : samples.length ≤ 7000000 := by decide
  obtain ⟨exact_, bounded, _⟩ := observeAll_exact 0.2
  refine ⟨onwards, few, ?_, (bounded samples few).2.2⟩
  rw [(exact_ start ticks onwards).1]
  decide

end TransportStream.Clock
