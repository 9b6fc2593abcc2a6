import TransportStream.Proofs.ClockTimeline

/-!
How long a clock that started over is ignored. References that go on by at most ten seconds
each, and are all ignored, span no more than ten seconds, unless they lie on the other side of
the wrap: a reference more than half a wrap above the last one is taken for one that is late
from before the wrap, and all that follow it are ignored until they come to the wrap.
-/
namespace TransportStream.Clock

/-- `Reachable clock`: what a clock can come to. -/
inductive Reachable : Clock → Prop where
  | fresh (smoothing : Float) : Reachable { smoothing }
  | observed {clock : Clock} (pcr offset : Nat) (before : Reachable clock) :
      Reachable (clock.observe pcr offset).1
  | broken {clock : Clock} (before : Reachable clock) : Reachable clock.discontinuity
  | framed {clock : Clock} (stride : Nat) (before : Reachable clock) :
      Reachable { clock with stride }

variable {clock : Clock} {previous : Nat} {first : Nat × Nat} {others samples : List (Nat × Nat)}

theorem lastRaw_observe (clock : Clock) (pcr offset : Nat) :
    (clock.observe pcr offset).1.lastRaw =
      if follow clock.lastRaw (pcr % Pcr.wrap) = .jitter then clock.lastRaw
      else some (pcr % Pcr.wrap) := by
  split
  · rename_i jitter
    rw [observe_ignored jitter]
  · rename_i heeded
    exact (observe_placed heeded offset).1.lastRaw

theorem Reachable.lastRaw_lt (reachable : Reachable clock) (last : clock.lastRaw = some previous) :
    previous < Pcr.wrap := by
  induction reachable with
  | fresh smoothing => cases last
  | observed pcr offset before ih =>
    rw [lastRaw_observe] at last
    split at last
    · exact ih last
    · obtain rfl := Option.some.inj last
      exact Nat.mod_lt _ (by rw [wrap_eq]; omega)
  | broken before ih => cases last
  | framed stride before ih => exact ih last

/-! ### References that are ignored -/

/-- Whether references are all ignored. -/
def IgnoresAll (clock : Clock) (samples : List (Nat × Nat)) : Prop :=
  ∀ place ∈ (clock.observeAll samples).2, place = none

theorem observe_eq_none_iff (clock : Clock) (pcr offset : Nat) :
    (clock.observe pcr offset).2 = none ↔ follow clock.lastRaw (pcr % Pcr.wrap) = .jitter := by
  constructor
  · intro ignored
    by_contra heeded
    rw [(observe_placed heeded offset).2] at ignored
    cases ignored
  · intro jitter
    rw [observe_ignored jitter]

/-- While references are ignored all are judged by the same one. -/
theorem ignoresAll_iff :
    clock.IgnoresAll samples ↔
      ∀ sample ∈ samples, follow clock.lastRaw (sample.1 % Pcr.wrap) = .jitter := by
  induction samples generalizing clock with
  | nil => simp [IgnoresAll, observeAll]
  | cons sample others ih =>
    obtain ⟨pcr, offset⟩ := sample
    rw [List.forall_mem_cons, ← observe_eq_none_iff clock pcr offset, IgnoresAll]
    simp only [observeAll, List.forall_mem_cons]
    refine and_congr_right fun ignored => ?_
    have stays : (clock.observe pcr offset).1.lastRaw = clock.lastRaw := by
      rw [lastRaw_observe, if_pos ((observe_eq_none_iff ..).mp ignored)]
    rw [← stays]
    exact ih

/-! ### The time they span -/

/-- The time from one reference on to another, modulo the wrap. -/
def between (earlier later : Nat) : Nat :=
  (later % Pcr.wrap + Pcr.wrap - earlier % Pcr.wrap) % Pcr.wrap

/-- A reference is later than another by ten seconds at most. -/
def GoesOn (earlier later : Nat × Nat) : Prop := between earlier.1 later.1 ≤ longestGap

instance : DecidableRel GoesOn := fun _ _ => inferInstanceAs (Decidable (_ ≤ _))

/-- The time from the first of references to the last, each taken to be later than the one
before. -/
def span : List (Nat × Nat) → Nat
  | first :: second :: others => between first.1 second.1 + span (second :: others)
  | _ => 0

/-- A reference more than half a wrap above another: it is taken for one from before the wrap
that the other came through. -/
def Across (previous pcr : Nat) : Prop := previous + Pcr.wrap / 2 < pcr % Pcr.wrap

/-- What is ignored lies less than half a wrap back, and more than ten seconds only across the
wrap. -/
theorem between_of_jitter {pcr : Nat} (small : previous < Pcr.wrap)
    (jitter : follow (some previous) (pcr % Pcr.wrap) = .jitter) :
    0 < between pcr previous ∧ between pcr previous < Pcr.wrap / 2 ∧
      (between pcr previous ≤ longestGap ∨ Across previous pcr) := by
  have raw : pcr % Pcr.wrap < Pcr.wrap := Nat.mod_lt _ (by rw [wrap_eq]; omega)
  have gap : longestGap = 270000000 := rfl
  rw [between, Nat.mod_eq_of_lt small]
  unfold Across
  -- of the two ways to be ignored, only the one without a wrap looks at how far back it is
  by_cases back : pcr % Pcr.wrap < previous
  · have near : ¬ longestGap < previous - pcr % Pcr.wrap := by
      intro far
      by_cases wrapped : Pcr.wrap / 2 < previous - pcr % Pcr.wrap
      · simp [follow, back, wrapped] at jitter
      · simp [follow, back, wrapped, far] at jitter
    rw [wrap_eq] at *
    omega
  · have late : Pcr.wrap / 2 < pcr % Pcr.wrap - previous := by
      by_contra near
      simp [follow, back, near] at jitter
    rw [wrap_eq] at *
    omega

theorem jitter_of_across {pcr : Nat} (across : Across previous pcr) :
    follow (some previous) (pcr % Pcr.wrap) = .jitter := by
  unfold Across at across
  have above : ¬ pcr % Pcr.wrap < previous := by omega
  have far : Pcr.wrap / 2 < pcr % Pcr.wrap - previous := by omega
  rw [follow, if_neg above, if_pos far]

/-- The step lemma: time that goes on from one ignored reference to another comes closer to the
one that was heeded last. -/
theorem between_step {pcr next : Nat} (small : previous < Pcr.wrap)
    (onwards : between pcr next ≤ longestGap)
    (jitter : follow (some previous) (pcr % Pcr.wrap) = .jitter)
    (still : follow (some previous) (next % Pcr.wrap) = .jitter) :
    between pcr next + between next previous = between pcr previous := by
  obtain ⟨here, before, -⟩ := between_of_jitter small jitter
  obtain ⟨there, after, -⟩ := between_of_jitter small still
  have gap : longestGap = 270000000 := rfl
  unfold between at *
  rw [wrap_eq] at *
  omega

/-- The run lemma: references that go on and are all ignored never pass the one that was heeded
last. -/
theorem span_lt (small : previous < Pcr.wrap)
    (onwards : List.IsChain GoesOn (first :: others))
    (ignored : ∀ sample ∈ first :: others,
      follow (some previous) (sample.1 % Pcr.wrap) = .jitter) :
    span (first :: others) < between first.1 previous := by
  -- what is left of the way to the heeded one pays for every step
  induction others generalizing first with
  | nil => exact (between_of_jitter small (ignored first (List.mem_singleton_self _))).1
  | cons second others ih =>
    obtain ⟨goesOn, later⟩ := List.isChain_cons_cons.mp onwards
    obtain ⟨here, after⟩ := List.forall_mem_cons.mp ignored
    have step := between_step small goesOn here (after second List.mem_cons_self)
    have rest := ih later after
    rw [span]
    omega

/-- References that start across the wrap and do not come to it are all ignored, however long
they go on. -/
theorem jitter_of_short (across : Across previous first.1)
    (short : first.1 % Pcr.wrap + span (first :: others) < Pcr.wrap) :
    ∀ sample ∈ first :: others, follow (some previous) (sample.1 % Pcr.wrap) = .jitter := by
  induction others generalizing first with
  | nil =>
    rintro sample member
    obtain rfl := List.mem_singleton.mp member
    exact jitter_of_across across
  | cons second others ih =>
    rw [span] at short
    have forward : second.1 % Pcr.wrap = first.1 % Pcr.wrap + between first.1 second.1 := by
      unfold between at *
      rw [wrap_eq] at *
      omega
    refine List.forall_mem_cons.mpr ⟨jitter_of_across across, ih ?_ ?_⟩
    · unfold Across at *
      omega
    · omega

/-- Tracking resumes within ten seconds. References that go on by at most ten seconds each,
and are all ignored, span at most that time. It is only across the wrap that this fails: the
clock then resumes by the time it comes to the reference that was heeded last, and never before
it comes to the wrap. -/
theorem ignored_span_le (reachable : Reachable clock)
    (onwards : List.IsChain GoesOn (first :: others)) :
    (clock.IgnoresAll (first :: others) → span (first :: others) ≤ longestGap ∨
      ∃ previous, clock.lastRaw = some previous ∧ Across previous first.1 ∧
        span (first :: others) < between first.1 previous) ∧
    (∀ previous, clock.lastRaw = some previous → Across previous first.1 →
      first.1 % Pcr.wrap + span (first :: others) < Pcr.wrap →
        clock.IgnoresAll (first :: others)) := by
  refine ⟨fun ignored => ?_, fun previous last across short => ?_⟩
  · rw [ignoresAll_iff] at ignored
    cases last : clock.lastRaw with
    | none =>
      have jitter := ignored first List.mem_cons_self
      rw [last] at jitter
      cases jitter
    | some previous =>
      rw [last] at ignored
      have small := reachable.lastRaw_lt last
      have less := span_lt small onwards ignored
      obtain ⟨-, -, near | across⟩ := between_of_jitter small (ignored first List.mem_cons_self)
      · exact .inl (less.le.trans near)
      · exact .inr ⟨previous, rfl, across, less⟩
  · rw [ignoresAll_iff, last]
    exact jitter_of_short across short

/-- A clock that came through the wrap and five seconds on. -/
def pastWrap : Clock :=
  ((observe { smoothing := 0.2 } (Pcr.wrap - Pcr.frequency) 0).1.observe
    (5 * Pcr.frequency) 750).1

theorem pastWrap_reachable : Reachable pastWrap :=
  .observed _ _ (.observed _ _ (.fresh 0.2))

theorem pastWrap_lastRaw : pastWrap.lastRaw = some (5 * Pcr.frequency) := by
  have before : (observe { smoothing := 0.2 } (Pcr.wrap - Pcr.frequency) 0).1.lastRaw =
      some (Pcr.wrap - Pcr.frequency) := by
    rw [lastRaw_observe]
    rfl
  rw [pastWrap, lastRaw_observe, before]
  decide

/-- A clock set two seconds back is ignored for a second, which is short. One that comes from
nine seconds before the wrap is ignored as long as it does not reach it. -/
theorem step_back_ignored :
    let back := [(3 * Pcr.frequency, 2000), (4 * Pcr.frequency, 3000)]
    let late := [(Pcr.wrap - 9 * Pcr.frequency, 2000), (Pcr.wrap - Pcr.frequency, 3000)]
    Reachable pastWrap ∧ List.IsChain GoesOn back ∧ List.IsChain GoesOn late ∧
      span back ≤ longestGap ∧ pastWrap.IgnoresAll late := by
  intro back late
  have onwards : List.IsChain GoesOn back := by decide
  have lateOnwards : List.IsChain GoesOn late := by decide
  have ignored : pastWrap.IgnoresAll back := by
    rw [ignoresAll_iff, pastWrap_lastRaw]
    decide
  refine ⟨pastWrap_reachable, onwards, lateOnwards, ?_, ?_⟩
  · obtain near | ⟨previous, last, across, -⟩ :=
      (ignored_span_le pastWrap_reachable onwards).1 ignored
    · exact near
    · rw [pastWrap_lastRaw] at last
      obtain rfl := Option.some.inj last
      exact absurd across (by unfold Across; decide)
  · exact (ignored_span_le pastWrap_reachable lateOnwards).2 _ pastWrap_lastRaw
      (by unfold Across; decide) (by decide)

/-- A clock that starts over an hour before the wrap, with the last reference behind it: it is
ignored for sixteen seconds. -/
theorem restart_across_wrap_ignored :
    let samples := [(Pcr.wrap - 3600 * Pcr.frequency, 2000),
      (Pcr.wrap - 3592 * Pcr.frequency, 3000), (Pcr.wrap - 3584 * Pcr.frequency, 4000)]
    Reachable pastWrap ∧ List.IsChain GoesOn samples ∧ pastWrap.IgnoresAll samples ∧
      longestGap < span samples := by
  refine ⟨pastWrap_reachable, by decide, ?_, by decide⟩
  rw [ignoresAll_iff, pastWrap_lastRaw]
  decide

end TransportStream.Clock
