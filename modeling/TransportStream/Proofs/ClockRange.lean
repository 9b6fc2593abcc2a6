import TransportStream.Proofs.ClockTimeline

/-!
How far a clock gets. Every reference moves its correction on by at most a wrap, and the time that
it jumps over by no more, however often the clock is broken off in between. So the sums of the
clock are those of 64-bit numbers until millions of references were heard.
-/
namespace TransportStream.Clock

/-- `Heard count clock`: what a clock can come to that was given so many references. -/
inductive Heard : Nat → Clock → Prop where
  | fresh (smoothing : Float) : Heard 0 { smoothing }
  | observed {count : Nat} {clock : Clock} (pcr offset : Nat) (before : Heard count clock) :
      Heard (count + 1) (clock.observe pcr offset).1
  | broken {count : Nat} {clock : Clock} (before : Heard count clock) :
      Heard count clock.discontinuity
  | framed {count : Nat} {clock : Clock} (stride : Nat) (before : Heard count clock) :
      Heard count { clock with stride }

variable {clock next moved : Clock} {count previous raw offset : Nat} {anchor : ClockAnchor}

theorem Heard.observeAll (heard : Heard count clock) (samples : List (Nat × Nat)) :
    Heard (count + samples.length) (clock.observeAll samples).1 := by
  induction samples generalizing clock count with
  | nil => exact heard
  | cons sample others ih =>
    have later := ih (heard.observed sample.1 sample.2)
    rwa [Nat.add_right_comm, Nat.add_assoc] at later

/-! ### One reference -/

/-- A reference that is heeded lies at most half a wrap ahead of the one before it. -/
theorem follow_near_le (heeded : follow (some previous) raw ≠ .jitter) :
    raw + (follow (some previous) raw).shift ≤ previous + Pcr.wrap / 2 := by
  by_cases back : raw < previous
  · by_cases far : Pcr.wrap / 2 < previous - raw
    · simp only [follow, back, far, if_true, Follow.shift]
      rw [wrap_eq] at *
      omega
    · by_cases restarts : longestGap < previous - raw
      · simp only [follow, back, far, restarts, if_true, if_false, Follow.shift]
        omega
      · simp [follow, back, far, restarts] at heeded
  · by_cases late : Pcr.wrap / 2 < raw - previous
    · simp [follow, back, late] at heeded
    · simp only [follow, back, late, if_false, Follow.shift]
      omega

/-- What a clock measures from stands no more than ten seconds behind the last reference. -/
def AnchoredAt (clock : Clock) (place : Nat) : Prop :=
  ∀ anchor, clock.anchor = some anchor → anchor.ticks ≤ place ∧ place ≤ anchor.ticks + longestGap

/-- How far a clock can have come with so many references. -/
structure Ranged (count : Nat) (clock : Clock) : Prop where
  small : ∀ raw, clock.lastRaw = some raw → raw < Pcr.wrap
  adjust : clock.adjust ≤ count * Pcr.wrap
  skipped : clock.skipped ≤ count * Pcr.wrap
  last : ∀ last, clock.last = some last → last < (count + 1) * Pcr.wrap
  anchored : clock.AnchoredAt clock.reached
  idle : clock.lastRaw = none → clock.anchor = none

/-- Measuring keeps near to what it measures, and jumps over no more than what lies between. -/
theorem measure_ranged (point : ClockAnchor)
    (ahead : ∀ anchor, clock.anchor = some anchor →
      anchor.ticks ≤ point.ticks ∧ point.ticks ≤ anchor.ticks + Pcr.wrap) :
    (clock.measure point).AnchoredAt point.ticks ∧
      (clock.measure point).skipped ≤ clock.skipped + Pcr.wrap := by
  unfold measure AnchoredAt
  cases known : clock.anchor with
  | none => simp
  | some anchor =>
    obtain ⟨behind, near⟩ := ahead anchor known
    dsimp only
    split
    · refine ⟨by simp, ?_⟩
      dsimp only
      omega
    · split
      · exact ⟨by simp, Nat.le_add_right ..⟩
      · refine ⟨?_, Nat.le_add_right ..⟩
        intro other own
        cases known.symm.trans own
        omega

/-- A reference that is heeded lies ahead of what the clock measures from, by less than a wrap. -/
theorem Ranged.ahead {shift : Nat} (ranged : Ranged count clock)
    (heeded : follow clock.lastRaw raw ≠ .jitter) (shifts : (follow clock.lastRaw raw).shift = shift)
    (known : clock.anchor = some anchor) :
    anchor.ticks ≤ raw + (clock.adjust + shift) ∧
      raw + (clock.adjust + shift) ≤ anchor.ticks + Pcr.wrap := by
  obtain ⟨behind, near⟩ := ranged.anchored anchor known
  cases last : clock.lastRaw with
  | none =>
    rw [ranged.idle last] at known
    cases known
  | some previous =>
    rw [last] at heeded shifts
    have ordered := (follow_ordered heeded (ranged.small previous last)).1
    have most := follow_near_le heeded
    have gap : longestGap = 270000000 := rfl
    rw [shifts] at ordered most
    rw [reached, last, Option.getD_some] at behind near
    rw [wrap_eq] at *
    omega

/-- What a reference that is heeded adds to the time that was jumped over. -/
theorem Ranged.observe_near (ranged : Ranged count clock) {pcr : Nat}
    (heeded : follow clock.lastRaw (pcr % Pcr.wrap) ≠ .jitter) (offset : Nat) :
    (clock.observe pcr offset).1.AnchoredAt
        (pcr % Pcr.wrap + (clock.observe pcr offset).1.adjust) ∧
      (clock.observe pcr offset).1.skipped ≤ clock.skipped + Pcr.wrap := by
  rw [(observe_placed heeded offset).1.adjust]
  have ahead := fun anchor => @ranged.ahead clock count (pcr % Pcr.wrap) anchor _ heeded rfl
  cases judged : follow clock.lastRaw (pcr % Pcr.wrap) with
  | forward =>
    simp only [observe, judged]
    rw [judged] at ahead
    exact measure_ranged _ ahead
  | wrapped =>
    simp only [observe, judged]
    rw [judged] at ahead
    exact measure_ranged _ ahead
  | restarted back =>
    simp only [observe, judged]
    refine measure_ranged _ fun anchor own => ?_
    cases own
  | jitter => exact absurd judged heeded

/-- More references get a clock no less far. -/
theorem Ranged.more (ranged : Ranged count clock) : Ranged (count + 1) clock where
  small := ranged.small
  adjust := ranged.adjust.trans (Nat.mul_le_mul_right _ (Nat.le_succ _))
  skipped := ranged.skipped.trans (Nat.mul_le_mul_right _ (Nat.le_succ _))
  last last own := (ranged.last last own).trans_le (Nat.mul_le_mul_right _ (Nat.le_succ _))
  anchored := ranged.anchored
  idle := ranged.idle

/-- The step lemma. -/
theorem Ranged.observe (ranged : Ranged count clock) (pcr offset : Nat) :
    Ranged (count + 1) (clock.observe pcr offset).1 := by
  by_cases ignored : follow clock.lastRaw (pcr % Pcr.wrap) = .jitter
  · rw [observe_ignored ignored]
    obtain ⟨small, adjust, skipped, last, anchored, idle⟩ := ranged.more
    exact ⟨small, adjust, skipped, last, anchored, idle⟩
  · obtain ⟨placed, _⟩ := observe_placed ignored offset
    obtain ⟨anchored, skipped⟩ := ranged.observe_near ignored offset
    have fits : pcr % Pcr.wrap < Pcr.wrap := Nat.mod_lt _ (by rw [wrap_eq]; omega)
    have shift : (follow clock.lastRaw (pcr % Pcr.wrap)).shift ≤ Pcr.wrap := by
      cases last : clock.lastRaw with
      | none => exact Nat.zero_le _
      | some previous =>
        rw [last] at ignored
        exact (follow_ordered ignored (ranged.small previous last)).2
    have adjust : (clock.observe pcr offset).1.adjust ≤ (count + 1) * Pcr.wrap := by
      rw [placed.adjust, Nat.succ_mul]
      exact Nat.add_le_add ranged.adjust shift
    have reaches : (clock.observe pcr offset).1.reached =
        pcr % Pcr.wrap + (clock.observe pcr offset).1.adjust := by
      rw [reached, placed.lastRaw, Option.getD_some]
    have place : (clock.observe pcr offset).1.reached < (count + 1 + 1) * Pcr.wrap := by
      rw [reaches, Nat.succ_mul (count + 1), Nat.add_comm]
      exact Nat.add_lt_add_of_le_of_lt adjust fits
    refine ⟨?_, adjust, ?_, ?_, ?_, ?_⟩
    · intro raw own
      cases placed.lastRaw.symm.trans own
      exact fits
    · rw [Nat.succ_mul]
      exact skipped.trans (Nat.add_le_add_right ranged.skipped _)
    · intro last own
      cases placed.last.symm.trans own
      rw [← reaches]
      refine Nat.max_lt.mpr ⟨?_, place⟩
      cases before : clock.last with
      | none => exact place
      | some former =>
        exact (ranged.last former before).trans_le (Nat.mul_le_mul_right _ (Nat.le_succ _))
    · rw [reaches]
      exact anchored
    · intro idle
      rw [placed.lastRaw] at idle
      cases idle

theorem Heard.ranged (heard : Heard count clock) : Ranged count clock := by
  induction heard with
  | fresh smoothing => exact ⟨nofun, Nat.le_refl _, Nat.le_refl _, nofun, nofun, fun _ => rfl⟩
  | observed pcr offset before ih => exact ih.observe pcr offset
  | broken before ih => exact ⟨nofun, ih.adjust, ih.skipped, ih.last, nofun, fun _ => rfl⟩
  | framed stride before ih => exact ⟨ih.small, ih.adjust, ih.skipped, ih.last, ih.anchored, ih.idle⟩

/-- With seven million references all sums of a clock fit 64 bits. -/
theorem Heard.fits (heard : Heard count clock) (few : count ≤ 7000000) :
    clock.adjust < wordRange ∧ clock.skipped < wordRange ∧
      ∀ last, clock.last = some last → last < wordRange := by
  obtain ⟨_, adjust, skipped, last, _, _⟩ := heard.ranged
  have room : (count + 1) * Pcr.wrap < wordRange := by
    rw [wrap_eq, wordRange]
    omega
  have part : count * Pcr.wrap ≤ (count + 1) * Pcr.wrap := Nat.mul_le_mul_right _ (Nat.le_succ _)
  exact ⟨adjust.trans_lt (part.trans_lt room), skipped.trans_lt (part.trans_lt room),
    fun place own => (last place own).trans room⟩

end TransportStream.Clock
