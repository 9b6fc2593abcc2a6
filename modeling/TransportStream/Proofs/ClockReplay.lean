import TransportStream.Proofs.ClockRange

/-!
A clock that hears the same references again, as after a seek to where it began. It judges
every reference as it did before, and so adds its corrections, and the time that was jumped
over, a second time on top of the first: what it tells stays as it was exactly where there was
nothing to add.
-/
namespace TransportStream

/-- A point of a timeline, moved to one that runs so many ticks later. -/
def ClockAnchor.later (point : ClockAnchor) (ticks : Nat) : ClockAnchor :=
  { point with ticks := point.ticks + ticks }

namespace Clock

variable {origin clock echo : Clock} {raw pcr offset : Nat}

/-! ### The echo of a clock -/

/-- `Echoes origin clock echo`: the clock has heard references from the start, and its echo has
heard the same ones once `origin` was broken off, on a timeline that runs later by all that
`origin` had corrected. -/
structure Echoes (origin clock echo : Clock) : Prop where
  lastRaw : echo.lastRaw = clock.lastRaw
  adjust : echo.adjust = clock.adjust + origin.adjust
  anchor : echo.anchor = clock.anchor.map (·.later origin.adjust)
  skipped : echo.skipped = clock.skipped + origin.skipped
  first : echo.first = origin.first.or (clock.first.map (· + origin.adjust))
  last : echo.last = max origin.last (clock.last.map (· + origin.adjust))

/-- A clock that was broken off echoes one that has heard nothing. -/
theorem echoes_discontinuity (origin : Clock) (smoothing : Float) :
    Echoes origin { smoothing } origin.discontinuity where
  lastRaw := rfl
  adjust := (Nat.zero_add _).symm
  anchor := rfl
  skipped := (Nat.zero_add _).symm
  first := by simp [discontinuity]
  last := by simp [discontinuity]

/-- Between two points of a timeline there is the same time when both are moved. -/
theorem Echoes.measure (echoes : Echoes origin clock echo) (point : ClockAnchor) :
    Echoes origin (clock.measure point) (echo.measure (point.later origin.adjust)) := by
  obtain ⟨lastRaw, adjust, anchor, skipped, first, last⟩ := echoes
  unfold Clock.measure
  cases known : clock.anchor with
  | none =>
    rw [known] at anchor
    simp only [anchor, Option.map_none]
    exact ⟨lastRaw, adjust, rfl, skipped, first, last⟩
  | some former =>
    rw [known] at anchor
    have same : (point.later origin.adjust).ticks - (former.later origin.adjust).ticks =
        point.ticks - former.ticks := Nat.add_sub_add_right ..
    have moved : echo.anchor = clock.anchor.map (·.later origin.adjust) := by rw [known, anchor]
    have places : (former.later origin.adjust).offset < (point.later origin.adjust).offset ↔
        former.offset < point.offset := Iff.rfl
    simp only [anchor, Option.map_some, same, places]
    split
    · refine ⟨lastRaw, adjust, rfl, ?_, first, last⟩
      simp only [skipped]
      omega
    · split
      · exact ⟨lastRaw, adjust, rfl, skipped, first, last⟩
      · exact ⟨lastRaw, adjust, moved, skipped, first, last⟩

theorem Echoes.accept (echoes : Echoes origin clock echo) (raw offset : Nat) :
    Echoes origin (clock.accept raw offset).1 (echo.accept raw offset).1 := by
  obtain ⟨lastRaw, adjust, anchor, skipped, first, last⟩ := echoes
  have place : raw + echo.adjust = raw + clock.adjust + origin.adjust := by omega
  have point : (⟨raw + echo.adjust, offset⟩ : ClockAnchor) =
      (⟨raw + clock.adjust, offset⟩ : ClockAnchor).later origin.adjust := by
    rw [place]
    rfl
  unfold Clock.accept
  dsimp only
  rw [point]
  apply Echoes.measure
  refine ⟨rfl, adjust, anchor, skipped, ?_, ?_⟩
  · simp only [place, first]
    cases origin.first <;> cases clock.first <;> rfl
  · simp only [place, last]
    cases origin.last <;> cases clock.last <;> simp

/-- The step lemma: the echo judges a reference as the clock did. -/
theorem Echoes.observe (echoes : Echoes origin clock echo) (pcr offset : Nat) :
    Echoes origin (clock.observe pcr offset).1 (echo.observe pcr offset).1 := by
  obtain ⟨lastRaw, adjust, anchor, skipped, first, last⟩ := echoes
  have again : follow echo.lastRaw (pcr % Pcr.wrap) = follow clock.lastRaw (pcr % Pcr.wrap) := by
    rw [lastRaw]
  cases judged : follow clock.lastRaw (pcr % Pcr.wrap) with
  | forward =>
    simp only [Clock.observe, again, judged]
    exact Echoes.accept ⟨lastRaw, adjust, anchor, skipped, first, last⟩ _ _
  | wrapped =>
    simp only [Clock.observe, again, judged]
    apply Echoes.accept
    refine ⟨lastRaw, ?_, anchor, skipped, first, last⟩
    simp only [adjust]
    omega
  | restarted back =>
    simp only [Clock.observe, again, judged]
    apply Echoes.accept
    refine ⟨lastRaw, ?_, rfl, skipped, first, last⟩
    simp only [adjust]
    omega
  | jitter =>
    simp only [Clock.observe, again, judged]
    exact ⟨lastRaw, adjust, anchor, skipped, first, last⟩

/-- The run lemma. -/
theorem Echoes.observeAll (echoes : Echoes origin clock echo) (samples : List (Nat × Nat)) :
    Echoes origin (clock.observeAll samples).1 (echo.observeAll samples).1 := by
  induction samples generalizing clock echo with
  | nil => exact echoes
  | cons sample others ih => exact ih (echoes.observe sample.1 sample.2)

/-! ### What there is to add -/

/-- What a clock has to show for that it was never broken off: it has its first and last place
together, nothing counts before them, and as long as nothing was corrected, it is still in its
first wrap, and gaps are counted exactly if time was jumped over. -/
structure Continuous (clock : Clock) : Prop where
  placed : clock.first.isSome = clock.last.isSome
  idle : clock.last = none → clock.lastRaw = none ∧ clock.adjust = 0 ∧ clock.stats.gaps = 0
  near : clock.adjust = 0 → ∀ last, clock.last = some last → last < Pcr.wrap
  jumps : clock.adjust = 0 → (clock.stats.gaps = 0 ↔ clock.skipped = 0)

theorem continuous_start (smoothing : Float) : Continuous { smoothing } :=
  ⟨rfl, fun _ => ⟨rfl, rfl, rfl⟩, nofun, fun _ => Iff.rfl⟩

/-- A gap between two points is counted, and the time in it jumped over. -/
theorem measure_jumps (point : ClockAnchor)
    (jumps : clock.stats.gaps = 0 ↔ clock.skipped = 0) :
    (clock.measure point).stats.gaps = 0 ↔ (clock.measure point).skipped = 0 := by
  unfold measure
  split
  · exact jumps
  · dsimp only
    split
    · rename_i far
      refine iff_of_false (Nat.succ_ne_zero _) ?_
      dsimp only
      omega
    · split
      · exact jumps
      · exact jumps

/-- Nothing is corrected for a reference that goes on within its wrap, and only for such. -/
theorem forward_of_shift {previous : Option Nat}
    (heeded : follow previous raw ≠ .jitter) (unmoved : (follow previous raw).shift = 0) :
    follow previous raw = .forward := by
  cases judged : follow previous raw with
  | forward => rfl
  | wrapped =>
    rw [judged] at unmoved
    cases unmoved
  | restarted back =>
    have far : longestGap < back := by
      unfold follow at judged
      split at judged
      · cases judged
      · split at judged
        · split at judged
          · cases judged
          · split at judged
            · rename_i far
              cases judged
              exact far
            · cases judged
        · split at judged <;> cases judged
    rw [judged] at unmoved
    simp only [Follow.shift] at unmoved
    omega
  | jitter => exact absurd judged heeded

theorem Continuous.observe (continuous : Continuous clock) (pcr offset : Nat) :
    Continuous (clock.observe pcr offset).1 := by
  by_cases ignored : follow clock.lastRaw (pcr % Pcr.wrap) = .jitter
  · rw [observe_ignored ignored]
    exact ⟨continuous.placed, continuous.idle, continuous.near, continuous.jumps⟩
  · obtain ⟨placed, _⟩ := observe_placed ignored offset
    refine ⟨by rw [placed.first, placed.last]; rfl, ?_, ?_, ?_⟩
    · intro unheard
      rw [placed.last] at unheard
      cases unheard
    · intro unmoved last own
      have still : clock.adjust = 0 := by
        rw [placed.adjust] at unmoved
        omega
      have small : pcr % Pcr.wrap < Pcr.wrap := Nat.mod_lt _ (by rw [wrap_eq]; omega)
      cases placed.last.symm.trans own
      rw [unmoved, Nat.add_zero]
      refine Nat.max_lt.mpr ⟨?_, small⟩
      cases before : clock.last with
      | none => exact small
      | some former => exact continuous.near still former before
    · intro unmoved
      rw [placed.adjust] at unmoved
      have forward := forward_of_shift ignored (by omega)
      simp only [Clock.observe, forward]
      exact measure_jumps _ (continuous.jumps (by omega))

theorem Continuous.observeAll (continuous : Continuous clock) (samples : List (Nat × Nat)) :
    Continuous (clock.observeAll samples).1 := by
  induction samples generalizing clock with
  | nil => exact continuous
  | cons sample others ih => exact ih (continuous.observe sample.1 sample.2)

/-! ### The same references again -/

/-- What a clock tells is as another does. -/
structure Tells (clock other : Clock) : Prop where
  first : clock.first = other.first
  last : clock.last = other.last
  duration : clock.duration? = other.duration?

/-- In the first wrap, a duration fits 64 bits. -/
theorem duration?_of_near {first last : Nat} (begins : clock.first = some first)
    (ends : clock.last = some last) (near : last < Pcr.wrap) :
    clock.duration? = some (.ofNanos ((last - first - clock.skipped) * 1000 / 27)) := by
  have fits : (last - first - clock.skipped) * 1000 < wordRange := by
    rw [wrap_eq] at near
    rw [wordRange]
    omega
  rw [duration?, begins, ends]
  simp only [Nat.mod_eq_of_lt fits]

/-- A clock that stands where its corrections bring it once more, and counted what was jumped over
twice, tells the same exactly where neither made a difference. -/
theorem Continuous.tells_iff {twice : Clock} {earliest latest : Nat} (continuous : Continuous clock)
    (begins : clock.first = some earliest) (ends : clock.last = some latest)
    (first : twice.first = clock.first) (last : twice.last = some (latest + clock.adjust))
    (skipped : twice.skipped = clock.skipped + clock.skipped) :
    Tells twice clock ↔
      clock.adjust = 0 ∧ (clock.stats.gaps = 0 ∨ clock.duration? = some (.ofNanos 0)) := by
  have lasts : clock.adjust = 0 →
      clock.duration? = some (.ofNanos ((latest - earliest - clock.skipped) * 1000 / 27)) ∧
        twice.duration? = some (.ofNanos
          ((latest - earliest - (clock.skipped + clock.skipped)) * 1000 / 27)) := by
    intro unmoved
    have near := continuous.near unmoved latest ends
    rw [unmoved, Nat.add_zero] at last
    rw [← skipped]
    exact ⟨duration?_of_near begins ends near,
      duration?_of_near (first.trans begins) last near⟩
  constructor
  · rintro ⟨_, sameLast, sameDuration⟩
    rw [last, ends, Option.some.injEq] at sameLast
    have unmoved : clock.adjust = 0 := by omega
    obtain ⟨lasted, lastedAgain⟩ := lasts unmoved
    rw [lasted, lastedAgain, Option.some.injEq, Duration.ofNanos_inj] at sameDuration
    refine ⟨unmoved, ?_⟩
    rw [continuous.jumps unmoved, lasted, Option.some.injEq, Duration.ofNanos_inj]
    omega
  · rintro ⟨unmoved, uncounted⟩
    obtain ⟨lasted, lastedAgain⟩ := lasts unmoved
    rw [continuous.jumps unmoved, lasted, Option.some.injEq, Duration.ofNanos_inj] at uncounted
    refine ⟨first, by rw [last, ends, unmoved, Nat.add_zero], ?_⟩
    rw [lasted, lastedAgain, Option.some.injEq, Duration.ofNanos_inj]
    omega

/-- A clock broken off and given the same references again keeps its first place. Its last
place moves on by all that was corrected, and the time jumped over counts twice, so that it
tells what it told before exactly where nothing was corrected and no gap was counted or no time
had passed. All of it fits 64 bits while there are no more than three and a half million
references. -/
theorem heard_again (smoothing : Float) (samples : List (Nat × Nat)) :
    let once : Clock := (observeAll { smoothing } samples).1
    let twice : Clock := (once.discontinuity.observeAll samples).1
    twice.first = once.first ∧ twice.last = once.last.map (· + once.adjust) ∧
      twice.skipped = once.skipped + once.skipped ∧
      (Tells twice once ↔
        once.adjust = 0 ∧ (once.stats.gaps = 0 ∨ once.duration? = some (.ofNanos 0))) ∧
      (samples.length ≤ 3500000 → twice.adjust < wordRange ∧ twice.skipped < wordRange ∧
        ∀ last, twice.last = some last → last < wordRange) := by
  intro once twice
  have echoes : Echoes once once twice :=
    (echoes_discontinuity once smoothing).observeAll samples
  have continuous : Continuous once := (continuous_start smoothing).observeAll samples
  have first : twice.first = once.first := by
    rw [echoes.first]
    cases once.first <;> rfl
  have last : twice.last = once.last.map (· + once.adjust) := by
    rw [echoes.last]
    cases once.last <;> simp
  have heard : Heard (0 + samples.length + samples.length) twice :=
    ((Heard.fresh smoothing).observeAll samples).broken.observeAll samples
  refine ⟨first, last, echoes.skipped, ?_, fun few => heard.fits (by omega)⟩
  cases ends : once.last with
  | none =>
    obtain ⟨_, adjust, gaps⟩ := continuous.idle ends
    have silent : twice.last = none := by rw [last, ends, Option.map_none]
    refine iff_of_true ⟨first, silent.trans ends.symm, ?_⟩ ⟨adjust, .inl gaps⟩
    simp only [duration?, silent, ends]
  | some latest =>
    obtain ⟨earliest, begins⟩ : ∃ earliest, once.first = some earliest := by
      rw [← Option.isSome_iff_exists, continuous.placed, ends]
      rfl
    rw [ends, Option.map_some] at last
    exact continuous.tells_iff begins ends first last echoes.skipped

/-- Three references a second apart, within one wrap. Heard again, they last as long as
before. -/
theorem calm_heard_again :
    let samples := [(Pcr.frequency, 0), (2 * Pcr.frequency, 1000), (3 * Pcr.frequency, 2000)]
    let once : Clock := (observeAll { smoothing := 0.2 } samples).1
    let twice : Clock := (once.discontinuity.observeAll samples).1
    samples.length ≤ 3500000 ∧ once.stats.gaps = 0 ∧
      once.duration? = some (.ofNanos 2000000000) ∧ Tells twice once ∧ twice.adjust < wordRange := by
  intro samples once twice
  have few : samples.length ≤ 3500000 := by decide
  have adjust : once.adjust = 0 := by decide +kernel
  have gaps : once.stats.gaps = 0 := by decide +kernel
  obtain ⟨_, _, _, tells, fits⟩ := heard_again 0.2 samples
  refine ⟨few, gaps, by decide +kernel, tells.mpr ⟨adjust, .inl gaps⟩, ?_⟩
  dsimp only [twice, once]
  exact (fits few).1

/-- Two references two seconds apart, with the wrap between them. Heard again, they last a
whole wrap longer. -/
theorem wrap_heard_again :
    let samples := [(Pcr.wrap - Pcr.frequency, 0), (Pcr.frequency, 1000)]
    let once := (observeAll { smoothing := 0.2 } samples).1
    let twice := (once.discontinuity.observeAll samples).1
    (∀ sample ∈ samples, sample.1 < Pcr.wrap) ∧ samples.Pairwise (fun one two => one.2 < two.2) ∧
      once.last = some (Pcr.wrap + Pcr.frequency) ∧
      twice.last = some (2 * Pcr.wrap + Pcr.frequency) ∧
      once.duration? = some (.ofNanos 2000000000) ∧ ¬ Tells twice once := by
  intro samples once twice
  have last : once.last = some (Pcr.wrap + Pcr.frequency) := by decide +kernel
  have later : twice.last = some (2 * Pcr.wrap + Pcr.frequency) := by decide +kernel
  refine ⟨by decide, by decide, last, later, by decide +kernel, fun tells => ?_⟩
  have same := tells.last
  rw [last, later] at same
  exact absurd same (by decide)

end Clock

end TransportStream
