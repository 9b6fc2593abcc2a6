import TransportStream.Packet.Pcr
import TransportStream.Proofs.PresentationTimes

/-!
How large the numbers grow that are computed for a timestamp. An arbitrary timestamp moves the
unwrapped timeline up by no more than half a wrap. So the product of ticks and microseconds has
64 bits for the first 4293 timestamps of an output, and it leaves them before any of the sums
does. Timestamps that climb as fast as they can reach that point with the next one.
-/
namespace TransportStream

namespace PtsUnwrapper

/-- The sums that are formed to put a timestamp on the timeline. -/
def sums (unwrapper : PtsUnwrapper) (pts : Nat) (reference : Option Nat) : List Nat :=
  let judged := (unwrapper.last.or reference).toList.flatMap fun reference =>
    [pts + unwrapper.adjust, pts + unwrapper.adjust + Timestamp.wrap / 2,
      reference + Timestamp.wrap / 2]
  let (next, place) := unwrapper.unwrap pts reference
  judged ++ [next.adjust, place]

/-- Wherever the timeline stands, the next place is at most half a wrap above, or within the
first wrap. -/
theorem adjustTo_le (place : Nat) {pts : Nat} (stamped : pts < Timestamp.wrap) :
    let adjust := adjustTo (place / Timestamp.wrap * Timestamp.wrap) pts place
    pts + adjust ≤ max (Timestamp.wrap - 1) (place + Timestamp.wrap / 2) ∧
      adjust = (pts + adjust) / Timestamp.wrap * Timestamp.wrap := by
  unfold adjustTo
  dsimp only
  split
  · simp only [Timestamp.wrap] at *
    omega
  · split
    · simp only [Timestamp.wrap] at *
      omega
    · simp only [Timestamp.wrap] at *
      omega

/-- The step lemma of the timeline: how far an arbitrary timestamp moves it, and how large its
sums are. -/
theorem At.advance {unwrapper : PtsUnwrapper} {reference : Option Nat} {place pts : Nat}
    (here : unwrapper.At reference place) (stamped : pts < Timestamp.wrap) :
    ∃ next found, unwrapper.unwrap pts reference = (next, found) ∧ next.At reference found ∧
      found ≤ max (Timestamp.wrap - 1) (place + Timestamp.wrap / 2) ∧
      ∀ sum ∈ unwrapper.sums pts reference, sum ≤ place + 2 * Timestamp.wrap := by
  obtain ⟨stands, adjusted⟩ := here
  obtain ⟨near, whole⟩ := adjustTo_le place stamped
  have placed : unwrapper.adjust ≤ place := by
    rw [adjusted]
    exact Nat.div_mul_le_self ..
  refine ⟨_, _, rfl, ⟨rfl, ?_⟩, ?_, ?_⟩
  · simpa only [stands, adjusted] using whole
  · simpa only [stands, adjusted] using near
  · simp only [sums, PtsUnwrapper.unwrap, stands, Option.toList_some,
      List.flatMap_singleton, List.forall_mem_append, List.forall_mem_cons, List.not_mem_nil,
      false_implies, implies_true, and_true]
    rw [← adjusted] at near
    simp only [Timestamp.wrap] at *
    omega

end PtsUnwrapper

namespace Output

open Timestamp (wrap)

/-- What an output computes for a timestamp: the sums of unwrapping it, and its ticks after the
time base. -/
structure Figures where
  sums : List Nat
  ticks : Nat

namespace Figures

def product (figures : Figures) : Nat := figures.ticks * 1000000

/-- Nothing that is computed has more than 64 bits. -/
structure Fit (figures : Figures) : Prop where
  sums : ∀ sum ∈ figures.sums, sum < wordRange
  product : figures.product < wordRange

/-- The ticks as a time. -/
def time (figures : Figures) : Duration :=
  .ofMicros (figures.product / Timestamp.frequency)

/-- The ticks as a time where the product has 64 bits. -/
def shown (figures : Figures) : Duration :=
  .ofMicros (figures.product % wordRange / Timestamp.frequency)

/-- What is lost of a product shows in the time. -/
theorem shown_eq_time_iff {figures : Figures} :
    figures.shown = figures.time ↔ figures.product < wordRange := by
  simp only [shown, time, Duration.ofMicros, Duration.ofNanos_inj, wordRange,
    Timestamp.frequency]
  omega

end Figures

/-- A PES packet to deliver, and the clock reference known then. -/
structure Delivery where
  packet : PesPacket
  firstPcr : Option Nat
  stamped : ∀ pts ∈ packet.header.pts, pts < wrap
  clocked : ∀ ticks ∈ firstPcr, ticks < Pcr.wrap

/-- The output after a delivery. -/
def after (output : Output) (delivery : Delivery) : Output :=
  (output.deliver delivery.packet delivery.firstPcr).1

/-- What a running output computes for the timestamp of a packet, if it has one. -/
def figures? (output : Output) (delivery : Delivery) : Option Figures :=
  delivery.packet.header.pts.map fun pts =>
    let timeBase := output.baseFor delivery.firstPcr delivery.packet.header.pts
    let place := (output.unwrapper.unwrap pts timeBase).2
    { sums := output.unwrapper.sums pts timeBase, ticks := place - timeBase.getD place }

/-- What is computed for the timestamps of packets delivered in turn. -/
def figuresAll (output : Output) : List Delivery → List Figures
  | [] => []
  | delivery :: others =>
    (output.figures? delivery).toList ++ (output.after delivery).figuresAll others

theorem figuresAll_cons {output : Output} {delivery : Delivery} {figures : Figures}
    (computed : output.figures? delivery = some figures) (others : List Delivery) :
    output.figuresAll (delivery :: others) =
      figures :: (output.after delivery).figuresAll others := by
  rw [figuresAll, computed, Option.toList_some, List.singleton_append]

theorem figuresAll_skip {output : Output} {delivery : Delivery}
    (silent : output.figures? delivery = none) (others : List Delivery) :
    output.figuresAll (delivery :: others) = (output.after delivery).figuresAll others := by
  rw [figuresAll, silent, Option.toList_none, List.nil_append]

/-- The times of the units of packets delivered in turn. -/
def timesAll (output : Output) : List Delivery → List Duration
  | [] => []
  | delivery :: others =>
    ((output.deliver delivery.packet delivery.firstPcr).2.bind AccessUnit.timestamp).toList ++
      (output.after delivery).timesAll others

theorem after_ended {output : Output} {delivery : Delivery} :
    (output.after delivery).ended = output.ended := by
  unfold after deliver
  split <;> rfl

/-- The times of the units are those of the figures, as far as 64 bits hold them. -/
theorem timesAll_eq {output : Output} (running : output.ended = false)
    (deliveries : List Delivery) :
    output.timesAll deliveries = (output.figuresAll deliveries).map Figures.shown := by
  induction deliveries generalizing output with
  | nil => rfl
  | cons delivery others ih =>
    have one : (output.deliver delivery.packet delivery.firstPcr).2.bind AccessUnit.timestamp =
        (output.figures? delivery).map Figures.shown := by
      simp only [deliver, running, Bool.false_eq_true, if_false, Option.bind_some, figures?,
        Option.map_map]
      rfl
    rw [timesAll, figuresAll, one, ih (after_ended.trans running), List.map_append,
      Option.toList_map]

/-- The times of the units are right just if no product leaves its range. -/
theorem timesAll_eq_time_iff {output : Output} (running : output.ended = false)
    (deliveries : List Delivery) :
    output.timesAll deliveries = (output.figuresAll deliveries).map Figures.time ↔
      ∀ figures ∈ output.figuresAll deliveries, figures.product < wordRange := by
  rw [timesAll_eq running, List.map_inj_left]
  exact forall₂_congr fun _ _ => Figures.shown_eq_time_iff

/-! ### The timeline of an output -/

/-- A running output that has a time base and stands at a place of its timeline. -/
structure Stands (output : Output) (base place : Nat) : Prop where
  running : output.ended = false
  based : output.timeBase = some base
  placed : output.unwrapper.At (some base) place

/-- A packet without a timestamp leaves the output where it stands. -/
theorem Stands.unstamped {output : Output} {base place : Nat} {delivery : Delivery}
    (standing : output.Stands base place) (plain : delivery.packet.header.pts = none) :
    output.figures? delivery = none ∧ (output.after delivery).Stands base place := by
  refine ⟨by rw [figures?, plain, Option.map_none], ?_⟩
  simp only [after, deliver, standing.running, Bool.false_eq_true, if_false, plain, baseFor,
    standing.based, Option.some_or]
  exact ⟨rfl, rfl, standing.placed⟩

/-- A packet with a timestamp moves the output to the place that its timestamp gets. -/
theorem Stands.placed_at {output : Output} {base place pts found : Nat} {delivery : Delivery}
    {next : PtsUnwrapper} (standing : output.Stands base place)
    (carried : delivery.packet.header.pts = some pts)
    (unwrapped : output.unwrapper.unwrap pts (some base) = (next, found))
    (there : next.At (some base) found) :
    output.figures? delivery = some ⟨output.unwrapper.sums pts (some base), found - base⟩ ∧
      (output.after delivery).Stands base found := by
  have based : output.baseFor delivery.firstPcr (some pts) = some base := by
    rw [baseFor, standing.based, Option.some_or]
  constructor
  · simp only [figures?, carried, based, Option.map_some, unwrapped, Option.getD_some]
  · simp only [after, deliver, standing.running, Bool.false_eq_true, if_false, carried, based,
      Option.map_some, unwrapped, Option.getD_some]
    exact ⟨rfl, rfl, there⟩

/-- The step lemma: an arbitrary timestamp moves the output up by at most half a wrap, and its
sums are near the place from which it is judged. -/
theorem Stands.stamped {output : Output} {base place pts : Nat} {delivery : Delivery}
    (standing : output.Stands base place) (carried : delivery.packet.header.pts = some pts) :
    ∃ figures found, output.figures? delivery = some figures ∧
      (output.after delivery).Stands base found ∧
      found ≤ max (wrap - 1) (place + wrap / 2) ∧ figures.ticks = found - base ∧
      ∀ sum ∈ figures.sums, sum ≤ place + 2 * wrap := by
  obtain ⟨next, found, unwrapped, there, near, small⟩ :=
    standing.placed.advance (delivery.stamped pts carried)
  obtain ⟨computed, moved⟩ := standing.placed_at carried unwrapped there
  exact ⟨_, found, computed, moved, near, rfl, small⟩

/-- The first delivery that can sets a time base within the first wrap. -/
theorem baseFor_lt {output : Output} {delivery : Delivery} {base : Nat}
    (unbased : output.timeBase = none)
    (set : output.baseFor delivery.firstPcr delivery.packet.header.pts = some base) :
    base < wrap := by
  rw [baseFor, unbased, Option.none_or, Option.or_eq_some_iff, Option.map_eq_some_iff] at set
  obtain ⟨ticks, known, rfl⟩ | ⟨-, carried⟩ := set
  · exact (Nat.div_lt_iff_lt_mul (by decide)).mpr (delivery.clocked ticks known)
  · exact delivery.stamped base carried

/-- A packet that sets the time base finds the output as if it had been set before. -/
theorem figuresAll_based {output : Output} {delivery : Delivery} {base : Nat}
    (running : output.ended = false)
    (set : output.baseFor delivery.firstPcr delivery.packet.header.pts = some base)
    (others : List Delivery) :
    output.figuresAll (delivery :: others) =
      { output with timeBase := some base }.figuresAll (delivery :: others) := by
  rw [baseFor] at set
  simp only [figuresAll, figures?, after, deliver, running, baseFor, set, Option.some_or,
    Bool.false_eq_true, if_false]

/-- What is computed begins, if at all, where the output stands at its new time base. -/
theorem Unused.figuresAll {output : Output} (unused : output.Unused)
    (deliveries : List Delivery) :
    output.figuresAll deliveries = [] ∨
      ∃ (opened : Output) (base : Nat) (rest : List Delivery), opened.Stands base base ∧
        base < wrap ∧ output.figuresAll deliveries = opened.figuresAll rest := by
  induction deliveries generalizing output with
  | nil => exact .inl rfl
  | cons delivery others ih =>
    cases set : output.baseFor delivery.firstPcr delivery.packet.header.pts with
    | none =>
      -- no timestamp and no clock reference yet: the output stays as it is
      have plain : delivery.packet.header.pts = none := by
        simp only [baseFor, Option.or_eq_none_iff] at set
        exact set.2.2
      have still : (output.after delivery).Unused := by
        simp only [after, deliver, unused.running, Bool.false_eq_true, if_false, plain]
        exact ⟨plain ▸ set, unused.unwrapper, rfl⟩
      have silent : output.figures? delivery = none := by rw [figures?, plain, Option.map_none]
      rw [figuresAll_skip silent]
      exact ih still
    | some base =>
      have small : base < wrap := baseFor_lt unused.unbased set
      refine .inr ⟨{ output with timeBase := some base }, base, delivery :: others,
        ⟨unused.running, rfl, ?_, ?_⟩, small, figuresAll_based unused.running set others⟩
      · rw [unused.unwrapper, Option.none_or]
      · rw [unused.unwrapper, Nat.div_eq_of_lt small, Nat.zero_mul]

/-! ### Runs -/

/-- The run lemma of the ticks: they grow by at most half a wrap with each timestamp. -/
theorem Stands.ticks_le {output : Output} {base place count index : Nat}
    {deliveries : List Delivery} {figures : Figures} (standing : output.Stands base place)
    (low : place + wrap / 2 ≤ base + (wrap - 1) + count * (wrap / 2))
    (found : (output.figuresAll deliveries)[index]? = some figures) :
    figures.ticks ≤ wrap - 1 + (count + index) * (wrap / 2) := by
  induction deliveries generalizing output place count index with
  | nil => cases found
  | cons delivery others ih =>
    cases carried : delivery.packet.header.pts with
    | none =>
      obtain ⟨silent, stays⟩ := standing.unstamped carried
      rw [figuresAll_skip silent] at found
      exact ih stays low found
    | some pts =>
      obtain ⟨first, next, computed, moved, near, ticks, -⟩ := standing.stamped carried
      rw [figuresAll_cons computed] at found
      -- the bound is on what the next timestamp can reach, so it holds from the first one on
      have raised : next + wrap / 2 ≤ base + (wrap - 1) + (count + 1) * (wrap / 2) := by
        simp only [wrap] at *
        omega
      cases index with
      | zero =>
        obtain rfl := Option.some.inj found
        simp only [wrap] at *
        omega
      | succ index =>
        have := ih moved raised found
        rwa [Nat.add_right_comm, Nat.add_assoc] at this

/-- The run lemma of the sums: while the products have 64 bits, so have the sums, those of the
next timestamp included. -/
theorem Stands.sums_lt {output : Output} {base place count : Nat} {deliveries : List Delivery}
    (standing : output.Stands base place) (small : base < wrap)
    (reached : (place - base) * 1000000 < wordRange)
    (products : ∀ figures ∈ (output.figuresAll deliveries).take count,
      figures.product < wordRange) :
    ∀ figures ∈ (output.figuresAll deliveries).take (count + 1),
      ∀ sum ∈ figures.sums, sum < wordRange := by
  induction deliveries generalizing output place count with
  | nil => simp [figuresAll]
  | cons delivery others ih =>
    cases carried : delivery.packet.header.pts with
    | none =>
      obtain ⟨silent, stays⟩ := standing.unstamped carried
      rw [figuresAll_skip silent] at products ⊢
      exact ih stays reached products
    | some pts =>
      obtain ⟨first, next, computed, moved, -, ticks, sums⟩ := standing.stamped carried
      rw [figuresAll_cons computed] at products ⊢
      rw [List.take_succ_cons, List.forall_mem_cons]
      constructor
      · -- its sums are near the place before it, whose product fits
        intro sum member
        have := sums sum member
        simp only [wrap, wordRange] at *
        omega
      · cases count with
        | zero => simp
        | succ count =>
          rw [List.take_succ_cons, List.forall_mem_cons] at products
          obtain ⟨product, products⟩ := products
          rw [Figures.product, ticks] at product
          exact ih moved product products

/-- The ticks of the timestamps of an output, counted from zero. -/
theorem Unused.ticks_le {output : Output} {deliveries : List Delivery} {index : Nat}
    {figures : Figures} (unused : output.Unused)
    (found : (output.figuresAll deliveries)[index]? = some figures) :
    figures.ticks ≤ wrap - 1 + index * (wrap / 2) := by
  obtain none | ⟨opened, base, rest, standing, -, same⟩ := unused.figuresAll deliveries
  · rw [none] at found
    cases found
  · rw [same] at found
    have low : base + wrap / 2 ≤ base + (wrap - 1) + 0 * (wrap / 2) := by
      simp only [wrap]
      omega
    simpa only [Nat.zero_add] using standing.ticks_le low found

/-- No sum of an output leaves its range before a product does. -/
theorem Unused.sums_lt {output : Output} {deliveries : List Delivery} {count : Nat}
    (unused : output.Unused)
    (products : ∀ figures ∈ (output.figuresAll deliveries).take count,
      figures.product < wordRange) :
    ∀ figures ∈ (output.figuresAll deliveries).take (count + 1),
      ∀ sum ∈ figures.sums, sum < wordRange := by
  obtain none | ⟨opened, base, rest, standing, small, same⟩ := unused.figuresAll deliveries
  · simp [none]
  · rw [same] at products ⊢
    exact standing.sums_lt small (by simp [wordRange]) products

/-! ### A steep climb -/

/-- A PES packet that carries only the timestamp of a time, of a stream whose clock began at
zero. -/
def Delivery.stampedAt (time : Nat) : Delivery where
  packet := (Presentation.stampedAt time none).packet
  firstPcr := some 0
  stamped := by
    rintro _ ⟨⟩
    exact PtsUnwrapper.stampOf_lt time
  clocked := by
    rintro _ ⟨⟩
    decide

/-- Packets whose timestamps each lie just less than half a wrap above the one before. -/
def climb (place : Nat) : Nat → List Delivery
  | 0 => []
  | count + 1 =>
    .stampedAt (place + (wrap / 2 - 1)) :: climb (place + (wrap / 2 - 1)) count

theorem climb_length (place count : Nat) : (climb place count).length = count := by
  induction count generalizing place with
  | zero => rfl
  | succ count ih => rw [climb, List.length_cons, ih]

/-- The step lemma of a climb: each of its packets is taken for what it is. -/
theorem Stands.climbs {output : Output} {base place : Nat} (standing : output.Stands base place) :
    let delivery := Delivery.stampedAt (place + (wrap / 2 - 1))
    (∃ sums, output.figures? delivery = some ⟨sums, place + (wrap / 2 - 1) - base⟩) ∧
      (output.after delivery).Stands base (place + (wrap / 2 - 1)) := by
  let time : Int := (place + (wrap / 2 - 1) : Nat)
  have lies : (place : Int) = place + (0 : Nat) * wrap := by simp
  have near : (time - place).natAbs < wrap / 2 := by
    simp only [time, wrap]
    omega
  obtain ⟨next, found, unwrapped, there, raised⟩ := standing.placed.unwrap lies near
  obtain rfl : found = place + (wrap / 2 - 1) := by
    simp only [time, PtsUnwrapper.lift, PtsUnwrapper.wrapsBelow, wrap] at *
    omega
  have carried : (Delivery.stampedAt (place + (wrap / 2 - 1))).packet.header.pts =
      some (PtsUnwrapper.stampOf time) := rfl
  obtain ⟨computed, moved⟩ := standing.placed_at carried unwrapped there
  exact ⟨⟨_, computed⟩, moved⟩

/-- The run lemma of a climb: its last ticks. -/
theorem Stands.climb_ticks {output : Output} {base place : Nat}
    (standing : output.Stands base place) (count : Nat) :
    ∃ figures, (output.figuresAll (climb place (count + 1)))[count]? = some figures ∧
      figures.ticks = place + (count + 1) * (wrap / 2 - 1) - base := by
  induction count generalizing output place with
  | zero =>
    obtain ⟨⟨sums, computed⟩, -⟩ := standing.climbs
    refine ⟨⟨sums, _⟩, ?_, rfl⟩
    rw [climb, figuresAll_cons computed, List.getElem?_cons_zero, Nat.zero_add, Nat.one_mul]
  | succ count ih =>
    obtain ⟨⟨sums, computed⟩, moved⟩ := standing.climbs
    obtain ⟨figures, found, ticks⟩ := ih moved
    refine ⟨figures, ?_, ?_⟩
    · rw [climb, figuresAll_cons computed, List.getElem?_cons_succ]
      exact found
    · rw [ticks]
      simp only [wrap]
      omega

/-- The numbers computed for the timestamps of an output, whatever packets are delivered. The
ticks grow by at most half a wrap with each timestamp, so everything fits 64 bits for the first
4293. A product is the first to leave its range, never a sum; and the units get the times of their
ticks just as long as none does. -/
theorem timestamps_in_range {output : Output} (unused : output.Unused)
    (deliveries : List Delivery) :
    (∀ index figures, (output.figuresAll deliveries)[index]? = some figures →
      figures.ticks ≤ wrap - 1 + index * (wrap / 2)) ∧
    (∀ figures ∈ (output.figuresAll deliveries).take 4293, figures.Fit) ∧
    (∀ count,
      (∀ figures ∈ (output.figuresAll deliveries).take count,
        figures.product < wordRange) →
      ∀ figures ∈ (output.figuresAll deliveries).take (count + 1),
        ∀ sum ∈ figures.sums, sum < wordRange) ∧
    (output.timesAll deliveries = (output.figuresAll deliveries).map Figures.time ↔
      ∀ figures ∈ output.figuresAll deliveries, figures.product < wordRange) := by
  have products : ∀ figures ∈ (output.figuresAll deliveries).take 4293,
      figures.product < wordRange := by
    intro figures member
    obtain ⟨index, early, found⟩ := List.mem_take_iff_getElem.mp member
    have := unused.ticks_le (List.getElem?_eq_some_iff.mpr ⟨by omega, found⟩)
    simp only [Figures.product, wordRange, wrap] at *
    omega
  refine ⟨fun index figures found => unused.ticks_le found, fun figures member => ?_,
    fun count => unused.sums_lt, timesAll_eq_time_iff unused.running deliveries⟩
  have next : figures ∈ (output.figuresAll deliveries).take (4293 + 1) :=
    (List.take_subset_take_left _ (Nat.le_succ 4293)) member
  exact ⟨unused.sums_lt products figures next, products figures member⟩

/-- Three units that climb fit, and get the times of their ticks. -/
theorem short_climb_timed :
    let deliveries := Delivery.stampedAt (wrap - 1) :: climb (wrap - 1) 2
    videoOutput.Unused ∧ (∀ figures ∈ videoOutput.figuresAll deliveries, figures.Fit) ∧
      videoOutput.timesAll deliveries =
        [⟨95443, 717677000⟩, ⟨143165, 576511000⟩, ⟨190887, 435344000⟩] := by
  intro deliveries
  have unused : videoOutput.Unused := ⟨rfl, rfl, rfl⟩
  obtain ⟨-, fit, -, timed⟩ := timestamps_in_range unused deliveries
  have all : ∀ figures ∈ videoOutput.figuresAll deliveries, figures.Fit := fit
  exact ⟨unused, all, (timed.mpr fun figures member => (all figures member).product).trans
    (by decide)⟩

/-- The first unit just before the wrap, and 4293 that climb from there: the last product leaves
its range, and the times are not those of the ticks. -/
theorem long_climb_mistimed :
    let deliveries := Delivery.stampedAt (wrap - 1) :: climb (wrap - 1) 4293
    videoOutput.Unused ∧ deliveries.length = 4294 ∧
      (∃ figures, (videoOutput.figuresAll deliveries)[4293]? = some figures ∧
        wordRange ≤ figures.product) ∧
      videoOutput.timesAll deliveries ≠ (videoOutput.figuresAll deliveries).map Figures.time := by
  intro deliveries
  have standing : (videoOutput.after (.stampedAt (wrap - 1))).Stands 0 (wrap - 1) :=
    ⟨by decide, by decide, by decide, by decide⟩
  obtain ⟨figures, found, ticks⟩ := standing.climb_ticks 4292
  have last : (videoOutput.figuresAll deliveries)[4293]? = some figures := by
    obtain ⟨first, computed⟩ :
        ∃ first, videoOutput.figures? (.stampedAt (wrap - 1)) = some first := ⟨_, rfl⟩
    rw [figuresAll_cons computed, List.getElem?_cons_succ]
    exact found
  have large : wordRange ≤ figures.product := by
    rw [Figures.product, ticks]
    decide
  refine ⟨⟨rfl, rfl, rfl⟩, ?_, ⟨figures, last, large⟩, fun same => ?_⟩
  · rw [List.length_cons, climb_length]
  · have small := (timesAll_eq_time_iff rfl deliveries).mp same figures
      (List.mem_of_getElem? last)
    omega

end Output

end TransportStream
