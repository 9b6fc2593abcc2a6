import Mathlib.Data.List.Chain
import TransportStream.Output

/-!
Timestamps against true presentation times. Times are whole ticks on an endless 90 kHz
timeline, of which a stream carries only the value modulo the wrap. Neighbouring times less
than half a wrap apart are told apart, forwards and backwards and across any number of wraps.
But the unwrapped timeline begins at zero: a time below it is taken for the one a wrap later,
and so are all times after it.
-/
namespace TransportStream

namespace PtsUnwrapper

/-- What a stream carries of a time. -/
def stampOf (time : Int) : Nat := (time % Timestamp.wrap).toNat

/-- How many wraps a time lies below zero, each begun one counted. -/
def wrapsBelow (time : Int) : Nat := (-(time / Timestamp.wrap)).toNat

/-- The wraps added to times from this one on: enough for no time so far to lie below zero. -/
def lift (lifted : Nat) (time : Int) : Nat := max lifted (wrapsBelow time)

/-- The places of times on the unwrapped timeline. -/
def placesFrom (lifted : Nat) : List Int → List Int
  | [] => []
  | time :: others =>
    (time + lift lifted time * Timestamp.wrap) :: placesFrom (lift lifted time) others

/-- Times that are not below zero are in their own places. -/
theorem placesFrom_eq_self {times : List Int} (above : ∀ time ∈ times, 0 ≤ time) :
    placesFrom 0 times = times := by
  induction times with
  | nil => rfl
  | cons time others ih =>
    have none : wrapsBelow time = 0 := by
      have := above time List.mem_cons_self
      simp only [wrapsBelow, Timestamp.wrap]
      omega
    simp [placesFrom, lift, none, ih fun other member => above other (by simp [member])]

theorem stampOf_lt (time : Int) : stampOf time < Timestamp.wrap := by
  simp only [stampOf, Timestamp.wrap]
  omega

theorem stampOf_lifted (time : Int) (lifted : Nat) :
    stampOf (time + lifted * Timestamp.wrap) = stampOf time := by
  rw [stampOf, Int.add_mul_emod_self_right, stampOf]

/-- A target less than half a wrap away is found, or the one a wrap later if it lies below
zero. -/
theorem adjustTo_near {place adjust : Nat} {target : Int}
    (near : (target - place).natAbs < Timestamp.wrap / 2)
    (judged : adjustTo (place / Timestamp.wrap * Timestamp.wrap) (stampOf target) place = adjust) :
    ((stampOf target + adjust : Nat) : Int) =
        (if 0 ≤ target then target else target + Timestamp.wrap) ∧
      adjust = (stampOf target + adjust) / Timestamp.wrap * Timestamp.wrap := by
  unfold adjustTo at judged
  dsimp only at judged
  -- one wrap up, one wrap down, or none: which it is follows from the distance alone
  split at judged
  · simp only [stampOf, Timestamp.wrap] at *
    omega
  · split at judged
    · simp only [stampOf, Timestamp.wrap] at *
      omega
    · simp only [stampOf, Timestamp.wrap] at *
      omega

/-- A time that, raised so far, lies less than half a wrap below zero needs one wrap more. -/
theorem lift_near {lifted : Nat} {time : Int}
    (near : -(Timestamp.wrap / 2 : Nat) < time + lifted * Timestamp.wrap) :
    time + lift lifted time * Timestamp.wrap =
      if 0 ≤ time + lifted * Timestamp.wrap then time + lifted * Timestamp.wrap
      else time + lifted * Timestamp.wrap + Timestamp.wrap := by
  simp only [lift, wrapsBelow, Timestamp.wrap] at *
  omega

/-- The unwrapper stands at a place of its timeline. -/
structure At (unwrapper : PtsUnwrapper) (reference : Option Nat) (place : Nat) : Prop where
  reference : unwrapper.last.or reference = some place
  adjust : unwrapper.adjust = place / Timestamp.wrap * Timestamp.wrap

/-- The next time is found from the place of the one before it. -/
theorem At.unwrap {unwrapper : PtsUnwrapper} {reference : Option Nat} {place lifted : Nat}
    {previous time : Int} (here : unwrapper.At reference place)
    (lies : (place : Int) = previous + lifted * Timestamp.wrap)
    (near : (time - previous).natAbs < Timestamp.wrap / 2) :
    ∃ next found, unwrapper.unwrap (stampOf time) reference = (next, found) ∧
      next.At reference found ∧ (found : Int) = time + lift lifted time * Timestamp.wrap := by
  obtain ⟨stands, adjusted⟩ := here
  let target := time + lifted * Timestamp.wrap
  have apart : (target - place).natAbs < Timestamp.wrap / 2 := by
    rw [lies, show target - (previous + lifted * Timestamp.wrap) = time - previous by
      simp only [target]; omega]
    exact near
  obtain ⟨found, whole⟩ := adjustTo_near apart rfl
  have above : -(Timestamp.wrap / 2 : Nat) < target := by omega
  rw [← lift_near above] at found
  rw [stampOf_lifted] at found whole
  refine ⟨_, _, rfl, ?_, ?_⟩
  · refine ⟨rfl, ?_⟩
    simp only [stands, adjusted]
    exact whole
  · simp only [stands, adjusted]
    exact found

end PtsUnwrapper

namespace Output

open PtsUnwrapper (stampOf placesFrom)

/-- A PES packet to deliver, the clock reference known then, and the true time at which its
unit is to be presented, which its timestamp carries. -/
structure Presentation where
  packet : PesPacket
  firstPcr : Option Nat
  time : Int
  stamped : packet.header.pts = some (stampOf time)

/-- Delivers packets in turn. -/
def deliverAll (output : Output) : List Presentation → Output × List AccessUnit
  | [] => (output, [])
  | presentation :: others =>
    let (output, unit) := output.deliver presentation.packet presentation.firstPcr
    let (output, units) := output.deliverAll others
    (output, unit.toList ++ units)

/-- The time of a unit after the time base; none is before it. The product of ticks and
microseconds has 64 bits. -/
def sinceBase (base : Nat) (place : Int) : Duration :=
  .ofMicros ((max 0 (place - base)).toNat * 1000000 % wordRange / Timestamp.frequency)

theorem timeAfter_eq (base place : Nat) : timeAfter (some base) place = sinceBase base place := by
  have span : (max 0 ((place : Int) - base)).toNat = place - base := by omega
  rw [timeAfter, sinceBase, span, Option.getD_some]

/-- Neighbouring times lie less than half a wrap apart. -/
def Close (previous next : Int) : Prop := (next - previous).natAbs < Timestamp.wrap / 2

instance : DecidableRel Close := fun _ _ => inferInstanceAs (Decidable (_ < _))

/-- An output that stands at a time of its stream, raised by so many wraps. -/
structure Shows (output : Output) (base lifted : Nat) (time : Int) : Prop where
  running : output.ended = false
  stands : ∃ place : Nat, output.unwrapper.At (some base) place ∧
    (place : Int) = time + lifted * Timestamp.wrap

/-- The step lemma: the next unit gets the time of its place, and the output stands there. -/
theorem Shows.deliver {output : Output} {base lifted : Nat} {previous : Int}
    {presentation : Presentation} (showing : output.Shows base lifted previous)
    (based : output.baseFor presentation.firstPcr presentation.packet.header.pts = some base)
    (close : Close previous presentation.time) :
    ∃ unit, (output.deliver presentation.packet presentation.firstPcr).2 = some unit ∧
      unit.timestamp = some (sinceBase base (presentation.time +
        PtsUnwrapper.lift lifted presentation.time * Timestamp.wrap)) ∧
      (output.deliver presentation.packet presentation.firstPcr).1.timeBase = some base ∧
      (output.deliver presentation.packet presentation.firstPcr).1.Shows base
        (PtsUnwrapper.lift lifted presentation.time) presentation.time := by
  obtain ⟨running, place, here, lies⟩ := showing
  obtain ⟨unwrapper, found, unwrapped, there, place⟩ := here.unwrap lies close
  rw [presentation.stamped] at based
  simp only [Output.deliver, running, Bool.false_eq_true, if_false, presentation.stamped, based,
    Option.map_some, unwrapped, Option.getD_some]
  refine ⟨_, rfl, ?_, trivial, ⟨rfl, found, there, place⟩⟩
  rw [timeAfter_eq, place]

/-- The run lemma: every unit gets the time of its place. -/
theorem Shows.deliverAll {output : Output} {base lifted : Nat} {previous : Int}
    {presentations : List Presentation} (showing : output.Shows base lifted previous)
    (based : ∀ next ∈ presentations.head?,
      output.baseFor next.firstPcr next.packet.header.pts = some base)
    (close : List.IsChain Close (previous :: presentations.map Presentation.time)) :
    (output.deliverAll presentations).2.map AccessUnit.timestamp =
      (placesFrom lifted (presentations.map Presentation.time)).map
        (fun place => some (sinceBase base place)) := by
  induction presentations generalizing output lifted previous with
  | nil => rfl
  | cons presentation others ih =>
    obtain ⟨near, close⟩ := List.isChain_cons_cons.mp close
    obtain ⟨unit, given, time, kept, showing⟩ := showing.deliver (based presentation rfl) near
    -- the base is set by now, and later packets do not move it
    have stays : ∀ next ∈ others.head?,
        (output.deliver presentation.packet presentation.firstPcr).1.baseFor next.firstPcr
          next.packet.header.pts = some base := by
      intro next _
      rw [baseFor, kept, Option.some_or]
    simp only [Output.deliverAll, given, Option.toList_some, List.cons_append, List.nil_append,
      List.map_cons, time, placesFrom, ih showing stays close]

/-- An output that has made no unit yet. -/
structure Unused (output : Output) : Prop where
  unbased : output.timeBase = none
  unwrapper : output.unwrapper = {}
  running : output.ended = false

/-- Before its first unit an output stands at its time base. -/
theorem Unused.shows {output : Output} {base : Nat} (unused : output.Unused)
    (small : base < Timestamp.wrap) : output.Shows base 0 base := by
  refine ⟨unused.running, base, ⟨?_, ?_⟩, by simp⟩
  · simp [unused.unwrapper]
  · rw [unused.unwrapper, Nat.div_eq_of_lt small, Nat.zero_mul]

/-- Timestamps follow the timeline of presentation. From its first unit on, which sets the
time base, an output gives every unit the time of its place after the base. Where no time is
below zero, that is its true time after the base. -/
theorem deliverAll_timestamps {output : Output} {base : Nat} {first : Presentation}
    {others : List Presentation} (unused : output.Unused)
    (based : output.baseFor first.firstPcr first.packet.header.pts = some base)
    (small : base < Timestamp.wrap)
    (close : List.IsChain Close (base :: (first :: others).map Presentation.time)) :
    (output.deliverAll (first :: others)).2.map AccessUnit.timestamp =
        (placesFrom 0 ((first :: others).map Presentation.time)).map
          (fun place => some (sinceBase base place)) ∧
      ((∀ presentation ∈ first :: others, 0 ≤ presentation.time) →
        (output.deliverAll (first :: others)).2.map AccessUnit.timestamp =
          (first :: others).map (fun presentation => some (sinceBase base presentation.time))) := by
  have opening : ∀ next ∈ (first :: others).head?,
      output.baseFor next.firstPcr next.packet.header.pts = some base := by simpa using based
  have placed := (unused.shows small).deliverAll opening close
  refine ⟨placed, fun above => ?_⟩
  rw [placed, PtsUnwrapper.placesFrom_eq_self (by simpa using above), List.map_map]
  rfl

/-- A PES packet that carries only the timestamp of a time. -/
def Presentation.stampedAt (time : Int) (firstPcr : Option Nat) : Presentation where
  packet := {
    header := {
      streamId := 0xE0, packetLength := 0, dataAlignment := false, pts := some (stampOf time)
      dts := none, size := 14 }
    payload := []
    discontinuity := false
    randomAccess := false
    offset := 0 }
  firstPcr
  time
  stamped := rfl

/-- The output of a video stream, before its first unit. -/
def videoOutput : Output where
  info := { pid := 0x101, program := 1, streamType := .h264, pcrPid := 0x101, ecmPids := [] }
  sink := 0

/-- The clock starts a second before the wrap; one unit is shown half a second after that, one
two seconds, and the last a second and a half before. -/
theorem units_across_wrap_timed :
    let first : Presentation :=
      .stampedAt (Timestamp.wrap - 45000) (some ((Timestamp.wrap - 90000) * 300))
    let others : List Presentation :=
      [.stampedAt (Timestamp.wrap + 90000) none, .stampedAt (Timestamp.wrap - 225000) none]
    videoOutput.Unused ∧
      videoOutput.baseFor first.firstPcr first.packet.header.pts =
        some (Timestamp.wrap - 90000) ∧
      (videoOutput.deliverAll (first :: others)).2.map AccessUnit.timestamp =
        [some ⟨0, 500000000⟩, some ⟨2, 0⟩, some ⟨0, 0⟩] := by
  intro first others
  have unused : videoOutput.Unused := ⟨rfl, rfl, rfl⟩
  have based : videoOutput.baseFor first.firstPcr first.packet.header.pts =
      some (Timestamp.wrap - 90000) := by decide
  have close : List.IsChain Close ((Timestamp.wrap - 90000 : Nat) ::
      (first :: others).map Presentation.time) := by decide
  have timed := (deliverAll_timestamps unused based (by decide) close).2 (by decide)
  exact ⟨unused, based, timed.trans (by decide)⟩

/-- The clock starts ten ticks after the wrap, and the first unit is to be shown fifteen ticks
before that: it gets a time of more than a day. -/
theorem unit_below_zero_mistimed :
    videoOutput.baseFor (some 3000) (some (stampOf (-5))) = some 10 ∧ Close 10 (-5) ∧
      (videoOutput.deliverAll [.stampedAt (-5) (some 3000)]).2.map AccessUnit.timestamp ≠
        [some (sinceBase 10 (-5))] ∧
      (videoOutput.deliverAll [.stampedAt (-5) (some 3000)]).2.map AccessUnit.timestamp =
        [some ⟨95443, 717522000⟩] := by
  decide

end Output

end TransportStream
