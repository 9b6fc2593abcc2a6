import TransportStream.Duration
import TransportStream.Packet.Pcr
import TransportStream.Packet.Stride

/-!
The program clock. References are unwrapped into a 27 MHz timeline that never runs back;
references at least 10 ms apart give a byte rate, which is smoothed. Durations, and the
mapping between time and stream offsets, follow from it and are estimates.
-/
namespace TransportStream

/-- What became of the references seen. -/
structure ClockStats where
  samples : Nat := 0
  wraps : Nat := 0
  /-- Small steps back, ignored. -/
  jitter : Nat := 0
  /-- Jumps of more than ten seconds either way, taken as restarts. -/
  gaps : Nat := 0
  deriving DecidableEq, Repr

/-- A clock reference on the timeline and its place in the stream. -/
structure ClockAnchor where
  ticks : Nat
  offset : Nat
  deriving DecidableEq, Repr

/-- The state of a program clock. `adjust` is added to a reference to put it on the
timeline, the next byte rate is measured from `anchor`, and `skipped` is the time jumped
over, which no duration counts. They are counted without end, but it takes millions of
references to bring any of them to 64 bits. -/
structure Clock where
  first : Option Nat := none
  firstOffset : Nat := 0
  lastRaw : Option Nat := none
  last : Option Nat := none
  lastOffset : Nat := 0
  adjust : Nat := 0
  anchor : Option ClockAnchor := none
  skipped : Nat := 0
  bitrate : Option Float := none
  smoothing : Float
  stride : Nat := packetSize
  stats : ClockStats := {}

namespace Clock

/-- The shortest interval that gives a byte rate: 10 ms. -/
def shortestInterval : Nat := Pcr.frequency / 100

/-- The longest step that is still the same clock: ten seconds. -/
def longestGap : Nat := Pcr.frequency * 10

/-- How a reference follows the one before it. -/
inductive Follow where
  | forward
  | wrapped
  /-- A step back of this many ticks by which the clock started over. -/
  | restarted (back : Nat)
  | jitter
  deriving DecidableEq, Repr

/-- Judges a reference by the one before it, both as they were sent. -/
def follow (previous : Option Nat) (raw : Nat) : Follow :=
  match previous with
  | none => .forward
  | some previous =>
    if raw < previous then
      if Pcr.wrap / 2 < previous - raw then .wrapped
      else if longestGap < previous - raw then .restarted (previous - raw)
      else .jitter
    else if Pcr.wrap / 2 < raw - previous then .jitter
    else .forward

/-- A byte rate from one interval: bytes times frequency over ticks. -/
def rate (bytes ticks : Nat) : Float :=
  bytes.toUInt64.toFloat * Pcr.frequency.toUInt64.toFloat / ticks.toUInt64.toFloat

/-- Takes a measured byte rate into the smoothed one. -/
def smooth (smoothing : Float) (previous : Option Float) (sample : Float) : Float :=
  match previous with
  | none => sample
  | some previous => previous + smoothing * (sample - previous)

/-- Measures from the anchor to a point on the timeline. -/
def measure (clock : Clock) (point : ClockAnchor) : Clock :=
  match clock.anchor with
  | none => { clock with anchor := some point }
  | some anchor =>
    let elapsed := point.ticks - anchor.ticks
    if longestGap < elapsed then
      { clock with
        stats := { clock.stats with gaps := clock.stats.gaps + 1 }
        skipped := clock.skipped + elapsed
        anchor := some point }
    else if shortestInterval ≤ elapsed ∧ anchor.offset < point.offset then
      let sample := rate (point.offset - anchor.offset) elapsed
      { clock with
        bitrate := some (smooth clock.smoothing clock.bitrate sample)
        anchor := some point }
    else clock

/-- Puts an accepted reference on the timeline. -/
def accept (clock : Clock) (raw offset : Nat) : Clock × Option Nat :=
  let ticks := raw + clock.adjust
  let clock := { clock with
    lastRaw := some raw
    stats := { clock.stats with samples := clock.stats.samples + 1 }
    firstOffset := if clock.first.isNone then offset else clock.firstOffset
    first := some (clock.first.getD ticks)
    last := some (max (clock.last.getD ticks) ticks)
    lastOffset := max clock.lastOffset offset }
  (clock.measure ⟨ticks, offset⟩, some ticks)

/-- Takes the reference of the packet at `offset`. Returns its place on the timeline, or
nothing if it was ignored as jitter. A clock that started over continues from its last
value. -/
def observe (clock : Clock) (pcr offset : Nat) : Clock × Option Nat :=
  let raw := pcr % Pcr.wrap
  match follow clock.lastRaw raw with
  | .forward => clock.accept raw offset
  | .wrapped =>
    let clock := { clock with
      adjust := clock.adjust + Pcr.wrap
      stats := { clock.stats with wraps := clock.stats.wraps + 1 } }
    clock.accept raw offset
  | .restarted back =>
    let clock := { clock with
      adjust := clock.adjust + back
      anchor := none
      stats := { clock.stats with gaps := clock.stats.gaps + 1 } }
    clock.accept raw offset
  | .jitter =>
    ({ clock with stats := { clock.stats with jitter := clock.stats.jitter + 1 } }, none)

/-- Starts a new interval with the next reference, whatever it is. -/
def discontinuity (clock : Clock) : Clock := { clock with anchor := none, lastRaw := none }

/-- The time between the first and the last reference, without what was jumped over. Of the
product, what does not fit 64 bits is lost. -/
def duration? (clock : Clock) : Option Duration :=
  match clock.last, clock.first with
  | some last, some first =>
    some (Duration.ofNanos ((last - first - clock.skipped) * 1000 % wordRange / 27))
  | _, _ => none

/-- The estimated time of a stream offset. -/
def timeForOffset? (clock : Clock) (offset : Nat) : Option Duration :=
  clock.bitrate.bind fun bitrate =>
    Duration.ofSeconds? ((offset - clock.firstOffset).toUInt64.toFloat / bitrate)

/-- The estimated offset of a time, down to a packet's start. None without a byte rate
and for times beyond any 64-bit offset. -/
def offsetForTime? (clock : Clock) (time : Duration) : Option Nat :=
  clock.bitrate.bind fun bitrate =>
    let bytes := time.toSeconds * bitrate
    if !Decimal.isFinite bytes || 18446744073709551616.0 ≤ bytes then none
    else
      let offset := clock.firstOffset + bytes.toUInt64.toNat
      if offset < wordRange then some (offset - offset % clock.stride) else none

end Clock

end TransportStream
