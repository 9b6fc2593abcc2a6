import TransportStream.Proofs.LossFlags

/-!
Reassembly on one buffer that outlives the units. Whether a unit is collected, how long it is and
what was lost before it stand beside the buffer, so whatever ends a unit has to clear what the
next one must not find. It does: without a unit the buffer is empty, the length is the one that
the buffered bytes declare, and all that comes out is what reassembly hands out.
-/
namespace TransportStream

/-- What reassembly is asked, but for a reset. -/
inductive PesCall where
  | feed (input : PesInput)
  /-- The input ends, and may go on. -/
  | finish
  deriving DecidableEq, Repr

/-- Whether a call starts a unit. -/
def PesCall.isStart : PesCall → Bool
  | .feed (.payload _ unitStart _ _) => unitStart
  | .feed .gap | .finish => false

namespace PesReassembler

/-- What a call does, and the packets that come out. -/
def call (reassembler : PesReassembler) : PesCall → PesReassembler × List PesPacket
  | .feed input => reassembler.feed input
  | .finish => (reassembler.flushEnd.1, reassembler.flushEnd.2.toList)

/-- Calls in turn. -/
def callAll (reassembler : PesReassembler) : List PesCall → PesReassembler × List PesPacket
  | [] => (reassembler, [])
  | call :: calls =>
    let (reassembler, packets) := reassembler.call call
    let (reassembler, later) := reassembler.callAll calls
    (reassembler, packets ++ later)

end PesReassembler

/-! ### The buffer -/

/-- Whether a unit is collected, or the last one was given up. -/
inductive PesStage where
  | idle
  | collecting
  | skipping
  deriving DecidableEq, Repr

/-- Reassembly of one PID with a buffer. What stands beside the buffer tells of the unit in
progress, or is left of the last one. -/
structure BufferedPes where
  pid : Nat
  bufferLimit : Nat
  buffer : Bytes := []
  stage : PesStage := .idle
  expected : Option Nat := none
  lengthKnown : Bool := false
  discontinuity : Bool := false
  pendingDiscontinuity : Bool := false
  randomAccess : Bool := false
  offset : Nat := 0
  overflows : Nat := 0
  dropped : Nat := 0
  invalid : Nat := 0
  deriving DecidableEq, Repr

namespace BufferedPes

/-- Forgets the unit in progress and both flags. -/
def reset (buffered : BufferedPes) : BufferedPes :=
  { buffered with
    buffer := [], stage := .idle, expected := none, lengthKnown := false
    discontinuity := false, pendingDiscontinuity := false }

/-- Starts a unit, which takes over the pending flag. -/
def start (buffered : BufferedPes) (randomAccess : Bool) (offset : Nat) : BufferedPes :=
  { buffered with
    buffer := [], stage := .collecting, expected := none, lengthKnown := false
    discontinuity := buffered.pendingDiscontinuity, pendingDiscontinuity := false
    randomAccess, offset }

/-- Gives up the unit in progress. -/
def drop (buffered : BufferedPes) : BufferedPes :=
  { buffered with
    buffer := [], stage := .skipping, dropped := buffered.dropped + 1
    pendingDiscontinuity := buffered.pendingDiscontinuity || buffered.discontinuity }

/-- Takes the buffer for a whole unit. -/
def close (buffered : BufferedPes) : BufferedPes × Option PesPacket :=
  let emptied := { buffered with buffer := [], stage := .idle }
  match PesHeader.parse buffered.buffer with
  | .error _ =>
    ({ emptied with
      invalid := buffered.invalid + 1
      pendingDiscontinuity := buffered.pendingDiscontinuity || buffered.discontinuity }, none)
  | .ok header =>
    if header.streamId = PesHeader.paddingId then (emptied, none)
    else
      ({ emptied with discontinuity := false }, some {
        header
        payload := buffered.buffer.drop header.size
        discontinuity := buffered.discontinuity
        randomAccess := buffered.randomAccess
        offset := buffered.offset })

/-- Reads the length once its field is in the buffer. None if no PES packet starts there. -/
def measure (buffered : BufferedPes) : Option BufferedPes :=
  if buffered.lengthKnown then some buffered
  else
    match buffered.buffer with
    | first :: second :: third :: _ :: high :: low :: _ =>
      if first == 0 && second == 0 && third == 1 then
        let length := high.toNat * 256 + low.toNat
        some { buffered with
          lengthKnown := true
          expected := if length = 0 then none else some (PesHeader.fixedSize + length) }
      else none
    | _ => some buffered

/-- Adds a payload to the unit in progress, which may end with it. -/
def fill (buffered : BufferedPes) (payload : Bytes) : BufferedPes × Option PesPacket :=
  if buffered.bufferLimit < buffered.buffer.length + payload.length then
    ({ buffered with
      buffer := [], stage := .skipping, pendingDiscontinuity := true
      overflows := buffered.overflows + 1 }, none)
  else
    let filled := { buffered with buffer := buffered.buffer ++ payload }
    match filled.measure with
    | none =>
      ({ filled with buffer := [], stage := .skipping, invalid := filled.invalid + 1 }, none)
    | some measured =>
      match measured.expected with
      | none => (measured, none)
      | some total =>
        if total ≤ measured.buffer.length then
          close { measured with buffer := measured.buffer.take total }
        else (measured, none)

/-- Whether the unit in progress ends where the next one starts. -/
def isOpen (buffered : BufferedPes) : Bool := buffered.lengthKnown && buffered.expected.isNone

/-- Ends whatever is in progress. -/
def endUnit (buffered : BufferedPes) : BufferedPes × Option PesPacket :=
  if buffered.stage = .collecting then
    if buffered.isOpen then buffered.close else (buffered.drop, none)
  else (buffered, none)

/-- Takes one payload and returns the packets it ends. -/
def push (buffered : BufferedPes) (payload : Bytes) (unitStart randomAccess : Bool)
    (offset : Nat) : BufferedPes × List PesPacket :=
  if unitStart then
    let (buffered, before) := buffered.endUnit
    let (buffered, now) := (buffered.start randomAccess offset).fill payload
    (buffered, before.toList ++ now.toList)
  else if buffered.stage = .collecting then
    let (buffered, now) := buffered.fill payload
    (buffered, now.toList)
  else (buffered, [])

/-- Data was lost on this PID. -/
def markDiscontinuity (buffered : BufferedPes) : BufferedPes :=
  if buffered.stage = .collecting then
    if buffered.isOpen then { buffered with discontinuity := true }
    else { buffered.drop with pendingDiscontinuity := true }
  else { buffered with pendingDiscontinuity := true }

/-- The input ended. -/
def flushEnd (buffered : BufferedPes) : BufferedPes × Option PesPacket :=
  let (buffered, last) := buffered.endUnit
  (buffered.reset, last)

/-- What a call does, and the packets that come out. -/
def call (buffered : BufferedPes) : PesCall → BufferedPes × List PesPacket
  | .feed (.payload data unitStart randomAccess offset) =>
    buffered.push data unitStart randomAccess offset
  | .feed .gap => (buffered.markDiscontinuity, [])
  | .finish => (buffered.flushEnd.1, buffered.flushEnd.2.toList)

/-- Calls in turn. -/
def callAll (buffered : BufferedPes) : List PesCall → BufferedPes × List PesPacket
  | [] => (buffered, [])
  | call :: calls =>
    let (buffered, packets) := buffered.call call
    let (buffered, later) := buffered.callAll calls
    (buffered, packets ++ later)

/-! ### What the buffer stands for -/

variable {buffered : BufferedPes}

/-- The unit that the buffer and what stands beside it make up. -/
def unit (buffered : BufferedPes) : PesUnit :=
  { bytes := buffered.buffer
    discontinuity := buffered.discontinuity
    randomAccess := buffered.randomAccess
    offset := buffered.offset }

/-- Where reassembly stands. What is left of a unit that ended does not show. -/
def phase (buffered : BufferedPes) : PesPhase :=
  match buffered.stage with
  | .idle => .idle
  | .collecting => .collecting buffered.unit
  | .skipping => .skipping

/-- The reassembler that this is one of. -/
def reassembler (buffered : BufferedPes) : PesReassembler :=
  { pid := buffered.pid
    bufferLimit := buffered.bufferLimit
    phase := buffered.phase
    pendingDiscontinuity := buffered.pendingDiscontinuity
    overflows := buffered.overflows
    dropped := buffered.dropped
    invalid := buffered.invalid }

theorem phase_collecting (collecting : buffered.stage = .collecting) :
    buffered.reassembler.phase = .collecting buffered.unit := by
  simp [reassembler, phase, collecting]

theorem collecting_of_phase {unit : PesUnit}
    (stands : buffered.reassembler.phase = .collecting unit) : buffered.stage = .collecting := by
  cases stage : buffered.stage <;> simp [reassembler, phase, stage] at stands
  rfl

/-- Whether the length of a unit is known, and the length if it has one. -/
def declared : PesUnit.Extent → Bool × Option Nat
  | .undetermined => (false, none)
  | .unbounded => (true, none)
  | .bounded total => (true, some total)

theorem declared_unread {extent : PesUnit.Extent} {total : Option Nat}
    (unread : declared extent = (false, total)) : total = none := by
  cases extent <;> cases unread
  rfl

theorem declared_bounded {extent : PesUnit.Extent} {known : Bool} {total : Nat}
    (bounded : declared extent = (known, some total)) : extent = .bounded total := by
  cases extent <;> cases bounded
  rfl

/-- What holds between calls. Without a unit in progress the buffer is empty; otherwise what is
known of its length is what the bytes in the buffer declare. -/
structure Cleared (buffered : BufferedPes) : Prop where
  empty : buffered.stage ≠ .collecting → buffered.buffer = []
  code : buffered.stage = .collecting → PesUnit.hasStartCode buffered.buffer = true
  known : buffered.stage = .collecting →
    declared (PesUnit.extentOf buffered.buffer) = (buffered.lengthKnown, buffered.expected)

/-- `Follows result target`: the buffered reassembler that a step leaves stands for the one that it
should, and the step hands out the same. -/
structure Follows {α : Type} (result : BufferedPes × α) (target : PesReassembler × α) : Prop where
  cleared : result.1.Cleared
  same : result.1.reassembler = target.1
  handed : result.2 = target.2

theorem fresh_cleared (pid bufferLimit : Nat) : Cleared { pid, bufferLimit } :=
  ⟨fun _ => rfl, nofun, nofun⟩

theorem start_cleared (buffered : BufferedPes) (randomAccess : Bool) (offset : Nat) :
    (buffered.start randomAccess offset).Cleared :=
  ⟨fun waiting => absurd rfl waiting, fun _ => rfl, fun _ => rfl⟩

theorem Cleared.of_waiting (waiting : buffered.stage ≠ .collecting)
    (empty : buffered.buffer = []) : buffered.Cleared :=
  ⟨fun _ => empty, fun collecting => absurd collecting waiting,
    fun collecting => absurd collecting waiting⟩

/-- A unit has no end of its own exactly if its bytes declare none. -/
theorem Cleared.isOpen_eq (cleared : buffered.Cleared) (collecting : buffered.stage = .collecting) :
    buffered.isOpen = decide (PesUnit.extentOf buffered.buffer = .unbounded) := by
  have known := cleared.known collecting
  obtain ⟨read, total⟩ := Prod.mk.inj known
  rw [isOpen, ← read, ← total]
  cases PesUnit.extentOf buffered.buffer <;> rfl

theorem close_follows (buffered : BufferedPes) :
    Follows buffered.close (buffered.reassembler.close buffered.unit) := by
  unfold close PesReassembler.close
  have read : PesHeader.parse buffered.unit.bytes = PesHeader.parse buffered.buffer := rfl
  rw [read]
  cases PesHeader.parse buffered.buffer with
  | error fault => exact ⟨.of_waiting nofun rfl, rfl, rfl⟩
  | ok header =>
    dsimp only
    split
    · exact ⟨.of_waiting nofun rfl, rfl, rfl⟩
    · exact ⟨.of_waiting nofun rfl, rfl, rfl⟩

theorem drop_follows (buffered : BufferedPes) :
    Follows (buffered.drop, (none : Option PesPacket))
      (buffered.reassembler.drop buffered.unit, none) :=
  ⟨.of_waiting nofun rfl, rfl, rfl⟩

/-- The length is read when its field arrives, and not again. -/
theorem measure_eq (cleared : buffered.Cleared) (collecting : buffered.stage = .collecting)
    (payload : Bytes) :
    let bytes := buffered.buffer ++ payload
    measure { buffered with buffer := bytes } =
      if PesUnit.hasStartCode bytes then
        some { buffered with
          buffer := bytes
          lengthKnown := (declared (PesUnit.extentOf bytes)).1
          expected := (declared (PesUnit.extentOf bytes)).2 }
      else none := by
  intro bytes
  have known := cleared.known collecting
  cases read : buffered.lengthKnown with
  | true =>
    have determined : PesUnit.extentOf buffered.buffer ≠ .undetermined := by
      intro undetermined
      rw [undetermined, read] at known
      cases known
    obtain ⟨extent, code⟩ := PesUnit.append_of_determined determined payload
    rw [code, cleared.code collecting, extent, known]
    simp [measure, read]
  | false =>
    -- the length field was not there before, so no length is expected yet
    have unread : buffered.expected = none := by
      rw [read] at known
      exact declared_unread known
    generalize bytes = all
    match all with
    | first :: second :: third :: _ :: high :: low :: _ =>
      simp only [measure, PesUnit.hasStartCode, PesUnit.extentOf]
      by_cases unbounded : high.toNat * 256 + low.toNat = 0
      · simp only [unbounded, if_true]
        rfl
      · simp only [unbounded, if_false]
        rfl
    | [] | [_] | [_, _] | [_, _, _] | [_, _, _, _] | [_, _, _, _, _] =>
      simp [measure, unread, PesUnit.hasStartCode, PesUnit.extentOf, declared]

/-- A unit goes on being collected, with the length that its bytes declare. -/
theorem collecting_follows (collecting : buffered.stage = .collecting) {bytes : Bytes}
    (code : PesUnit.hasStartCode bytes = true) :
    Follows
      ({ buffered with
        buffer := bytes
        lengthKnown := (declared (PesUnit.extentOf bytes)).1
        expected := (declared (PesUnit.extentOf bytes)).2 }, (none : Option PesPacket))
      ({ buffered.reassembler with phase := .collecting { buffered.unit with bytes } }, none) where
  cleared := ⟨fun waiting => absurd collecting waiting, fun _ => code, fun _ => rfl⟩
  same := by simp [reassembler, phase, unit, collecting]
  handed := rfl

theorem fill_follows (cleared : buffered.Cleared) (collecting : buffered.stage = .collecting)
    (payload : Bytes) :
    Follows (buffered.fill payload) (buffered.reassembler.extend buffered.unit payload) := by
  have whole : buffered.unit.bytes ++ payload = buffered.buffer ++ payload := rfl
  have limit : buffered.reassembler.bufferLimit = buffered.bufferLimit := rfl
  have measured := measure_eq cleared collecting payload
  unfold fill PesReassembler.extend
  simp only [whole, limit, List.length_append] at measured ⊢
  by_cases overflow : buffered.bufferLimit < buffered.buffer.length + payload.length
  · simp only [if_pos overflow]
    exact ⟨.of_waiting nofun rfl, rfl, rfl⟩
  · simp only [if_neg overflow]
    cases code : PesUnit.hasStartCode (buffered.buffer ++ payload) with
    | false =>
      simp only [measured, code]
      exact ⟨.of_waiting nofun rfl, rfl, rfl⟩
    | true =>
      have collects := collecting_follows collecting code
      simp only [measured, code, if_true]
      cases extent : PesUnit.extentOf (buffered.buffer ++ payload) with
      | undetermined =>
        rw [extent] at collects
        exact collects
      | unbounded =>
        rw [extent] at collects
        exact collects
      | bounded total =>
        rw [extent] at collects
        simp only [declared, List.length_append]
        by_cases short : buffered.buffer.length + payload.length < total
        · rw [if_pos short, if_neg (Nat.not_le.mpr short)]
          exact collects
        · rw [if_neg short, if_pos (Nat.not_lt.mp short)]
          exact close_follows _

theorem endUnit_follows (cleared : buffered.Cleared) :
    Follows buffered.endUnit buffered.reassembler.finishAny := by
  unfold endUnit PesReassembler.finishAny
  by_cases collecting : buffered.stage = .collecting
  · have extent : buffered.unit.extent = PesUnit.extentOf buffered.buffer := rfl
    simp only [if_pos collecting, phase_collecting collecting, cleared.isOpen_eq collecting,
      PesReassembler.finishUnit, extent]
    cases PesUnit.extentOf buffered.buffer with
    | undetermined => exact drop_follows buffered
    | unbounded => exact close_follows buffered
    | bounded total => exact drop_follows buffered
  · rw [if_neg collecting]
    split
    · exact absurd (collecting_of_phase ‹_›) collecting
    · exact ⟨cleared, rfl, rfl⟩
    · exact ⟨cleared, rfl, rfl⟩

theorem push_follows (cleared : buffered.Cleared) (payload : Bytes)
    (unitStart randomAccess : Bool) (offset : Nat) :
    Follows (buffered.push payload unitStart randomAccess offset)
      (buffered.reassembler.push payload unitStart randomAccess offset) := by
  unfold push PesReassembler.push
  cases unitStart with
  | true =>
    have ended := endUnit_follows cleared
    let begun := buffered.endUnit.1.start randomAccess offset
    have now : Follows (begun.fill payload) (begun.reassembler.extend begun.unit payload) :=
      fill_follows (start_cleared _ randomAccess offset) rfl payload
    have same : begun.reassembler.extend begun.unit payload =
        (buffered.reassembler.finishAny.1.start randomAccess offset).1.extend
          (buffered.reassembler.finishAny.1.start randomAccess offset).2 payload := by
      rw [← ended.same]
      rfl
    rw [same] at now
    simp only [if_true]
    exact ⟨now.cleared, now.same, by rw [ended.handed, now.handed]⟩
  | false =>
    simp only [Bool.false_eq_true, if_false]
    by_cases collecting : buffered.stage = .collecting
    · simp only [if_pos collecting, phase_collecting collecting]
      have now := fill_follows cleared collecting payload
      exact ⟨now.cleared, now.same, congrArg Option.toList now.handed⟩
    · rw [if_neg collecting]
      split
      · exact absurd (collecting_of_phase ‹_›) collecting
      · exact ⟨cleared, rfl, rfl⟩
      · exact ⟨cleared, rfl, rfl⟩

theorem markDiscontinuity_follows (cleared : buffered.Cleared) :
    Follows (buffered.markDiscontinuity, ([] : List PesPacket))
      (buffered.reassembler.markDiscontinuity, []) := by
  unfold markDiscontinuity PesReassembler.markDiscontinuity
  by_cases collecting : buffered.stage = .collecting
  · have extent : buffered.unit.extent = PesUnit.extentOf buffered.buffer := rfl
    simp only [if_pos collecting, phase_collecting collecting, cleared.isOpen_eq collecting, extent]
    cases PesUnit.extentOf buffered.buffer with
    | undetermined => exact ⟨.of_waiting nofun rfl, rfl, rfl⟩
    | unbounded =>
      refine ⟨⟨cleared.empty, cleared.code, cleared.known⟩, ?_, rfl⟩
      simp [reassembler, phase, unit, collecting]
    | bounded total => exact ⟨.of_waiting nofun rfl, rfl, rfl⟩
  · rw [if_neg collecting]
    split
    · exact absurd (collecting_of_phase ‹_›) collecting
    · exact ⟨⟨cleared.empty, cleared.code, cleared.known⟩, rfl, rfl⟩
    · exact ⟨⟨cleared.empty, cleared.code, cleared.known⟩, rfl, rfl⟩

theorem call_follows (cleared : buffered.Cleared) (call : PesCall) :
    Follows (buffered.call call) (buffered.reassembler.call call) := by
  match call with
  | .feed (.payload data unitStart randomAccess offset) =>
    exact push_follows cleared data unitStart randomAccess offset
  | .feed .gap => exact markDiscontinuity_follows cleared
  | .finish =>
    have ended := endUnit_follows cleared
    exact ⟨.of_waiting nofun rfl, congrArg PesReassembler.reset ended.same,
      congrArg Option.toList ended.handed⟩

theorem callAll_follows (cleared : buffered.Cleared) (calls : List PesCall) :
    Follows (buffered.callAll calls) (buffered.reassembler.callAll calls) := by
  induction calls generalizing buffered with
  | nil => exact ⟨cleared, rfl, rfl⟩
  | cons call calls ih =>
    have now := call_follows cleared call
    have later := ih now.cleared
    rw [now.same] at later
    exact ⟨later.cleared, later.same, congr (congrArg _ now.handed) later.handed⟩

end BufferedPes

end TransportStream
