import TransportStream.Proofs.Fragments
import TransportStream.Proofs.Provenance
import TransportStream.Proofs.UnitEndings

/-!
What follows the declared end of a PES packet in its last payload. It is cut off and changes
nothing, unless the payload with it outgrows the buffer: how much is buffered is looked at before
the end of the packet is, and then the packet is lost.
-/
namespace TransportStream

/-- A PES packet whose length field tells its own length. -/
structure SizedPes (bytes : Bytes) : Prop where
  code : PesUnit.hasStartCode bytes = true
  declared : PesUnit.extentOf bytes = .bounded bytes.length

/-- A part of a PES packet as a payload brings it. -/
structure PesFragment where
  data : Bytes
  randomAccess : Bool
  offset : Nat
  deriving DecidableEq, Repr

namespace PesFragment

/-- The fragment as the first payload of a packet, or as one behind it. -/
def input (fragment : PesFragment) (unitStart : Bool) : PesInput :=
  .payload fragment.data unitStart fragment.randomAccess fragment.offset

/-- The fragments of one packet: only the first starts it. -/
def inputs : List PesFragment → List PesInput
  | [] => []
  | first :: others => first.input true :: others.map (fun fragment => fragment.input false)

/-- The bytes of fragments. -/
def joined (fragments : List PesFragment) : Bytes := fragments.flatMap PesFragment.data

end PesFragment

namespace PesUnit

variable {front back bytes : Bytes}

/-- Nothing behind a packet changes what it declares. -/
theorem declared_append (sized : SizedPes bytes) (more : Bytes) :
    hasStartCode (bytes ++ more) = true ∧ extentOf (bytes ++ more) = .bounded bytes.length := by
  obtain ⟨code, declared⟩ := sized
  have determined : extentOf bytes ≠ .undetermined := by simp [declared]
  obtain ⟨extent, start⟩ := append_of_determined determined more
  exact ⟨start.trans code, extent.trans declared⟩

end PesUnit

namespace PesReassembler

variable {reassembler : PesReassembler} {unit : PesUnit} {arrived payload rest surplus : Bytes}
variable {limit : Nat}

/-- Reassembly in the middle of a unit, of which these bytes have arrived. -/
def amid (reassembler : PesReassembler) (unit : PesUnit) (arrived : Bytes) : PesReassembler :=
  { reassembler with phase := .collecting { unit with bytes := arrived } }

/-! ### One payload -/

/-- Before its end, a packet that fits the buffer stays in progress. -/
theorem extend_part (sized : SizedPes (arrived ++ payload ++ rest)) (more : rest ≠ [])
    (fits : (arrived ++ payload ++ rest).length ≤ reassembler.bufferLimit) :
    reassembler.extend { unit with bytes := arrived } payload =
      (reassembler.amid unit (arrived ++ payload), none) := by
  have shorter : (arrived ++ payload).length < (arrived ++ payload ++ rest).length := by
    have positive := List.length_pos_iff.mpr more
    rw [@List.length_append _ (arrived ++ payload)]
    omega
  have code := PesUnit.hasStartCode_of_append sized.code
  have extent := PesUnit.extentOf_front (arrived ++ payload) rest
  rw [sized.declared] at extent
  unfold extend
  dsimp only
  rw [if_neg (by omega), code]
  rcases extent with undetermined | known
  · simp [undetermined, amid]
  · simp only [known]
    rw [if_pos shorter]
    rfl

/-- At its end a packet is closed, and what follows in the payload is cut off. -/
theorem extend_end (sized : SizedPes (arrived ++ payload))
    (fits : (arrived ++ payload).length + surplus.length ≤ reassembler.bufferLimit) :
    reassembler.extend { unit with bytes := arrived } (payload ++ surplus) =
      reassembler.close { unit with bytes := arrived ++ payload } := by
  obtain ⟨code, declared⟩ := PesUnit.declared_append sized surplus
  rw [← List.length_append] at fits
  have reached : ¬(arrived ++ payload ++ surplus).length < (arrived ++ payload).length := by
    rw [@List.length_append _ (arrived ++ payload)]
    omega
  unfold extend
  dsimp only
  rw [← List.append_assoc, if_neg (by omega), code]
  simp only [declared]
  rw [if_neg reached, List.take_left]
  rfl

/-- A payload that outgrows the buffer is counted, and nothing comes out. -/
theorem extend_over (unit : PesUnit)
    (beyond : reassembler.bufferLimit < (unit.bytes ++ payload).length) :
    (reassembler.extend unit payload).1.overflows = reassembler.overflows + 1 ∧
      (reassembler.extend unit payload).2 = none := by
  unfold extend
  dsimp only
  rw [if_pos beyond]
  exact ⟨rfl, rfl⟩

/-! ### Fragments -/

theorem feedAll_cons (reassembler : PesReassembler) (input : PesInput) (inputs : List PesInput) :
    reassembler.feedAll (input :: inputs) =
      (((reassembler.feed input).1.feedAll inputs).1,
        (reassembler.feed input).2 ++ ((reassembler.feed input).1.feedAll inputs).2) := rfl

theorem feedAll_append (reassembler : PesReassembler) (front back : List PesInput) :
    reassembler.feedAll (front ++ back) =
      (((reassembler.feedAll front).1.feedAll back).1,
        (reassembler.feedAll front).2 ++ ((reassembler.feedAll front).1.feedAll back).2) := by
  induction front generalizing reassembler with
  | nil => rfl
  | cons input inputs ih => simp [feedAll, ih]

/-- A fragment in the middle of a unit. -/
theorem feed_amid (reassembler : PesReassembler) (unit : PesUnit) (arrived : Bytes)
    (fragment : PesFragment) :
    (reassembler.amid unit arrived).feed (fragment.input false) =
      let grown := (reassembler.amid unit arrived).extend { unit with bytes := arrived }
        fragment.data
      (grown.1, grown.2.toList) := rfl

/-- Before the end of a packet, its fragments are collected. -/
theorem feedAll_part (fragments : List PesFragment)
    (sized : SizedPes (arrived ++ PesFragment.joined fragments ++ rest)) (more : rest ≠ [])
    (fits : (arrived ++ PesFragment.joined fragments ++ rest).length ≤ reassembler.bufferLimit) :
    (reassembler.amid unit arrived).feedAll
        (fragments.map (fun fragment => fragment.input false)) =
      (reassembler.amid unit (arrived ++ PesFragment.joined fragments), []) := by
  induction fragments generalizing arrived with
  | nil => simp [feedAll, PesFragment.joined]
  | cons fragment others ih =>
    have split : arrived ++ PesFragment.joined (fragment :: others) =
        arrived ++ fragment.data ++ PesFragment.joined others := by
      simp [PesFragment.joined]
    rw [split] at sized fits ⊢
    have behind : PesFragment.joined others ++ rest ≠ [] := by simp [more]
    have later := ih sized fits
    rw [List.append_assoc (arrived ++ fragment.data)] at sized fits
    have grown := @extend_part (reassembler.amid unit arrived) unit arrived fragment.data _ sized
      behind fits
    have taken : (reassembler.amid unit arrived).feed (fragment.input false) =
        (reassembler.amid unit (arrived ++ fragment.data), []) := by
      rw [feed_amid, grown]
      rfl
    rw [List.map_cons, feedAll_cons, taken, later]
    rfl

/-- The unit that a fragment starts, with what the end of the one before it leaves. -/
def opened (reassembler : PesReassembler) (first : PesFragment) : PesReassembler × PesUnit :=
  reassembler.finishAny.1.start first.randomAccess first.offset

/-- What the last fragment of a packet goes into, whatever it brings. -/
theorem feedAll_last (front : List PesFragment) (last : PesFragment)
    (sized : SizedPes (PesFragment.joined (front ++ [last]))) (more : last.data ≠ [])
    (fits : (PesFragment.joined (front ++ [last])).length ≤ reassembler.bufferLimit) :
    ∃ (base : PesReassembler) (unit : PesUnit), base.bufferLimit = reassembler.bufferLimit ∧
      ∀ data, reassembler.feedAll (PesFragment.inputs (front ++ [{ last with data }])) =
        ((base.extend { unit with bytes := PesFragment.joined front } data).1,
          reassembler.finishAny.2.toList ++
            (base.extend { unit with bytes := PesFragment.joined front } data).2.toList) := by
  cases front with
  | nil =>
    refine ⟨(reassembler.opened last).1, (reassembler.opened last).2, finishAny_limit, ?_⟩
    intro data
    simp [PesFragment.inputs, PesFragment.input, feedAll, feed, push, opened, start,
      PesFragment.joined]
  | cons first others =>
    let begun := reassembler.opened first
    have split : PesFragment.joined (first :: others ++ [last]) =
        first.data ++ PesFragment.joined others ++ last.data := by
      simp [PesFragment.joined]
    rw [split] at sized fits
    have behind : PesFragment.joined others ++ last.data ≠ [] := by simp [more]
    have limit : begun.1.bufferLimit = reassembler.bufferLimit := finishAny_limit
    rw [← limit] at fits
    have collected := @feedAll_part begun.1 begun.2 first.data last.data others sized more fits
    rw [List.append_assoc] at sized fits
    have started := @extend_part begun.1 begun.2 [] first.data _ sized behind fits
    have taken : reassembler.feed (first.input true) =
        (begun.1.amid begun.2 first.data, reassembler.finishAny.2.toList) := by
      have pushed : reassembler.feed (first.input true) =
          ((begun.1.extend begun.2 first.data).1,
            reassembler.finishAny.2.toList ++ (begun.1.extend begun.2 first.data).2.toList) := rfl
      have fresh : ({ begun.2 with bytes := [] } : PesUnit) = begun.2 := rfl
      rw [fresh, List.nil_append] at started
      rw [pushed, started, Option.toList_none, List.append_nil]
    refine ⟨begun.1.amid begun.2 (PesFragment.joined (first :: others)), begun.2, limit, ?_⟩
    intro data
    have inputs : PesFragment.inputs (first :: others ++ [{ last with data }]) =
        first.input true :: (others.map (fun fragment => fragment.input false) ++
          [({ last with data } : PesFragment).input false]) := by
      simp [PesFragment.inputs]
    rw [inputs, feedAll_cons, taken, feedAll_append, collected, feedAll_cons, feed_amid]
    simp only [feedAll, List.nil_append, List.append_nil]
    rfl

/-- `Fills limit arrived reassembler`: a unit in progress consists of these bytes, and is within
its bounds. -/
structure Fills (limit : Nat) (arrived : Bytes) (reassembler : PesReassembler) : Prop where
  bounded : Bounded limit reassembler
  bytes : ∀ unit, reassembler.phase = .collecting unit → unit.bytes = arrived

/-- Another fragment, if a unit is in progress, is added to it. -/
theorem Fills.feedAll (fills : Fills limit arrived reassembler) (fragments : List PesFragment) :
    Fills limit (arrived ++ PesFragment.joined fragments)
      (reassembler.feedAll (fragments.map (fun fragment => fragment.input false))).1 := by
  induction fragments generalizing reassembler arrived with
  | nil => simpa [PesReassembler.feedAll, PesFragment.joined] using fills
  | cons fragment others ih =>
    have grown : Fills limit (arrived ++ fragment.data)
        (reassembler.feed (fragment.input false)).1 := by
      refine ⟨fills.bounded.push fragment.data false _ _, fun unit collecting => ?_⟩
      cases (push_gives reassembler fragment.data false _ _).1 unit collecting with
      | start starts => cases starts
      | more _ held bytes _ => rw [bytes, fills.bytes _ held]
    have later := ih grown
    rw [List.append_assoc] at later
    exact later

/-- A packet is no longer in progress once all of it has arrived. -/
theorem feedAll_whole (reassembler : PesReassembler) {fragments : List PesFragment}
    (sized : SizedPes (PesFragment.joined fragments)) :
    (reassembler.feedAll (PesFragment.inputs fragments)).1.isCollecting = false := by
  cases fragments with
  | nil => cases sized.declared
  | cons first others =>
    have begun : Fills reassembler.bufferLimit first.data
        (reassembler.feed (first.input true)).1 := by
      have room : (reassembler.opened first).1.bufferLimit = reassembler.bufferLimit :=
        finishAny_limit
      refine ⟨extend_bounded room _ first.data, fun unit collecting => ?_⟩
      cases (push_gives reassembler first.data true _ _).1 unit collecting with
      | start _ bytes _ => exact bytes
      | more continued => cases continued
    have fills := begun.feedAll others
    unfold isCollecting
    split
    · rename_i unit collecting
      have bytes := fills.bytes unit collecting
      have short := (fills.bounded.unit unit collecting).short
      rw [PesUnit.extent, bytes] at short
      exact absurd (short _ sized.declared) (Nat.lt_irrefl _)
    · rfl
    · rfl

/-- With no unit in progress, a fragment that starts none is ignored. -/
theorem feed_waiting (waiting : reassembler.isCollecting = false) (fragment : PesFragment) :
    reassembler.feed (fragment.input false) = (reassembler, []) := by
  simp only [feed, PesFragment.input, push, Bool.false_eq_true, if_false]
  cases phase : reassembler.phase with
  | idle => rfl
  | skipping => rfl
  | collecting unit => simp [isCollecting, phase] at waiting

/-- A fragment behind the last byte of a packet is ignored, whatever it brings. -/
theorem feedAll_behind (reassembler : PesReassembler) {fragments : List PesFragment}
    (sized : SizedPes (PesFragment.joined fragments)) (last : PesFragment) :
    reassembler.feedAll (PesFragment.inputs (fragments ++ [last])) =
      reassembler.feedAll (PesFragment.inputs fragments) := by
  have waiting := feedAll_whole reassembler sized
  cases fragments with
  | nil => cases sized.declared
  | cons first others =>
    have inputs : PesFragment.inputs (first :: others ++ [last]) =
        PesFragment.inputs (first :: others) ++ [last.input false] := by
      simp [PesFragment.inputs]
    rw [inputs, feedAll_append, feedAll_cons, feed_waiting waiting]
    simp only [feedAll, List.append_nil]

/-- Bytes behind the end of a packet change nothing if and only if the last fragment is empty, or
the packet and these bytes together fit the buffer. Otherwise an overflow is counted, and the packet
does not come out. -/
theorem surplus_ignored_iff (reassembler : PesReassembler) (front : List PesFragment)
    (last : PesFragment) (surplus : Bytes)
    (sized : SizedPes (PesFragment.joined (front ++ [last])))
    (fits : (PesFragment.joined (front ++ [last])).length ≤ reassembler.bufferLimit) :
    let exact := reassembler.feedAll (PesFragment.inputs (front ++ [last]))
    let longer := reassembler.feedAll
      (PesFragment.inputs (front ++ [{ last with data := last.data ++ surplus }]))
    let ignored := last.data = [] ∨
      (PesFragment.joined (front ++ [last])).length + surplus.length ≤ reassembler.bufferLimit
    (longer = exact ↔ ignored) ∧
      (¬ignored → longer.1.overflows = exact.1.overflows + 1 ∧
        longer.2 = reassembler.finishAny.2.toList) := by
  intro exact longer ignored
  have whole : PesFragment.joined (front ++ [last]) = PesFragment.joined front ++ last.data := by
    simp [PesFragment.joined]
  by_cases empty : last.data = []
  · -- the packet ended before the last fragment, which is then ignored whatever it brings
    rw [whole, empty, List.append_nil] at sized
    have same : longer = exact :=
      (feedAll_behind reassembler sized _).trans (feedAll_behind reassembler sized last).symm
    exact ⟨iff_of_true same (.inl empty), fun not => absurd (.inl empty) not⟩
  · obtain ⟨base, unit, limit, last_goes⟩ := feedAll_last front last sized empty fits
    rw [whole] at sized fits
    have closed : exact = _ := last_goes last.data
    have grown : longer = _ := last_goes (last.data ++ surplus)
    rw [← limit] at fits
    have ends := @extend_end base unit (PesFragment.joined front) last.data [] sized
      (by simpa using fits)
    rw [List.append_nil] at ends
    rw [ends] at closed
    by_cases room : (PesFragment.joined (front ++ [last])).length + surplus.length ≤
        reassembler.bufferLimit
    · have same : longer = exact := by
        rw [closed, grown]
        rw [whole, ← limit] at room
        rw [extend_end sized room]
      exact ⟨iff_of_true same (.inr room), fun not => absurd (.inr room) not⟩
    · have lost : longer.1.overflows = exact.1.overflows + 1 ∧
          longer.2 = reassembler.finishAny.2.toList := by
        have beyond : base.bufferLimit <
            (PesFragment.joined front ++ (last.data ++ surplus)).length := by
          rw [← List.append_assoc, ← whole, List.length_append, limit]
          exact Nat.not_le.mp room
        obtain ⟨counted, nothing⟩ :=
          extend_over { unit with bytes := PesFragment.joined front } beyond
        rw [closed, grown, counted, nothing, Option.toList_none, List.append_nil]
        exact ⟨congrArg (· + 1) close_overflows.symm, rfl⟩
      refine ⟨iff_of_false (fun same => ?_) (by simp [ignored, empty, room]), fun _ => lost⟩
      have counted := lost.1
      rw [same] at counted
      omega

/-- Two fragments of a complete packet. -/
private def halves : PesFragment × PesFragment :=
  ({ data := wholePes.take 7, randomAccess := true, offset := 0 },
    { data := wholePes.drop 7, randomAccess := false, offset := 188 })

/-- Two bytes of stuffing behind a packet of eleven bytes, which a buffer of thirteen holds. -/
theorem stuffing_ignored :
    let fresh : PesReassembler := { pid := 0x101, bufferLimit := 13 }
    SizedPes (PesFragment.joined ([halves.1] ++ [halves.2])) ∧
      (PesFragment.joined ([halves.1] ++ [halves.2])).length ≤ fresh.bufferLimit ∧
        fresh.feedAll (PesFragment.inputs
            ([halves.1] ++ [{ halves.2 with data := halves.2.data ++ [0xFF, 0xFF] }])) =
          fresh.feedAll (PesFragment.inputs ([halves.1] ++ [halves.2])) := by
  intro fresh
  have sized : SizedPes (PesFragment.joined ([halves.1] ++ [halves.2])) :=
    ⟨by decide +kernel, by decide +kernel⟩
  have fits : (PesFragment.joined ([halves.1] ++ [halves.2])).length ≤ fresh.bufferLimit := by
    decide
  obtain ⟨ignored, _⟩ := surplus_ignored_iff fresh [halves.1] halves.2 [0xFF, 0xFF] sized fits
  exact ⟨sized, fits, ignored.mpr (.inr (by decide))⟩

/-- One byte of stuffing more than the buffer holds, and a packet that fits is lost. -/
theorem stuffing_overflows :
    ¬∀ (reassembler : PesReassembler) (front : List PesFragment) (last : PesFragment)
        (surplus : Bytes), reassembler.Reachable →
      SizedPes (PesFragment.joined (front ++ [last])) →
      (PesFragment.joined (front ++ [last])).length ≤ reassembler.bufferLimit →
        reassembler.feedAll
            (PesFragment.inputs (front ++ [{ last with data := last.data ++ surplus }])) =
          reassembler.feedAll (PesFragment.inputs (front ++ [last])) := by
  intro ignored
  have sized : SizedPes (PesFragment.joined ([] ++ [⟨wholePes, true, 0⟩])) :=
    ⟨by decide +kernel, by decide +kernel⟩
  have same := ignored { pid := 0x101, bufferLimit := 11 } [] ⟨wholePes, true, 0⟩ [0xFF]
    (.fresh 0x101 11) sized (by decide)
  exact absurd (congrArg (·.1.overflows) same) (by decide +kernel)

end PesReassembler

end TransportStream
