import TransportStream.Proofs.LossInvariant
import TransportStream.Proofs.SectionDelivery

/-!
Where bytes come from. What is in progress on a PID, and what comes out complete, is put
together from payloads that were passed on since the last reset: a unit from their first byte
on, a section from within them.
-/
namespace TransportStream

/-- The bytes of sections that a payload carries. Where sections start, a pointer comes before
them. -/
def SectionFilter.carried (payload : Bytes) (unitStart : Bool) : Bytes :=
  if unitStart then payload.drop 1 else payload

/-- A payload as it was passed on, clear if it could be descrambled, with its packet. -/
structure Parcel where
  packet : TransportPacket
  data : Bytes

namespace Parcel

def sectionBytes (parcel : Parcel) : Bytes :=
  SectionFilter.carried parcel.data parcel.packet.header.payloadUnitStart

/-- `Early passed limit parcel`: the parcel is one of these, and its packet starts before a
place in the stream. -/
def Early (passed : Parcel → Prop) (limit : Nat) (parcel : Parcel) : Prop :=
  passed parcel ∧ parcel.packet.place < limit

end Parcel

/-- What parcels carry, in a row. -/
def joined (parcels : List Parcel) : Bytes := parcels.flatMap Parcel.data

/-- What parcels carry of sections, in a row. -/
def joinedSections (parcels : List Parcel) : Bytes := parcels.flatMap Parcel.sectionBytes

/-- The place in the stream of the first of some parcels. -/
def firstOffset? (parcels : List Parcel) : Option Nat :=
  parcels.head?.map fun parcel => parcel.packet.offset

/-- `Drawn passed pid parcels`: these parcels of one PID were passed on, in the order in which
they stand in the stream. -/
structure Drawn (passed : Parcel → Prop) (pid : Nat) (parcels : List Parcel) : Prop where
  passed : ∀ parcel ∈ parcels, passed parcel
  own : ∀ parcel ∈ parcels, parcel.packet.pid = pid
  ordered : parcels.Pairwise fun earlier later => earlier.packet.place < later.packet.place

/-- A section whose bytes stand in a row in parcels. -/
def SectionDrawn (passed : Parcel → Prop) (pid : Nat) (data : Bytes) : Prop :=
  ∃ parcels, Drawn passed pid parcels ∧ data <:+: joinedSections parcels

/-- A unit in progress that holds what parcels carry, and begins with the first of them. -/
def PesUnit.DrawnFrom (unit : PesUnit) (parcels : List Parcel) : Prop :=
  unit.bytes = joined parcels ∧ firstOffset? parcels = some unit.offset

/-- A packet that was read from the first bytes of a unit. -/
def PesUnit.Gives (unit : PesUnit) (packet : PesPacket) : Prop :=
  ∃ bytes, bytes <+: unit.bytes ∧ PesHeader.parse bytes = .ok packet.header ∧
    packet.payload = bytes.drop packet.header.size ∧ packet.offset = unit.offset

/-- A packet that was read from parcels, and begins with the first of them. -/
def PesPacket.DrawnFrom (passed : Parcel → Prop) (pid : Nat) (packet : PesPacket) : Prop :=
  ∃ parcels, Drawn passed pid parcels ∧ firstOffset? parcels = some packet.offset ∧
    ∃ bytes, bytes <+: joined parcels ∧ PesHeader.parse bytes = .ok packet.header ∧
      packet.payload = bytes.drop packet.header.size

/-- What is in progress on a PID is put together from parcels. -/
def Reassembly.DrawnFrom (passed : Parcel → Prop) (pid : Nat) : Reassembly → Prop
  | .sections filter =>
    ∃ parcels, Drawn passed pid parcels ∧ filter.held <:+ joinedSections parcels
  | .pes reassembler =>
    ∀ unit, reassembler.phase = .collecting unit →
      ∃ parcels, Drawn passed pid parcels ∧ unit.DrawnFrom parcels

section Parcels

variable {passed other : Parcel → Prop} {pid limit next : Nat} {parcels : List Parcel}
variable {parcel : Parcel}

theorem Drawn.nil : Drawn passed pid [] := ⟨by simp, by simp, .nil⟩

theorem Drawn.mono (drawn : Drawn passed pid parcels)
    (more : ∀ parcel, passed parcel → other parcel) : Drawn other pid parcels :=
  ⟨fun parcel member => more parcel (drawn.passed parcel member), drawn.own, drawn.ordered⟩

/-- A parcel that comes behind the others. -/
theorem Drawn.append (drawn : Drawn (Parcel.Early passed limit) pid parcels)
    (new : passed parcel) (own : parcel.packet.pid = pid) (late : limit ≤ parcel.packet.place)
    (soon : parcel.packet.place < next) :
    Drawn (Parcel.Early passed next) pid (parcels ++ [parcel]) where
  passed := by
    intro one member
    rcases List.mem_append.mp member with old | last
    · obtain ⟨was, early⟩ := drawn.passed one old
      exact ⟨was, by omega⟩
    · rw [List.mem_singleton.mp last]
      exact ⟨new, soon⟩
  own := by
    intro one member
    rcases List.mem_append.mp member with old | last
    · exact drawn.own one old
    · rw [List.mem_singleton.mp last]
      exact own
  ordered := by
    refine List.pairwise_append.mpr ⟨drawn.ordered, List.pairwise_singleton _ _, ?_⟩
    intro one old last member
    rw [List.mem_singleton.mp member]
    exact Nat.lt_of_lt_of_le (drawn.passed one old).2 late

theorem Drawn.single (new : passed parcel) (own : parcel.packet.pid = pid)
    (soon : parcel.packet.place < next) : Drawn (Parcel.Early passed next) pid [parcel] :=
  @Drawn.append passed pid 0 next [] parcel Drawn.nil new own (Nat.zero_le _) soon

end Parcels

/-! ### Sections -/

namespace SectionFilter

variable {filter : SectionFilter}

theorem complete_held (filter : SectionFilter) (data : Bytes) :
    (filter.complete data).1.held = [] := by
  unfold complete
  dsimp only
  split
  · rfl
  · split <;> rfl

end SectionFilter

/-! ### Elementary streams -/

namespace PesReassembler

variable {reassembler : PesReassembler} {unit next : PesUnit} {packet : PesPacket}

/-- `Grows reassembler payload unitStart offset unit`: the unit that a payload starts, or that
it is added to. -/
inductive Grows (reassembler : PesReassembler) (payload : Bytes) (unitStart : Bool)
    (offset : Nat) : PesUnit → Prop where
  | start {unit : PesUnit} (starts : unitStart = true) (bytes : unit.bytes = payload)
      (place : unit.offset = offset) : Grows reassembler payload unitStart offset unit
  | more {held unit : PesUnit} (continued : unitStart = false)
      (collecting : reassembler.phase = .collecting held)
      (bytes : unit.bytes = held.bytes ++ payload) (place : unit.offset = held.offset) :
      Grows reassembler payload unitStart offset unit

theorem close_gives (closed : packet ∈ (reassembler.close unit).2) : unit.Gives packet := by
  unfold close at closed
  split at closed
  · cases closed
  · rename_i header parsed
    dsimp only at closed
    split at closed
    · cases closed
    · simp only [Option.mem_def, Option.some.injEq] at closed
      rw [← closed]
      exact ⟨unit.bytes, List.prefix_rfl, parsed, rfl, rfl⟩

theorem close_collects (unit next : PesUnit) :
    (reassembler.close unit).1.phase ≠ .collecting next := by
  rw [close_phase]
  simp

/-- A unit with more bytes stays in progress as it is, or gives a packet. -/
theorem extend_gives (reassembler : PesReassembler) (unit : PesUnit) (payload : Bytes) :
    (∀ next, (reassembler.extend unit payload).1.phase = .collecting next →
        next = { unit with bytes := unit.bytes ++ payload }) ∧
      ∀ packet ∈ (reassembler.extend unit payload).2,
        PesUnit.Gives { unit with bytes := unit.bytes ++ payload } packet := by
  unfold extend
  dsimp only
  split
  · exact ⟨by simp, by simp⟩
  · split
    · exact ⟨by simp, by simp⟩
    · split
      · exact ⟨by rintro next ⟨⟩; rfl, by simp⟩
      · exact ⟨by rintro next ⟨⟩; rfl, by simp⟩
      · rename_i total _
        split
        · exact ⟨by rintro next ⟨⟩; rfl, by simp⟩
        · refine ⟨fun next collecting => absurd collecting (close_collects _ next), ?_⟩
          intro packet closed
          obtain ⟨bytes, front, parsed, payload, place⟩ := close_gives closed
          exact ⟨bytes, front.trans (List.take_prefix ..), parsed, payload, place⟩

theorem finishAny_gives (reassembler : PesReassembler) :
    (∀ next, (reassembler.finishAny).1.phase ≠ .collecting next) ∧
      ∀ packet ∈ (reassembler.finishAny).2,
        ∃ unit, reassembler.phase = .collecting unit ∧ unit.Gives packet := by
  unfold finishAny
  split
  · rename_i unit collecting
    unfold finishUnit
    split
    · exact ⟨close_collects unit, fun packet closed => ⟨unit, collecting, close_gives closed⟩⟩
    · exact ⟨by simp [drop], by simp⟩
    · exact ⟨by simp [drop], by simp⟩
  · rename_i idle
    exact ⟨by simp [idle], by simp⟩
  · rename_i skipping
    exact ⟨by simp [skipping], by simp⟩

/-- After a payload, what is in progress has grown by it; what came out was in progress
before, or has. -/
theorem push_gives (reassembler : PesReassembler) (payload : Bytes)
    (unitStart randomAccess : Bool) (offset : Nat) :
    (∀ next, (reassembler.push payload unitStart randomAccess offset).1.phase = .collecting next →
        Grows reassembler payload unitStart offset next) ∧
      ∀ packet ∈ (reassembler.push payload unitStart randomAccess offset).2,
        ∃ unit, (reassembler.phase = .collecting unit ∨
          Grows reassembler payload unitStart offset unit) ∧ unit.Gives packet := by
  unfold push
  cases unitStart with
  | true =>
    simp only [if_true]
    obtain ⟨_, finished⟩ := finishAny_gives reassembler
    obtain ⟨grown, given⟩ := extend_gives (reassembler.finishAny.1.start randomAccess offset).1
      (reassembler.finishAny.1.start randomAccess offset).2 payload
    refine ⟨?_, ?_⟩
    · intro next collecting
      rw [grown next collecting]
      exact .start rfl rfl rfl
    · intro packet member
      rcases List.mem_append.mp member with before | now
      · obtain ⟨unit, collecting, gives⟩ := finished packet (Option.mem_toList.mp before)
        exact ⟨unit, .inl collecting, gives⟩
      · exact ⟨_, .inr (.start rfl rfl rfl), given packet (Option.mem_toList.mp now)⟩
  | false =>
    simp only [Bool.false_eq_true, if_false]
    split
    · rename_i unit collecting
      obtain ⟨grown, given⟩ := extend_gives reassembler unit payload
      refine ⟨?_, ?_⟩
      · intro next extended
        rw [grown next extended]
        exact .more rfl collecting rfl rfl
      · intro packet now
        exact ⟨{ unit with bytes := unit.bytes ++ payload }, .inr (.more rfl collecting rfl rfl),
          given packet (Option.mem_toList.mp now)⟩
    · rename_i idle
      exact ⟨by simp [idle], by simp⟩
    · rename_i skipping
      exact ⟨by simp [skipping], by simp⟩

/-- A loss adds nothing to what is in progress. -/
theorem markDiscontinuity_collects
    (collecting : reassembler.markDiscontinuity.phase = .collecting next) :
    ∃ unit, reassembler.phase = .collecting unit ∧ next.bytes = unit.bytes ∧
      next.offset = unit.offset := by
  unfold markDiscontinuity at collecting
  split at collecting
  · rename_i unit held
    split at collecting
    · cases collecting
      exact ⟨unit, held, rfl, rfl⟩
    · cases collecting
    · cases collecting
  · rename_i idle
    simp [idle] at collecting
  · rename_i skipping
    simp [skipping] at collecting

end PesReassembler

/-! ### What is kept for a PID -/

section Streams

variable {passed other : Parcel → Prop} {pid limit next : Nat} {parcels : List Parcel}
variable {unit grown : PesUnit} {packet : PesPacket}

theorem PesUnit.DrawnFrom.gives (from_ : unit.DrawnFrom parcels)
    (drawn : Drawn passed pid parcels) (gives : unit.Gives packet) :
    packet.DrawnFrom passed pid := by
  obtain ⟨held, first⟩ := from_
  obtain ⟨bytes, front, parsed, payload, place⟩ := gives
  exact ⟨parcels, drawn, place ▸ first, bytes, held ▸ front, parsed, payload⟩

theorem PesPacket.DrawnFrom.mono (drawn : packet.DrawnFrom passed pid)
    (more : ∀ parcel, passed parcel → other parcel) : packet.DrawnFrom other pid := by
  obtain ⟨parcels, drawn, rest⟩ := drawn
  exact ⟨parcels, drawn.mono more, rest⟩

theorem SectionDrawn.mono {data : Bytes} (drawn : SectionDrawn passed pid data)
    (more : ∀ parcel, passed parcel → other parcel) : SectionDrawn other pid data := by
  obtain ⟨parcels, drawn, within⟩ := drawn
  exact ⟨parcels, drawn.mono more, within⟩

namespace Reassembly

variable {filter : SectionFilter} {reassembler : PesReassembler} {parcel : Parcel}

theorem DrawnFrom.mono {reassembly : Reassembly} (drawn : reassembly.DrawnFrom passed pid)
    (more : ∀ parcel, passed parcel → other parcel) : reassembly.DrawnFrom other pid := by
  cases reassembly with
  | sections filter =>
    obtain ⟨parcels, drawn, held⟩ := drawn
    exact ⟨parcels, drawn.mono more, held⟩
  | pes reassembler =>
    intro unit collecting
    obtain ⟨parcels, drawn, held⟩ := drawn unit collecting
    exact ⟨parcels, drawn.mono more, held⟩

/-- Nothing held comes from nowhere. -/
theorem drawnFrom_idle (idle : filter.held = []) :
    DrawnFrom passed pid (.sections filter) :=
  ⟨[], .nil, by simp [idle]⟩

/-- What the end of the stream completes comes from parcels. -/
theorem DrawnFrom.flushEnd (drawn : DrawnFrom passed pid (.pes reassembler)) :
    DrawnFrom passed pid (.pes reassembler.flushEnd.1) ∧
      ∀ packet ∈ reassembler.flushEnd.2, packet.DrawnFrom passed pid := by
  refine ⟨by simp [DrawnFrom, PesReassembler.flushEnd, PesReassembler.reset], ?_⟩
  intro packet member
  obtain ⟨unit, collecting, gives⟩ := (PesReassembler.finishAny_gives reassembler).2 packet member
  obtain ⟨parcels, drawn, from_⟩ := drawn unit collecting
  exact from_.gives drawn gives

end Reassembly

namespace StreamState

theorem table_drawn (passed : Parcel → Prop) (pid : Nat) (cls : StreamClass) (checkCrc : Bool) :
    (table pid cls checkCrc).reassembly.DrawnFrom passed pid := by
  apply Reassembly.drawnFrom_idle
  cases cls <;> rfl

theorem elementary_drawn (passed : Parcel → Prop) (pid bufferLimit : Nat) :
    (elementary pid bufferLimit).reassembly.DrawnFrom passed pid := by
  intro unit collecting
  cases collecting

theorem discontinuity_drawn {stream : StreamState}
    (drawn : stream.reassembly.DrawnFrom passed pid) :
    stream.discontinuity.reassembly.DrawnFrom passed pid := by
  unfold discontinuity
  split
  · rename_i filter _
    obtain ⟨truncated, ended⟩ := filter.truncate_eq
    exact Reassembly.drawnFrom_idle (by rw [SectionFilter.discontinuity, ended])
  · rename_i reassembler kind
    rw [kind] at drawn
    intro next collecting
    obtain ⟨unit, held, bytes, place⟩ := PesReassembler.markDiscontinuity_collects collecting
    obtain ⟨parcels, drawn, whole, first⟩ := drawn unit held
    exact ⟨parcels, drawn, bytes.trans whole, place ▸ first⟩

end StreamState

end Streams

end TransportStream
