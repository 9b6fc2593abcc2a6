import TransportStream.Section.Filter

/-!
Sections cut into the payloads of a PID come out of the filter whole, in order and once,
whatever the filter held before the first of them.
-/
namespace TransportStream

/-- A payload of a PID that carries sections, and whether one starts in it. -/
structure SectionPayload where
  unitStart : Bool
  bytes : Bytes
  deriving DecidableEq, Repr

/-- Bytes that fill a payload behind its last section. -/
def stuffing (count : Nat) : Bytes := List.replicate count 0xFF

/-- `Opening sections data rest later`: the bytes `data` hold sections back to back, up to
stuffing or up to a place inside of a section, whose `rest` is missing; the `later` ones are
not begun. -/
inductive Opening : List Bytes → Bytes → Bytes → List Bytes → Prop where
  | stuffed (later : List Bytes) (count : Nat) : Opening later (stuffing count) [] later
  | whole (complete : Bytes) {sections later : List Bytes} {data rest : Bytes}
      (others : Opening sections data rest later) :
      Opening (complete :: sections) (complete ++ data) rest later
  | begun {front rest : Bytes} (later : List Bytes) (filled : front ≠ []) (more : rest ≠ []) :
      Opening ((front ++ rest) :: later) front rest later

/-- `Cut rest sections payloads`: the payloads carry the rest of the section in progress,
then these sections. -/
inductive Cut : Bytes → List Bytes → List SectionPayload → Prop where
  | done : Cut [] [] []
  /-- The section in progress goes on beyond the payload. -/
  | goesOn (piece : Bytes) {rest : Bytes} {sections : List Bytes} {payloads : List SectionPayload}
      (more : rest ≠ []) (others : Cut rest sections payloads) :
      Cut (piece ++ rest) sections (⟨false, piece⟩ :: payloads)
  /-- The section in progress, if there is one, ends in the payload. -/
  | ends (rest : Bytes) (count : Nat) {sections : List Bytes} {payloads : List SectionPayload}
      (others : Cut [] sections payloads) :
      Cut rest sections (⟨false, rest ++ stuffing count⟩ :: payloads)
  /-- Sections start in the payload, right behind the one in progress. -/
  | starts {pointer : UInt8} {rest data begun : Bytes} {sections later : List Bytes}
      {payloads : List SectionPayload} (points : pointer.toNat = rest.length)
      (opening : Opening sections data begun later) (others : Cut begun later payloads) :
      Cut rest sections (⟨true, pointer :: rest ++ data⟩ :: payloads)

namespace SectionFilter

/-- Whether a filter lets a section through: it is as long as it declares, does not begin
like stuffing, and has the form and the check value that the filter asks for. -/
structure Admits (filter : SectionFilter) (data : Bytes) : Prop where
  whole : wholeSize? data = some data.length
  bounded : data.length ≤ LongSection.headerSize + LongSection.lengthLimit
  marked : data.head? ≠ some 0xFF
  formed : filter.longFormOnly = true → isLongForm data = true
  checked : filter.checkCrc = true → isLongForm data = true → (Crc.verify data).isOk = true

instance (filter : SectionFilter) (data : Bytes) : Decidable (filter.Admits data) :=
  decidable_of_iff
    (wholeSize? data = some data.length ∧
      data.length ≤ LongSection.headerSize + LongSection.lengthLimit ∧ data.head? ≠ some 0xFF ∧
      (filter.longFormOnly = true → isLongForm data = true) ∧
      (filter.checkCrc = true → isLongForm data = true → (Crc.verify data).isOk = true))
    ⟨fun ⟨whole, bounded, marked, formed, checked⟩ => ⟨whole, bounded, marked, formed, checked⟩,
      fun ⟨whole, bounded, marked, formed, checked⟩ => ⟨whole, bounded, marked, formed, checked⟩⟩

/-- Takes payloads in turn. -/
def pushAll (filter : SectionFilter) : List SectionPayload → SectionFilter × List Bytes
  | [] => (filter, [])
  | payload :: others =>
    let (filter, sections) := filter.push payload.bytes payload.unitStart
    let (filter, later) := filter.pushAll others
    (filter, sections ++ later)

variable {filter : SectionFilter} {data held rest : Bytes} {sections later : List Bytes}

theorem pushAll_cons (filter : SectionFilter) (payload : SectionPayload)
    (others : List SectionPayload) :
    filter.pushAll (payload :: others) =
      (((filter.push payload.bytes payload.unitStart).1.pushAll others).1,
        (filter.push payload.bytes payload.unitStart).2 ++
          ((filter.push payload.bytes payload.unitStart).1.pushAll others).2) := rfl

/-- What a filter lets through depends on its settings alone. -/
theorem Admits.of_settings {other : SectionFilter} (admits : filter.Admits data)
    (form : other.longFormOnly = filter.longFormOnly) (crc : other.checkCrc = filter.checkCrc) :
    other.Admits data := by
  obtain ⟨whole, bounded, marked, formed, checked⟩ := admits
  exact ⟨whole, bounded, marked, form ▸ formed, crc ▸ checked⟩

theorem Admits.nonempty (admits : filter.Admits data) : data ≠ [] := by
  rintro rfl
  exact absurd admits.whole (by simp [wholeSize?])

/-! ### One section -/

theorem complete_admitted (admits : filter.Admits data) :
    filter.complete data = ({ filter with held := [] }, some data) := by
  have form : (filter.longFormOnly && !isLongForm data) = false := by
    cases strict : filter.longFormOnly with
    | false => rfl
    | true => simp [admits.formed strict]
  have crc : (filter.checkCrc && isLongForm data && !(Crc.verify data).isOk) = false := by
    cases strict : filter.checkCrc with
    | false => rfl
    | true =>
      cases long : isLongForm data with
      | false => rfl
      | true => simp [admits.checked strict long]
  simp [complete, form, crc]

/-- The first bytes of a section declare nothing, or what the section declares. -/
theorem wholeSize?_front (front back : Bytes) :
    wholeSize? front = none ∨ wholeSize? front = wholeSize? (front ++ back) := by
  unfold wholeSize?
  split
  · exact .inr rfl
  · exact .inl rfl

/-- Before its end, a section goes on to be held. -/
theorem absorb_front (admits : filter.Admits (held ++ data ++ rest)) (more : rest ≠ []) :
    { filter with held }.absorb data = ({ filter with held := held ++ data }, none, []) := by
  have shorter : (held ++ data).length < (held ++ data ++ rest).length := by
    have positive := List.length_pos_iff.mpr more
    rw [@List.length_append _ (held ++ data)]
    omega
  have bounded := admits.bounded
  unfold absorb
  rcases wholeSize?_front (held ++ data) rest with unknown | known
  · simp only [unknown]
  · rw [admits.whole] at known
    simp only [known]
    rw [if_neg (by omega), if_pos shorter]

/-- At its end, a section comes out, and what follows it is left. -/
theorem absorb_whole (admits : filter.Admits (held ++ data)) (behind : Bytes) :
    { filter with held }.absorb (data ++ behind) =
      ({ filter with held := [] }, some (held ++ data), behind) := by
  have known : wholeSize? (held ++ data ++ behind) = some (held ++ data).length := by
    rcases wholeSize?_front (held ++ data) behind with unknown | known
    · rw [admits.whole] at unknown
      cases unknown
    · rw [← known, admits.whole]
  have bounded := admits.bounded
  have reached : ¬(held ++ data ++ behind).length < (held ++ data).length := by
    rw [@List.length_append _ (held ++ data)]
    omega
  have settled : { filter with held }.Admits (held ++ data) := admits.of_settings rfl rfl
  unfold absorb
  simp only [← List.append_assoc, known]
  rw [if_neg (by omega), if_neg reached, List.take_left, List.drop_left,
    complete_admitted settled]

/-! ### The section in progress -/

/-- `InProgress filter held rest`: nothing is in progress, or a section that the filter lets
through is held but for its rest. -/
def InProgress (filter : SectionFilter) (held rest : Bytes) : Prop :=
  (held = [] ∧ rest = []) ∨ (held ≠ [] ∧ rest ≠ [] ∧ filter.Admits (held ++ rest))

/-- The section in progress, if there is one. -/
def inProgress (held rest : Bytes) : List Bytes := if rest = [] then [] else [held ++ rest]

@[simp] theorem inProgress_none (held : Bytes) : inProgress held [] = [] := rfl

theorem inProgress_some (held : Bytes) (more : rest ≠ []) :
    inProgress held rest = [held ++ rest] := if_neg more

/-- The rest of the section in progress ends it. -/
theorem absorb_rest (progress : filter.InProgress held rest) (behind : Bytes) :
    (if { filter with held }.isActive then
      let (filter, accepted, _) := { filter with held }.absorb (rest ++ behind)
      (filter.truncate, accepted.toList)
    else ({ filter with held }, [])) = ({ filter with held := [] }, inProgress held rest) := by
  rcases progress with ⟨rfl, rfl⟩ | ⟨filled, more, admits⟩
  · rfl
  · have active : { filter with held }.isActive = true := by simpa [isActive] using filled
    rw [if_pos active, absorb_whole admits behind, inProgress_some held more]
    rfl

/-- Sections that start in a payload come out, up to the one that goes on beyond it. -/
theorem takeSections_opening {begun : Bytes} (opening : Opening sections data begun later)
    (admitted : ∀ complete ∈ sections, filter.Admits complete) :
    ∃ front started, { filter with held := [] }.takeSections data =
        ({ filter with held := front }, started) ∧
      filter.InProgress front begun ∧ started ++ inProgress front begun ++ later = sections := by
  induction opening with
  | stuffed later count =>
    refine ⟨[], [], ?_, .inl ⟨rfl, rfl⟩, rfl⟩
    cases count with
    | zero => rw [stuffing, List.replicate_zero, takeSections]
    | succ count => simp [stuffing, List.replicate_succ, takeSections]
  | @whole complete sections later data begun others ih =>
    have admits := admitted complete List.mem_cons_self
    obtain ⟨front, started, taken, progress, whole⟩ :=
      ih (fun other member => admitted other (List.mem_cons_of_mem _ member))
    refine ⟨front, complete :: started, ?_, progress, by simp [← whole]⟩
    have absorbed := @absorb_whole filter complete [] admits data
    have nonempty := admits.nonempty
    have marked := admits.marked
    cases complete with
    | nil => exact absurd rfl nonempty
    | cons first others =>
      rw [List.cons_append, takeSections, if_neg (by simpa using marked)]
      rw [List.cons_append] at absorbed
      simp only [reset, absorbed, List.nil_append, Option.toList_some, List.cons_append, taken]
      rfl
  | @begun front begun later filled more =>
    have admits := admitted (front ++ begun) List.mem_cons_self
    refine ⟨front, [], ?_, .inr ⟨filled, more, admits⟩, by simp [inProgress_some front more]⟩
    have absorbed := @absorb_front filter front [] begun admits more
    have marked := admits.marked
    cases front with
    | nil => exact absurd rfl filled
    | cons first others =>
      rw [takeSections, if_neg (by simpa using marked)]
      simp only [reset, absorbed, List.nil_append]
      rfl

/-! ### Payloads -/

/-- One payload in which sections start. -/
theorem pushStart_opening {pointer : UInt8} {area begun : Bytes} {base : SectionFilter}
    {finished : List Bytes} (points : pointer.toNat = area.length)
    (ended : filter.finishHeld area = ({ base with held := [] }, finished))
    (opening : Opening sections data begun later)
    (admitted : ∀ complete ∈ sections, base.Admits complete) :
    ∃ front started, filter.push (pointer :: area ++ data) true =
        ({ base with held := front }, finished ++ started) ∧
      base.InProgress front begun ∧ started ++ inProgress front begun ++ later = sections := by
  obtain ⟨front, started, taken, progress, whole⟩ := takeSections_opening opening admitted
  refine ⟨front, started, ?_, progress, whole⟩
  have inside : ¬(area ++ data).length < pointer.toNat := by
    rw [points, List.length_append]
    omega
  simp only [push, if_true, List.cons_append, pushStart]
  rw [if_neg inside, points, List.take_left, List.drop_left]
  simp only [ended, taken]

/-- Every payload of a cut takes the section in progress further, and brings out what it
completes: at the end of the cut, everything is out and nothing was counted. -/
theorem pushAll_cut {payloads : List SectionPayload} (cut : Cut rest sections payloads)
    (progress : filter.InProgress held rest)
    (admitted : ∀ complete ∈ sections, filter.Admits complete) :
    { filter with held }.pushAll payloads =
      ({ filter with held := [] }, inProgress held rest ++ sections) := by
  induction cut generalizing held with
  | done =>
    rcases progress with ⟨rfl, _⟩ | ⟨_, more, _⟩
    · rfl
    · exact absurd rfl more
  | @goesOn piece rest sections payloads more others ih =>
    rcases progress with ⟨_, none⟩ | ⟨filled, _, admits⟩
    · exact absurd (List.append_eq_nil_iff.mp none).2 more
    · rw [← List.append_assoc] at admits
      have active : { filter with held }.isActive = true := by simpa [isActive] using filled
      have further : filter.InProgress (held ++ piece) rest :=
        .inr ⟨by simp [filled], more, admits⟩
      have pushed : { filter with held }.push piece false =
          ({ filter with held := held ++ piece }, []) := by
        simp [push, pushContinuation, active, absorb_front admits more]
      have both : piece ++ rest ≠ [] := by simp [more]
      rw [pushAll_cons, pushed, ih further admitted, inProgress_some _ more,
        inProgress_some _ both, List.append_assoc]
      rfl
  | @ends rest count sections payloads others ih =>
    have pushed : { filter with held }.push (rest ++ stuffing count) false =
        ({ filter with held := [] }, inProgress held rest) := by
      rcases progress with ⟨rfl, rfl⟩ | ⟨filled, more, admits⟩
      · rfl
      · have active : { filter with held }.isActive = true := by simpa [isActive] using filled
        simp [push, pushContinuation, active, absorb_whole admits, inProgress_some held more]
    rw [pushAll_cons, pushed, ih (.inl ⟨rfl, rfl⟩) admitted]
    rfl
  | @starts pointer rest data begun sections later payloads points opening others ih =>
    have ended : { filter with held }.finishHeld rest =
        ({ filter with held := [] }, inProgress held rest) := by
      have done := absorb_rest progress []
      rw [List.append_nil] at done
      exact done
    obtain ⟨front, started, pushed, further, whole⟩ :=
      pushStart_opening points ended opening admitted
    have behind : ∀ complete ∈ later, filter.Admits complete := by
      intro complete member
      apply admitted
      rw [← whole]
      exact List.mem_append_right _ member
    rw [pushAll_cons, pushed, ih further behind, ← whole]
    simp only [List.append_assoc]

/-! ### What was held before -/

theorem complete_settings (filter : SectionFilter) (data : Bytes) :
    (filter.complete data).1.longFormOnly = filter.longFormOnly ∧
      (filter.complete data).1.checkCrc = filter.checkCrc := by
  unfold complete
  dsimp only
  split
  · exact ⟨rfl, rfl⟩
  · split <;> exact ⟨rfl, rfl⟩

theorem absorb_settings (filter : SectionFilter) (data : Bytes) :
    (filter.absorb data).1.longFormOnly = filter.longFormOnly ∧
      (filter.absorb data).1.checkCrc = filter.checkCrc := by
  unfold absorb
  dsimp only
  split
  · exact ⟨rfl, rfl⟩
  · split
    · exact ⟨rfl, rfl⟩
    · split
      · exact ⟨rfl, rfl⟩
      · exact complete_settings filter _

theorem complete_accepted {complete : Bytes}
    (accepted : (filter.complete data).2 = some complete) : complete = data := by
  unfold SectionFilter.complete at accepted
  dsimp only at accepted
  split at accepted
  · cases accepted
  · split at accepted
    · cases accepted
    · exact (Option.some.inj accepted).symm

/-- A section that comes out was held but for its last bytes. -/
theorem absorb_accepted {complete : Bytes}
    (accepted : (filter.absorb data).2.1 = some complete) : complete <+: filter.held ++ data := by
  unfold absorb at accepted
  dsimp only at accepted
  split at accepted
  · cases accepted
  · split at accepted
    · cases accepted
    · split at accepted
      · cases accepted
      · rw [complete_accepted accepted]
        exact List.take_prefix ..

theorem truncate_eq (filter : SectionFilter) :
    ∃ truncated, filter.truncate = { filter with held := [], truncated } := by
  unfold truncate
  split
  · exact ⟨_, rfl⟩
  · rename_i idle
    have none : filter.held = [] := by simpa [isActive] using idle
    exact ⟨filter.truncated, by rw [← none]⟩

/-- The bytes before the first section that starts end what was held: it comes out if these
bytes complete it, and nothing else does. -/
theorem finishHeld_spec (filter : SectionFilter) (area : Bytes) :
    ∃ (base : SectionFilter) (finished : Option Bytes),
      filter.finishHeld area = ({ base with held := [] }, finished.toList) ∧
        base.longFormOnly = filter.longFormOnly ∧ base.checkCrc = filter.checkCrc ∧
        ∀ complete ∈ finished, filter.isActive = true ∧ complete <+: filter.held ++ area := by
  unfold finishHeld
  by_cases active : filter.isActive = true
  · obtain ⟨form, crc⟩ := absorb_settings filter area
    obtain ⟨truncated, ended⟩ := truncate_eq (filter.absorb area).1
    refine ⟨{ (filter.absorb area).1 with truncated }, (filter.absorb area).2.1, ?_, form, crc, ?_⟩
    · simp only [active, if_true, ended]
    · exact fun complete accepted => ⟨active, absorb_accepted accepted⟩
  · have none : filter.held = [] := by simpa [isActive] using active
    refine ⟨filter, Option.none, ?_, rfl, rfl, by simp⟩
    rw [if_neg active, ← none]
    rfl

/-! ### The whole cut -/

/-- Sections cut into payloads, the first of which starts with any bytes before its pointer:
from any state, the filter brings out these sections in order and unchanged, behind at most
one that it had held and that those bytes complete. After the first payload nothing more is
counted, and in the end nothing is held. -/
theorem pushAll_sections (filter : SectionFilter) {pointer : UInt8} {area begun : Bytes}
    {payloads : List SectionPayload} (admitted : ∀ complete ∈ sections, filter.Admits complete)
    (points : pointer.toNat = area.length) (opening : Opening sections data begun later)
    (cut : Cut begun later payloads) :
    ∃ finished : Option Bytes,
      (∀ complete ∈ finished, filter.isActive = true ∧ complete <+: filter.held ++ area) ∧
        filter.pushAll (⟨true, pointer :: area ++ data⟩ :: payloads) =
          ({ (filter.push (pointer :: area ++ data) true).1 with held := [] },
            finished.toList ++ sections) := by
  obtain ⟨base, finished, ended, form, crc, former⟩ := finishHeld_spec filter area
  have admitted : ∀ complete ∈ sections, base.Admits complete :=
    fun complete member => (admitted complete member).of_settings form crc
  obtain ⟨front, started, pushed, progress, whole⟩ :=
    pushStart_opening points ended opening admitted
  have behind : ∀ complete ∈ later, base.Admits complete := by
    intro complete member
    apply admitted
    rw [← whole]
    exact List.mem_append_right _ member
  refine ⟨finished, former, ?_⟩
  rw [pushAll_cons, pushed, pushAll_cut cut progress behind, ← whole]
  simp only [List.append_assoc]

/-- A section without a body. -/
private def emptySection (number : Nat) : Bytes :=
  LongSection.encode {
    tableId := 0x42, extension := 1, version := 0, currentNext := true, number, last := 2
    body := [] }

/-- One section starts and ends in a payload, the next is cut inside of its header, and a third
starts in the payload in which that one ends. A section held before comes out first. -/
theorem split_sections_delivered :
    let held : SectionFilter := { privateData 0x1F0 true with held := [0x80, 0x70] }
    let payloads : List SectionPayload := [
      ⟨true, 2 :: [0x00, 0x55] ++ (emptySection 0 ++ (emptySection 1).take 2)⟩,
      ⟨false, ((emptySection 1).drop 2).take 5⟩,
      ⟨true, 5 :: (emptySection 1).drop 7 ++ (emptySection 2 ++ stuffing 3)⟩]
    ∃ finished : Option Bytes,
      (∀ complete ∈ finished, held.isActive = true ∧ complete <+: held.held ++ [0x00, 0x55]) ∧
        (held.pushAll payloads).2 =
          finished.toList ++ [emptySection 0, emptySection 1, emptySection 2] := by
  intro held payloads
  have admitted : ∀ complete ∈ [emptySection 0, emptySection 1, emptySection 2],
      held.Admits complete := by decide +kernel
  have opening : Opening [emptySection 0, emptySection 1, emptySection 2]
      (emptySection 0 ++ (emptySection 1).take 2) ((emptySection 1).drop 2) [emptySection 2] := by
    have begun : Opening [(emptySection 1).take 2 ++ (emptySection 1).drop 2, emptySection 2]
        ((emptySection 1).take 2) ((emptySection 1).drop 2) [emptySection 2] :=
      .begun _ (by decide +kernel) (by decide +kernel)
    rw [List.take_append_drop] at begun
    exact .whole _ begun
  have cut : Cut ((emptySection 1).drop 2) [emptySection 2] payloads.tail := by
    have last : Opening [emptySection 2] (emptySection 2 ++ stuffing 3) [] [] :=
      .whole _ (.stuffed [] 3)
    have ends : Cut ((emptySection 1).drop 7) [emptySection 2]
        [⟨true, 5 :: (emptySection 1).drop 7 ++ (emptySection 2 ++ stuffing 3)⟩] :=
      .starts (by decide +kernel) last .done
    have pieces : (emptySection 1).drop 2 =
        ((emptySection 1).drop 2).take 5 ++ (emptySection 1).drop 7 := by decide +kernel
    rw [pieces]
    exact .goesOn _ (by decide +kernel) ends
  have points : (2 : UInt8).toNat = [(0x00 : UInt8), 0x55].length := rfl
  obtain ⟨finished, former, delivered⟩ := pushAll_sections held admitted points opening cut
  exact ⟨finished, former, congrArg Prod.snd delivered⟩

end SectionFilter

end TransportStream
