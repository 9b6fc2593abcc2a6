import TransportStream.Proofs.Provenance

/-!
The section filter on a buffer that is filled piece by piece: lengths are differences, bytes are
read by index, and the loop over a payload has a limited number of rounds. Whatever it is asked,
no difference is negative, no index is out of bounds and the rounds suffice; it does what the
section filter does, and every section that comes out is sound.
-/
namespace TransportStream

/-- What a section filter is asked. -/
inductive SectionCall where
  | push (payload : SectionPayload)
  | reset
  | discontinuity
  deriving DecidableEq, Repr

namespace SectionFilter

variable {filter : SectionFilter} {data : Bytes}

/-- What a call does, and the sections that come out. -/
def call (filter : SectionFilter) : SectionCall → SectionFilter × List Bytes
  | .push payload => filter.push payload.bytes payload.unitStart
  | .reset => (filter.reset, [])
  | .discontinuity => (filter.discontinuity, [])

/-- Calls in turn. -/
def callAll (filter : SectionFilter) : List SectionCall → SectionFilter × List Bytes
  | [] => (filter, [])
  | call :: calls =>
    let (filter, sections) := filter.call call
    let (filter, later) := filter.callAll calls
    (filter, sections ++ later)

/-! ### What is held -/

/-- What is held does not begin like stuffing, and is less than the section that it declares,
which is not too long. -/
structure Partial (filter : SectionFilter) : Prop where
  marked : filter.held.head? ≠ some 0xFF
  short : ∀ size, wholeSize? filter.held = some size →
    filter.held.length < size ∧ size ≤ LongSection.headerSize + LongSection.lengthLimit

theorem wholeSize?_eq_none {held : Bytes} :
    wholeSize? held = none ↔ held.length < LongSection.headerSize := by
  rcases held with _ | ⟨_, _ | ⟨_, _ | ⟨_, _⟩⟩⟩ <;> simp [wholeSize?, LongSection.headerSize]

/-- A section is not shorter than its header. -/
theorem headerSize_le {size : Nat} (known : wholeSize? data = some size) :
    LongSection.headerSize ≤ size := by
  unfold wholeSize? at known
  split at known
  · simp only [Option.some.injEq] at known
    omega
  · cases known

/-- The length of a section is in its header. -/
theorem wholeSize?_take {size count : Nat} (known : wholeSize? data = some size)
    (header : LongSection.headerSize ≤ count) : wholeSize? (data.take count) = some size := by
  rcases wholeSize?_front (data.take count) (data.drop count) with unknown | same
  · have enough : LongSection.headerSize ≤ data.length := by
      by_cases short : data.length < LongSection.headerSize
      · rw [wholeSize?_eq_none.mpr short] at known
        cases known
      · omega
    rw [wholeSize?_eq_none, List.length_take] at unknown
    omega
  · rw [same, List.take_append_drop, known]

/-- A header gives the form and the length of its section. -/
theorem header_read (header : LongSection.headerSize ≤ data.length) :
    ∃ second third, data[1]? = some second ∧ data[2]? = some third ∧
      isLongForm data = bit second 7 ∧
      wholeSize? data =
        some (LongSection.headerSize + LongSection.declaredLength second third) := by
  simp only [LongSection.headerSize] at header
  obtain _ | ⟨first, _ | ⟨second, _ | ⟨third, rest⟩⟩⟩ := data
  · simp at header
  · simp at header
  · simp at header
  · exact ⟨second, third, rfl, rfl, rfl, rfl⟩

theorem Partial.of_idle (idle : filter.held = []) : filter.Partial := by
  constructor <;> simp [idle, wholeSize?]

/-- What is held keeps its first byte when more bytes follow. -/
theorem Partial.marked_append (held : filter.Partial) (active : filter.isActive = true)
    (data : Bytes) : (filter.held ++ data).head? ≠ some 0xFF := by
  have marked := held.marked
  cases begun : filter.held with
  | nil => simp [isActive, begun] at active
  | cons first others => simpa [begun] using marked

/-! ### What comes out -/

/-- What comes of a call: less than a section is held, the settings stay, and the filter lets
through every section that comes out. -/
structure Sound (filter : SectionFilter) (result : SectionFilter × List Bytes) : Prop where
  held : result.1.Partial
  form : result.1.longFormOnly = filter.longFormOnly
  crc : result.1.checkCrc = filter.checkCrc
  sections : ∀ complete ∈ result.2, filter.Admits complete

theorem Sound.refl (held : filter.Partial) : filter.Sound (filter, []) :=
  ⟨held, rfl, rfl, by simp⟩

theorem Sound.append {between after : SectionFilter} {sections later : List Bytes}
    (first : filter.Sound (between, sections)) (second : between.Sound (after, later)) :
    filter.Sound (after, sections ++ later) where
  held := second.held
  form := second.form.trans first.form
  crc := second.crc.trans first.crc
  sections := by
    intro complete member
    rcases List.mem_append.mp member with now | behind
    · exact first.sections complete now
    · exact (second.sections complete behind).of_settings first.form.symm first.crc.symm

theorem reset_sound (filter : SectionFilter) : filter.Sound (filter.reset, []) :=
  ⟨.of_idle rfl, rfl, rfl, by simp⟩

theorem truncate_sound (filter : SectionFilter) : filter.Sound (filter.truncate, []) := by
  obtain ⟨truncated, ended⟩ := truncate_eq filter
  rw [ended]
  exact ⟨.of_idle rfl, rfl, rfl, by simp⟩

/-- The form and the check value of a section that comes out are those that were asked for. -/
theorem complete_admits {complete : Bytes} (accepted : (filter.complete data).2 = some complete)
    (whole : wholeSize? data = some data.length)
    (bounded : data.length ≤ LongSection.headerSize + LongSection.lengthLimit)
    (marked : data.head? ≠ some 0xFF) : filter.Admits complete := by
  obtain rfl := complete_accepted accepted
  refine ⟨whole, bounded, marked, ?_, ?_⟩
  · intro strict
    cases form : isLongForm complete with
    | true => rfl
    | false => simp [SectionFilter.complete, strict, form] at accepted
  · intro strict long
    cases verdict : (Crc.verify complete).isOk with
    | true => rfl
    | false => simp [SectionFilter.complete, strict, long, verdict] at accepted

/-- More bytes leave less than a section, or complete one that the filter lets through. -/
theorem absorb_sound (filter : SectionFilter) (data : Bytes)
    (marked : (filter.held ++ data).head? ≠ some 0xFF) :
    filter.Sound ((filter.absorb data).1, (filter.absorb data).2.1.toList) := by
  obtain ⟨form, crc⟩ := absorb_settings filter data
  suffices rest : (filter.absorb data).1.Partial ∧
      ∀ complete ∈ (filter.absorb data).2.1, filter.Admits complete from
    ⟨rest.1, form, crc, fun complete member => rest.2 complete (Option.mem_toList.mp member)⟩
  unfold absorb
  dsimp only
  cases known : wholeSize? (filter.held ++ data) with
  | none => exact ⟨⟨marked, by simp [known]⟩, by simp⟩
  | some size =>
    dsimp only
    by_cases oversized : LongSection.headerSize + LongSection.lengthLimit < size
    · rw [if_pos oversized]
      exact ⟨.of_idle rfl, by simp⟩
    · rw [if_neg oversized]
      by_cases shorter : (filter.held ++ data).length < size
      · rw [if_pos shorter]
        refine ⟨⟨marked, ?_⟩, by simp⟩
        intro declared same
        obtain rfl : size = declared := Option.some.inj (known.symm.trans same)
        exact ⟨shorter, by omega⟩
      · rw [if_neg shorter]
        refine ⟨.of_idle (complete_held filter _), ?_⟩
        intro complete accepted
        have length : ((filter.held ++ data).take size).length = size :=
          List.length_take_of_le (by omega)
        have header := headerSize_le known
        have front : wholeSize? ((filter.held ++ data).take size) = some size :=
          wholeSize?_take known header
        refine complete_admits accepted (by rw [front, length]) (by omega) ?_
        rwa [List.head?_take, if_neg (by simp only [LongSection.headerSize] at header; omega)]

theorem takeSections_sound (filter : SectionFilter) (data : Bytes) (held : filter.Partial) :
    filter.Sound (filter.takeSections data) := by
  fun_induction takeSections filter data with
  | case1 filter => exact .refl held
  | case2 filter rest => exact .refl held
  | case3 filter first rest started reset step active =>
    have marked : (reset.held ++ first :: rest).head? ≠ some 0xFF := by
      simpa [reset, SectionFilter.reset] using started
    exact (reset_sound filter).append (absorb_sound reset (first :: rest) marked)
  | case4 filter first rest started reset step inactive after sections further ih =>
    have marked : (reset.held ++ first :: rest).head? ≠ some 0xFF := by
      simpa [reset, SectionFilter.reset] using started
    have taken : filter.Sound (step.1, step.2.1.toList) :=
      (reset_sound filter).append (absorb_sound reset (first :: rest) marked)
    rw [further] at ih
    exact taken.append (ih taken.held)

theorem finishHeld_sound (held : filter.Partial) (tail : Bytes) :
    filter.Sound (filter.finishHeld tail) := by
  unfold finishHeld
  by_cases active : filter.isActive = true
  · rw [if_pos active]
    have taken := absorb_sound filter tail (held.marked_append active tail)
    have ended := taken.append (truncate_sound (filter.absorb tail).1)
    rwa [List.append_nil] at ended
  · rw [if_neg active]
    exact .refl held

theorem push_sound (held : filter.Partial) (payload : Bytes) (unitStart : Bool) :
    filter.Sound (filter.push payload unitStart) := by
  cases unitStart with
  | false =>
    simp only [push, Bool.false_eq_true, if_false, pushContinuation]
    by_cases active : filter.isActive = true
    · rw [if_pos active]
      exact absorb_sound filter payload (held.marked_append active payload)
    · rw [if_neg active]
      exact .refl held
  | true =>
    simp only [push, if_true]
    cases payload with
    | nil => exact .refl held
    | cons pointer data =>
      simp only [pushStart]
      by_cases beyond : data.length < pointer.toNat
      · rw [if_pos beyond]
        exact ⟨.of_idle rfl, rfl, rfl, by simp⟩
      · rw [if_neg beyond]
        have ended := finishHeld_sound held (data.take pointer.toNat)
        exact ended.append (takeSections_sound _ (data.drop pointer.toNat) ended.held)

theorem call_sound (held : filter.Partial) (call : SectionCall) :
    filter.Sound (filter.call call) := by
  cases call with
  | push payload => exact push_sound held payload.bytes payload.unitStart
  | reset => exact reset_sound filter
  | discontinuity => exact truncate_sound filter

theorem callAll_sound (held : filter.Partial) (calls : List SectionCall) :
    filter.Sound (filter.callAll calls) := by
  induction calls generalizing filter with
  | nil => exact .refl held
  | cons call calls ih =>
    have now := call_sound held call
    exact now.append (ih now.held)

end SectionFilter

/-! ### The buffer -/

/-- A difference, if it is not negative. -/
def difference? (whole part : Nat) : Option Nat :=
  if part ≤ whole then some (whole - part) else none

/-- The bytes from one place up to another, if these are in order and within the string. -/
def slice? (data : Bytes) (first last : Nat) : Option Bytes :=
  if first ≤ last ∧ last ≤ data.length then some ((data.take last).drop first) else none

/-- A section filter that keeps apart from its buffer whether a section is in progress, and how
long it is as far as that is known. What it asks of its buffer may fail. -/
structure IndexedFilter extends SectionFilter where
  expected : Option Nat := none
  active : Bool := false
  deriving DecidableEq, Repr

namespace IndexedFilter

/-- Drops the section in progress. -/
def clear (filter : IndexedFilter) : IndexedFilter :=
  { filter with held := [], expected := none, active := false }

/-- Drops the section in progress and counts it. -/
def cutShort (filter : IndexedFilter) : IndexedFilter :=
  { filter.clear with truncated := filter.truncated + 1 }

/-- Fills the buffer from a place in `data` on, up to `goal` bytes. The second result is the
place behind the bytes taken. -/
def fill? (filter : IndexedFilter) (data : Bytes) (place goal : Nat) :
    Option (IndexedFilter × Nat) := do
  let room ← difference? goal filter.held.length
  let left ← difference? data.length place
  let taken ← slice? data place (place + min room left)
  some ({ filter with held := filter.held ++ taken }, place + min room left)

/-- The length of the section in the buffer, read from its header. -/
def measure? (filter : IndexedFilter) : Option Nat := do
  let second ← filter.held[1]?
  let third ← filter.held[2]?
  some (LongSection.headerSize + LongSection.declaredLength second third)

/-- Takes the buffer for a complete section and judges it. -/
def complete? (filter : IndexedFilter) : Option (IndexedFilter × Option Bytes) := do
  let second ← filter.held[1]?
  if filter.longFormOnly && !bit second 7 then
    some ({ filter.clear with malformed := filter.malformed + 1 }, none)
  else if filter.checkCrc && bit second 7 && !(Crc.verify filter.held).isOk then
    some ({ filter.clear with crcErrors := filter.crcErrors + 1 }, none)
  else some (filter.clear, some filter.held)

/-- Fills the buffer up to the end of the section. -/
def fillBody? (filter : IndexedFilter) (data : Bytes) (place size : Nat) :
    Option (IndexedFilter × Option Bytes × Nat) := do
  let (filter, place) ← filter.fill? data place size
  if filter.held.length = size then
    let (filter, accepted) ← filter.complete?
    some (filter, accepted, place)
  else some (filter, none, place)

/-- Fills the header, and the body when the length is known from it. -/
def fillHeader? (filter : IndexedFilter) (data : Bytes) :
    Option (IndexedFilter × Option Bytes × Nat) := do
  let (filter, place) ← filter.fill? data 0 LongSection.headerSize
  if filter.held.length < LongSection.headerSize then some (filter, none, place)
  else
    let size ← filter.measure?
    if LongSection.headerSize + LongSection.lengthLimit < size then
      some ({ filter.clear with malformed := filter.malformed + 1 }, none, data.length)
    else fillBody? { filter with expected := some size } data place size

/-- Continues the section in progress. Returns the section if it is complete now and accepted,
and the number of bytes taken. -/
def append? (filter : IndexedFilter) (data : Bytes) :
    Option (IndexedFilter × Option Bytes × Nat) :=
  match filter.expected with
  | some size => filter.fillBody? data 0 size
  | none => filter.fillHeader? data

/-- Takes the sections that start in `data`, in no more than the given number of rounds. -/
def consume? : Nat → IndexedFilter → Bytes → Option (IndexedFilter × List Bytes)
  | 0, _, _ => none
  | _ + 1, filter, [] => some (filter, [])
  | rounds + 1, filter, first :: rest =>
    if first = 0xFF then some (filter, [])
    else do
      let begun : IndexedFilter := { filter with held := [], expected := none, active := true }
      let (filter, accepted, taken) ← begun.append? (first :: rest)
      let behind ← slice? (first :: rest) taken (first :: rest).length
      if filter.active then some (filter, accepted.toList)
      else
        let (filter, later) ← consume? rounds filter behind
        some (filter, accepted.toList ++ later)

/-- Ends the section in progress with the bytes before the first new section. -/
def finish? (filter : IndexedFilter) (tail : Bytes) : Option (IndexedFilter × List Bytes) :=
  if filter.active then do
    let (filter, accepted, _) ← filter.append? tail
    some (if filter.active then filter.cutShort else filter, accepted.toList)
  else some (filter, [])

/-- Takes a payload in which sections start. A round for each byte and one more are enough. -/
def pushStart? (filter : IndexedFilter) : Bytes → Option (IndexedFilter × List Bytes)
  | [] => some (filter, [])
  | pointer :: data =>
    if data.length < pointer.toNat then
      some ({ filter.clear with malformed := filter.malformed + 1 }, [])
    else do
      let tail ← slice? data 0 pointer.toNat
      let rest ← slice? data pointer.toNat data.length
      let (filter, finished) ← filter.finish? tail
      let (filter, started) ← consume? (rest.length + 1) filter rest
      some (filter, finished ++ started)

/-- Takes one payload and returns the sections it completes. -/
def push? (filter : IndexedFilter) (payload : SectionPayload) :
    Option (IndexedFilter × List Bytes) :=
  if payload.unitStart then filter.pushStart? payload.bytes
  else if filter.active then do
    let (filter, accepted, _) ← filter.append? payload.bytes
    some (filter, accepted.toList)
  else some (filter, [])

/-- What a call does, and the sections that come out. -/
def call? (filter : IndexedFilter) : SectionCall → Option (IndexedFilter × List Bytes)
  | .push payload => filter.push? payload
  | .reset => some (filter.clear, [])
  | .discontinuity => some (if filter.active then filter.cutShort else filter.clear, [])

/-- Calls in turn. -/
def callAll? (filter : IndexedFilter) : List SectionCall → Option (IndexedFilter × List Bytes)
  | [] => some (filter, [])
  | call :: calls => do
    let (filter, sections) ← filter.call? call
    let (filter, later) ← filter.callAll? calls
    some (filter, sections ++ later)

/-- What holds between calls. Without a section in progress the buffer is empty and no length is
expected; otherwise there are bytes in the buffer, fewer than those of a header as long as the
length is not known, and fewer than the length when it is. -/
structure InBounds (filter : IndexedFilter) : Prop where
  idle : filter.active = false → filter.held = [] ∧ filter.expected = none
  begun : filter.active = true → 1 ≤ filter.held.length
  unknown : filter.active = true → (filter.expected = none ↔ filter.held.length < 3)
  known : ∀ size, filter.expected = some size → filter.held.length < size ∧ size ≤ 4096

end IndexedFilter

/-! ### Indices in bounds -/

namespace SectionFilter

variable {filter : SectionFilter}

/-- The filter with what follows from the bytes it holds. -/
def indexed (filter : SectionFilter) : IndexedFilter :=
  { filter with expected := wholeSize? filter.held, active := filter.isActive }

@[simp] theorem indexed_active (filter : SectionFilter) :
    filter.indexed.active = filter.isActive := rfl

/-- The filter with a section in progress, no byte of which may be held yet. -/
def started (filter : SectionFilter) : IndexedFilter :=
  { filter with expected := wholeSize? filter.held, active := true }

theorem started_eq (filled : filter.held ≠ []) : filter.started = filter.indexed := by
  have active : filter.isActive = true := by simpa [isActive] using filled
  simp only [started, indexed, active]

theorem indexed_inBounds (held : filter.Partial) : filter.indexed.InBounds where
  idle := by
    intro idle
    have empty : filter.held = [] := by simpa [indexed, isActive] using idle
    exact ⟨empty, by simp [indexed, empty, wholeSize?]⟩
  begun := by
    intro active
    have filled : filter.held ≠ [] := by simpa [indexed, isActive] using active
    exact List.length_pos_iff.mpr filled
  unknown _ := wholeSize?_eq_none
  known := held.short

end SectionFilter

theorem difference?_eq {whole part : Nat} (fits : part ≤ whole) :
    difference? whole part = some (whole - part) := if_pos fits

theorem slice?_eq {data : Bytes} {first last : Nat} (ordered : first ≤ last)
    (within : last ≤ data.length) :
    slice? data first last = some ((data.drop first).take (last - first)) := by
  rw [slice?, if_pos ⟨ordered, within⟩, List.drop_take]

theorem slice?_drop {data : Bytes} {count : Nat} (within : count ≤ data.length) :
    slice? data count data.length = some (data.drop count) := by
  rw [slice?_eq within (Nat.le_refl _), ← List.length_drop, List.take_length]

namespace IndexedFilter

variable {filter : SectionFilter} {data front : Bytes} {place size : Nat}

/-- There is room for the bytes that are taken, and they are there. -/
theorem fill?_eq (filter : IndexedFilter) (data : Bytes) {goal : Nat}
    (room : filter.held.length ≤ goal) (within : place ≤ data.length) :
    filter.fill? data place goal =
      some (
        { filter with held := filter.held ++ (data.drop place).take (goal - filter.held.length) },
        place + min (goal - filter.held.length) (data.length - place)) := by
  have all : (data.drop place).take (min (goal - filter.held.length) (data.length - place)) =
      (data.drop place).take (goal - filter.held.length) := by
    rw [← List.length_drop, ← List.take_eq_take_min]
  simp only [fill?, difference?_eq room, difference?_eq within, Option.bind_eq_bind,
    Option.bind_some]
  rw [slice?_eq (by omega) (by omega), Nat.add_sub_cancel_left, all]
  rfl

theorem measure?_eq (filter : IndexedFilter)
    (header : LongSection.headerSize ≤ filter.held.length) :
    filter.measure? = SectionFilter.wholeSize? filter.held := by
  obtain ⟨second, third, read, next, _, known⟩ := SectionFilter.header_read header
  simp only [measure?, read, next, known, Option.bind_eq_bind, Option.bind_some]

/-- The header is read within the buffer, and judging a section leaves none in progress. -/
theorem complete?_eq (filter : IndexedFilter)
    (header : LongSection.headerSize ≤ filter.held.length) :
    filter.complete? =
      some ((filter.toSectionFilter.complete filter.held).1.indexed,
        (filter.toSectionFilter.complete filter.held).2) := by
  obtain ⟨second, _, read, _, form, _⟩ := SectionFilter.header_read header
  simp only [complete?, SectionFilter.complete, read, form, Option.bind_eq_bind, Option.bind_some]
  by_cases short : (filter.longFormOnly && !bit second 7) = true
  · simp only [if_pos short]
    rfl
  · by_cases wrong : (filter.checkCrc && bit second 7 && !(Crc.verify filter.held).isOk) = true
    · simp only [if_neg short, if_pos wrong]
      rfl
    · simp only [if_neg short, if_neg wrong]
      rfl

/-- Filling the buffer up to the end of the section takes from `data` what the filter takes. -/
theorem fillBody?_eq (known : SectionFilter.wholeSize? (filter.held ++ data) = some size)
    (bounded : size ≤ LongSection.headerSize + LongSection.lengthLimit)
    (whole : front ++ data.drop place = filter.held ++ data) (room : front.length ≤ size)
    (within : place ≤ data.length) :
    ∃ taken ≤ data.length,
      fillBody? { filter with held := front, expected := some size, active := true }
          data place size =
        some ((filter.absorb data).1.indexed, (filter.absorb data).2.1, taken) ∧
      data.drop taken = (filter.absorb data).2.2 := by
  have lengths : front.length + (data.length - place) = (filter.held ++ data).length := by
    rw [← whole, List.length_append, List.length_drop]
  have header := SectionFilter.headerSize_le known
  have filled : front ++ (data.drop place).take (size - front.length) =
      (filter.held ++ data).take size := by
    rw [← whole, List.take_append, List.take_of_length_le room]
  have fill := fill?_eq { filter with held := front, expected := some size, active := true } data
    room within
  simp only [filled] at fill
  unfold SectionFilter.absorb fillBody?
  simp only [fill, known, Option.bind_eq_bind, Option.bind_some, if_neg (Nat.not_lt.mpr bounded)]
  by_cases shorter : (filter.held ++ data).length < size
  · -- all of the data is taken, and the section goes on beyond it
    have all : (filter.held ++ data).take size = filter.held ++ data :=
      List.take_of_length_le (by omega)
    have begun : filter.held ++ data ≠ [] := by
      intro empty
      rw [empty] at known
      cases known
    simp only [all, if_pos shorter, if_neg (Nat.ne_of_lt shorter)]
    refine ⟨place + min (size - front.length) (data.length - place), by omega, ?_,
      List.drop_eq_nil_of_le (by omega)⟩
    rw [← SectionFilter.started_eq begun, SectionFilter.started, known]
  · have length : ((filter.held ++ data).take size).length = size :=
      List.length_take_of_le (by omega)
    simp only [length, if_true, if_neg shorter]
    rw [complete?_eq _ (by simpa only [length] using header)]
    refine ⟨place + min (size - front.length) (data.length - place), by omega, rfl, ?_⟩
    have behind : min (size - front.length) (data.length - place) = size - front.length := by omega
    rw [← whole, List.drop_append, List.drop_of_length_le room, List.nil_append, List.drop_drop,
      behind]

/-- So does filling the header first. -/
theorem fillHeader?_eq (room : filter.held.length < LongSection.headerSize)
    (fed : filter.held ++ data ≠ []) :
    ∃ taken ≤ data.length,
      fillHeader? { filter with expected := none, active := true } data =
        some ((filter.absorb data).1.indexed, (filter.absorb data).2.1, taken) ∧
      data.drop taken = (filter.absorb data).2.2 := by
  have filled : filter.held ++ data.take (LongSection.headerSize - filter.held.length) =
      (filter.held ++ data).take LongSection.headerSize := by
    rw [List.take_append, List.take_of_length_le (Nat.le_of_lt room)]
  have lengths : (filter.held ++ data).length = filter.held.length + data.length :=
    List.length_append
  have fill := fill?_eq { filter with expected := none, active := true } data
    (Nat.le_of_lt room) (Nat.zero_le _)
  simp only [List.drop_zero, filled, Nat.zero_add, Nat.sub_zero] at fill
  simp only [fillHeader?, fill, Option.bind_eq_bind, Option.bind_some]
  by_cases short : (filter.held ++ data).length < LongSection.headerSize
  · -- the data ends within the header
    have unknown := SectionFilter.wholeSize?_eq_none.mpr short
    have all : (filter.held ++ data).take LongSection.headerSize = filter.held ++ data :=
      List.take_of_length_le (Nat.le_of_lt short)
    simp only [SectionFilter.absorb, unknown, all, if_pos short]
    refine ⟨min (LongSection.headerSize - filter.held.length) data.length, by omega, ?_,
      List.drop_eq_nil_of_le (by omega)⟩
    rw [← SectionFilter.started_eq fed, SectionFilter.started, unknown]
  · -- the header is whole, and what is behind it fills the body
    have length : ((filter.held ++ data).take LongSection.headerSize).length =
        LongSection.headerSize := List.length_take_of_le (by omega)
    obtain ⟨size, known⟩ : ∃ size, SectionFilter.wholeSize? (filter.held ++ data) = some size :=
      Option.ne_none_iff_exists'.mp (mt SectionFilter.wholeSize?_eq_none.mp short)
    have measured := SectionFilter.wholeSize?_take known (Nat.le_refl _)
    rw [if_neg (by simp only [length]; omega), measure?_eq _ (by simp only [length]; omega)]
    simp only [measured, Option.bind_some]
    by_cases oversized : LongSection.headerSize + LongSection.lengthLimit < size
    · simp only [SectionFilter.absorb, known, if_pos oversized]
      exact ⟨data.length, Nat.le_refl _, rfl, List.drop_length⟩
    · rw [if_neg oversized]
      have header := SectionFilter.headerSize_le known
      have enough : min (LongSection.headerSize - filter.held.length) data.length =
          LongSection.headerSize - filter.held.length := by omega
      refine fillBody?_eq known (Nat.not_lt.mp oversized) ?_ (by omega) (by omega)
      rw [enough, ← filled, List.append_assoc, List.take_append_drop]

/-- Bytes that continue or start a section are taken as by the filter, and none of them is
asked for that is not there. -/
theorem append?_eq (held : filter.Partial) (data : Bytes) (fed : filter.held ++ data ≠ []) :
    ∃ taken ≤ data.length,
      filter.started.append? data =
        some ((filter.absorb data).1.indexed, (filter.absorb data).2.1, taken) ∧
      data.drop taken = (filter.absorb data).2.2 := by
  unfold append? SectionFilter.started
  dsimp only
  cases declared : SectionFilter.wholeSize? filter.held with
  | none => exact fillHeader?_eq (SectionFilter.wholeSize?_eq_none.mp declared) fed
  | some size =>
    obtain ⟨short, bounded⟩ := held.short size declared
    have known : SectionFilter.wholeSize? (filter.held ++ data) = some size := by
      rcases SectionFilter.wholeSize?_front filter.held data with unknown | same
      · rw [declared] at unknown
        cases unknown
      · rw [← same, declared]
    exact fillBody?_eq known bounded rfl (Nat.le_of_lt short) (Nat.zero_le _)

theorem append?_active (held : filter.Partial) (active : filter.isActive = true) (data : Bytes) :
    ∃ taken, filter.indexed.append? data =
      some ((filter.absorb data).1.indexed, (filter.absorb data).2.1, taken) := by
  have filled : filter.held ≠ [] := by simpa [SectionFilter.isActive] using active
  obtain ⟨taken, _, appended, _⟩ :=
    append?_eq held data (List.append_ne_nil_of_left_ne_nil filled _)
  rw [SectionFilter.started_eq filled] at appended
  exact ⟨taken, appended⟩

/-- One round of the loop. -/
theorem consume?_round (filter : SectionFilter) (rounds : Nat) {first : UInt8} {rest : Bytes}
    (begins : first ≠ 0xFF) :
    consume? (rounds + 1) filter.indexed (first :: rest) =
      let step := filter.reset.absorb (first :: rest)
      if step.1.isActive then some (step.1.indexed, step.2.1.toList)
      else (consume? rounds step.1.indexed step.2.2).bind fun next =>
        some (next.1, step.2.1.toList ++ next.2) := by
  have held : filter.reset.Partial := .of_idle rfl
  have fed : filter.reset.held ++ first :: rest ≠ [] :=
    List.append_ne_nil_of_right_ne_nil _ (by simp)
  obtain ⟨taken, within, appended, behind⟩ := append?_eq held _ fed
  have started : { filter.indexed with held := [], expected := none, active := true } =
      filter.reset.started := rfl
  simp only [consume?, if_neg begins, started, appended, slice?_drop within, behind,
    Option.bind_eq_bind, Option.bind_some]
  rfl

/-- The loop ends: every round but the last takes a byte. -/
theorem consume?_eq (filter : SectionFilter) (data : Bytes) (rounds : Nat)
    (enough : data.length ≤ rounds) :
    consume? (rounds + 1) filter.indexed data =
      some ((filter.takeSections data).1.indexed, (filter.takeSections data).2) := by
  fun_induction SectionFilter.takeSections filter data generalizing rounds with
  | case1 filter => rfl
  | case2 filter rest => rfl
  | case3 filter first rest begins reset step active =>
    rw [consume?_round filter rounds begins]
    exact if_pos active
  | case4 filter first rest begins reset step inactive after sections further ih =>
    cases rounds with
    | zero => exact absurd enough (Nat.not_succ_le_zero _)
    | succ rounds =>
      have fewer := SectionFilter.absorb_rest_length reset (first :: rest) rfl (by simp)
      have remaining : step.2.2.length ≤ rounds :=
        Nat.le_of_lt_succ (Nat.lt_of_lt_of_le fewer enough)
      rw [consume?_round filter (rounds + 1) begins]
      dsimp only
      rw [if_neg inactive, ih rounds remaining, further]
      rfl

theorem truncate_active (active : filter.isActive = true) :
    filter.truncate.indexed = filter.indexed.cutShort := by
  rw [SectionFilter.truncate, if_pos active]
  rfl

theorem truncate_idle (idle : filter.isActive = false) : filter.truncate = filter := by
  simp only [SectionFilter.truncate, idle, Bool.false_eq_true, if_false]

theorem clear_idle (idle : filter.isActive = false) : filter.indexed.clear = filter.indexed := by
  have empty : filter.held = [] := by simpa [SectionFilter.isActive] using idle
  obtain ⟨pid, checkCrc, longFormOnly, held, crcErrors, truncated, malformed⟩ := filter
  subst empty
  rfl

theorem finish?_eq (held : filter.Partial) (tail : Bytes) :
    filter.indexed.finish? tail =
      some ((filter.finishHeld tail).1.indexed, (filter.finishHeld tail).2) := by
  cases active : filter.isActive with
  | false =>
    simp only [finish?, SectionFilter.finishHeld, SectionFilter.indexed_active, active,
      Bool.false_eq_true, if_false]
  | true =>
    obtain ⟨taken, appended⟩ := append?_active held active tail
    cases more : (filter.absorb tail).1.isActive with
    | false =>
      simp only [finish?, SectionFilter.finishHeld, SectionFilter.indexed_active, active, if_true,
        appended, Option.bind_eq_bind, Option.bind_some, more, Bool.false_eq_true, if_false,
        truncate_idle more]
    | true =>
      simp only [finish?, SectionFilter.finishHeld, SectionFilter.indexed_active, active, if_true,
        appended, Option.bind_eq_bind, Option.bind_some, more, truncate_active more]

theorem pushStart?_eq (held : filter.Partial) (payload : Bytes) :
    filter.indexed.pushStart? payload =
      some ((filter.pushStart payload).1.indexed, (filter.pushStart payload).2) := by
  cases payload with
  | nil => rfl
  | cons pointer data =>
    simp only [pushStart?, SectionFilter.pushStart]
    by_cases beyond : data.length < pointer.toNat
    · simp only [if_pos beyond]
      rfl
    · have inside : pointer.toNat ≤ data.length := Nat.not_lt.mp beyond
      simp only [if_neg beyond, slice?_eq (Nat.zero_le _) inside, slice?_drop inside,
        List.drop_zero, Nat.sub_zero, Option.bind_eq_bind, Option.bind_some, finish?_eq held,
        consume?_eq _ _ _ (Nat.le_refl _)]

theorem push?_eq (held : filter.Partial) (payload : SectionPayload) :
    filter.indexed.push? payload =
      some ((filter.push payload.bytes payload.unitStart).1.indexed,
        (filter.push payload.bytes payload.unitStart).2) := by
  by_cases starts : payload.unitStart = true
  · simp only [push?, SectionFilter.push, if_pos starts]
    exact pushStart?_eq held payload.bytes
  · simp only [push?, SectionFilter.push, if_neg starts]
    cases active : filter.isActive with
    | false =>
      simp only [SectionFilter.pushContinuation, SectionFilter.indexed_active, active,
        Bool.false_eq_true, if_false]
    | true =>
      obtain ⟨taken, appended⟩ := append?_active held active payload.bytes
      simp only [SectionFilter.pushContinuation, SectionFilter.indexed_active, active, if_true,
        appended, Option.bind_eq_bind, Option.bind_some]

theorem call?_eq (held : filter.Partial) (call : SectionCall) :
    filter.indexed.call? call = some ((filter.call call).1.indexed, (filter.call call).2) := by
  cases call with
  | push payload => exact push?_eq held payload
  | reset => rfl
  | discontinuity =>
    cases active : filter.isActive with
    | false =>
      simp only [call?, SectionFilter.call, SectionFilter.discontinuity,
        SectionFilter.indexed_active, active, Bool.false_eq_true, if_false, clear_idle active,
        truncate_idle active]
    | true =>
      simp only [call?, SectionFilter.call, SectionFilter.discontinuity,
        SectionFilter.indexed_active, active, if_true, truncate_active active]

theorem callAll?_eq (held : filter.Partial) (calls : List SectionCall) :
    filter.indexed.callAll? calls =
      some ((filter.callAll calls).1.indexed, (filter.callAll calls).2) := by
  induction calls generalizing filter with
  | nil => rfl
  | cons call calls ih =>
    simp only [callAll?, call?_eq held call, ih (SectionFilter.call_sound held call).held,
      Option.bind_eq_bind, Option.bind_some]
    rfl

end IndexedFilter

namespace SectionFilter

/-- Whatever a new filter is asked, in any order and with any payloads: the indexed filter asks
for no negative difference and no byte that is not there, its loop ends in time, and it does what
the filter does. It is in bounds then, and every section that came out is as long as it declares,
not too long, and of the form and with the check value that were asked for. -/
theorem callAll_in_bounds (pid : Nat) (checkCrc longFormOnly : Bool) (calls : List SectionCall) :
    let fresh : SectionFilter := { pid, checkCrc, longFormOnly }
    let reached := fresh.callAll calls
    IndexedFilter.callAll? { toSectionFilter := fresh } calls =
        some (reached.1.indexed, reached.2) ∧
      reached.1.indexed.InBounds ∧ ∀ complete ∈ reached.2, fresh.Admits complete := by
  intro fresh reached
  have held : fresh.Partial := .of_idle rfl
  have sound := callAll_sound held calls
  exact ⟨IndexedFilter.callAll?_eq held calls, indexed_inBounds sound.held, sound.sections⟩

/-- A pointer beyond the payload, a header cut after its first byte, and a section without a
body whose end and the stuffing behind it come later. -/
example :
    IndexedFilter.callAll? { toSectionFilter := privateData 0x1F0 true }
        [.push ⟨true, [9, 0x80]⟩, .push ⟨true, [0, 0x80]⟩, .push ⟨false, [0x70]⟩,
          .push ⟨false, [0x00, 0xFF]⟩, .discontinuity] =
      some ({ pid := 0x1F0, checkCrc := true, longFormOnly := false, malformed := 1 },
        [[0x80, 0x70, 0x00]]) := by
  decide +kernel

end SectionFilter

end TransportStream
