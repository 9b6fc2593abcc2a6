import TransportStream.Packet
import TransportStream.Proofs.SectionBounds

/-!
Packets read by index. The parts of a packet are cut out of its bytes at places that follow from
what was read before. Whatever the bytes are, none is asked for that is not there, and what is
read is the packet.
-/
namespace TransportStream

/-! ### Readings -/

/-- What is read from bytes, unless they are refused. A reading that asks for bytes that are not
there comes to nothing. -/
abbrev Reading (α : Type) := ExceptT Error Option α

/-- `Reads agree reading result`: the reading asks for no byte that is not there. It is refused
with the error of the result, or comes to a value that agrees with that of the result. -/
inductive Reads {α β : Type} (agree : α → β → Prop) : Reading α → Except Error β → Prop where
  | value {read : α} {value : β} (agrees : agree read value) : Reads agree (pure read) (.ok value)
  | refused (error : Error) : Reads agree (throw error) (.error error)

section

variable {α β γ δ : Type} {agree : α → β → Prop} {same : γ → δ → Prop}
variable {reading : Reading α} {result : Except Error β} {next : α → Reading γ}

theorem Reads.run {result : Except Error α} (reads : Reads Eq reading result) :
    reading.run = some result := by
  cases reads with
  | value agrees => exact agrees ▸ rfl
  | refused error => rfl

theorem Reads.lift (result : Except Error α) : Reads Eq (liftExcept result) result := by
  cases result with
  | ok value => exact .value rfl
  | error error => exact .refused error

/-- What follows a reading goes on with its value. -/
theorem Reads.bind {later : β → Except Error δ} (first : Reads agree reading result)
    (rest : ∀ read value, agree read value → Reads same (next read) (later value)) :
    Reads same (reading >>= next) (result >>= later) := by
  cases first with
  | value agrees => exact rest _ _ agrees
  | refused error => exact .refused error

/-- A reading that is never refused stands for its value. -/
theorem Reads.known {read : α} {next : α → Reading γ} {last : Except Error δ}
    {reading : Reading α} (known : Reads Eq reading (.ok read))
    (rest : Reads same (next read) last) : Reads same (reading >>= next) last := by
  cases known with
  | value agrees => exact agrees ▸ rest

/-- Bytes that are there are read. -/
theorem Reads.ask {bytes : Option α} {read : α} {last : Except Error δ} (there : bytes = some read)
    (rest : Reads same (next read) last) : Reads same (liftM bytes >>= next) last := by
  subst there
  exact rest

/-- A check asks for nothing. -/
theorem Reads.check {refused : Prop} [Decidable refused] {error : Error} {rest : PUnit → Reading α}
    {later : PUnit → Except Error β} (allowed : ¬refused → Reads agree (rest ⟨⟩) (later ⟨⟩)) :
    Reads agree (if refused then throw error >>= rest else rest ⟨⟩)
      (if refused then throw error >>= later else later ⟨⟩) := by
  split
  · exact .refused error
  · rename_i allowing
    exact allowed allowing

end

/-! ### Header and clock references -/

/-- Reads a packet header from the first four bytes. -/
def PacketHeader.read (data : Bytes) : Reading PacketHeader :=
  if data.length < 4 then throw (.invalidPacket (.shortHeader data.length))
  else do
    let front ← slice? data 0 4
    liftExcept (PacketHeader.parse front)

theorem PacketHeader.read_reads (data : Bytes) : Reads Eq (read data) (parse data) := by
  unfold read
  split
  · rename_i short
    match data, short with
    | [], _ | [_], _ | [_, _], _ | [_, _, _], _ => exact .refused _
  · rename_i enough
    match data, enough with
    | first :: second :: third :: fourth :: rest, _ =>
      exact .ask (slice?_eq (Nat.zero_le 4) (by simp)) (.lift _)
    | [], enough | [_], enough | [_, _], enough | [_, _, _], enough => simp at enough

/-- Reads a clock reference from the first six bytes. -/
def Pcr.read (data : Bytes) : Reading Pcr :=
  if data.length < 6 then throw (.invalidPacket .shortPcr)
  else do
    let front ← slice? data 0 6
    liftExcept (Pcr.parse front)

theorem Pcr.parse_take (data : Bytes) : parse (data.take 6) = parse data := by
  have enough : (data.take 6).length < 6 ↔ data.length < 6 := by
    rw [List.length_take]
    omega
  simp only [parse, enough, List.take_take, Nat.min_self]

theorem Pcr.read_reads (data : Bytes) : Reads Eq (read data) (parse data) := by
  unfold read
  split
  · rename_i short
    rw [parse, if_pos short]
    exact .refused _
  · rename_i enough
    rw [← parse_take]
    exact .ask (slice?_eq (Nat.zero_le 6) (Nat.not_lt.mp enough)) (.lift _)

/-! ### Adaptation fields -/

namespace AdaptationField

variable {body : Bytes} {place : Nat}

/-- Reads a clock reference at a place of the field if it is flagged. The second result is the
place behind it. -/
def readPcr (flagged : Bool) (truncated : PacketFault) (body : Bytes) (place : Nat) :
    Reading (Option Pcr × Nat) :=
  if flagged then
    if body.length < place + 6 then throw (.invalidPacket truncated)
    else do
      let field ← slice? body place (place + 6)
      let pcr ← Pcr.read field
      return (some pcr, place + 6)
  else return (none, place)

/-- Reads the splice countdown at a place of the field if it is flagged and there. -/
def readCountdown (flagged : Bool) (body : Bytes) (place : Nat) : Reading (Option Int) :=
  if flagged ∧ place < body.length then do
    let byte ← (body[place]? : Option UInt8)
    return some byte.toInt8.toInt
  else return none

/-- Reads the bytes that the length byte counts, of which there is one at least. -/
def readBody (length : Nat) (body : Bytes) : Reading AdaptationField := do
  let flags ← (body[0]? : Option UInt8)
  let (pcr, place) ← readPcr (bit flags 4) .truncatedPcr body 1
  let (opcr, place) ← readPcr (bit flags 3) .truncatedOpcr body place
  let spliceCountdown ← readCountdown (bit flags 2) body place
  return {
    length
    discontinuity := bit flags 7
    randomAccess := bit flags 6
    priority := bit flags 5
    pcr
    opcr
    spliceCountdown }

/-- Reads an adaptation field from its length byte on. -/
def read (data : Bytes) : Reading AdaptationField :=
  match data.head? with
  | none => throw (.invalidPacket .missingAdaptationLength)
  | some length =>
    if data.length < length.toNat + 1 then
      throw (.invalidPacket (.adaptationOverrun length.toNat))
    else if length.toNat = 0 then return { length := length.toNat }
    else do
      let body ← slice? data 1 (1 + length.toNat)
      readBody length.toNat body

/-- The place behind a clock reference is where the fields that are left start. -/
theorem readPcr_reads (flagged : Bool) (truncated : PacketFault) (within : place ≤ body.length) :
    Reads (fun read taken => read.1 = taken.1 ∧ read.2 ≤ body.length ∧ taken.2 = body.drop read.2)
      (readPcr flagged truncated body place) (takePcr flagged truncated (body.drop place)) := by
  unfold readPcr takePcr
  cases flagged with
  | false => exact .value ⟨rfl, within, rfl⟩
  | true =>
    simp only [if_true, List.length_drop]
    by_cases short : body.length < place + 6
    · rw [if_pos short, if_pos (by omega)]
      exact .refused _
    · rw [if_neg short, if_neg (by omega)]
      have field : slice? body place (place + 6) = some ((body.drop place).take 6) := by
        rw [slice?_eq (Nat.le_add_right ..) (by omega), Nat.add_sub_cancel_left]
      refine .ask field ?_
      rw [← Pcr.parse_take]
      refine (Pcr.read_reads _).bind ?_
      rintro pcr _ rfl
      exact .value ⟨rfl, by omega, List.drop_drop⟩

theorem readCountdown_reads (flagged : Bool) (body : Bytes) (place : Nat) :
    Reads Eq (readCountdown flagged body place)
      (.ok
        (if flagged then (body.drop place).head?.map fun byte => byte.toInt8.toInt else none)) := by
  unfold readCountdown
  by_cases there : flagged ∧ place < body.length
  · rw [if_pos there, if_pos there.1, List.head?_drop, List.getElem?_eq_getElem there.2]
    exact .value rfl
  · rw [if_neg there]
    refine .value ?_
    split
    · rename_i flag
      rw [List.drop_eq_nil_of_le (Nat.not_lt.mp fun inside => there ⟨flag, inside⟩)]
      rfl
    · rfl

theorem readBody_reads (length : Nat) (flags : UInt8) (fields : Bytes) :
    Reads Eq (readBody length (flags :: fields)) (parseBody length (flags :: fields)) := by
  refine .ask rfl ?_
  refine (readPcr_reads (bit flags 4) .truncatedPcr (Nat.le_add_left 1 fields.length)).bind ?_
  rintro ⟨pcr, place⟩ ⟨_, _⟩ ⟨rfl, within, rfl⟩
  refine (readPcr_reads (bit flags 3) .truncatedOpcr within).bind ?_
  rintro ⟨opcr, behind⟩ ⟨_, _⟩ ⟨rfl, _, rfl⟩
  exact .known (readCountdown_reads (bit flags 2) (flags :: fields) behind) (.value rfl)

/-- An adaptation field is read within its bytes. -/
theorem read_reads (data : Bytes) : Reads Eq (read data) (parse data) := by
  cases data with
  | nil => exact .refused _
  | cons length rest =>
    simp only [read, parse, List.head?_cons, List.length_cons, Nat.add_lt_add_iff_right]
    by_cases overrun : rest.length < length.toNat
    · rw [if_pos overrun, if_pos overrun]
      exact .refused _
    · rw [if_neg overrun, if_neg overrun]
      by_cases empty : length.toNat = 0
      · rw [if_pos empty, empty]
        exact .value rfl
      · rw [if_neg empty]
        have body : slice? (length :: rest) 1 (1 + length.toNat) =
            some (rest.take length.toNat) := by
          rw [slice?_eq (Nat.le_add_right ..) (by rw [List.length_cons]; omega),
            Nat.add_sub_cancel_left]
          rfl
        refine .ask body ?_
        cases counted : rest.take length.toNat with
        | nil =>
          have counts := congrArg List.length counted
          rw [List.length_take, List.length_nil] at counts
          omega
        | cons flags fields => exact readBody_reads length.toNat flags fields

end AdaptationField

/-! ### Packets -/

namespace TransportPacket

/-- Reads the adaptation field behind a header, if the header announces one. -/
def readAdaptation (header : PacketHeader) (bytes : Bytes) : Reading (Option AdaptationField) :=
  if header.hasAdaptationField then do
    let data ← slice? bytes 4 bytes.length
    let field ← AdaptationField.read data
    return some field
  else return none

/-- Reads a packet from the first 188 bytes of `data`. -/
def read (data : Bytes) (place : Nat) : Reading TransportPacket :=
  if data.length < packetSize then throw (.invalidPacket (.shortPacket data.length))
  else do
    let bytes ← slice? data 0 packetSize
    let header ← PacketHeader.read bytes
    if header.adaptationControl = 0 then throw (.invalidPacket .reservedControl)
    let adaptation ← readAdaptation header bytes
    let packet : TransportPacket := { header, adaptation, place, arrival := none, bytes }
    if header.hasPayload && decide (packetSize ≤ packet.payloadStart) then
      throw (.invalidPacket .noPayloadRoom)
    return packet

theorem readAdaptation_reads (header : PacketHeader) {bytes : Bytes} (enough : 4 ≤ bytes.length) :
    Reads Eq (readAdaptation header bytes) (parseAdaptation header (bytes.drop 4)) := by
  unfold readAdaptation parseAdaptation
  split
  · refine .ask (slice?_drop enough) ?_
    rw [map_eq_pure_bind]
    refine (AdaptationField.read_reads _).bind ?_
    rintro field _ rfl
    exact .value rfl
  · exact .value rfl

/-- Whatever the bytes are, a packet is read within them. -/
theorem read_reads (data : Bytes) (place : Nat) :
    Reads Eq (read data place) (parse data place) := by
  unfold read parse
  split
  · exact .refused _
  · rename_i room
    have enough : packetSize ≤ data.length := Nat.not_lt.mp room
    have four : 4 ≤ (data.take packetSize).length := by
      rw [List.length_take_of_le enough]
      decide
    refine .ask (slice?_eq (Nat.zero_le _) enough) ?_
    refine (PacketHeader.read_reads _).bind ?_
    rintro header _ rfl
    refine .check fun _ => ?_
    refine (readAdaptation_reads header four).bind ?_
    rintro adaptation _ rfl
    exact .check fun _ => .value rfl

end TransportPacket

end TransportStream
