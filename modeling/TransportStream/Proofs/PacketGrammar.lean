import TransportStream.Packet
import TransportStream.Proofs.FramingPlaces
import TransportStream.Proofs.TimeCoding

/-!
The grammar of transport packets. A packet is read from exactly the bytes that the grammar allows,
place by place; header, adaptation field and payload then lie side by side in its 188 bytes, and
what the field holds is what its flags announce.
-/
namespace TransportStream

namespace Pcr

variable {data : Bytes} {pcr : Pcr}

theorem parse_isOk_iff : (∃ pcr, parse data = .ok pcr) ↔ 6 ≤ data.length := by
  unfold parse
  split
  · simp only [reduceCtorEq, exists_false, false_iff]
    omega
  · simp only [Except.ok.injEq, exists_eq', true_iff]
    omega

/-- Bytes behind the first six are not read. -/
theorem parse_append (six : 6 ≤ data.length) (behind : Bytes) :
    parse (data ++ behind) = parse data := by
  have longer : 6 ≤ (data ++ behind).length := by
    rw [List.length_append]
    omega
  simp only [parse, if_neg (Nat.not_lt_of_le longer), if_neg (Nat.not_lt_of_le six),
    List.take_append_of_le_length six]

end Pcr

namespace AdaptationField

variable {field : AdaptationField} {flagged : Bool} {truncated : PacketFault}
  {fields behind : Bytes} {pcr : Option Pcr} {length flags : UInt8}

/-! ### Adaptation fields -/

/-- Bytes of a clock reference, if it is there. -/
def clockSize (flagged : Bool) : Nat := if flagged then 6 else 0

/-- Bytes of both clock references, as the flags announce them. -/
def clocksSize (flags : UInt8) : Nat := clockSize (bit flags 4) + clockSize (bit flags 3)

/-- A reference is there exactly if it is flagged, and the bytes suffice then. -/
theorem takePcr_eq_ok_iff : takePcr flagged truncated fields = .ok (pcr, behind) ↔
    clockSize flagged ≤ fields.length ∧ behind = fields.drop (clockSize flagged) ∧
      pcr.isSome = flagged ∧ ∀ value ∈ pcr, Pcr.parse fields = .ok value := by
  cases flagged with
  | false =>
    constructor
    · rintro ⟨⟩
      exact ⟨Nat.zero_le _, rfl, rfl, by simp⟩
    · rintro ⟨_, rfl, absent, _⟩
      obtain rfl : pcr = none := by simpa using absent
      rfl
  | true =>
    simp only [takePcr, clockSize, if_true]
    constructor
    · intro read
      split at read
      · cases read
      · rename_i room
        obtain ⟨value, parsed, same⟩ := Error.bind_eq_ok.mp read
        cases same
        exact ⟨Nat.le_of_not_lt room, rfl, rfl, by simpa using parsed⟩
    · rintro ⟨room, rfl, present, read⟩
      obtain ⟨value, rfl⟩ := Option.isSome_iff_exists.mp present
      rw [if_neg (Nat.not_lt_of_le room), read value rfl]
      rfl

theorem exists_takePcr (truncated : PacketFault) (room : clockSize flagged ≤ fields.length) :
    ∃ pcr, takePcr flagged truncated fields = .ok (pcr, fields.drop (clockSize flagged)) := by
  cases flagged with
  | false => exact ⟨none, rfl⟩
  | true =>
    obtain ⟨pcr, read⟩ := Pcr.parse_isOk_iff.mpr room
    exact ⟨some pcr, takePcr_eq_ok_iff.mpr ⟨room, rfl, rfl, by simpa using read⟩⟩

/-- What a field says of the bytes behind its length byte: first the flags, then the clock
references that they announce, then the splice countdown if a byte is left. -/
structure Describes (field : AdaptationField) (size : Nat) (content : Bytes) : Prop where
  length : field.length = size
  discontinuity : field.discontinuity = (decide (0 < size) && bit (content.getD 0 0) 7)
  randomAccess : field.randomAccess = (decide (0 < size) && bit (content.getD 0 0) 6)
  priority : field.priority = (decide (0 < size) && bit (content.getD 0 0) 5)
  pcr : field.pcr.isSome ↔ 0 < size ∧ bit (content.getD 0 0) 4
  opcr : field.opcr.isSome ↔ 0 < size ∧ bit (content.getD 0 0) 3
  splice : field.spliceCountdown.isSome ↔
    0 < size ∧ bit (content.getD 0 0) 2 ∧ 1 + clocksSize (content.getD 0 0) < size
  pcrRead : ∀ pcr ∈ field.pcr, Pcr.parse (content.drop 1) = .ok pcr
  opcrRead : ∀ pcr ∈ field.opcr,
    Pcr.parse (content.drop (1 + clockSize (bit (content.getD 0 0) 4))) = .ok pcr
  spliceRead : ∀ count ∈ field.spliceCountdown,
    count = (content.getD (1 + clocksSize (content.getD 0 0)) 0).toInt8.toInt

/-- The flags are followed by what they announce. -/
theorem parseBody_describes (read : parseBody (fields.length + 1) (flags :: fields) = .ok field)
    (behind : Bytes) :
    clocksSize flags ≤ fields.length ∧
      Describes field (fields.length + 1) (flags :: (fields ++ behind)) := by
  obtain ⟨⟨pcr, rest⟩, first, read⟩ := Error.bind_eq_ok.mp read
  obtain ⟨⟨opcr, left⟩, second, same⟩ := Error.bind_eq_ok.mp read
  cases same
  obtain ⟨room, rfl, hasPcr, pcrRead⟩ := takePcr_eq_ok_iff.mp first
  obtain ⟨more, rfl, hasOpcr, opcrRead⟩ := takePcr_eq_ok_iff.mp second
  rw [List.length_drop] at more
  have whole : clocksSize flags ≤ fields.length := by
    rw [clocksSize]
    omega
  have last : ((fields.drop (clockSize (bit flags 4))).drop (clockSize (bit flags 3))).head? =
      fields[clocksSize flags]? := by rw [List.drop_drop, List.head?_drop, clocksSize]
  refine ⟨whole, ?_⟩
  rw [last]
  exact {
    length := rfl
    discontinuity := by simp
    randomAccess := by simp
    priority := by simp
    pcr := by simp [hasPcr]
    opcr := by simp [hasOpcr]
    splice := by
      by_cases flagged : bit flags 2 = true <;> simp [flagged, Nat.add_comm 1]
    pcrRead := by
      intro value member
      exact (Pcr.parse_append (Pcr.parse_isOk_iff.mp ⟨_, pcrRead value member⟩) behind).trans
        (pcrRead value member)
    opcrRead := by
      intro value member
      have read := opcrRead value member
      rw [Nat.add_comm, List.drop_succ_cons, List.getD_cons_zero,
        List.drop_append_of_le_length room]
      exact (Pcr.parse_append (Pcr.parse_isOk_iff.mp ⟨_, read⟩) behind).trans read
    spliceRead := by
      intro count member
      split at member
      · obtain ⟨byte, left, rfl⟩ := Option.map_eq_some_iff.mp member
        have within : clocksSize flags < fields.length := (List.getElem?_eq_some_iff.mp left).1
        rw [List.getD_cons_zero, Nat.add_comm, List.getD_cons_succ, List.getD_eq_getElem?_getD,
          List.getElem?_append_left within, left, Option.getD_some]
      · cases member }

/-- If the references that are flagged fit, the field is read. -/
theorem parseBody_of_room (room : clocksSize flags ≤ fields.length) (size : Nat) :
    ∃ field, parseBody size (flags :: fields) = .ok field := by
  have first : clockSize (bit flags 4) ≤ fields.length := by
    rw [clocksSize] at room
    omega
  have second : clockSize (bit flags 3) ≤ (fields.drop (clockSize (bit flags 4))).length := by
    rw [clocksSize] at room
    rw [List.length_drop]
    omega
  obtain ⟨pcr, read⟩ := exists_takePcr .truncatedPcr first
  obtain ⟨opcr, next⟩ := exists_takePcr .truncatedOpcr second
  simp only [parseBody, read, bind, Except.bind, next]
  exact ⟨_, rfl⟩

variable {content : Bytes}

/-- Whether the clock references that are flagged, if there are flags, fit in a field. -/
def ClocksFit (size : Nat) (content : Bytes) : Prop :=
  0 < size → 1 + clocksSize (content.getD 0 0) ≤ size

theorem parse_eq_ok_iff : parse (length :: content) = .ok field ↔
    length.toNat ≤ content.length ∧
      parseBody length.toNat (content.take length.toNat) = .ok field := by
  rw [parse]
  split
  · simp only [reduceCtorEq, false_iff, not_and]
    omega
  · rename_i within
    exact (and_iff_right (Nat.le_of_not_lt within)).symm

/-- A field that is not empty is the flags and what they announce. -/
theorem exists_flags {size : Nat} (filled : 0 < size) (within : size ≤ content.length) :
    ∃ flags fields behind, content = flags :: (fields ++ behind) ∧ size = fields.length + 1 := by
  cases content with
  | nil => exact absurd within (Nat.not_le_of_lt filled)
  | cons flags others =>
    rw [List.length_cons] at within
    refine ⟨flags, others.take (size - 1), others.drop (size - 1), ?_, ?_⟩
    · rw [List.take_append_drop]
    · rw [List.length_take, Nat.min_eq_left (by omega)]
      omega

theorem take_flags (flags : UInt8) (fields behind : Bytes) :
    (flags :: (fields ++ behind)).take (fields.length + 1) = flags :: fields := by
  rw [List.take_succ_cons, List.take_left]

theorem parse_isOk_iff : (∃ field, parse (length :: content) = .ok field) ↔
    length.toNat ≤ content.length ∧ ClocksFit length.toNat content := by
  simp only [parse_eq_ok_iff, exists_and_left, and_congr_right_iff, ClocksFit]
  intro within
  rcases Nat.eq_zero_or_pos length.toNat with empty | filled
  · rw [empty]
    exact iff_of_true ⟨_, rfl⟩ (by simp)
  · obtain ⟨flags, fields, behind, rfl, size⟩ := exists_flags filled within
    rw [size, take_flags, List.getD_cons_zero]
    constructor
    · rintro ⟨field, read⟩ _
      have room := (parseBody_describes read behind).1
      omega
    · intro fit
      have room := fit (Nat.succ_pos _)
      exact parseBody_of_room (by omega) _

/-- A field is what the bytes behind its length byte say, and those behind it do not matter. -/
theorem parse_describes (read : parse (length :: content) = .ok field) :
    Describes field length.toNat content := by
  obtain ⟨within, read⟩ := parse_eq_ok_iff.mp read
  rcases Nat.eq_zero_or_pos length.toNat with empty | filled
  · rw [empty] at read ⊢
    cases read
    constructor <;> simp
  · obtain ⟨flags, fields, behind, rfl, size⟩ := exists_flags filled within
    rw [size, take_flags] at read
    rw [size]
    exact (parseBody_describes read behind).2

/-- A field is within the bytes it is read from. -/
theorem parse_take {count : Nat} (room : count ≤ content.length) :
    parse (length :: content.take count) = .ok field ↔
      length.toNat ≤ count ∧ parse (length :: content) = .ok field := by
  rw [parse_eq_ok_iff, parse_eq_ok_iff, List.length_take, Nat.min_eq_left room, List.take_take]
  constructor
  · rintro ⟨within, read⟩
    rw [Nat.min_eq_left within] at read
    exact ⟨within, Nat.le_trans within room, read⟩
  · rintro ⟨within, _, read⟩
    rw [Nat.min_eq_left within]
    exact ⟨within, read⟩

end AdaptationField

namespace TransportPacket

variable {data : Bytes} {place : Nat} {packet : TransportPacket}

/-! ### Packets -/

/-- The two bits that say what follows the header. -/
def control (data : Bytes) : Nat := (data.getD 3 0).toNat / 16 % 4

/-- Whether an adaptation field follows the header. -/
def HasField (data : Bytes) : Prop := (control data).testBit 1

/-- Whether a payload ends the packet. -/
def HasPayload (data : Bytes) : Prop := (control data).testBit 0

instance (data : Bytes) : Decidable (HasField data) := inferInstanceAs (Decidable (_ = true))

instance (data : Bytes) : Decidable (HasPayload data) := inferInstanceAs (Decidable (_ = true))

/-- How many bytes of an adaptation field its length byte counts. -/
def fieldLength (data : Bytes) : Nat := (data.getD 4 0).toNat

/-- Bytes of the adaptation field with its length byte, if there is one. -/
def fieldSize (data : Bytes) : Nat := if HasField data then 1 + fieldLength data else 0

def fieldBytes (data : Bytes) : Bytes := (data.drop 4).take (fieldSize data)

/-- What the bytes of a packet have to be. -/
structure WellFormed (data : Bytes) : Prop where
  room : packetSize ≤ data.length
  sync : data.getD 0 0 = syncByte
  control : control data ≠ 0
  within : HasField data → fieldLength data ≤ 183
  clocks : HasField data → AdaptationField.ClocksFit (fieldLength data) (data.drop 5)
  payload : HasField data → HasPayload data → fieldLength data ≤ 182

/-- What a packet says of the bytes it was read from. -/
structure Describes (packet : TransportPacket) (data : Bytes) : Prop where
  bytes : packet.bytes = data.take packetSize
  header : PacketHeader.parse data = .ok packet.header
  adaptation : packet.adaptation.isSome ↔ HasField data
  field : ∀ field ∈ packet.adaptation,
    AdaptationField.Describes field (fieldLength data) (data.drop 5)
  payload : packet.payload?.isSome ↔ HasPayload data

theorem parseAdaptation_eq_ok_iff {header : PacketHeader} {adaptation : Option AdaptationField} :
    parseAdaptation header data = .ok adaptation ↔
      adaptation.isSome = header.hasAdaptationField ∧
        ∀ field ∈ adaptation, AdaptationField.parse data = .ok field := by
  unfold parseAdaptation
  cases header.hasAdaptationField with
  | false =>
    constructor
    · rintro ⟨⟩
      exact ⟨rfl, by simp⟩
    · rintro ⟨absent, _⟩
      obtain rfl : adaptation = none := by simpa using absent
      rfl
  | true =>
    rw [if_pos rfl]
    constructor
    · intro read
      cases parsed : AdaptationField.parse data with
      | error fault =>
        rw [parsed] at read
        cases read
      | ok field =>
        rw [parsed] at read
        cases read
        exact ⟨rfl, by simp⟩
    · rintro ⟨present, read⟩
      obtain ⟨field, rfl⟩ := Option.isSome_iff_exists.mp present
      rw [read field rfl]
      rfl

/-- The bytes of a packet, taken one by one as far as the length byte of an adaptation field. -/
theorem exists_content (room : packetSize ≤ data.length) :
    ∃ sync second third fourth length content,
      data = sync :: second :: third :: fourth :: length :: content ∧ 183 ≤ content.length := by
  match data, room with
  | sync :: second :: third :: fourth :: length :: content, room =>
    refine ⟨sync, second, third, fourth, length, content, rfl, ?_⟩
    simp only [packetSize, List.length_cons] at room
    omega

theorem header_take (room : packetSize ≤ data.length) :
    PacketHeader.parse (data.take packetSize) = PacketHeader.parse data := by
  obtain ⟨sync, second, third, fourth, length, content, rfl, _⟩ := exists_content room
  rfl

theorem header_isOk_iff (room : packetSize ≤ data.length) :
    (∃ header, PacketHeader.parse data = .ok header) ↔ data.getD 0 0 = syncByte := by
  obtain ⟨sync, second, third, fourth, length, content, rfl, _⟩ := exists_content room
  rw [PacketHeader.parse, List.getD_cons_zero]
  split
  · rename_i same
    exact iff_of_true ⟨_, rfl⟩ same
  · rename_i different
    simp [different]

theorem header_control {header : PacketHeader} (read : PacketHeader.parse data = .ok header) :
    header.adaptationControl = control data := by
  unfold PacketHeader.parse at read
  split at read
  · split at read
    · cases read
      rfl
    · cases read
  · cases read

variable {field : AdaptationField}

theorem field_isOk_iff (room : packetSize ≤ data.length) :
    (∃ field, AdaptationField.parse ((data.take packetSize).drop 4) = .ok field) ↔
      fieldLength data ≤ 183 ∧ AdaptationField.ClocksFit (fieldLength data) (data.drop 5) := by
  obtain ⟨sync, second, third, fourth, length, content, rfl, enough⟩ := exists_content room
  have within : (∃ field, AdaptationField.parse (length :: content.take 183) = .ok field) ↔
      length.toNat ≤ 183 ∧ AdaptationField.ClocksFit length.toNat content := by
    simp only [AdaptationField.parse_take enough, exists_and_left, AdaptationField.parse_isOk_iff,
      and_congr_right_iff, and_iff_right_iff_imp]
    intro small _
    exact Nat.le_trans small enough
  exact within

theorem field_describes (room : packetSize ≤ data.length)
    (read : AdaptationField.parse ((data.take packetSize).drop 4) = .ok field) :
    AdaptationField.Describes field (fieldLength data) (data.drop 5) := by
  obtain ⟨sync, second, third, fourth, length, content, rfl, enough⟩ := exists_content room
  obtain ⟨_, whole⟩ := (AdaptationField.parse_take enough).mp read
  exact AdaptationField.parse_describes whole

theorem isSome_payload? : packet.payload?.isSome = packet.header.hasPayload := by
  rw [payload?]
  cases packet.header.hasPayload <;> rfl

/-- Every packet is what its bytes say, and its payload starts behind header and field. -/
theorem describes_of_parse (parsed : parse data place = .ok packet) :
    Describes packet data ∧ packet.payloadStart = 4 + fieldSize data := by
  obtain ⟨room, header, adaptation, read, _, taken, rfl, _⟩ := parse_eq_ok_iff.mp parsed
  rw [header_take room] at read
  obtain ⟨present, fieldRead⟩ := parseAdaptation_eq_ok_iff.mp taken
  have control := header_control read
  have hasField : adaptation.isSome ↔ HasField data := by
    rw [present, PacketHeader.hasAdaptationField, control, HasField]
  have described : ∀ field ∈ adaptation,
      AdaptationField.Describes field (fieldLength data) (data.drop 5) :=
    fun field member => field_describes room (fieldRead field member)
  refine ⟨⟨rfl, read, hasField, described, ?_⟩, ?_⟩
  · rw [isSome_payload?, PacketHeader.hasPayload, control, HasPayload]
  · rw [fieldSize]
    cases adaptation with
    | none =>
      rw [if_neg (by simpa using hasField)]
      rfl
    | some field =>
      rw [if_pos (hasField.mp rfl), ← (described field rfl).length]
      change 5 + field.length = 4 + (1 + field.length)
      omega

theorem wellFormed_of_parse (parsed : parse data place = .ok packet) : WellFormed data := by
  obtain ⟨room, header, adaptation, read, reserved, taken, same, fits⟩ := parse_eq_ok_iff.mp parsed
  obtain ⟨⟨_, _, hasField, _, hasPayload⟩, start⟩ := describes_of_parse parsed
  obtain ⟨_, fieldRead⟩ := parseAdaptation_eq_ok_iff.mp taken
  have formed (one : HasField data) : fieldLength data ≤ 183 ∧
      AdaptationField.ClocksFit (fieldLength data) (data.drop 5) := by
    obtain ⟨field, there⟩ := Option.isSome_iff_exists.mp (hasField.mpr one)
    rw [same] at there
    exact (field_isOk_iff room).mp ⟨field, fieldRead field there⟩
  rw [header_take room] at read
  refine ⟨room, (header_isOk_iff room).mp ⟨header, read⟩, ?_, fun one => (formed one).1,
    fun one => (formed one).2, fun one both => ?_⟩
  · rw [← header_control read]
    exact reserved
  · have behind := fits (by rw [← isSome_payload?]; exact hasPayload.mpr both)
    rw [start, fieldSize, if_pos one] at behind
    simp only [packetSize] at behind
    omega

theorem parse_of_wellFormed (formed : WellFormed data) (place : Nat) :
    ∃ packet, parse data place = .ok packet := by
  obtain ⟨room, sync, reserved, within, clocks, payload⟩ := formed
  obtain ⟨header, read⟩ := (header_isOk_iff room).mpr sync
  have control := header_control read
  have hasField : header.hasAdaptationField = true ↔ HasField data := by
    rw [PacketHeader.hasAdaptationField, control, HasField]
  have hasPayload : header.hasPayload = true ↔ HasPayload data := by
    rw [PacketHeader.hasPayload, control, HasPayload]
  rw [← header_take room] at read
  rw [← control] at reserved
  by_cases one : HasField data
  · obtain ⟨field, fieldRead⟩ := (field_isOk_iff room).mpr ⟨within one, clocks one⟩
    have taken : parseAdaptation header ((data.take packetSize).drop 4) = .ok (some field) :=
      parseAdaptation_eq_ok_iff.mpr ⟨(hasField.mpr one).symm, by simpa using fieldRead⟩
    refine ⟨_, parse_eq_ok_iff.mpr ⟨room, header, some field, read, reserved, taken, rfl, ?_⟩⟩
    intro both
    have small := payload one (hasPayload.mp both)
    rw [← (field_describes room fieldRead).length] at small
    change 5 + field.length < 188
    omega
  · have taken : parseAdaptation header ((data.take packetSize).drop 4) = .ok none :=
      parseAdaptation_eq_ok_iff.mpr ⟨by simpa using mt hasField.mp one, by simp⟩
    refine ⟨_, parse_eq_ok_iff.mpr ⟨room, header, none, read, reserved, taken, rfl, ?_⟩⟩
    intro _
    change 4 < 188
    decide

/-- Header, adaptation field and payload lie side by side. -/
theorem parts_of_parse {payload : Bytes} (parsed : parse data place = .ok packet)
    (carried : packet.payload? = some payload) :
    payload ≠ [] ∧ (fieldBytes data).length = fieldSize data ∧
      data.take packetSize = data.take 4 ++ fieldBytes data ++ payload := by
  obtain ⟨described, start⟩ := describes_of_parse parsed
  obtain ⟨room, header, adaptation, _, _, _, same, fits⟩ := parse_eq_ok_iff.mp parsed
  have present : packet.header.hasPayload = true := by
    rw [← isSome_payload?, carried, Option.isSome_some]
  have inside := fits present
  rw [payload?, if_pos present, Option.some.injEq, described.bytes, start] at carried
  rw [start] at inside
  refine ⟨?_, ?_, ?_⟩
  · rintro rfl
    rw [List.drop_eq_nil_iff, List.length_take] at carried
    omega
  · rw [fieldBytes, List.length_take, List.length_drop]
    omega
  · rw [fieldBytes, ← List.take_add, ← carried]
    have front : data.take (4 + fieldSize data) =
        (data.take packetSize).take (4 + fieldSize data) := by
      rw [List.take_take, Nat.min_eq_left (Nat.le_of_lt inside)]
    rw [front, List.take_append_drop]

/-- The packet parser accepts exactly its grammar. Bytes are read as a packet if and only if they
have the form of one, place by place. The packet then says what its bytes are; where it has a
payload, that is not empty and stands behind the header and the adaptation field in the 188 bytes,
and the bases of its clock references have 33 bits. -/
theorem parse_iff_wellFormed (data : Bytes) (place : Nat) :
    ((∃ packet, parse data place = .ok packet) ↔ WellFormed data) ∧
    ∀ packet, parse data place = .ok packet →
      Describes packet data ∧
      (∀ payload, packet.payload? = some payload →
        payload ≠ [] ∧ (fieldBytes data).length = fieldSize data ∧
          data.take packetSize = data.take 4 ++ fieldBytes data ++ payload) ∧
      ∀ field ∈ packet.adaptation, ∀ pcr, pcr ∈ field.pcr ∨ pcr ∈ field.opcr →
        pcr.base < Pcr.baseRange := by
  refine ⟨⟨?_, fun formed => parse_of_wellFormed formed place⟩, ?_⟩
  · rintro ⟨packet, parsed⟩
    exact wellFormed_of_parse parsed
  · intro packet parsed
    obtain ⟨described, _⟩ := describes_of_parse parsed
    refine ⟨described, fun payload carried => parts_of_parse parsed carried, ?_⟩
    rintro field member pcr (first | second)
    · exact (Pcr.parse_lt ((described.field field member).pcrRead pcr first)).1
    · exact (Pcr.parse_lt ((described.field field member).opcrRead pcr second)).1

/-- An adaptation field that leaves room for one byte of payload and holds both clock references,
the first with the highest base, and a countdown before its stuffing. -/
theorem longestField_parsed :
    let clocks : Bytes := [0xFF, 0xFF, 0xFF, 0xFF, 0xFE, 0x05, 0x00, 0x00, 0x00, 0x00, 0x7E, 0x00]
    let data : Bytes := [0x47, 0x01, 0x00, 0x37, 0xB6, 0x1C] ++ clocks ++ [0xFE] ++
      List.replicate 168 0xFF ++ [0x5A]
    let field : AdaptationField := {
      length := 182, pcr := some ⟨0x1FFFFFFFF, 5⟩, opcr := some ⟨0, 0⟩
      spliceCountdown := some (-2) }
    WellFormed data ∧ ∃ packet, parse data 376 = .ok packet ∧ packet.adaptation = some field ∧
      packet.payload? = some [0x5A] ∧
      data.take packetSize = data.take 4 ++ fieldBytes data ++ [0x5A] := by
  intro clocks data field
  let packet : TransportPacket := {
    header := {
      transportError := false, payloadUnitStart := false, priority := false, pid := 0x100
      scrambling := 0, adaptationControl := 3, continuity := 7 }
    adaptation := some field
    place := 376
    arrival := none
    bytes := data }
  have parsed : parse data 376 = .ok packet := by decide +kernel
  have carried : packet.payload? = some [0x5A] := by decide +kernel
  obtain ⟨accepted, facts⟩ := parse_iff_wellFormed data 376
  obtain ⟨_, parts, _⟩ := facts packet parsed
  exact ⟨accepted.mp ⟨packet, parsed⟩, packet, parsed, rfl, carried, (parts _ carried).2.2⟩

end TransportPacket

end TransportStream
