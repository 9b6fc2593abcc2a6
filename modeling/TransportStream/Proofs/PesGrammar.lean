import TransportStream.Pes.Header
import TransportStream.Proofs.TimeCoding

/-!
The grammar of PES headers. A header is read from exactly the bytes that the grammar allows, place
by place, and from nothing behind it: what follows a header, or that nothing does, makes no
difference.
-/
namespace TransportStream

namespace Timestamp

variable {data : Bytes} {value : Nat}

/-- Whether the three marker bits are set: the lowest of the first, the third and the fifth
byte. -/
def Marked (data : Bytes) : Prop := ∀ place ∈ [0, 2, 4], bit (data.getD place 0) 0 = true

theorem parse_isOk_iff : (∃ value, parse data = .ok value) ↔ 5 ≤ data.length ∧ Marked data := by
  constructor
  · rintro ⟨value, read⟩
    unfold parse at read
    split at read
    · split at read
      · rename_i marked
        exact ⟨by simp, by simpa [Marked, and_assoc] using marked⟩
      · cases read
    · cases read
  · rintro ⟨five, marked⟩
    match data, five with
    | first :: second :: third :: fourth :: fifth :: rest, _ =>
      exact ⟨_, if_pos (by simpa [Marked, and_assoc] using marked)⟩

/-- Bytes behind the first five are not read. -/
theorem parse_append (five : 5 ≤ data.length) (behind : Bytes) :
    parse (data ++ behind) = parse data := by
  match data, five with
  | _ :: _ :: _ :: _ :: _ :: _, _ => rfl

theorem parse_lt (read : parse data = .ok value) : value < wrap := by
  obtain ⟨five, _⟩ := parse_isOk_iff.mp ⟨value, read⟩
  match data, five with
  | first :: second :: third :: fourth :: fifth :: rest, _ =>
    obtain ⟨_, _, _, rfl⟩ := parse_five read
    have secondSmall := second.toNat_lt
    have thirdSmall := third.toNat_lt
    have fourthSmall := fourth.toNat_lt
    have fifthSmall := fifth.toNat_lt
    simp only [wrap]
    omega

end Timestamp

namespace PesHeader

variable {data fields : Bytes} {header : PesHeader} {pts dts : Option Nat} {flags : Nat}

/-! ### The grammar as it is written -/

/-- The timestamps that two flag bits announce, at the start of the fields. -/
inductive Stamps (fields : Bytes) : Nat → Option Nat → Option Nat → Prop where
  | none : Stamps fields 0 none none
  | presentation {pts : Nat} (first : Timestamp.parse fields = .ok pts) :
      Stamps fields 2 (some pts) none
  | both {pts dts : Nat} (room : 10 ≤ fields.length) (first : Timestamp.parse fields = .ok pts)
      (second : Timestamp.parse (fields.drop 5) = .ok dts) : Stamps fields 3 (some pts) (some dts)

theorem parseTimestamps_eq_ok_iff (two : flags < 4) :
    parseTimestamps flags fields = .ok (pts, dts) ↔ Stamps fields flags pts dts := by
  constructor
  · intro read
    match flags, two with
    | 0, _ =>
      cases read
      exact .none
    | 1, _ => cases read
    | 2, _ =>
      obtain ⟨_, first, same⟩ := Error.bind_eq_ok.mp read
      cases same
      exact .presentation first
    | 3, _ =>
      simp only [parseTimestamps] at read
      split at read
      · cases read
      · rename_i room
        obtain ⟨_, first, read⟩ := Error.bind_eq_ok.mp read
        obtain ⟨_, second, same⟩ := Error.bind_eq_ok.mp read
        cases same
        exact .both (Nat.le_of_not_lt room) first second
  · rintro (_ | first | ⟨room, first, second⟩)
    · rfl
    · simp only [parseTimestamps, first]
      rfl
    · simp only [parseTimestamps, first, second, if_neg (Nat.not_lt_of_le room)]
      rfl

/-- A header and the bytes it is read from, with anything behind them. -/
inductive Written : Bytes → PesHeader → Prop where
  | plain {streamId : UInt8} (listed : streamId ∈ plainIds) (high low : UInt8) (behind : Bytes) :
      Written (0 :: 0 :: 1 :: streamId :: high :: low :: behind) {
        streamId
        packetLength := high.toNat * 256 + low.toNat
        dataAlignment := false
        pts := none
        dts := none
        size := fixedSize }
  | optional {streamId marker flags length : UInt8} {fields : Bytes} {pts dts : Option Nat}
      (unlisted : streamId ∉ plainIds) (high low : UInt8) (marked : marker.toNat / 64 = 2)
      (whole : fields.length = length.toNat) (stamps : Stamps fields (flags.toNat / 64) pts dts)
      (behind : Bytes) :
      Written (0 :: 0 :: 1 :: streamId :: high :: low :: marker :: flags :: length ::
          (fields ++ behind)) {
        streamId
        packetLength := high.toNat * 256 + low.toNat
        dataAlignment := bit marker 2
        pts
        dts
        size := 9 + length.toNat }

theorem flags_lt (flags : UInt8) : flags.toNat / 64 < 4 := by
  have small := flags.toNat_lt
  omega

theorem written_of_parse (read : parse data = .ok header) : Written data header := by
  unfold parse at read
  split at read
  · split at read
    · rename_i first second third streamId high low rest code
      obtain ⟨rfl, rfl, rfl⟩ := code
      dsimp only at read
      split at read
      · rename_i listed
        cases read
        exact .plain listed high low rest
      · rename_i unlisted
        unfold parseOptional at read
        split at read
        · rename_i marker flags size rest
          split at read
          · cases read
          · rename_i marked
            split at read
            · cases read
            · rename_i whole
              obtain ⟨⟨pts, dts⟩, times, same⟩ := Error.bind_eq_ok.mp read
              cases same
              have stamps := (parseTimestamps_eq_ok_iff (flags_lt flags)).mp times
              have length : (rest.take size.toNat).length = size.toNat := by
                rw [List.length_take, Nat.min_eq_left (Nat.le_of_not_lt whole)]
              have written := Written.optional unlisted high low (not_not.mp marked) length
                stamps (rest.drop size.toNat)
              rwa [List.take_append_drop] at written
        · cases read
    · cases read
  · cases read

theorem parse_of_written (written : Written data header) : parse data = .ok header := by
  cases written with
  | plain listed => simp only [parse, and_self, if_true, if_pos listed]
  | @optional streamId marker flags length fields pts dts unlisted high low marked whole stamps
      behind =>
    have times := (parseTimestamps_eq_ok_iff (flags_lt flags)).mpr stamps
    have room : ¬ (fields ++ behind).length < length.toNat := by
      rw [List.length_append, whole]
      omega
    have taken : (fields ++ behind).take length.toNat = fields := by rw [← whole, List.take_left]
    simp only [parse, and_self, if_true, if_neg unlisted, parseOptional, ne_eq, marked,
      not_true_eq_false, if_false, if_neg room, taken, times]
    rfl

/-- A header is read from its own bytes alone. -/
theorem Written.split (written : Written data header) :
    ∃ front behind, data = front ++ behind ∧ front.length = header.size ∧
      ∀ other, Written (front ++ other) header := by
  cases written with
  | @plain streamId listed high low behind =>
    exact ⟨[0, 0, 1, streamId, high, low], behind, rfl, rfl, .plain listed high low⟩
  | @optional streamId marker flags length fields pts dts unlisted high low marked whole stamps
      behind =>
    refine ⟨0 :: 0 :: 1 :: streamId :: high :: low :: marker :: flags :: length :: fields, behind,
      rfl, ?_, .optional unlisted high low marked whole stamps⟩
    simp only [List.length_cons, whole]
    omega

/-! ### The grammar by places -/

/-- Whether the stream id is one with the optional part. -/
def HasOptional (data : Bytes) : Prop := data.getD 3 0 ∉ plainIds

instance (data : Bytes) : Decidable (HasOptional data) := inferInstanceAs (Decidable (_ ∉ _))

/-- The two bits that announce timestamps. -/
def stampFlags (data : Bytes) : Nat := (data.getD 7 0).toNat / 64

/-- The declared length of the fields behind the first nine bytes. -/
def fieldsSize (data : Bytes) : Nat := (data.getD 8 0).toNat

/-- What the bytes of the optional part have to be. -/
structure OptionalFormed (data : Bytes) : Prop where
  room : 9 ≤ data.length
  marker : (data.getD 6 0).toNat / 64 = 2
  whole : 9 + fieldsSize data ≤ data.length
  allowed : stampFlags data ≠ 1
  presentation : 2 ≤ stampFlags data → 5 ≤ fieldsSize data ∧ Timestamp.Marked (data.drop 9)
  decoding : stampFlags data = 3 → 10 ≤ fieldsSize data ∧ Timestamp.Marked (data.drop 14)

/-- What the bytes of a header have to be. -/
structure WellFormed (data : Bytes) : Prop where
  room : fixedSize ≤ data.length
  startCode : data.take 3 = [0, 0, 1]
  optional : HasOptional data → OptionalFormed data

theorem Stamps.allowed (stamps : Stamps fields flags pts dts) : flags ≠ 1 := by
  cases stamps <;> decide

/-- A timestamp in the fields is marked where it stands. -/
theorem marked_of_parse {value : Nat} (read : Timestamp.parse fields = .ok value)
    (behind : Bytes) : 5 ≤ fields.length ∧ Timestamp.Marked (fields ++ behind) := by
  obtain ⟨five, _⟩ := Timestamp.parse_isOk_iff.mp ⟨value, read⟩
  have longer := (Timestamp.parse_append five behind).trans read
  exact ⟨five, (Timestamp.parse_isOk_iff.mp ⟨value, longer⟩).2⟩

theorem parse_of_marked {behind : Bytes}
    (formed : 5 ≤ fields.length ∧ Timestamp.Marked (fields ++ behind)) :
    ∃ value, Timestamp.parse fields = .ok value := by
  obtain ⟨five, set⟩ := formed
  have longer : 5 ≤ (fields ++ behind).length := by
    rw [List.length_append]
    omega
  obtain ⟨value, read⟩ := Timestamp.parse_isOk_iff.mpr ⟨longer, set⟩
  exact ⟨value, (Timestamp.parse_append five behind).symm.trans read⟩

theorem Stamps.presentation_marked (stamps : Stamps fields flags pts dts) (announced : 2 ≤ flags)
    (behind : Bytes) : 5 ≤ fields.length ∧ Timestamp.Marked (fields ++ behind) := by
  cases stamps with
  | none => omega
  | presentation first => exact marked_of_parse first behind
  | both room first second => exact marked_of_parse first behind

theorem Stamps.decoding_marked (stamps : Stamps fields flags pts dts) (both : flags = 3)
    (behind : Bytes) : 10 ≤ fields.length ∧ Timestamp.Marked ((fields ++ behind).drop 5) := by
  cases both
  cases stamps with
  | both room first second =>
    rw [List.drop_append_of_le_length (by omega)]
    exact ⟨room, (marked_of_parse second behind).2⟩

/-- Marked bytes are read as the timestamps that are announced. -/
theorem Stamps.of_marked (behind : Bytes) (two : flags < 4) (allowed : flags ≠ 1)
    (presentation : 2 ≤ flags → 5 ≤ fields.length ∧ Timestamp.Marked (fields ++ behind))
    (decoding : flags = 3 →
      10 ≤ fields.length ∧ Timestamp.Marked ((fields ++ behind).drop 5)) :
    ∃ pts dts, Stamps fields flags pts dts := by
  match flags, two with
  | 0, _ => exact ⟨_, _, .none⟩
  | 1, _ => exact absurd rfl allowed
  | 2, _ =>
    obtain ⟨pts, first⟩ := parse_of_marked (presentation (by decide))
    exact ⟨_, _, .presentation first⟩
  | 3, _ =>
    obtain ⟨ten, set⟩ := decoding rfl
    obtain ⟨pts, first⟩ := parse_of_marked (presentation (by decide))
    rw [List.drop_append_of_le_length (by omega)] at set
    have five : 5 ≤ (fields.drop 5).length := by
      rw [List.length_drop]
      omega
    obtain ⟨dts, second⟩ := parse_of_marked ⟨five, set⟩
    exact ⟨_, _, .both ten first second⟩

theorem Written.wellFormed (written : Written data header) : WellFormed data := by
  cases written with
  | plain listed =>
    refine ⟨?_, rfl, fun unlisted => absurd listed unlisted⟩
    simp only [List.length_cons, fixedSize]
    omega
  | @optional streamId marker flags length fields pts dts unlisted high low marked whole stamps
      behind =>
    refine ⟨?_, rfl, fun _ => ⟨?_, marked, ?_, stamps.allowed, ?_, ?_⟩⟩
    · simp only [List.length_cons, fixedSize]
      omega
    · simp only [List.length_cons]
      omega
    · simp only [fieldsSize, List.getD_cons_succ, List.getD_cons_zero, List.length_cons,
        List.length_append]
      omega
    · intro announced
      obtain ⟨five, set⟩ := stamps.presentation_marked announced behind
      exact ⟨five.trans_eq whole, set⟩
    · intro both
      obtain ⟨ten, set⟩ := stamps.decoding_marked both behind
      exact ⟨ten.trans_eq whole, set⟩

/-- What the places allow is written in this way. -/
theorem WellFormed.written (formed : WellFormed data) : ∃ header, Written data header := by
  obtain ⟨room, code, optional⟩ := formed
  match data, room with
  | first :: second :: third :: streamId :: high :: low :: rest, _ =>
    simp only [List.take_succ_cons, List.take_zero, List.cons.injEq, and_true] at code
    obtain ⟨rfl, rfl, rfl⟩ := code
    by_cases listed : streamId ∈ plainIds
    · exact ⟨_, .plain listed high low rest⟩
    · obtain ⟨room, marker, whole, allowed, presentation, decoding⟩ := optional listed
      match rest, room with
      | marks :: flags :: length :: rest, _ =>
        have long : length.toNat ≤ rest.length := by
          simp only [fieldsSize, List.getD_cons_succ, List.getD_cons_zero,
            List.length_cons] at whole
          omega
        obtain ⟨fields, behind, rfl, size⟩ :
            ∃ fields behind, rest = fields ++ behind ∧ fields.length = length.toNat :=
          ⟨rest.take length.toNat, rest.drop length.toNat, (List.take_append_drop ..).symm,
            by rw [List.length_take, Nat.min_eq_left long]⟩
        have first : 2 ≤ flags.toNat / 64 →
            5 ≤ fields.length ∧ Timestamp.Marked (fields ++ behind) := by
          rw [size]
          exact presentation
        have second : flags.toNat / 64 = 3 →
            10 ≤ fields.length ∧ Timestamp.Marked ((fields ++ behind).drop 5) := by
          rw [size]
          exact decoding
        obtain ⟨pts, dts, stamps⟩ := Stamps.of_marked behind (flags_lt flags) allowed first second
        exact ⟨_, .optional listed high low marker size stamps behind⟩

/-! ### What a header says -/

/-- What a header says of the bytes it was read from. Its timestamps are those at the places that
the flags announce. -/
structure Describes (header : PesHeader) (data : Bytes) : Prop where
  streamId : header.streamId = data.getD 3 0
  packetLength : header.packetLength = (data.getD 4 0).toNat * 256 + (data.getD 5 0).toNat
  dataAlignment : header.dataAlignment = (decide (HasOptional data) && bit (data.getD 6 0) 2)
  size : header.size = if HasOptional data then 9 + fieldsSize data else fixedSize
  pts : header.pts.isSome ↔ HasOptional data ∧ 2 ≤ stampFlags data
  dts : header.dts.isSome ↔ HasOptional data ∧ stampFlags data = 3
  ptsRead : ∀ pts ∈ header.pts, Timestamp.parse (data.drop 9) = .ok pts
  dtsRead : ∀ dts ∈ header.dts, Timestamp.parse (data.drop 14) = .ok dts

theorem Stamps.isSome (stamps : Stamps fields flags pts dts) :
    (pts.isSome ↔ 2 ≤ flags) ∧ (dts.isSome ↔ flags = 3) := by
  cases stamps <;> simp

theorem Stamps.read (stamps : Stamps fields flags pts dts) (behind : Bytes) :
    (∀ value ∈ pts, Timestamp.parse (fields ++ behind) = .ok value) ∧
      ∀ value ∈ dts, Timestamp.parse ((fields ++ behind).drop 5) = .ok value := by
  have ahead {fields : Bytes} {value : Nat} (read : Timestamp.parse fields = .ok value) :
      Timestamp.parse (fields ++ behind) = .ok value :=
    (Timestamp.parse_append (Timestamp.parse_isOk_iff.mp ⟨value, read⟩).1 behind).trans read
  cases stamps with
  | none => exact ⟨by simp, by simp⟩
  | presentation first => exact ⟨by simpa using ahead first, by simp⟩
  | both room first second =>
    rw [List.drop_append_of_le_length (by omega)]
    exact ⟨by simpa using ahead first, by simpa using ahead second⟩

theorem Written.describes (written : Written data header) : Describes header data := by
  cases written with
  | @plain streamId listed high low behind =>
    have plain : ¬ HasOptional (0 :: 0 :: 1 :: streamId :: high :: low :: behind) :=
      fun unlisted => unlisted listed
    exact {
      streamId := rfl
      packetLength := rfl
      dataAlignment := by simp [plain]
      size := (if_neg plain).symm
      pts := by simp [plain]
      dts := by simp [plain]
      ptsRead := by simp
      dtsRead := by simp }
  | @optional streamId marker flags length fields pts dts unlisted high low marked whole stamps
      behind =>
    have optional : HasOptional (0 :: 0 :: 1 :: streamId :: high :: low :: marker :: flags ::
        length :: (fields ++ behind)) := unlisted
    obtain ⟨hasPts, hasDts⟩ := stamps.isSome
    obtain ⟨ptsRead, dtsRead⟩ := stamps.read behind
    exact {
      streamId := rfl
      packetLength := rfl
      dataAlignment := by simp [optional]
      size := (if_pos optional).symm
      pts := hasPts.trans (and_iff_right optional).symm
      dts := hasDts.trans (and_iff_right optional).symm
      ptsRead := ptsRead
      dtsRead := dtsRead }

/-- The header parser accepts exactly its grammar and looks no further. Bytes are read as a header
if and only if they have the form of one, place by place. The header then lies within them, its
timestamps have 33 bits and are there exactly as flagged; whatever comes behind it, and also if
nothing does, the same header is read. -/
theorem parse_exact (data : Bytes) :
    ((∃ header, parse data = .ok header) ↔ WellFormed data) ∧
    ∀ header, parse data = .ok header →
      Describes header data ∧ header.size ≤ data.length ∧
      (∀ pts ∈ header.pts, pts < Timestamp.wrap) ∧ (∀ dts ∈ header.dts, dts < Timestamp.wrap) ∧
      (∀ behind, parse (data ++ behind) = .ok header) ∧
      parse (data.take header.size) = .ok header := by
  refine ⟨⟨?_, ?_⟩, ?_⟩
  · rintro ⟨header, read⟩
    exact (written_of_parse read).wellFormed
  · intro formed
    obtain ⟨header, written⟩ := formed.written
    exact ⟨header, parse_of_written written⟩
  · intro header read
    have written := written_of_parse read
    have described := written.describes
    obtain ⟨front, behind, rfl, size, other⟩ := written.split
    refine ⟨described, ?_, fun pts member => Timestamp.parse_lt (described.ptsRead pts member),
      fun dts member => Timestamp.parse_lt (described.dtsRead dts member), fun more => ?_, ?_⟩
    · rw [← size, List.length_append]
      exact Nat.le_add_right ..
    · rw [List.append_assoc]
      exact parse_of_written (other _)
    · rw [← size, List.take_left]
      have alone := other []
      rw [List.append_nil] at alone
      exact parse_of_written alone

/-- A header with both timestamps and one byte of stuffing, cut off behind it or followed by more,
is the same header. -/
theorem bothStamps_exact :
    let data : Bytes := [0x00, 0x00, 0x01, 0xE0, 0x00, 0x00, 0x84, 0xC0, 0x0B, 0x31, 0x00, 0x01,
      0x46, 0x51, 0x11, 0x00, 0x01, 0x2E, 0xE1, 0xFF, 0x65]
    let header : PesHeader := {
      streamId := 0xE0, packetLength := 0, dataAlignment := true, pts := some 9000
      dts := some 6000, size := 20 }
    parse data = .ok header ∧ WellFormed data ∧ Describes header data ∧
      parse (data ++ [0x88, 0x84]) = .ok header ∧ parse (data.take 20) = .ok header := by
  intro data header
  have read : parse data = .ok header := by decide
  obtain ⟨accepted, facts⟩ := parse_exact data
  obtain ⟨described, _, _, _, more, alone⟩ := facts header read
  exact ⟨read, accepted.mp ⟨header, read⟩, described, more _, alone⟩

end PesHeader

end TransportStream
