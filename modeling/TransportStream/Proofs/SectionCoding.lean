import Mathlib.Data.List.Induction
import TransportStream.Section
import TransportStream.Table.Descriptor

/-!
Sections and descriptor loops as bytes. What is written is read back as it was, where every number
fits into its field; and what is read is written back as it was, where the bits without meaning
are as they are written here.
-/
namespace TransportStream

namespace Bytes

theorem toNat_byte (number : Nat) : (UInt8.ofNat number).toNat = number % 256 :=
  UInt8.toNat_ofNat'

/-- A byte is found by its value alone. -/
theorem byte_eq {number : Nat} {byte : UInt8} (same : number % 256 = byte.toNat) :
    UInt8.ofNat number = byte :=
  UInt8.toNat_inj.mp ((toNat_byte number).trans same)

theorem toNat_concat (bytes : Bytes) (byte : UInt8) :
    toNat (bytes ++ [byte]) = toNat bytes * 256 + byte.toNat := by
  simp [toNat]

theorem toNat_lt (bytes : Bytes) : toNat bytes < Nat.pow 256 bytes.length := by
  induction bytes using List.reverseRecOn with
  | nil => exact Nat.one_pos
  | append_singleton front byte ih =>
    have small := byte.toNat_lt
    have wider : Nat.pow 256 (front.length + 1) = Nat.pow 256 front.length * 256 := rfl
    rw [toNat_concat, List.length_append, List.length_singleton, wider]
    omega

/-- A number that has no more than so many bytes is read back. -/
theorem toNat_ofNat {width number : Nat} (small : number < Nat.pow 256 width) :
    toNat (ofNat width number) = number := by
  induction width generalizing number with
  | zero =>
    have : number = 0 := Nat.lt_one_iff.mp small
    rw [this]
    rfl
  | succ width ih =>
    have higher : number / 256 < Nat.pow 256 width := Nat.div_lt_of_lt_mul (by
      rw [Nat.mul_comm]
      exact small)
    rw [ofNat, toNat_concat, ih higher, toNat_byte]
    omega

/-- Bytes are written back from their number. -/
theorem ofNat_toNat (bytes : Bytes) : ofNat bytes.length (toNat bytes) = bytes := by
  induction bytes using List.reverseRecOn with
  | nil => rfl
  | append_singleton front byte ih =>
    have small := byte.toNat_lt
    have higher : (toNat front * 256 + byte.toNat) / 256 = toNat front := by omega
    have lowest : (toNat front * 256 + byte.toNat) % 256 = byte.toNat := by omega
    rw [toNat_concat, List.length_append, List.length_singleton, ofNat, higher, ih,
      byte_eq lowest]

end Bytes

theorem bit_seven (byte : UInt8) : bit byte 7 = decide (128 ≤ byte.toNat) := by
  have small := byte.toNat_lt
  rw [bit, Nat.testBit_eq_decide_div_mod_eq]
  apply decide_eq_decide.mpr
  omega

theorem bit_zero (byte : UInt8) : bit byte 0 = decide (byte.toNat % 2 = 1) := by
  rw [bit, Nat.testBit_eq_decide_div_mod_eq]
  apply decide_eq_decide.mpr
  omega

/-- How many values a field of twelve bits has: the length of a section or of a loop. -/
def lengthRange : Nat := 0x1000

/-- How many PIDs there are. -/
def pidRange : Nat := 0x2000

namespace LongSection

variable {part : LongSection} {data : Bytes}

theorem declaredLength_written {length : Nat} (small : length < lengthRange) (marks : Nat)
    (clear : marks % 16 = 0) :
    declaredLength (UInt8.ofNat (marks + length / 256 % 16)) (UInt8.ofNat length) = length := by
  simp only [declaredLength, Bytes.toNat_byte, lengthRange] at *
  omega

/-- A length is written back under the marks it was read without. -/
theorem written_of_declaredLength {second : UInt8} (third : UInt8) (marks : Nat)
    (clear : marks % 16 = 0) (marked : second.toNat / 16 * 16 = marks) :
    UInt8.ofNat (marks + declaredLength second third / 256 % 16) = second ∧
      UInt8.ofNat (declaredLength second third) = third := by
  have secondSmall := second.toNat_lt
  have thirdSmall := third.toNat_lt
  constructor
  all_goals
    apply Bytes.byte_eq
    rw [declaredLength]
    omega

/-! ### What is written is read -/

/-- Whether every number of a section fits into its field. -/
structure Fits (part : LongSection) : Prop where
  version : part.version < 32
  ordered : part.number ≤ part.last
  last : part.last < 256
  extension : part.extension < 65536
  length : part.length < lengthRange

theorem length_encodeChecked (part : LongSection) :
    part.encodeChecked.length = part.body.length + 8 := rfl

theorem verify_encode (part : LongSection) : Crc.verify part.encode = .ok () := by
  have width : (Bytes.ofNat 4 (Crc.checksum part.encodeChecked).toNat).length = 4 :=
    Bytes.length_ofNat ..
  have long : part.encode.length = part.encodeChecked.length + 4 := by
    rw [encode, List.length_append, width]
  have room : ¬ part.encode.length < 7 := by
    rw [long, length_encodeChecked]
    omega
  have split : part.encode.length - 4 = part.encodeChecked.length := by omega
  have carried : Bytes.toNat (Bytes.ofNat 4 (Crc.checksum part.encodeChecked).toNat) =
      (Crc.checksum part.encodeChecked).toNat :=
    Bytes.toNat_ofNat (Crc.checksum part.encodeChecked).isLt
  rw [Crc.verify, if_neg room, split]
  dsimp only
  rw [encode, List.take_left, List.drop_left, carried, if_pos rfl]

theorem exists_four {content : Bytes} (room : 4 ≤ content.length) :
    ∃ a b c d rest, content = a :: b :: c :: d :: rest := by
  match content, room with
  | a :: b :: c :: d :: rest, _ => exact ⟨a, b, c, d, rest, rfl⟩

/-- Reading the eight bytes before the body, one after another. -/
theorem parse_header_bytes {tableId second third high low versionByte number last : UInt8}
    {content : Bytes} (room : 4 ≤ content.length) :
    parse (tableId :: second :: third :: high :: low :: versionByte :: number :: last :: content) =
      if !bit second 7 then .error (.invalidSection .shortForm)
      else if declaredLength second third < overhead then
        .error (.invalidSection (.lengthTooSmall (declaredLength second third)))
      else if content.length + 5 < declaredLength second third then
        .error (.invalidSection
          (.lengthOverrun (declaredLength second third) (content.length + 5)))
      else if last.toNat < number.toNat then
        .error (.invalidSection (.numberBeyondLast number.toNat last.toNat))
      else .ok {
        tableId
        extension := high.toNat * 256 + low.toNat
        version := versionByte.toNat / 2 % 32
        currentNext := bit versionByte 0
        number := number.toNat
        last := last.toNat
        body := content.take (declaredLength second third - overhead) } := by
  obtain ⟨a, b, c, d, rest, rfl⟩ := exists_four room
  rfl

/-- A section that fits is read as it was. -/
theorem parse_encode (fits : part.Fits) : parse part.encode = .ok part := by
  obtain ⟨⟨version, currentNext, number, last⟩, tableId, extension, body⟩ := part
  obtain ⟨versionFits, ordered, lastFits, extensionFits, lengthFits⟩ := fits
  dsimp only at versionFits ordered lastFits extensionFits
  generalize whole : LongSection.length _ = length at lengthFits
  have size : length = body.length + 9 := whole.symm
  have declared := declaredLength_written lengthFits 0xB0 rfl
  have long : bit (UInt8.ofNat (0xB0 + length / 256 % 16)) 7 = true := by
    rw [bit_seven, Bytes.toNat_byte, decide_eq_true_eq]
    omega
  have numberFits : (UInt8.ofNat number).toNat = number := by
    rw [Bytes.toNat_byte]
    omega
  have lastRead : (UInt8.ofNat last).toNat = last := by
    rw [Bytes.toNat_byte]
    omega
  have extensionRead : (UInt8.ofNat (extension / 256)).toNat * 256 + (UInt8.ofNat extension).toNat =
      extension := by
    rw [Bytes.toNat_byte, Bytes.toNat_byte]
    omega
  have versionRead :
      (UInt8.ofNat (0xC0 + version % 32 * 2 + currentNext.toNat)).toNat / 2 % 32 = version := by
    rw [Bytes.toNat_byte]
    cases currentNext <;> simp only [Bool.toNat_true, Bool.toNat_false] <;> omega
  have currentRead : bit (UInt8.ofNat (0xC0 + version % 32 * 2 + currentNext.toNat)) 0 =
      currentNext := by
    rw [bit_zero, Bytes.toNat_byte]
    cases currentNext <;>
      simp only [Bool.toNat_true, Bool.toNat_false, decide_eq_true_eq, decide_eq_false_iff_not] <;>
      omega
  rw [encode, encodeChecked, whole]
  dsimp only [List.cons_append]
  generalize trailing : Bytes.ofNat 4 _ = trailer
  have width : trailer.length = 4 := by rw [← trailing, Bytes.length_ofNat]
  have content : (body ++ trailer).length = body.length + 4 := by rw [List.length_append, width]
  have bodyRead : (body ++ trailer).take (length - overhead) = body := by
    rw [size, overhead, Nat.add_sub_cancel, List.take_left]
  rw [parse_header_bytes (by omega), declared, long, numberFits, lastRead, content, bodyRead,
    extensionRead, versionRead, currentRead]
  rw [if_neg (by decide), if_neg (by rw [overhead]; omega), if_neg (by omega), if_neg (by omega)]

/-! ### What is read is written back -/

/-- Whether a section ends where its length says. -/
def IsExact : Bytes → Prop
  | _ :: second :: third :: rest => rest.length = declaredLength second third
  | _ => False

/-- Whether the bits of the header without meaning are as they are written here. -/
def Marked : Bytes → Prop
  | _ :: second :: _ :: _ :: _ :: versionByte :: _ =>
    second.toNat / 16 = 0xB ∧ versionByte.toNat / 64 = 3
  | _ => False

theorem isExact_encode (fits : part.Fits) : IsExact part.encode := by
  have declared := declaredLength_written fits.length 0xB0 rfl
  rw [encode, encodeChecked]
  simp only [List.cons_append, IsExact, declared, List.length_cons, List.length_append,
    Bytes.length_ofNat]
  rw [length, overhead]

theorem marked_encode (part : LongSection) : Marked part.encode := by
  obtain ⟨⟨version, currentNext, number, last⟩, tableId, extension, body⟩ := part
  simp only [encode, encodeChecked, List.cons_append, Marked, Bytes.toNat_byte]
  cases currentNext <;> simp only [Bool.toNat_true, Bool.toNat_false] <;> omega

theorem exists_header (parsed : parse data = .ok part) :
    ∃ tableId second third high low versionByte number last content,
      data = tableId :: second :: third :: high :: low :: versionByte :: number :: last :: content ∧
        4 ≤ content.length := by
  unfold parse at parsed
  split at parsed
  · exact ⟨_, _, _, _, _, _, _, _, _, rfl, by simp⟩
  · cases parsed

/-- The last four bytes of a section that passes are the check value of those before. -/
theorem trailer_of_verify (checked : Crc.verify data = .ok ()) :
    data.drop (data.length - 4) =
      Bytes.ofNat 4 (Crc.checksum (data.take (data.length - 4))).toNat := by
  rw [Crc.verify] at checked
  split at checked
  · cases checked
  · rename_i room
    dsimp only at checked
    split at checked
    · rename_i same
      have width : (data.drop (data.length - 4)).length = 4 := by
        rw [List.length_drop]
        omega
      have written := Bytes.ofNat_toNat (data.drop (data.length - 4))
      rw [width] at written
      rw [same, written]
    · cases checked

section Header

variable {tableId second third high low versionByte number last : UInt8}

/-- The fields before the body are written back into the bytes they were read from. -/
theorem encodeChecked_of_header {body : Bytes} (secondMarked : second.toNat / 16 = 0xB)
    (versionMarked : versionByte.toNat / 64 = 3)
    (length : body.length + overhead = declaredLength second third) :
    encodeChecked {
        tableId
        extension := high.toNat * 256 + low.toNat
        version := versionByte.toNat / 2 % 32
        currentNext := bit versionByte 0
        number := number.toNat
        last := last.toNat
        body } =
      tableId :: second :: third :: high :: low :: versionByte :: number :: last :: body := by
  have highSmall := high.toNat_lt
  have lowSmall := low.toNat_lt
  have versionSmall := versionByte.toNat_lt
  have secondMarks : second.toNat / 16 * 16 = 0xB0 := by rw [secondMarked]
  obtain ⟨secondRead, thirdRead⟩ := written_of_declaredLength third 0xB0 rfl secondMarks
  have highRead : UInt8.ofNat ((high.toNat * 256 + low.toNat) / 256) = high := by
    apply Bytes.byte_eq
    omega
  have lowRead : UInt8.ofNat (high.toNat * 256 + low.toNat) = low := by
    apply Bytes.byte_eq
    omega
  have versionRead : UInt8.ofNat (0xC0 + versionByte.toNat / 2 % 32 % 32 * 2 +
      (bit versionByte 0).toNat) = versionByte := by
    apply Bytes.byte_eq
    rw [bit_zero]
    by_cases odd : versionByte.toNat % 2 = 1
    · rw [decide_eq_true odd, Bool.toNat_true]
      omega
    · rw [decide_eq_false odd, Bool.toNat_false]
      omega
  simp only [encodeChecked, LongSection.length, length, secondRead, thirdRead, highRead, lowRead,
    versionRead, UInt8.ofNat_toNat]

end Header

/-- A section that ends where it says and carries its check value is written back as it was. -/
theorem encode_of_parse (parsed : parse data = .ok part) (exact : IsExact data)
    (marked : Marked data) (checked : Crc.verify data = .ok ()) : part.encode = data := by
  obtain ⟨tableId, second, third, high, low, versionByte, number, last, content, rfl, room⟩ :=
    exists_header parsed
  obtain ⟨secondMarked, versionMarked⟩ := marked
  have declared : content.length + 5 = declaredLength second third := exact
  have trailer := trailer_of_verify checked
  have upTo : (tableId :: second :: third :: high :: low :: versionByte :: number :: last ::
      content).length - 4 = content.length - 4 + 8 := by
    simp only [List.length_cons]
    omega
  have bodyEnd : declaredLength second third - overhead = content.length - 4 := by
    rw [← declared, overhead]
    omega
  have length : (content.take (content.length - 4)).length + overhead =
      declaredLength second third := by
    rw [List.length_take, overhead]
    omega
  rw [parse_header_bytes room, bodyEnd] at parsed
  rw [upTo] at trailer
  split at parsed
  · cases parsed
  split at parsed
  · cases parsed
  split at parsed
  · cases parsed
  split at parsed
  · cases parsed
  cases parsed
  rw [encode, encodeChecked_of_header secondMarked versionMarked length]
  simp only [List.take_succ_cons, List.drop_succ_cons] at trailer
  rw [← trailer]
  simp only [List.cons_append, List.take_append_drop]

end LongSection

/-! ### Descriptor loops -/

namespace Descriptor

/-- Whether a loop fits: the data of every descriptor into its length byte, and the whole into a
field of twelve bits. -/
structure LoopFits (descriptors : List Descriptor) : Prop where
  each : ∀ descriptor ∈ descriptors, descriptor.data.length ≤ 255
  whole : (encodeLoop descriptors).length < lengthRange

theorem pidOf_written {pid : Nat} (small : pid < pidRange) :
    pidOf (UInt8.ofNat (0xE0 + pid / 256 % 32)) (UInt8.ofNat pid) = pid := by
  simp only [pidOf, Bytes.toNat_byte, pidRange] at *
  omega

/-- A PID is written back under the marks it was read without. -/
theorem written_of_pidOf {high : UInt8} (low : UInt8) (marked : high.toNat / 32 = 7) :
    UInt8.ofNat (0xE0 + pidOf high low / 256 % 32) = high ∧ UInt8.ofNat (pidOf high low) = low := by
  have highSmall := high.toNat_lt
  have lowSmall := low.toNat_lt
  constructor
  all_goals
    apply Bytes.byte_eq
    rw [pidOf]
    omega

theorem parseLoop_encode (descriptor : Descriptor) (rest : Bytes)
    (fits : descriptor.data.length ≤ 255) :
    parseLoop (descriptor.encode ++ rest) =
      (parseLoop rest).map (descriptor :: ·) := by
  have length : (UInt8.ofNat descriptor.data.length).toNat = descriptor.data.length := by
    rw [Bytes.toNat_byte]
    omega
  rw [encode, List.cons_append, List.cons_append, parseLoop, length, List.length_append,
    if_neg (by omega), List.drop_left, List.take_left]
  cases parseLoop rest <;> rfl

/-- A loop of descriptors that fit is read as it was. -/
theorem parseLoop_encodeLoop {descriptors : List Descriptor}
    (each : ∀ descriptor ∈ descriptors, descriptor.data.length ≤ 255) :
    parseLoop (encodeLoop descriptors) = .ok descriptors := by
  induction descriptors with
  | nil => rw [encodeLoop, List.flatMap_nil, parseLoop]
  | cons descriptor others ih =>
    obtain ⟨fits, each⟩ := List.forall_mem_cons.mp each
    rw [encodeLoop, List.flatMap_cons, parseLoop_encode descriptor _ fits, ← encodeLoop, ih each]
    rfl

/-- A loop is written back as it was. -/
theorem encodeLoop_of_parseLoop {data : Bytes} {descriptors : List Descriptor}
    (parsed : parseLoop data = .ok descriptors) : encodeLoop descriptors = data := by
  fun_induction parseLoop data generalizing descriptors with
  | case1 =>
    cases parsed
    rfl
  | case2 | case3 => cases parsed
  | case4 tag length rest fits ih =>
    obtain ⟨others, read, same⟩ := Error.bind_eq_ok.mp parsed
    cases same
    have taken : (rest.take length.toNat).length = length.toNat := by
      rw [List.length_take]
      omega
    rw [encodeLoop, List.flatMap_cons, ← encodeLoop, ih read, encode, taken, UInt8.ofNat_toNat,
      List.cons_append, List.cons_append, List.take_append_drop]

end Descriptor

end TransportStream
