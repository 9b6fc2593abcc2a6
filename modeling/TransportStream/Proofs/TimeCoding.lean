import TransportStream.Pes.Timestamp
import TransportStream.Proofs.ClockTimeline
import TransportStream.Proofs.SectionCoding

/-!
Timestamps and clock references as bytes, and clock references as 27 MHz ticks. What is written is
read back up to the bits that its field has; what is read is written back where the bits without
meaning are set; and ticks are kept up to the point at which the clock starts over.
-/
namespace TransportStream

namespace Timestamp

/-! ### Timestamps -/

/-- The low 33 bits of a value are read back, whatever the label and the bytes behind it. -/
theorem parse_encode (value : Nat) (label : UInt8) (rest : Bytes) :
    parse (encode value label ++ rest) = .ok (value % wrap) := by
  simp only [encode, List.cons_append, List.nil_append, parse, bit_zero, Bytes.toNat_byte]
  rw [if_pos (by simp only [Bool.and_eq_true, decide_eq_true_eq]; omega)]
  congr 1
  simp only [wrap]
  omega

/-- A timestamp that was read, for the five bytes it was read from. -/
theorem parse_five {first second third fourth fifth : UInt8} {rest : Bytes} {value : Nat}
    (read : parse (first :: second :: third :: fourth :: fifth :: rest) = .ok value) :
    first.toNat % 2 = 1 ∧ third.toNat % 2 = 1 ∧ fifth.toNat % 2 = 1 ∧
      value = first.toNat / 2 % 8 * 0x40000000 + second.toNat * 0x400000 +
        third.toNat / 2 * 0x8000 + fourth.toNat * 0x80 + fifth.toNat / 2 := by
  simp only [parse, bit_zero] at read
  split at read
  · rename_i marked
    simp only [Bool.and_eq_true, decide_eq_true_eq] at marked
    obtain ⟨⟨one, two⟩, three⟩ := marked
    exact ⟨one, two, three, (Except.ok.inj read).symm⟩
  · cases read

theorem label_toNat (first : UInt8) : (first >>> 4).toNat = first.toNat / 16 := by
  rw [UInt8.toNat_shiftRight, Nat.shiftRight_eq_div_pow]
  rfl

/-- Five bytes that are read as a timestamp are written back under their own label. -/
theorem encode_of_parse {first : UInt8} {others : Bytes} {value : Nat} (four : others.length = 4)
    (read : parse (first :: others) = .ok value) :
    encode value (first >>> 4) = first :: others := by
  obtain ⟨second, third, fourth, fifth, rest, rfl⟩ :=
    LongSection.exists_four (Nat.le_of_eq four.symm)
  obtain rfl : rest = [] := by simpa using four
  obtain ⟨one, two, three, rfl⟩ := parse_five read
  have firstSmall := first.toNat_lt
  have secondSmall := second.toNat_lt
  have thirdSmall := third.toNat_lt
  have fourthSmall := fourth.toNat_lt
  have fifthSmall := fifth.toNat_lt
  simp only [encode, label_toNat, List.cons.injEq, and_true]
  refine ⟨?_, ?_, ?_, ?_, ?_⟩
  all_goals
    apply Bytes.byte_eq
    omega

end Timestamp

namespace Pcr

/-! ### Clock references -/

/-- The six bits between base and extension, which mean nothing. -/
def reserved (field : Bytes) : Nat := Bytes.toNat field / 0x200 % 0x40

theorem parse_six {field : Bytes} (six : field.length = 6) (rest : Bytes) :
    parse (field ++ rest) = .ok ⟨Bytes.toNat field / 0x8000, Bytes.toNat field % 0x200⟩ := by
  rw [parse, if_neg (by rw [List.length_append]; omega), ← six, List.take_left]

theorem length_encode (pcr : Pcr) : pcr.encode.length = 6 := Bytes.length_ofNat ..

/-- A reference whose parts fit their fields is read back, whatever is behind it. -/
theorem parse_encode {pcr : Pcr} (base : pcr.base < baseRange) (extension : pcr.extension < 0x200)
    (rest : Bytes) : parse (pcr.encode ++ rest) = .ok pcr := by
  have small : pcr.base * 0x8000 + 0x7E00 + pcr.extension % 0x200 < Nat.pow 256 6 := by
    rw [show Nat.pow 256 6 = 0x1000000000000 from rfl]
    simp only [baseRange] at base
    omega
  rw [parse_six pcr.length_encode, encode, Bytes.toNat_ofNat small]
  congr 2
  · omega
  · omega

/-- Six bytes are written back from the reference that they are read as, if their reserved bits
are set. -/
theorem encode_of_parse {field : Bytes} {pcr : Pcr} (six : field.length = 6)
    (set : reserved field = 0x3F) (read : parse field = .ok pcr) : pcr.encode = field := by
  have parts := parse_six six []
  rw [List.append_nil, read, Except.ok.injEq] at parts
  subst parts
  have number : Bytes.toNat field / 0x8000 * 0x8000 + 0x7E00 +
      Bytes.toNat field % 0x200 % 0x200 = Bytes.toNat field := by
    simp only [reserved] at set
    omega
  rw [encode]
  dsimp only
  rw [number, ← six, Bytes.ofNat_toNat]

/-! ### Ticks -/

theorem ticks_ofTicks (count : Nat) : (ofTicks count).ticks = count % wrap := by
  have small : count % wrap < wrap := Nat.mod_lt _ (by decide)
  simp only [ofTicks, ofParts, ticks]
  generalize count % wrap = kept at *
  simp only [baseRange, Clock.wrap_eq] at *
  omega

/-- The reference of its own ticks, its base reduced to 33 bits. -/
theorem ofTicks_ticks {pcr : Pcr} (extension : pcr.extension < 300) :
    ofTicks pcr.ticks = ofParts pcr.base pcr.extension := by
  simp only [ofTicks, ofParts, ticks, Clock.wrap_eq, baseRange, Pcr.mk.injEq]
  omega

theorem ofParts_eq_self {pcr : Pcr} :
    ofParts pcr.base pcr.extension = pcr ↔ pcr.base < baseRange ∧ pcr.extension < 300 := by
  obtain ⟨base, extension⟩ := pcr
  simp only [ofParts, Pcr.mk.injEq, baseRange]
  omega

/-- The ticks of a base of 33 bits, and of an extension that fits its field, fit 64 bits. -/
theorem ticks_lt {pcr : Pcr} (base : pcr.base < baseRange) (extension : pcr.extension < 0x200) :
    pcr.ticks < wordRange := by
  simp only [ticks, baseRange, wordRange] at *
  omega

/-- What is read fits its fields. -/
theorem parse_lt {data : Bytes} {pcr : Pcr} (read : parse data = .ok pcr) :
    pcr.base < baseRange ∧ pcr.extension < 0x200 := by
  unfold parse at read
  split at read
  · cases read
  · rename_i enough
    cases read
    have small := Bytes.toNat_lt (data.take 6)
    rw [List.length_take, Nat.min_eq_left (Nat.le_of_not_lt enough),
      show Nat.pow 256 6 = 0x1000000000000 from rfl] at small
    simp only [baseRange]
    omega

theorem ticks_ofParts_lt (base extension : Nat) : (ofParts base extension).ticks < wordRange := by
  have part : extension % 300 < 0x200 := Nat.lt_trans (Nat.mod_lt _ (by decide)) (by decide)
  exact ticks_lt (Nat.mod_lt _ (by decide)) part

end Pcr

/-- Times are coded without loss. The low 33 bits of every value are read back from a timestamp
under any label, and every five bytes that are read as a timestamp are written back under their own
label. A clock reference whose parts fit their fields is read back, and six bytes are written back
if their reserved bits are set. Ticks are kept up to the wrap, and a reference whose extension is
a part of one tick is the reference of its ticks, its base reduced to 33 bits; so it is the same
one if the base has no more. The ticks of all references that are read or made fit 64 bits. -/
theorem time_coding_inverse :
    (∀ (value : Nat) (label : UInt8) (rest : Bytes),
      Timestamp.parse (Timestamp.encode value label ++ rest) = .ok (value % Timestamp.wrap)) ∧
    (∀ (first : UInt8) (others : Bytes) (value : Nat), others.length = 4 →
      Timestamp.parse (first :: others) = .ok value →
      Timestamp.encode value (first >>> 4) = first :: others) ∧
    (∀ (pcr : Pcr) (rest : Bytes), pcr.base < Pcr.baseRange → pcr.extension < 0x200 →
      Pcr.parse (pcr.encode ++ rest) = .ok pcr) ∧
    (∀ field : Bytes, field.length = 6 → Pcr.reserved field = 0x3F →
      ∃ pcr, Pcr.parse field = .ok pcr ∧ pcr.encode = field) ∧
    (∀ count : Nat, (Pcr.ofTicks count).ticks = count % Pcr.wrap) ∧
    (∀ (data : Bytes) (pcr : Pcr), Pcr.parse data = .ok pcr → pcr.ticks < wordRange) ∧
    (∀ base extension : Nat, (Pcr.ofParts base extension).ticks < wordRange) ∧
    ∀ pcr : Pcr, pcr.extension < 300 →
      Pcr.ofTicks pcr.ticks = .ofParts pcr.base pcr.extension ∧
        (Pcr.ofTicks pcr.ticks = pcr ↔ pcr.base < Pcr.baseRange) := by
  refine ⟨Timestamp.parse_encode, ?_, ?_, ?_, Pcr.ticks_ofTicks, ?_, Pcr.ticks_ofParts_lt, ?_⟩
  · intro first others value four read
    exact Timestamp.encode_of_parse four read
  · intro pcr rest base extension
    exact Pcr.parse_encode base extension rest
  · intro field six set
    have read := Pcr.parse_six six []
    rw [List.append_nil] at read
    exact ⟨_, read, Pcr.encode_of_parse six set read⟩
  · intro data pcr read
    exact Pcr.ticks_lt (Pcr.parse_lt read).1 (Pcr.parse_lt read).2
  · intro pcr extension
    refine ⟨Pcr.ofTicks_ticks extension, ?_⟩
    rw [Pcr.ofTicks_ticks extension, Pcr.ofParts_eq_self, and_iff_left extension]

/-- A value of more than 33 bits, the timestamp of its low 33 bits under the label 3, and a clock
reference with the highest base and extension. -/
theorem highest_times_coded :
    let field : Bytes := [0xFF, 0xFF, 0xFF, 0xFF, 0xFF, 0x2B]
    Timestamp.parse (Timestamp.encode 0x723456789 0x53) = .ok 0x123456789 ∧
      Timestamp.encode 0x123456789 ((0x39 : UInt8) >>> 4) = [0x39, 0x8D, 0x15, 0xCF, 0x13] ∧
      Pcr.parse (Pcr.encode ⟨0x1FFFFFFFF, 0x1FF⟩) = .ok ⟨0x1FFFFFFFF, 0x1FF⟩ ∧
      (∃ pcr, Pcr.parse field = .ok pcr ∧ pcr.encode = field) ∧
      Pcr.ofTicks (Pcr.ticks ⟨0x1FFFFFFFF, 299⟩) = ⟨0x1FFFFFFFF, 299⟩ := by
  intro field
  obtain ⟨read, written, referenceRead, referenceWritten, _, _, _, same⟩ := time_coding_inverse
  refine ⟨read 0x723456789 0x53 [], written 0x39 _ _ rfl rfl, ?_, ?_, ?_⟩
  · exact referenceRead ⟨0x1FFFFFFFF, 0x1FF⟩ [] (by decide) (by decide)
  · exact referenceWritten field rfl (by decide)
  · exact (same ⟨0x1FFFFFFFF, 299⟩ (by decide)).2.mpr (by decide)

end TransportStream
