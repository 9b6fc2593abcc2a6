import Mathlib.Algebra.Order.Ring.Nat
import TransportStream.Section.Crc

/-!
The check value of a section finds every burst of errors of at most 32 bits. The shift register
is linear over exclusive or, and its shifts lose nothing: what errors leave in it depends on the
errors alone, and does not vanish behind the last of them. Up to 32 bits cannot cancel each
other, because only one register is cleared by them.
-/
namespace TransportStream

/-- The bits of a byte, the greatest first. -/
def byteBits (byte : UInt8) : List Bool :=
  [bit byte 7, bit byte 6, bit byte 5, bit byte 4, bit byte 3, bit byte 2, bit byte 1, bit byte 0]

/-- The bits of a byte string in the order in which they are sent. -/
def Bytes.bits (data : Bytes) : List Bool := data.flatMap byteBits

/-- The number that bits write, the greatest first. -/
def bitsValue (bits : List Bool) : Nat :=
  bits.foldl (fun number taken => number * 2 + taken.toNat) 0

theorem bitsValue_from (number : Nat) (bits : List Bool) :
    bits.foldl (fun number taken => number * 2 + taken.toNat) number =
      number * 2 ^ bits.length + bitsValue bits := by
  unfold bitsValue
  induction bits generalizing number with
  | nil => simp
  | cons taken others ih =>
    rw [List.foldl_cons, List.foldl_cons, ih, ih (0 * 2 + taken.toNat), List.length_cons,
      Nat.pow_succ']
    simp only [Nat.zero_mul, Nat.zero_add, Nat.add_mul, Nat.mul_assoc, Nat.add_assoc]

theorem bitsValue_append (front back : List Bool) :
    bitsValue (front ++ back) = bitsValue front * 2 ^ back.length + bitsValue back := by
  rw [bitsValue, List.foldl_append, bitsValue_from]
  rfl

theorem bitsValue_cons (taken : Bool) (others : List Bool) :
    bitsValue (taken :: others) = taken.toNat * 2 ^ others.length + bitsValue others := by
  have split := bitsValue_append [taken] others
  simpa [bitsValue] using split

theorem bitsValue_lt (bits : List Bool) : bitsValue bits < 2 ^ bits.length := by
  induction bits with
  | nil => simp [bitsValue]
  | cons taken others ih =>
    rw [bitsValue_cons, List.length_cons, Nat.pow_succ']
    have bounded : taken.toNat * 2 ^ others.length ≤ 2 ^ others.length := by
      cases taken <;> simp
    omega

theorem bitsValue_eq_zero {bits : List Bool} (zero : bitsValue bits = 0) :
    ∀ taken ∈ bits, taken = false := by
  induction bits with
  | nil => simp
  | cons taken others ih =>
    rw [bitsValue_cons] at zero
    have positive := Nat.two_pow_pos others.length
    cases taken with
    | false => simpa using ih (by simpa using zero)
    | true => simp at zero

theorem bitsValue_byteBits (byte : UInt8) : bitsValue (byteBits byte) = byte.toNat := by
  have every : ∀ number < 256, bitsValue (byteBits (UInt8.ofNat number)) = number := by
    decide +kernel
  have this := every byte.toNat byte.toNat_lt
  rwa [UInt8.ofNat_toNat] at this

namespace Bytes

theorem bits_cons (byte : UInt8) (rest : Bytes) :
    Bytes.bits (byte :: rest) = byteBits byte ++ Bytes.bits rest := List.flatMap_cons ..

theorem length_bits (data : Bytes) : data.bits.length = 8 * data.length := by
  induction data with
  | nil => rfl
  | cons byte rest ih =>
    rw [bits_cons, List.length_append, ih, List.length_cons]
    simp only [byteBits, List.length_cons, List.length_nil]
    omega

/-- Bytes and their bits write the same number. -/
theorem bitsValue_bits (data : Bytes) : bitsValue data.bits = data.toNat := by
  have every : ∀ number, (bits data).foldl (fun number taken => number * 2 + taken.toNat) number =
      data.foldl (fun number byte => number * 256 + byte.toNat) number := by
    induction data with
    | nil => exact fun _ => rfl
    | cons byte rest ih =>
      intro number
      have first := bitsValue_from number (byteBits byte)
      have width : 2 ^ (byteBits byte).length = 256 := by simp [byteBits]
      rw [bitsValue_byteBits, width] at first
      rw [bits_cons, List.foldl_append, first, ih, List.foldl_cons]
  exact every 0

theorem bits_injective {data other : Bytes} (same : data.bits = other.bits) : data = other := by
  induction data generalizing other with
  | nil =>
    have length := congrArg List.length same
    rw [length_bits, length_bits, List.length_nil] at length
    exact (List.eq_nil_of_length_eq_zero (by omega)).symm
  | cons byte rest ih =>
    cases other with
    | nil => cases same
    | cons otherByte otherRest =>
      rw [bits_cons, bits_cons] at same
      obtain ⟨first, others⟩ := List.append_inj same rfl
      have value := congrArg bitsValue first
      rw [bitsValue_byteBits, bitsValue_byteBits] at value
      rw [UInt8.toNat_inj.mp value, ih others]

end Bytes

namespace Crc

/-! ### The register bit by bit -/

/-- The register with one bit at the place where bits come in. -/
def incoming (taken : Bool) : BitVec 32 := if taken then 0x80000000#32 else 0#32

/-- Takes in one bit. -/
def takeBit (register : BitVec 32) (taken : Bool) : BitVec 32 :=
  shift (register ^^^ incoming taken)

/-- Takes in bits in turn. -/
def takeBits (register : BitVec 32) (bits : List Bool) : BitVec 32 := bits.foldl takeBit register

theorem xor_exchange (a b c d : BitVec 32) : (a ^^^ b) ^^^ (c ^^^ d) = (a ^^^ c) ^^^ (b ^^^ d) := by
  rw [BitVec.xor_assoc, BitVec.xor_assoc, ← BitVec.xor_assoc b, BitVec.xor_comm b c,
    BitVec.xor_assoc c]

theorem shift_eq (register : BitVec 32) :
    shift register = (register <<< 1) ^^^ (if register.msb then generator else 0#32) := by
  unfold shift
  split <;> simp

theorem shift_xor (register other : BitVec 32) :
    shift (register ^^^ other) = shift register ^^^ shift other := by
  have feedback : (if (register ^^^ other).msb then generator else 0#32) =
      (if register.msb then generator else 0#32) ^^^ (if other.msb then generator else 0#32) := by
    rw [BitVec.msb_xor]
    cases register.msb <;> cases other.msb <;> simp
  rw [shift_eq, shift_eq, shift_eq, feedback, BitVec.shiftLeft_xor_distrib, xor_exchange]

/-- The lowest bit of a shifted register tells what was shifted out. -/
theorem shift_eq_zero {register : BitVec 32} (zero : shift register = 0#32) :
    register = 0#32 := by
  rw [shift_eq] at zero
  have lowest := congrArg (fun register => register.getLsbD 0) zero
  have leading : register.msb = false := by
    cases out : register.msb with
    | false => rfl
    | true =>
      rw [out] at lowest
      simp [generator] at lowest
  rw [leading] at zero
  apply BitVec.eq_of_toNat_eq
  have shifted := congrArg BitVec.toNat zero
  have small := BitVec.msb_eq_false_iff_two_mul_lt.mp leading
  simp only [Bool.false_eq_true, if_false, BitVec.xor_zero, BitVec.toNat_shiftLeft,
    Nat.shiftLeft_eq, BitVec.toNat_zero] at shifted ⊢
  omega

theorem incoming_xor (taken other : Bool) :
    incoming (taken ^^ other) = incoming taken ^^^ incoming other := by
  cases taken <;> cases other <;> decide

theorem takeBits_append (register : BitVec 32) (front back : List Bool) :
    takeBits register (front ++ back) = takeBits (takeBits register front) back :=
  List.foldl_append

/-- What two messages leave in the register differs by what their differences leave. -/
theorem takeBits_xor (register other : BitVec 32) {front back : List Bool}
    (same : front.length = back.length) :
    takeBits (register ^^^ other) (List.zipWith (· ^^ ·) front back) =
      takeBits register front ^^^ takeBits other back := by
  induction front generalizing register other back with
  | nil =>
    cases back with
    | nil => rfl
    | cons _ _ => cases same
  | cons taken front ih =>
    cases back with
    | nil => cases same
    | cons otherTaken back =>
      have step : takeBit (register ^^^ other) (taken ^^ otherTaken) =
          takeBit register taken ^^^ takeBit other otherTaken := by
        rw [takeBit, incoming_xor, xor_exchange, shift_xor]
        rfl
      simp only [takeBits, List.zipWith_cons_cons, List.foldl_cons, step]
      exact ih _ _ (Nat.succ.inj same)

theorem takeBits_idle (register : BitVec 32) (count : Nat) :
    takeBits register (List.replicate count false) = 0#32 ↔ register = 0#32 := by
  induction count generalizing register with
  | zero => rfl
  | succ count ih =>
    have step : takeBits register (List.replicate (count + 1) false) =
        takeBits (shift register) (List.replicate count false) := by
      simp [takeBits, List.replicate_succ, takeBit, incoming]
    rw [step, ih]
    constructor
    · exact shift_eq_zero
    · rintro rfl
      rfl

theorem zipWith_idle (bits : List Bool) :
    List.zipWith (· ^^ ·) (List.replicate bits.length false) bits = bits := by
  induction bits with
  | nil => rfl
  | cons taken others ih =>
    rw [List.length_cons, List.replicate_succ, List.zipWith_cons_cons, ih, Bool.false_xor]

/-- Bits come on top of what the register makes of none. -/
theorem takeBits_split (register other : BitVec 32) (bits : List Bool) :
    takeBits (register ^^^ other) bits =
      takeBits register (List.replicate bits.length false) ^^^ takeBits other bits := by
  have apart := takeBits_xor register other (List.length_replicate (a := false) (n := bits.length))
  rwa [zipWith_idle] at apart

/-! ### Bytes -/

theorem step_eq (register : BitVec 32) (byte : UInt8) :
    step register byte = takeBits register (byteBits byte) := by
  have every : ∀ number < 256, step 0#32 (UInt8.ofNat number) =
      takeBits 0#32 (byteBits (UInt8.ofNat number)) := by decide +kernel
  have blank := every byte.toNat byte.toNat_lt
  rw [UInt8.ofNat_toNat] at blank
  have linear : step register byte =
      takeBits register (List.replicate 8 false) ^^^ step 0#32 byte := by
    simp [step, takeBits, takeBit, incoming, List.replicate, shift_xor]
  rw [linear, blank]
  have split := takeBits_split register 0#32 (byteBits byte)
  rw [BitVec.xor_zero] at split
  exact split.symm

theorem checksum_append (front back : Bytes) :
    checksum (front ++ back) = takeBits (checksum front) back.bits := by
  have every : ∀ register : BitVec 32, back.foldl step register = takeBits register back.bits := by
    induction back with
    | nil => exact fun _ => rfl
    | cons byte rest ih =>
      intro register
      rw [List.foldl_cons, ih, step_eq, Bytes.bits_cons, takeBits_append]
  rw [checksum, List.foldl_append]
  exact every _

theorem checksum_eq (data : Bytes) : checksum data = takeBits 0xFFFFFFFF#32 data.bits :=
  checksum_append [] data

/-! ### What clears the register -/

/-- The register whose first bits are these. -/
def leading (bits : List Bool) : BitVec 32 := BitVec.ofNat 32 (bitsValue bits * 2 ^ (32 - bits.length))

theorem leading_cons {taken : Bool} {others : List Bool} (short : others.length < 32) :
    leading (taken :: others) =
      BitVec.ofNat 32 (taken.toNat * 2 ^ 31 + bitsValue others * 2 ^ (31 - others.length)) := by
  have weight := Nat.pow_sub_mul_pow 2 (show others.length ≤ 31 by omega)
  rw [Nat.mul_comm] at weight
  have room : 32 - (others.length + 1) = 31 - others.length := by omega
  rw [leading, bitsValue_cons, List.length_cons, room, Nat.add_mul, Nat.mul_assoc, weight]

theorem incoming_cancels {value : Nat} (small : value < 2 ^ 31) (taken : Bool) :
    BitVec.ofNat 32 (taken.toNat * 2 ^ 31 + value) ^^^ incoming taken = BitVec.ofNat 32 value := by
  cases taken with
  | false => simp [incoming]
  | true =>
    have apart := Nat.two_pow_add_eq_or_of_lt small 1
    have raised : BitVec.ofNat 32 (2 ^ 31 * 1 + value) =
        incoming true ||| BitVec.ofNat 32 value := by
      rw [apart, BitVec.ofNat_or]
      rfl
    apply BitVec.eq_of_getLsbD_eq
    intro index _
    have high : (incoming true).getLsbD index = decide (index = 31) := by
      have every : ∀ index < 32, (incoming true).getLsbD index = decide (index = 31) := by decide
      exact every index ‹_›
    have low : value.testBit 31 = false := Nat.testBit_lt_two_pow small
    rw [Bool.toNat_true, Nat.one_mul, ← Nat.mul_one (2 ^ 31), raised, BitVec.getLsbD_xor,
      BitVec.getLsbD_or, high, BitVec.getLsbD_ofNat]
    by_cases top : index = 31
    · simp [top, low]
    · simp [top]

theorem shift_small {value : Nat} (small : value < 2 ^ 31) :
    shift (BitVec.ofNat 32 value) = BitVec.ofNat 32 (value * 2) := by
  have narrow : (BitVec.ofNat 32 value).toNat = value := by
    rw [BitVec.toNat_ofNat, Nat.mod_eq_of_lt (by omega)]
  have leading : (BitVec.ofNat 32 value).msb = false := by
    rw [BitVec.msb_eq_false_iff_two_mul_lt, narrow]
    omega
  rw [shift_eq, leading]
  apply BitVec.eq_of_toNat_eq
  simp [Nat.shiftLeft_eq, narrow]

/-- A bit that comes in upon the register it leads leaves the register of the others. -/
theorem takeBit_leading {taken : Bool} {others : List Bool} (short : others.length < 32) :
    takeBit (leading (taken :: others)) taken = leading others := by
  have small : bitsValue others * 2 ^ (31 - others.length) < 2 ^ 31 := by
    have weight := Nat.pow_sub_mul_pow 2 (show others.length ≤ 31 by omega)
    rw [Nat.mul_comm] at weight
    rw [← weight]
    exact Nat.mul_lt_mul_of_pos_right (bitsValue_lt others) (Nat.two_pow_pos _)
  have room : 32 - others.length = 31 - others.length + 1 := by omega
  rw [takeBit, leading_cons short, incoming_cancels small, shift_small small, leading, room,
    Nat.pow_succ, Nat.mul_assoc]

theorem takeBits_leading {bits : List Bool} (short : bits.length ≤ 32) :
    takeBits (leading bits) bits = 0#32 := by
  induction bits with
  | nil => rfl
  | cons taken others ih =>
    have fewer : others.length < 32 := short
    have step : takeBits (leading (taken :: others)) (taken :: others) =
        takeBits (takeBit (leading (taken :: others)) taken) others := rfl
    rw [step, takeBit_leading fewer, ih (by omega)]

/-- Up to 32 bits clear the register that they lead, and no other. -/
theorem takeBits_eq_zero_iff (register : BitVec 32) {bits : List Bool}
    (short : bits.length ≤ 32) : takeBits register bits = 0#32 ↔ register = leading bits := by
  have split := takeBits_split (register ^^^ leading bits) (leading bits) bits
  rw [BitVec.xor_assoc, BitVec.xor_self, BitVec.xor_zero, takeBits_leading short,
    BitVec.xor_zero] at split
  rw [split, takeBits_idle, BitVec.xor_eq_zero_iff]

theorem leading_eq_zero {bits : List Bool} (short : bits.length ≤ 32)
    (zero : 0#32 = leading bits) : ∀ taken ∈ bits, taken = false := by
  have weight := Nat.pow_sub_mul_pow 2 short
  rw [Nat.mul_comm] at weight
  have small : bitsValue bits * 2 ^ (32 - bits.length) < 2 ^ 32 := by
    rw [← weight]
    exact Nat.mul_lt_mul_of_pos_right (bitsValue_lt bits) (Nat.two_pow_pos _)
  have value := congrArg BitVec.toNat zero
  rw [BitVec.toNat_zero, leading, BitVec.toNat_ofNat, Nat.mod_eq_of_lt small] at value
  apply bitsValue_eq_zero
  have positive := Nat.two_pow_pos (32 - bits.length)
  exact (Nat.mul_eq_zero.mp value.symm).resolve_right (by omega)

/-! ### Sections -/

/-- A section has the right check value exactly if it clears the register. -/
theorem verify_eq_ok_iff (data : Bytes) :
    verify data = .ok () ↔ 7 ≤ data.length ∧ checksum data = 0#32 := by
  unfold verify
  by_cases short : data.length < 7
  · rw [if_pos short]
    simp [Nat.not_le_of_lt short]
  · rw [if_neg short]
    have trailing : (data.drop (data.length - 4)).length = 4 := by
      rw [List.length_drop]
      omega
    have width := Bytes.length_bits (data.drop (data.length - 4))
    rw [trailing] at width
    have value := bitsValue_lt (Bytes.bits (data.drop (data.length - 4)))
    rw [width, Bytes.bitsValue_bits] at value
    have whole := checksum_append (data.take (data.length - 4)) (data.drop (data.length - 4))
    rw [List.take_append_drop] at whole
    rw [whole, takeBits_eq_zero_iff _ (by omega), leading, width, Bytes.bitsValue_bits,
      ← BitVec.toNat_inj, BitVec.toNat_ofNat]
    simp only [Nat.sub_self, Nat.pow_zero, Nat.mul_one, Nat.mod_eq_of_lt value]
    simp only [show 7 ≤ data.length by omega, true_and]
    split <;> simp_all

/-- Where a long enough section is not accepted, its check value is wrong. -/
theorem verify_mismatch {data : Bytes} (long : 7 ≤ data.length)
    (refused : verify data ≠ .ok ()) :
    verify data = .error (.crcMismatch (checksum (data.take (data.length - 4))).toNat
      (Bytes.toNat (data.drop (data.length - 4)))) := by
  unfold verify at refused ⊢
  rw [if_neg (by omega)] at refused ⊢
  dsimp only at refused ⊢
  split
  · rename_i same
    exact absurd (if_pos same) refused
  · rfl

/-- The places at which two messages differ. -/
def errors (data other : Bytes) : List Bool := List.zipWith (· ^^ ·) data.bits other.bits

theorem takeBits_errors {data other : Bytes} (same : other.length = data.length) :
    takeBits 0#32 (errors data other) = checksum data ^^^ checksum other := by
  have lengths : data.bits.length = other.bits.length := by
    rw [Bytes.length_bits, Bytes.length_bits, same]
  have apart := takeBits_xor 0xFFFFFFFF#32 0xFFFFFFFF#32 lengths
  rwa [BitVec.xor_self, ← checksum_eq, ← checksum_eq] at apart

theorem eq_of_errors {data other : Bytes} (same : other.length = data.length)
    (none : ∀ error ∈ errors data other, error = false) : data = other := by
  have lengths : data.bits.length = other.bits.length := by
    rw [Bytes.length_bits, Bytes.length_bits, same]
  apply Bytes.bits_injective
  apply List.ext_getElem lengths
  intro place inside otherInside
  have here : place < (errors data other).length := by
    rw [errors, List.length_zipWith]
    omega
  have agree := none _ (List.getElem_mem here)
  simpa [errors] using agree

theorem eq_replicate {bits : List Bool} (none : ∀ taken ∈ bits, taken = false) :
    bits = List.replicate bits.length false := List.eq_replicate_iff.mpr ⟨rfl, none⟩

/-- Errors within 32 bits do not leave a cleared register. -/
theorem burst_remains {bits : List Bool} {start : Nat}
    (window : ∀ place, bits[place]? = some true → start ≤ place ∧ place < start + 32)
    (cleared : takeBits 0#32 bits = 0#32) : ∀ taken ∈ bits, taken = false := by
  have outside : ∀ place taken, bits[place]? = some taken → taken = true →
      start ≤ place ∧ place < start + 32 := by
    rintro place taken found rfl
    exact window place found
  have before : ∀ taken ∈ bits.take start, taken = false := by
    intro taken member
    obtain ⟨place, found⟩ := List.mem_iff_getElem?.mp member
    rw [List.getElem?_take] at found
    split at found
    · rename_i early
      apply eq_false_of_ne_true
      intro set
      have := (outside place taken found set).1
      omega
    · cases found
  have behind : ∀ taken ∈ (bits.drop start).drop 32, taken = false := by
    intro taken member
    obtain ⟨place, found⟩ := List.mem_iff_getElem?.mp member
    rw [List.getElem?_drop, List.getElem?_drop] at found
    apply eq_false_of_ne_true
    intro set
    have := (outside _ taken found set).2
    omega
  have short : ((bits.drop start).take 32).length ≤ 32 := by
    rw [List.length_take]
    omega
  have pieces : bits.take start ++ ((bits.drop start).take 32 ++ (bits.drop start).drop 32) =
      bits := by rw [List.take_append_drop, List.take_append_drop]
  rw [← pieces, takeBits_append, takeBits_append, eq_replicate before, eq_replicate behind,
    takeBits_idle] at cleared
  -- nothing came in before the window, so the window alone cleared the register
  rw [(takeBits_idle 0#32 _).mpr rfl, takeBits_eq_zero_iff _ short] at cleared
  have inside := leading_eq_zero short cleared
  intro taken member
  rw [← pieces, List.mem_append, List.mem_append] at member
  rcases member with front | middle | back
  · exact before taken front
  · exact inside taken middle
  · exact behind taken back

/-- A section that was accepted is not accepted any more once it is changed within 32 bits that
follow one another: its check value is found wrong. -/
theorem burst_rejected {data other : Bytes} {start : Nat} (accepted : verify data = .ok ())
    (same : other.length = data.length) (changed : other ≠ data)
    (window : ∀ place, data.bits[place]? ≠ other.bits[place]? →
      start ≤ place ∧ place < start + 32) :
    verify other = .error (.crcMismatch (checksum (other.take (other.length - 4))).toNat
      (Bytes.toNat (other.drop (other.length - 4)))) := by
  obtain ⟨long, cleared⟩ := (verify_eq_ok_iff data).mp accepted
  apply verify_mismatch (same ▸ long)
  intro acceptedToo
  have both := takeBits_errors same
  rw [cleared, ((verify_eq_ok_iff other).mp acceptedToo).2, BitVec.xor_self] at both
  have placed : ∀ place, (errors data other)[place]? = some true →
      start ≤ place ∧ place < start + 32 := by
    intro place set
    apply window
    intro agree
    rw [errors, List.getElem?_zipWith, agree] at set
    cases found : other.bits[place]? <;> simp [found] at set
  exact changed (eq_of_errors same (burst_remains placed both)).symm

/-- An association as it was sent. -/
def sentAssociation : Bytes :=
  [0x00, 0xB0, 0x0D, 0x00, 0x01, 0xC1, 0x00, 0x00, 0x00, 0x01, 0xE1, 0x00, 0xE8, 0xF9, 0x5E, 0x7D]

/-- The same association, its last two bytes and the first two of its check value in error. -/
def damagedAssociation : Bytes :=
  [0x00, 0xB0, 0x0D, 0x00, 0x01, 0xC1, 0x00, 0x00, 0x00, 0x01, 0x1E, 0xFF, 0x17, 0x06, 0x5E, 0x7D]

theorem burst_across_trailer_rejected :
    verify sentAssociation = .ok () ∧
      verify damagedAssociation = .error (.crcMismatch (checksum (damagedAssociation.take 12)).toNat
        0x17065E7D) := by
  have accepted : verify sentAssociation = .ok () :=
    (verify_eq_ok_iff _).mpr ⟨by decide, by decide +kernel⟩
  have every : ∀ place < 128, sentAssociation.bits[place]? ≠ damagedAssociation.bits[place]? →
      80 ≤ place ∧ place < 80 + 32 := by decide +kernel
  have window : ∀ place, sentAssociation.bits[place]? ≠ damagedAssociation.bits[place]? →
      80 ≤ place ∧ place < 80 + 32 := by
    intro place differ
    apply every place _ differ
    apply Nat.lt_of_not_le
    intro outside
    apply differ
    rw [List.getElem?_eq_none, List.getElem?_eq_none] <;>
      (rw [Bytes.length_bits]; exact outside)
  exact ⟨accepted, burst_rejected accepted rfl (by decide) window⟩

end Crc

end TransportStream
