import TransportStream.Proofs.MapPids
import TransportStream.Proofs.SectionCoding
import TransportStream.Proofs.TableNames

/-!
Writing and reading a table are inverse. A table whose numbers fit into their fields is read from
its section as it was. A section that is read as a table is written back byte for byte, if the bits
without meaning, and what the table does not keep of it, are as they are written here.
-/
namespace TransportStream

/-- Whether the place of a section fits into its fields. -/
structure SectionPosition.Fits (position : SectionPosition) : Prop where
  version : position.version < 32
  ordered : position.number ≤ position.last
  last : position.last < 256

theorem Bytes.ofNat_two (number : Nat) :
    Bytes.ofNat 2 number = [UInt8.ofNat (number / 256), UInt8.ofNat number] := rfl

theorem Bytes.ofNat_two_read (high low : UInt8) :
    Bytes.ofNat 2 (high.toNat * 256 + low.toNat) = [high, low] := by
  have written := Bytes.ofNat_toNat [high, low]
  simp only [Bytes.toNat, List.foldl_cons, List.foldl_nil, Nat.zero_mul, Nat.zero_add] at written
  exact written

/-! ### Association tables -/

namespace Pat

/-- Whether an association table fits into one section. -/
structure WellFormed (pat : Pat) : Prop where
  position : pat.toSectionPosition.Fits
  streamId : pat.streamId < 65536
  programs : ∀ entry ∈ pat.programs, 0 < entry.program ∧ entry.program < 65536 ∧
    0 < entry.mapPid ∧ entry.mapPid < pidRange
  networkPid : ∀ pid, pat.networkPid = some pid → pid < pidRange
  length : pat.encodeBody.length + LongSection.overhead < lengthRange

theorem encodeNetwork_eq {pid : Nat} (small : pid < pidRange) :
    encodeNetwork pid =
      [0x00, 0x00, UInt8.ofNat (0xE0 + pid / 256 % 32), UInt8.ofNat pid] := by
  have joined : ∀ high < 32, 0xE0 ||| UInt8.ofNat high = UInt8.ofNat (0xE0 + high % 32) := by
    decide
  rw [encodeNetwork, joined (pid / 256) (by simp only [pidRange] at small; omega)]

theorem parsePrograms_encodeEntry {entry : PatEntry} (rest : Bytes)
    (program : 0 < entry.program ∧ entry.program < 65536)
    (mapPid : 0 < entry.mapPid ∧ entry.mapPid < pidRange) :
    parsePrograms (encodeEntry entry ++ rest) =
      (parsePrograms rest).map (fun others => (entry :: others.1, others.2)) := by
  have read : (UInt8.ofNat (entry.program / 256)).toNat * 256 +
      (UInt8.ofNat entry.program).toNat = entry.program := by
    rw [Bytes.toNat_byte, Bytes.toNat_byte]
    omega
  rw [encodeEntry, Bytes.ofNat_two]
  simp only [List.cons_append, List.nil_append, parsePrograms]
  rw [read, Descriptor.pidOf_written mapPid.2, if_neg (by omega), if_neg (by omega)]
  cases parsePrograms rest <;> rfl

/-- The program loop is read as it was. -/
theorem parsePrograms_encode {programs : List PatEntry}
    (fits : ∀ entry ∈ programs, 0 < entry.program ∧ entry.program < 65536 ∧
      0 < entry.mapPid ∧ entry.mapPid < pidRange) :
    parsePrograms (programs.flatMap encodeEntry) = .ok (programs, none) := by
  induction programs with
  | nil => rfl
  | cons entry others ih =>
    obtain ⟨⟨some, program, announced, mapPid⟩, fits⟩ := List.forall_mem_cons.mp fits
    rw [List.flatMap_cons, parsePrograms_encodeEntry _ ⟨some, program⟩ ⟨announced, mapPid⟩,
      ih fits]
    rfl

theorem parsePrograms_encodeBody {pat : Pat} (wellFormed : pat.WellFormed) :
    parsePrograms pat.encodeBody = .ok (pat.programs, pat.networkPid) := by
  have programs := parsePrograms_encode wellFormed.programs
  rw [encodeBody]
  cases network : pat.networkPid with
  | none => exact programs
  | some pid =>
    have small := wellFormed.networkPid pid network
    dsimp only
    rw [encodeNetwork_eq small]
    simp only [List.cons_append, List.nil_append, parsePrograms]
    rw [Descriptor.pidOf_written small, if_pos (by decide), programs]
    rfl

theorem length_encodeBody (pat : Pat) : pat.encodeBody.length % 4 = 0 := by
  have programs : (pat.programs.flatMap encodeEntry).length % 4 = 0 := by
    induction pat.programs with
    | nil => rfl
    | cons entry others ih =>
      rw [List.flatMap_cons, List.length_append]
      simp only [encodeEntry, List.length_append, Bytes.length_ofNat, List.length_cons,
        List.length_nil]
      omega
  rw [encodeBody, List.length_append]
  cases pat.networkPid with
  | none => simpa using programs
  | some pid =>
    simp only [encodeNetwork, List.length_cons, List.length_nil]
    omega

/-- An association table as a section in long form. -/
def asSection (pat : Pat) : LongSection :=
  { pat.toSectionPosition with
    tableId, extension := pat.streamId, body := pat.encodeBody }

theorem fits_asSection {pat : Pat} (wellFormed : pat.WellFormed) : pat.asSection.Fits where
  version := wellFormed.position.version
  ordered := wellFormed.position.ordered
  last := wellFormed.position.last
  extension := wellFormed.streamId
  length := wellFormed.length

/-- An association table that fits is read as it was. -/
theorem parse_encode {pat : Pat} (wellFormed : pat.WellFormed) : parse pat.encode = .ok pat := by
  rw [parse, show pat.encode = pat.asSection.encode from rfl,
    LongSection.parse_encode (fits_asSection wellFormed)]
  simp only [asSection, bind, Except.bind, ne_eq, not_true_eq_false, if_false,
    length_encodeBody, parsePrograms_encodeBody wellFormed]
  rfl

/-- Whether the bits without meaning are set in every entry of a program loop, and none is about
the network. -/
def ProgramsMarked : Bytes → Prop
  | a :: b :: c :: _ :: rest =>
    a.toNat * 256 + b.toNat ≠ 0 ∧ c.toNat / 32 = 7 ∧ ProgramsMarked rest
  | _ => True

/-- Whether the bits without meaning are set in the body, and only its first entry may be about
the network. -/
def BodyMarked : Bytes → Prop
  | _ :: _ :: c :: _ :: rest => c.toNat / 32 = 7 ∧ ProgramsMarked rest
  | _ => True

theorem programsMarked_encode {programs : List PatEntry}
    (numbered : ∀ entry ∈ programs, 0 < entry.program ∧ entry.program < 65536) :
    ProgramsMarked (programs.flatMap encodeEntry) := by
  induction programs with
  | nil => trivial
  | cons entry others ih =>
    obtain ⟨numbered, others⟩ := List.forall_mem_cons.mp numbered
    rw [List.flatMap_cons, encodeEntry, Bytes.ofNat_two]
    simp only [List.cons_append, List.nil_append, ProgramsMarked, Bytes.toNat_byte]
    exact ⟨by omega, by omega, ih others⟩

/-- A body that is written has the marks it is read by. -/
theorem bodyMarked_encode {pat : Pat} (wellFormed : pat.WellFormed) :
    BodyMarked pat.encodeBody := by
  have numbered := programsMarked_encode
    (fun entry listed => ⟨(wellFormed.programs entry listed).1,
      (wellFormed.programs entry listed).2.1⟩)
  rw [encodeBody]
  cases network : pat.networkPid with
  | some pid =>
    dsimp only
    rw [encodeNetwork_eq (wellFormed.networkPid pid network)]
    exact ⟨by rw [Bytes.toNat_byte]; omega, numbered⟩
  | none =>
    dsimp only
    rw [List.nil_append]
    generalize pat.programs.flatMap encodeEntry = data at numbered
    match data, numbered with
    | [], _ | [_], _ | [_, _], _ | [_, _, _], _ => trivial
    | a :: b :: c :: d :: rest, numbered => exact numbered.2

/-- An entry is written back as it was. -/
theorem encodeEntry_of_read {a b c d : UInt8} (marked : c.toNat / 32 = 7) :
    encodeEntry ⟨a.toNat * 256 + b.toNat, Descriptor.pidOf c d⟩ = [a, b, c, d] := by
  obtain ⟨high, low⟩ := Descriptor.written_of_pidOf d marked
  rw [encodeEntry, Bytes.ofNat_two_read, high, low]
  rfl

/-- A program loop without the network is written back as it was. -/
theorem encode_of_parsePrograms {data : Bytes} {programs : List PatEntry} {network : Option Nat}
    (parsed : parsePrograms data = .ok (programs, network)) (marked : ProgramsMarked data)
    (whole : data.length % 4 = 0) :
    programs.flatMap encodeEntry = data ∧ network = none := by
  match data, whole with
  | [], _ =>
    cases parsed
    exact ⟨rfl, rfl⟩
  | [_], whole | [_, _], whole | [_, _, _], whole => cases whole
  | a :: b :: c :: d :: rest, whole =>
    obtain ⟨numbered, high, others⟩ := marked
    have quarters : rest.length % 4 = 0 := by
      simp only [List.length_cons] at whole
      omega
    rw [parsePrograms] at parsed
    dsimp only at parsed
    rw [if_neg numbered] at parsed
    split at parsed
    · cases parsed
    obtain ⟨⟨otherPrograms, otherNetwork⟩, read, same⟩ := Error.bind_eq_ok.mp parsed
    cases same
    obtain ⟨written, none⟩ := encode_of_parsePrograms read others quarters
    rw [List.flatMap_cons, encodeEntry_of_read high, written]
    exact ⟨rfl, none⟩

theorem encodeNetwork_of_read {c d : UInt8} (marked : c.toNat / 32 = 7) :
    encodeNetwork (Descriptor.pidOf c d) = [0x00, 0x00, c, d] := by
  have small : Descriptor.pidOf c d < pidRange := by
    have := d.toNat_lt
    rw [Descriptor.pidOf, pidRange]
    omega
  obtain ⟨high, low⟩ := Descriptor.written_of_pidOf d marked
  rw [encodeNetwork_eq small, high, low]

/-- A body whose first entry alone may be about the network is written back as it was. -/
theorem encodeBody_of_parsePrograms {pat : Pat} {data : Bytes}
    (parsed : parsePrograms data = .ok (pat.programs, pat.networkPid)) (marked : BodyMarked data)
    (whole : data.length % 4 = 0) : pat.encodeBody = data := by
  obtain ⟨position, streamId, programs, network⟩ := pat
  rw [encodeBody]
  dsimp only at parsed ⊢
  match data, whole with
  | [], _ =>
    cases parsed
    rfl
  | [_], whole | [_, _], whole | [_, _, _], whole => cases whole
  | a :: b :: c :: d :: rest, whole =>
    obtain ⟨high, others⟩ := marked
    have quarters : rest.length % 4 = 0 := by
      simp only [List.length_cons] at whole
      omega
    by_cases zero : a.toNat * 256 + b.toNat = 0
    · rw [parsePrograms] at parsed
      dsimp only at parsed
      rw [if_pos zero] at parsed
      obtain ⟨⟨otherPrograms, otherNetwork⟩, read, same⟩ := Error.bind_eq_ok.mp parsed
      obtain ⟨written, none⟩ := encode_of_parsePrograms read others quarters
      cases same
      have first : a = 0 := UInt8.toNat_inj.mp (by rw [UInt8.toNat_zero]; omega)
      have second : b = 0 := UInt8.toNat_inj.mp (by rw [UInt8.toNat_zero]; omega)
      rw [none, written, first, second, Option.none_or]
      dsimp only
      rw [encodeNetwork_of_read high]
      rfl
    · obtain ⟨written, none⟩ := encode_of_parsePrograms parsed ⟨zero, high, others⟩ whole
      rw [none, written]
      rfl

/-- An association table is written back as the section it was read from. -/
theorem encode_of_parse {pat : Pat} {data : Bytes} (parsed : parse data = .ok pat)
    (exact : LongSection.IsExact data) (marked : LongSection.Marked data)
    (body : ∀ header, LongSection.parse data = .ok header → BodyMarked header.body)
    (checked : Crc.verify data = .ok ()) : pat.encode = data := by
  simp only [parse, Error.bind_eq_ok, Error.check_eq_ok] at parsed
  obtain ⟨header, headed, known, whole, ⟨programs, network⟩, read, same⟩ := parsed
  have written := LongSection.encode_of_parse headed exact marked checked
  have marks := body header headed
  obtain ⟨position, tableId, extension, content⟩ := header
  obtain rfl : tableId = Pat.tableId := Decidable.not_not.mp known
  cases same
  have loop : encodeBody ⟨position, extension, programs, network⟩ = content :=
    encodeBody_of_parsePrograms read marks (Decidable.not_not.mp whole)
  rw [← written, encode, loop]

end Pat

/-! ### Conditional access tables -/

namespace Cat

/-- Whether a conditional access table fits into one section. -/
structure WellFormed (cat : Cat) : Prop where
  position : cat.toSectionPosition.Fits
  descriptors : ∀ descriptor ∈ cat.descriptors, descriptor.data.length ≤ 255
  length : (Descriptor.encodeLoop cat.descriptors).length + LongSection.overhead < lengthRange

/-- A conditional access table as a section in long form. -/
def asSection (cat : Cat) : LongSection :=
  { cat.toSectionPosition with
    tableId, extension := 0xFFFF, body := Descriptor.encodeLoop cat.descriptors }

theorem fits_asSection {cat : Cat} (wellFormed : cat.WellFormed) : cat.asSection.Fits where
  version := wellFormed.position.version
  ordered := wellFormed.position.ordered
  last := wellFormed.position.last
  extension := (by decide : 0xFFFF < 65536)
  length := wellFormed.length

/-- A conditional access table that fits is read as it was. -/
theorem parse_encode {cat : Cat} (wellFormed : cat.WellFormed) : parse cat.encode = .ok cat := by
  rw [parse, show cat.encode = cat.asSection.encode from rfl,
    LongSection.parse_encode (fits_asSection wellFormed)]
  simp only [asSection, bind, Except.bind, ne_eq, not_true_eq_false, if_false,
    Descriptor.parseLoop_encodeLoop wellFormed.descriptors]
  rfl

/-- A conditional access table is written back as the section it was read from. -/
theorem encode_of_parse {cat : Cat} {data : Bytes} (parsed : parse data = .ok cat)
    (exact : LongSection.IsExact data) (marked : LongSection.Marked data)
    (body : ∀ header, LongSection.parse data = .ok header → header.extension = 0xFFFF)
    (checked : Crc.verify data = .ok ()) : cat.encode = data := by
  simp only [parse, Error.bind_eq_ok, Error.check_eq_ok] at parsed
  obtain ⟨header, headed, known, descriptors, read, same⟩ := parsed
  have written := LongSection.encode_of_parse headed exact marked checked
  have marks := body header headed
  obtain ⟨position, tableId, extension, content⟩ := header
  obtain rfl : tableId = Cat.tableId := Decidable.not_not.mp known
  obtain rfl : extension = 0xFFFF := marks
  cases same
  rw [← written, encode, Descriptor.encodeLoop_of_parseLoop read]

end Cat

/-! ### Program maps -/

namespace Pmt

/-- Whether a program map fits into one section. -/
structure WellFormed (pmt : Pmt) : Prop where
  position : pmt.toSectionPosition.Fits
  program : pmt.program < 65536
  pcrPid : pmt.pcrPid < pidRange
  descriptors : Descriptor.LoopFits pmt.descriptors
  streams : ∀ stream ∈ pmt.streams,
    stream.pid < pidRange ∧ Descriptor.LoopFits stream.descriptors
  distinct : pmt.pids.Nodup
  length : pmt.encodeBody.length + LongSection.overhead < lengthRange

/-- The four bytes before a descriptor loop are read as they were written. -/
theorem encodeLoop_eq {pid : Nat} {descriptors : List Descriptor} (small : pid < pidRange)
    (fits : Descriptor.LoopFits descriptors) :
    ∃ high low lengthHigh lengthLow,
      encodeLoop pid descriptors =
        high :: low :: lengthHigh :: lengthLow :: Descriptor.encodeLoop descriptors ∧
      Descriptor.pidOf high low = pid ∧
      LongSection.declaredLength lengthHigh lengthLow =
        (Descriptor.encodeLoop descriptors).length :=
  ⟨_, _, _, _, rfl, Descriptor.pidOf_written small,
    LongSection.declaredLength_written fits.whole 0xF0 rfl⟩

theorem parseStreams_encodeStream {stream : PmtStream} {seen : List Nat} (rest : Bytes)
    (small : stream.pid < pidRange) (fits : Descriptor.LoopFits stream.descriptors)
    (new : stream.pid ∉ seen) :
    parseStreams seen (encodeStream stream ++ rest) =
      (parseStreams (stream.pid :: seen) rest).map (stream :: ·) := by
  obtain ⟨high, low, lengthHigh, lengthLow, written, pid, length⟩ := encodeLoop_eq small fits
  rw [encodeStream, written]
  simp only [List.cons_append]
  rw [parseStreams, pid, length, if_neg (by rw [List.length_append]; omega), if_neg new,
    List.take_left, List.drop_left, Descriptor.parseLoop_encodeLoop fits.each]
  cases parseStreams (stream.pid :: seen) rest <;> rfl

/-- The stream loop is read as it was, if no stream of it was seen before. -/
theorem parseStreams_encode {streams : List PmtStream} {seen : List Nat}
    (fits : ∀ stream ∈ streams, stream.pid < pidRange ∧ Descriptor.LoopFits stream.descriptors)
    (distinct : (streams.map (·.pid)).Nodup) (new : ∀ stream ∈ streams, stream.pid ∉ seen) :
    parseStreams seen (streams.flatMap encodeStream) = .ok streams := by
  induction streams generalizing seen with
  | nil => rw [List.flatMap_nil, parseStreams]
  | cons stream others ih =>
    obtain ⟨⟨small, loop⟩, fits⟩ := List.forall_mem_cons.mp fits
    obtain ⟨unseen, new⟩ := List.forall_mem_cons.mp new
    obtain ⟨apart, distinct⟩ := List.nodup_cons.mp distinct
    have stillNew : ∀ other ∈ others, other.pid ∉ stream.pid :: seen := by
      intro other listed
      rw [List.mem_cons, not_or]
      refine ⟨fun same => apart ?_, new other listed⟩
      exact List.mem_map.mpr ⟨other, listed, same⟩
    rw [List.flatMap_cons, parseStreams_encodeStream _ small loop unseen,
      ih fits distinct stillNew]
    rfl

/-- A program map as a section in long form. -/
def asSection (pmt : Pmt) : LongSection :=
  { pmt.toSectionPosition with
    tableId, extension := pmt.program, body := pmt.encodeBody }

theorem fits_asSection {pmt : Pmt} (wellFormed : pmt.WellFormed) : pmt.asSection.Fits where
  version := wellFormed.position.version
  ordered := wellFormed.position.ordered
  last := wellFormed.position.last
  extension := wellFormed.program
  length := wellFormed.length

/-- A program map that fits is read as it was. -/
theorem parse_encode {pmt : Pmt} (wellFormed : pmt.WellFormed) : parse pmt.encode = .ok pmt := by
  obtain ⟨high, low, lengthHigh, lengthLow, written, pid, length⟩ :=
    encodeLoop_eq wellFormed.pcrPid wellFormed.descriptors
  have streams : parseStreams [] (pmt.streams.flatMap encodeStream) = .ok pmt.streams :=
    parseStreams_encode wellFormed.streams wellFormed.distinct
      (fun stream _ => List.not_mem_nil)
  have body : parseBody (Descriptor.encodeLoop pmt.descriptors).length
      (Descriptor.encodeLoop pmt.descriptors ++ pmt.streams.flatMap encodeStream) =
      .ok (pmt.descriptors, pmt.streams) := by
    rw [parseBody, if_neg (by rw [List.length_append]; omega), List.take_left, List.drop_left,
      Descriptor.parseLoop_encodeLoop wellFormed.descriptors.each, streams]
    rfl
  rw [parse, show pmt.encode = pmt.asSection.encode from rfl,
    LongSection.parse_encode (fits_asSection wellFormed)]
  simp only [asSection, encodeBody, written, List.cons_append, bind, Except.bind, ne_eq,
    not_true_eq_false, if_false, pid, length, body]
  rfl

/-- Whether the bits without meaning are set in every entry of a stream loop. -/
def StreamsMarked : Bytes → Prop
  | _ :: high :: _ :: lengthHigh :: lengthLow :: rest =>
    high.toNat / 32 = 7 ∧ lengthHigh.toNat / 16 = 0xF ∧
      StreamsMarked (rest.drop (LongSection.declaredLength lengthHigh lengthLow))
  | _ => True
termination_by data => data.length
decreasing_by simp only [List.length_drop, List.length_cons]; omega

/-- Whether the bits without meaning are set in the body of a map. -/
def BodyMarked : Bytes → Prop
  | high :: _ :: lengthHigh :: lengthLow :: rest =>
    high.toNat / 32 = 7 ∧ lengthHigh.toNat / 16 = 0xF ∧
      StreamsMarked (rest.drop (LongSection.declaredLength lengthHigh lengthLow))
  | _ => True

theorem streamsMarked_encode {streams : List PmtStream}
    (fits : ∀ stream ∈ streams, stream.pid < pidRange ∧ Descriptor.LoopFits stream.descriptors) :
    StreamsMarked (streams.flatMap encodeStream) := by
  induction streams with
  | nil =>
    rw [List.flatMap_nil, StreamsMarked]
    · trivial
    · intros
      contradiction
  | cons stream others ih =>
    obtain ⟨⟨_, loop⟩, others⟩ := List.forall_mem_cons.mp fits
    have length := LongSection.declaredLength_written loop.whole 0xF0 rfl
    rw [List.flatMap_cons, encodeStream, encodeLoop]
    simp only [List.cons_append, List.nil_append, StreamsMarked, length, List.drop_left,
      Bytes.toNat_byte]
    exact ⟨by omega, by omega, ih others⟩

/-- A body that is written has the marks it is read by. -/
theorem bodyMarked_encode {pmt : Pmt} (wellFormed : pmt.WellFormed) :
    BodyMarked pmt.encodeBody := by
  have length := LongSection.declaredLength_written wellFormed.descriptors.whole 0xF0 rfl
  rw [encodeBody, encodeLoop]
  simp only [List.cons_append, List.nil_append, BodyMarked, length, List.drop_left,
    Bytes.toNat_byte]
  exact ⟨by omega, by omega, streamsMarked_encode wellFormed.streams⟩

/-- A PID and the descriptor loop behind it are written back as they were. -/
theorem encodeLoop_of_read {high low lengthHigh lengthLow : UInt8} {rest : Bytes}
    {descriptors : List Descriptor} (pidMarked : high.toNat / 32 = 7)
    (lengthMarked : lengthHigh.toNat / 16 = 0xF)
    (room : LongSection.declaredLength lengthHigh lengthLow ≤ rest.length)
    (read : Descriptor.parseLoop
      (rest.take (LongSection.declaredLength lengthHigh lengthLow)) = .ok descriptors) :
    encodeLoop (Descriptor.pidOf high low) descriptors =
      high :: low :: lengthHigh :: lengthLow ::
        rest.take (LongSection.declaredLength lengthHigh lengthLow) := by
  obtain ⟨highRead, lowRead⟩ := Descriptor.written_of_pidOf low pidMarked
  obtain ⟨lengthHighRead, lengthLowRead⟩ :=
    LongSection.written_of_declaredLength lengthLow 0xF0 rfl (by rw [lengthMarked])
  rw [encodeLoop, Descriptor.encodeLoop_of_parseLoop read]
  simp only [List.length_take, Nat.min_eq_left room, highRead, lowRead, lengthHighRead,
    lengthLowRead]
  rfl

/-- A stream loop is written back as it was. -/
theorem encode_of_parseStreams {seen : List Nat} {data : Bytes} {streams : List PmtStream}
    (parsed : parseStreams seen data = .ok streams) (marked : StreamsMarked data) :
    streams.flatMap encodeStream = data := by
  fun_induction parseStreams seen data generalizing streams with
  | case1 =>
    cases parsed
    rfl
  | case2 | case3 => cases parsed
  | case4 seen streamType high low lengthHigh lengthLow rest pid length room unseen =>
    rename_i ih
    obtain ⟨descriptors, loop, parsed⟩ := Error.bind_eq_ok.mp parsed
    obtain ⟨others, read, same⟩ := Error.bind_eq_ok.mp parsed
    cases same
    rw [StreamsMarked] at marked
    obtain ⟨pidMarked, lengthMarked, marked⟩ := marked
    rw [List.flatMap_cons, ih read marked, encodeStream,
      encodeLoop_of_read pidMarked lengthMarked (Nat.le_of_not_lt room) loop]
    simp only [List.cons_append, length, List.take_append_drop]
  | case5 => cases parsed

/-- The body of a map is written back as it was. -/
theorem encodeBody_of_parseBody {pmt : Pmt} {high low lengthHigh lengthLow : UInt8} {rest : Bytes}
    (parsed : parseBody (LongSection.declaredLength lengthHigh lengthLow) rest =
      .ok (pmt.descriptors, pmt.streams))
    (clock : pmt.pcrPid = Descriptor.pidOf high low)
    (marked : BodyMarked (high :: low :: lengthHigh :: lengthLow :: rest)) :
    pmt.encodeBody = high :: low :: lengthHigh :: lengthLow :: rest := by
  obtain ⟨pidMarked, lengthMarked, marked⟩ := marked
  rw [parseBody] at parsed
  split at parsed
  · cases parsed
  · rename_i room
    obtain ⟨descriptors, loop, parsed⟩ := Error.bind_eq_ok.mp parsed
    obtain ⟨streams, read, same⟩ := Error.bind_eq_ok.mp parsed
    obtain ⟨sameDescriptors, sameStreams⟩ := Prod.mk.inj (Except.ok.inj same)
    rw [encodeBody, clock, ← sameDescriptors, ← sameStreams, encode_of_parseStreams read marked,
      encodeLoop_of_read pidMarked lengthMarked (Nat.le_of_not_lt room) loop]
    simp only [List.cons_append, List.take_append_drop]

/-- A program map is written back as the section it was read from. -/
theorem encode_of_parse {pmt : Pmt} {data : Bytes} (parsed : parse data = .ok pmt)
    (exact : LongSection.IsExact data) (marked : LongSection.Marked data)
    (body : ∀ header, LongSection.parse data = .ok header → BodyMarked header.body)
    (checked : Crc.verify data = .ok ()) : pmt.encode = data := by
  simp only [parse, Error.bind_eq_ok, Error.check_eq_ok] at parsed
  obtain ⟨header, headed, known, parsed⟩ := parsed
  have written := LongSection.encode_of_parse headed exact marked checked
  have marks := body header headed
  obtain ⟨position, tableId, extension, content⟩ := header
  obtain rfl : tableId = Pmt.tableId := Decidable.not_not.mp known
  dsimp only at parsed marks
  split at parsed
  · obtain ⟨⟨descriptors, streams⟩, read, same⟩ := Error.bind_eq_ok.mp parsed
    cases same
    rw [← written, encode, encodeBody_of_parseBody read rfl marks]
  · cases parsed

end Pmt

/-! ### Every kind of table -/

namespace TableName

/-- The table as one section. -/
def encode : (name : TableName) → name.Content → Bytes
  | .pat, table => Pat.encode table
  | .cat, table => Cat.encode table
  | .pmt _ _, table => Pmt.encode table

/-- Whether a table fits into one section. -/
def WellFormed : (name : TableName) → name.Content → Prop
  | .pat, table => Pat.WellFormed table
  | .cat, table => Cat.WellFormed table
  | .pmt _ _, table => Pmt.WellFormed table

/-- Whether what the table does not keep of its section is as it is written here. -/
def BodyMarked : TableName → LongSection → Prop
  | .pat, part => Pat.BodyMarked part.body
  | .cat, part => part.extension = 0xFFFF
  | .pmt _ _, part => Pmt.BodyMarked part.body

/-- Whether a section is as it is written here, whatever its table says: it ends where its length
says, carries its check value, and has every bit without meaning set the one way. -/
structure Canonical (name : TableName) (data : Bytes) : Prop where
  exact : LongSection.IsExact data
  checked : Crc.verify data = .ok ()
  marked : LongSection.Marked data
  body : ∀ header, LongSection.parse data = .ok header → name.BodyMarked header

/-- A table that fits is written as a section of the one form. -/
theorem canonical_encode {name : TableName} {table : name.Content}
    (wellFormed : name.WellFormed table) : name.Canonical (name.encode table) := by
  have written (part : LongSection) (fits : part.Fits) (body : name.BodyMarked part) :
      name.Canonical part.encode := {
    exact := LongSection.isExact_encode fits
    checked := LongSection.verify_encode part
    marked := LongSection.marked_encode part
    body := by
      intro header parsed
      rw [LongSection.parse_encode fits] at parsed
      cases parsed
      exact body }
  cases name with
  | pat =>
    exact written (Pat.asSection table) (Pat.fits_asSection wellFormed)
      (Pat.bodyMarked_encode wellFormed)
  | cat => exact written (Cat.asSection table) (Cat.fits_asSection wellFormed) rfl
  | pmt _ _ =>
    exact written (Pmt.asSection table) (Pmt.fits_asSection wellFormed)
      (Pmt.bodyMarked_encode wellFormed)

theorem parse_encode {name : TableName} {table : name.Content}
    (wellFormed : name.WellFormed table) : name.parse (name.encode table) = .ok table := by
  cases name with
  | pat => exact Pat.parse_encode wellFormed
  | cat => exact Cat.parse_encode wellFormed
  | pmt _ _ => exact Pmt.parse_encode wellFormed

theorem encode_of_parse {name : TableName} {table : name.Content} {data : Bytes}
    (parsed : name.parse data = .ok table) (canonical : name.Canonical data) :
    name.encode table = data := by
  obtain ⟨exact, checked, marked, body⟩ := canonical
  cases name with
  | pat => exact Pat.encode_of_parse parsed exact marked body checked
  | cat => exact Cat.encode_of_parse parsed exact marked body checked
  | pmt _ _ => exact Pmt.encode_of_parse parsed exact marked body checked

/-- Writing and reading are inverse: a table that fits passes its check and is read as it was, and
a section of the one form is written back byte for byte. -/
theorem coding_inverse (name : TableName) :
    (∀ table, name.WellFormed table →
      Crc.verify (name.encode table) = .ok () ∧ name.parse (name.encode table) = .ok table) ∧
    ∀ data table, name.parse data = .ok table → name.Canonical data →
      name.encode table = data :=
  ⟨fun _ wellFormed => ⟨(canonical_encode wellFormed).checked, parse_encode wellFormed⟩,
    fun _ _ parsed canonical => encode_of_parse parsed canonical⟩

/-- A map with its clock on the first of two streams, and descriptors in both loops. -/
def describedMap : Pmt where
  version := 3
  currentNext := true
  number := 0
  last := 0
  program := 1
  pcrPid := 0x101
  descriptors := [⟨0x09, [0x0B, 0x00, 0xE1, 0x23]⟩]
  streams := [⟨0x1B, 0x101, []⟩, ⟨0x0F, 0x102, [⟨0x0A, [0x65, 0x6E, 0x67, 0x00]⟩]⟩]

/-- The section of that map. -/
def describedSection : Bytes :=
  [0x02, 0xB0, 0x23, 0x00, 0x01, 0xC7, 0x00, 0x00, 0xE1, 0x01, 0xF0, 0x06, 0x09, 0x04, 0x0B, 0x00,
    0xE1, 0x23, 0x1B, 0xE1, 0x01, 0xF0, 0x00, 0x0F, 0xE1, 0x02, 0xF0, 0x06, 0x0A, 0x04, 0x65, 0x6E,
    0x67, 0x00, 0x16, 0xC2, 0x05, 0xC4]

theorem describedMap_wellFormed : describedMap.WellFormed where
  position := ⟨by decide, by decide, by decide⟩
  program := by decide
  pcrPid := by decide
  descriptors := ⟨by decide, by decide⟩
  streams := by
    have each : ∀ stream ∈ describedMap.streams, stream.pid < pidRange ∧
      (∀ descriptor ∈ stream.descriptors, descriptor.data.length ≤ 255) ∧
      (Descriptor.encodeLoop stream.descriptors).length < lengthRange := by decide
    intro stream listed
    obtain ⟨small, data, whole⟩ := each stream listed
    exact ⟨small, data, whole⟩
  distinct := by decide
  length := by decide

theorem describedSection_canonical (mapPid program : Nat) :
    (TableName.pmt mapPid program).Canonical describedSection where
  exact := rfl
  checked := by cbv
  marked := ⟨by decide, by decide⟩
  body := by
    have read : LongSection.parse describedSection = .ok describedMap.asSection := by cbv
    intro header parsed
    rw [read] at parsed
    cases parsed
    refine ⟨by decide, by decide, ?_⟩
    simp [Pmt.StreamsMarked, LongSection.declaredLength, describedMap, Pmt.encodeStream,
      Pmt.encodeLoop, Descriptor.encodeLoop, Descriptor.encode]

theorem describedMap_coded :
    (TableName.pmt 0x100 1).WellFormed describedMap ∧
    (TableName.pmt 0x100 1).Canonical describedSection ∧
    Pmt.parse describedSection = .ok describedMap ∧
    Crc.verify describedMap.encode = .ok () ∧ Pmt.parse describedMap.encode = .ok describedMap ∧
    describedMap.encode = describedSection := by
  have parsed : Pmt.parse describedSection = .ok describedMap := by cbv
  have inverse := coding_inverse (.pmt 0x100 1)
  obtain ⟨checked, read⟩ := inverse.1 describedMap describedMap_wellFormed
  have canonical := describedSection_canonical 0x100 1
  exact ⟨describedMap_wellFormed, canonical, parsed, checked, read,
    inverse.2 describedSection describedMap parsed canonical⟩

end TableName

end TransportStream
