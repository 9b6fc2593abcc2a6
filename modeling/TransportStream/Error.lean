import TransportStream.Hex

/-!
What can go wrong, as causes. The wording of every cause is in `message`; whether it
ends a session is in `isFatal`.
-/
namespace TransportStream

/-- Why options are refused. -/
inductive OptionFault where
  | unsupportedPacketSize (size : Nat)
  | packetSizeNotArrivalStamped (size : Nat)
  | syncRunTooShort
  | resyncWindowTooSmall
  | pesBuffersCrossed
  | smoothingOutOfRange
  | badAddress (address : String)
  | addressNotIpv4
  | described (text : String)
  deriving DecidableEq, Repr

/-- Why bytes are not a transport packet. -/
inductive PacketFault where
  | shortHeader (length : Nat)
  | badSyncByte (byte : UInt8)
  | missingAdaptationLength
  | adaptationOverrun (length : Nat)
  | shortPcr
  | truncatedPcr
  | truncatedOpcr
  | shortPacket (length : Nat)
  | reservedControl
  | noPayloadRoom
  | described (text : String)
  deriving DecidableEq, Repr

/-- The three program tables. -/
inductive TableKind where
  | pat
  | pmt
  | cat
  deriving DecidableEq, Repr

/-- The usual abbreviation of a table. -/
def TableKind.name : TableKind → String
  | pat => "PAT"
  | pmt => "PMT"
  | cat => "CAT"

/-- Why bytes are not a section, or a section is not the table it should be. -/
inductive SectionFault where
  | noRoomForCrc
  | short
  | shortForm
  | lengthTooSmall (length : Nat)
  | lengthOverrun (length received : Nat)
  | numberBeyondLast (number last : Nat)
  | truncatedDescriptor
  | descriptorOverrun (tag : UInt8) (length : Nat)
  | wrongTable (tableId : UInt8) (expected : TableKind)
  | raggedProgramLoop
  | programOnPidZero (program : Nat)
  | shortMapBody
  | programInfoOverrun
  | truncatedStream
  | streamInfoOverrun (pid : Nat)
  | repeatedPid (pid : Nat)
  | lastNumberChanged (before after version : Nat)
  | described (text : String)
  deriving DecidableEq, Repr

/-- Why bytes are not a PES packet. -/
inductive PesFault where
  | shortTimestamp
  | clearedMarker
  | shortFixedHeader
  | badStartCode (first second third : UInt8)
  | truncatedOptionalHeader
  | badMarkerBits
  | headerOverrun
  | truncatedTimestamps
  | forbiddenTimestampFlags
  | described (text : String)
  deriving DecidableEq, Repr

/-- Every way an operation of this library can fail. -/
inductive Error where
  | noSync (scanned : Nat)
  | syncLost (skipped : Nat)
  | bufferTooSmall (size : Nat)
  | invalidOptions (fault : OptionFault)
  | seekUnavailable
  | invalidPacket (fault : PacketFault)
  | invalidSection (fault : SectionFault)
  | crcMismatch (computed carried : Nat)
  | invalidPes (fault : PesFault)
  | io (text : String)
  | malformedDocument
  deriving DecidableEq, Repr

/-- The wording of a refused option. -/
def OptionFault.message : OptionFault → String
  | unsupportedPacketSize size => s!"unsupported packet size {size}"
  | packetSizeNotArrivalStamped size => s!"m2ts_mode requires 192-byte packets, got {size}"
  | syncRunTooShort => "min_sync_run must be at least 2"
  | resyncWindowTooSmall => "max_resync_bytes is smaller than one sync lock window"
  | pesBuffersCrossed => "min_pes_buffer exceeds max_pes_buffer"
  | smoothingOutOfRange => "bitrate_smoothing must be in (0, 1]"
  | badAddress address => s!"bad UDP address {address}: invalid socket address syntax"
  | addressNotIpv4 => "only IPv4 is supported"
  | described text => text

/-- The wording of a refused packet. -/
def PacketFault.message : PacketFault → String
  | shortHeader length => s!"header needs 4 bytes, got {length}"
  | badSyncByte byte => "sync byte 0x" ++ Hex.upper 2 byte.toNat
  | missingAdaptationLength => "missing adaptation field length"
  | adaptationOverrun length => s!"adaptation field length {length} overruns packet"
  | shortPcr => "PCR needs 6 bytes"
  | truncatedPcr => "truncated PCR"
  | truncatedOpcr => "truncated OPCR"
  | shortPacket length => s!"expected 188 bytes, got {length}"
  | reservedControl => "reserved adaptation_field_control 00"
  | noPayloadRoom => "adaptation field leaves no room for payload"
  | described text => text

/-- The wording of a refused section. -/
def SectionFault.message : SectionFault → String
  | noRoomForCrc => "section too short for CRC"
  | short => "short section"
  | shortForm => "section_syntax_indicator not set"
  | lengthTooSmall length => s!"section_length {length} too small"
  | lengthOverrun length received => s!"section_length {length} exceeds {received} received bytes"
  | numberBeyondLast number last =>
    s!"section_number {number} beyond last_section_number {last}"
  | truncatedDescriptor => "truncated descriptor header"
  | descriptorOverrun tag length =>
    "descriptor 0x" ++ Hex.upper 2 tag.toNat ++ s!" length {length} overruns loop"
  | wrongTable tableId expected =>
    "table_id 0x" ++ Hex.upper 2 tableId.toNat ++ " is not a " ++ expected.name
  | raggedProgramLoop => "PAT program loop not a multiple of 4 bytes"
  | programOnPidZero program => s!"program {program} mapped to PID 0"
  | shortMapBody => "PMT body shorter than its fixed fields"
  | programInfoOverrun => "program_info_length overruns section"
  | truncatedStream => "truncated ES loop entry"
  | streamInfoOverrun pid => "ES_info_length overruns section for PID 0x" ++ Hex.upper 4 pid
  | repeatedPid pid => "PID 0x" ++ Hex.upper 4 pid ++ " listed twice"
  | lastNumberChanged before after version =>
    s!"last_section_number changed from {before} to {after} within version {version}"
  | described text => text

/-- The wording of a refused PES packet. -/
def PesFault.message : PesFault → String
  | shortTimestamp => "timestamp needs 5 bytes"
  | clearedMarker => "timestamp marker bit cleared"
  | shortFixedHeader => "shorter than the fixed header"
  | badStartCode first second third =>
    "bad start code " ++ Hex.upper 2 first.toNat ++ Hex.upper 2 second.toNat ++
      Hex.upper 2 third.toNat
  | truncatedOptionalHeader => "optional header truncated"
  | badMarkerBits => "optional header marker bits"
  | headerOverrun => "header_data_length exceeds packet"
  | truncatedTimestamps => "PTS/DTS fields truncated"
  | forbiddenTimestampFlags => "forbidden PTS_DTS_flags value 01"
  | described text => text

namespace Error

/-- The wording of a failure. -/
def message : Error → String
  | noSync scanned => s!"no transport packet synchronization within the first {scanned} bytes"
  | syncLost skipped =>
    s!"transport packet synchronization lost, {skipped} bytes skipped without re-lock"
  | bufferTooSmall size => s!"buffer of {size} bytes cannot hold a transport packet"
  | invalidOptions fault => "invalid configuration: " ++ fault.message
  | seekUnavailable => "seek target cannot be mapped to a byte offset"
  | invalidPacket fault => "invalid transport packet: " ++ fault.message
  | invalidSection fault => "invalid section: " ++ fault.message
  | crcMismatch computed carried =>
    "CRC mismatch: computed 0x" ++ Hex.upper 8 computed ++ ", carried 0x" ++ Hex.upper 8 carried
  | invalidPes fault => "invalid PES packet: " ++ fault.message
  | io text => text
  | malformedDocument => "malformed options document"

/-- Whether a failure ends the session. Damage inside the stream does not. -/
def isFatal : Error → Bool
  | noSync _ | syncLost _ | bufferTooSmall _ | invalidOptions _ | io _ => true
  | seekUnavailable | invalidPacket _ | invalidSection _ | crcMismatch _ _ | invalidPes _
  | malformedDocument => false

/-! ### Readers that succeed -/

variable {α β : Type}

theorem bind_eq_ok {first : Except Error α} {next : α → Except Error β} {result : β} :
    (first >>= next) = .ok result ↔ ∃ value, first = .ok value ∧ next value = .ok result := by
  cases first <;> simp [bind, Except.bind]

/-- What stands behind a check succeeds only where the check does not refuse. -/
theorem check_eq_ok {refused : Prop} [Decidable refused] {error : Error}
    {rest : PUnit → Except Error α} {result : α} :
    (if refused then throw error >>= rest else rest ⟨⟩) = .ok result ↔
      ¬ refused ∧ rest ⟨⟩ = .ok result := by
  split
  · rename_i refusing
    constructor
    · rintro ⟨⟩
    · rintro ⟨allowed, _⟩
      exact absurd refusing allowed
  · rename_i allowed
    exact (and_iff_right allowed).symm

end Error

end TransportStream
