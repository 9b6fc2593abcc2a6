/-!
The catalogue of elementary stream types a program map can list.
-/
namespace TransportStream

/-- What an elementary stream carries, by its stream_type code. -/
inductive StreamType where
  | mpeg1Video
  | mpeg2Video
  | mpeg1Audio
  | mpeg2Audio
  | privateSections
  | privatePes
  | adtsAac
  | mpeg4Video
  | latmAac
  | metadata
  | h264
  | hevc
  | vvc
  | ac3
  | dts
  | trueHd
  | eac3
  | scte35
  | unknown (code : UInt8)
  deriving DecidableEq, Repr

/-- Coarse classification of a stream type. -/
inductive MediaKind where
  | video
  | audio
  | privateData
  | metadata
  | unknown
  deriving DecidableEq, Repr

namespace StreamType

def ofCode (code : UInt8) : StreamType :=
  match code.toNat with
  | 0x01 => mpeg1Video
  | 0x02 => mpeg2Video
  | 0x03 => mpeg1Audio
  | 0x04 => mpeg2Audio
  | 0x05 => privateSections
  | 0x06 => privatePes
  | 0x0F => adtsAac
  | 0x10 => mpeg4Video
  | 0x11 => latmAac
  | 0x15 => metadata
  | 0x1B => h264
  | 0x24 => hevc
  | 0x33 => vvc
  | 0x81 => ac3
  | 0x82 => dts
  | 0x83 => trueHd
  | 0x86 => scte35
  | 0x87 => eac3
  | _ => unknown code

def code : StreamType → UInt8
  | mpeg1Video => 0x01
  | mpeg2Video => 0x02
  | mpeg1Audio => 0x03
  | mpeg2Audio => 0x04
  | privateSections => 0x05
  | privatePes => 0x06
  | adtsAac => 0x0F
  | mpeg4Video => 0x10
  | latmAac => 0x11
  | metadata => 0x15
  | h264 => 0x1B
  | hevc => 0x24
  | vvc => 0x33
  | ac3 => 0x81
  | dts => 0x82
  | trueHd => 0x83
  | scte35 => 0x86
  | eac3 => 0x87
  | unknown code => code

def kind : StreamType → MediaKind
  | mpeg1Video | mpeg2Video | mpeg4Video | h264 | hevc | vvc => .video
  | mpeg1Audio | mpeg2Audio | adtsAac | latmAac | ac3 | dts | trueHd | eac3 => .audio
  | privatePes | privateSections | scte35 => .privateData
  | metadata => .metadata
  | unknown _ => .unknown

/-- Whether the stream carries PES packets and so gets an output. -/
def isSupported : StreamType → Bool
  | privateSections | scte35 | unknown _ => false
  | _ => true

/-- The usual name of the coding. -/
def codecName : StreamType → String
  | mpeg1Video => "MPEG-1 Video"
  | mpeg2Video => "MPEG-2 Video"
  | mpeg1Audio => "MPEG-1 Audio"
  | mpeg2Audio => "MPEG-2 Audio"
  | privateSections => "Private sections"
  | privatePes => "Private PES"
  | adtsAac => "AAC (ADTS)"
  | mpeg4Video => "MPEG-4 Visual"
  | latmAac => "AAC (LATM)"
  | metadata => "Metadata"
  | h264 => "H.264/AVC"
  | hevc => "H.265/HEVC"
  | vvc => "H.266/VVC"
  | ac3 => "AC-3"
  | dts => "DTS"
  | trueHd => "TrueHD"
  | scte35 => "SCTE-35"
  | eac3 => "E-AC-3"
  | unknown _ => "Unknown"

theorem code_ofCode (code : UInt8) : (ofCode code).code = code := by
  unfold ofCode
  split <;> first | rfl | (rename_i value; exact (UInt8.toNat_inj.mp value).symm)

end StreamType

end TransportStream
