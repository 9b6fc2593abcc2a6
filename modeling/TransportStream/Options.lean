import TransportStream.Error
import TransportStream.Packet.Stride

/-!
What a session can be told.
-/
namespace TransportStream

/-- Options of a session. -/
structure Options where
  /-- A stride to force instead of probing. -/
  packetSize : Option Nat := none
  /-- Force the stride of packets led by arrival stamps. -/
  stampedMode : Bool := false
  /-- The program to expose; the lowest one if none is named. -/
  program : Option Nat := none
  checkCrc : Bool := true
  /-- Keep packets whose transport error bit is set. -/
  tolerateTransportErrors : Bool := false
  /-- Consecutive packets at one stride that make a lock. -/
  minSyncRun : Nat := 5
  /-- Bytes that may pass without a lock. -/
  maxResyncBytes : Nat := 256 * 1024
  maxPesBuffer : Nat := 256 * 1024
  /-- The least room to set aside for a PES packet. -/
  minPesBuffer : Nat := 4 * 1024
  /-- Weight of a new sample in the smoothed byte rate. -/
  bitrateSmoothing : Float := 0.2
  /-- Bytes to read at once from a source. -/
  readChunkSize : Nat := 64 * 1024

namespace Options

instance : Inhabited Options := ⟨{}⟩

/-- The stride that the options force, if any. -/
def forcedStride (options : Options) : Option Nat :=
  if options.stampedMode then some stampedStride else options.packetSize

/-- Checks the forced packet size. -/
def validatePacketSize (options : Options) : Except Error Unit :=
  match options.packetSize with
  | none => .ok ()
  | some size =>
    if size ∉ strides then .error (.invalidOptions (.unsupportedPacketSize size))
    else if options.stampedMode && size != stampedStride then
      .error (.invalidOptions (.packetSizeNotArrivalStamped size))
    else .ok ()

/-- Checks options before a session starts; the first fault in this order is reported. -/
def validate (options : Options) : Except Error Unit := do
  options.validatePacketSize
  if options.minSyncRun < 2 then throw (.invalidOptions .syncRunTooShort)
  if options.maxResyncBytes < widestStride * options.minSyncRun then
    throw (.invalidOptions .resyncWindowTooSmall)
  if options.maxPesBuffer < options.minPesBuffer then throw (.invalidOptions .pesBuffersCrossed)
  if !(options.bitrateSmoothing > 0.0 && options.bitrateSmoothing <= 1.0) then
    throw (.invalidOptions .smoothingOutOfRange)
  if options.readChunkSize < widestStride then throw (.bufferTooSmall options.readChunkSize)

end Options

end TransportStream
