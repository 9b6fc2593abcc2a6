import TransportStream.Bytes
import TransportStream.Error

/-!
The 32-bit cyclic redundancy check of sections: generator `0x04C11DB7`, all ones at the
start, most significant bit first, nothing added at the end.
-/
namespace TransportStream.Crc

/-- The generator polynomial, its leading term left out. -/
def generator : BitVec 32 := 0x04C11DB7#32

/-- One step of the shift register. -/
def shift (register : BitVec 32) : BitVec 32 :=
  if register.msb then (register <<< 1) ^^^ generator else register <<< 1

/-- Takes in one byte. -/
def step (register : BitVec 32) (byte : UInt8) : BitVec 32 :=
  let mixed := register ^^^ (byte.toBitVec.setWidth 32 <<< 24)
  shift (shift (shift (shift (shift (shift (shift (shift mixed)))))))

/-- The check value of a byte string. -/
def checksum (data : Bytes) : BitVec 32 := data.foldl step 0xFFFFFFFF#32

/-- Checks the four bytes at the end of a section against all bytes before them. -/
def verify (data : Bytes) : Except Error Unit :=
  if data.length < 7 then .error (.invalidSection .noRoomForCrc)
  else
    let split := data.length - 4
    let computed := (checksum (data.take split)).toNat
    let carried := Bytes.toNat (data.drop split)
    if computed = carried then .ok () else .error (.crcMismatch computed carried)

end TransportStream.Crc
