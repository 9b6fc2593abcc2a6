import TransportStream.Section.Crc

/-!
Sections in long form: a header that places the section in its table, a body, and a
check value.
-/
namespace TransportStream

/-- Where a section stands in its table: the version it belongs to, whether that version
applies now, its number and the last number of the version. -/
structure SectionPosition where
  version : Nat
  currentNext : Bool
  number : Nat
  last : Nat
  deriving DecidableEq, Repr

/-- A section in long form, without its check value. -/
structure LongSection extends SectionPosition where
  tableId : UInt8
  extension : Nat
  body : Bytes
  deriving DecidableEq, Repr

namespace LongSection

/-- Bytes of the header before the length counts. -/
def headerSize : Nat := 3

/-- Bytes counted by the length that are not body: five of header, four of check value. -/
def overhead : Nat := 9

/-- The greatest length a section may declare. -/
def lengthLimit : Nat := 4093

/-- The length declared by a section's second and third byte. -/
def declaredLength (second third : UInt8) : Nat := second.toNat % 16 * 256 + third.toNat

/-- The length this section declares: what follows its first three bytes. -/
def length (part : LongSection) : Nat := part.body.length + overhead

/-- Reads a complete section. The check value is skipped, not checked. -/
def parse : Bytes → Except Error LongSection
  | tableId :: second :: third :: high :: low :: versionByte :: number :: last ::
      a :: b :: c :: d :: rest =>
    let content := a :: b :: c :: d :: rest
    let length := declaredLength second third
    if !bit second 7 then .error (.invalidSection .shortForm)
    else if length < overhead then .error (.invalidSection (.lengthTooSmall length))
    else if content.length + 5 < length then
      .error (.invalidSection (.lengthOverrun length (content.length + 5)))
    else if last.toNat < number.toNat then
      .error (.invalidSection (.numberBeyondLast number.toNat last.toNat))
    else .ok {
      tableId
      extension := high.toNat * 256 + low.toNat
      version := versionByte.toNat / 2 % 32
      currentNext := bit versionByte 0
      number := number.toNat
      last := last.toNat
      body := content.take (length - overhead) }
  | _ => .error (.invalidSection .short)

/-- The section up to its check value. -/
def encodeChecked (part : LongSection) : Bytes :=
  part.tableId ::
  UInt8.ofNat (0xB0 + part.length / 256 % 16) ::
  UInt8.ofNat part.length ::
  UInt8.ofNat (part.extension / 256) ::
  UInt8.ofNat part.extension ::
  UInt8.ofNat (0xC0 + part.version % 32 * 2 + part.currentNext.toNat) ::
  UInt8.ofNat part.number ::
  UInt8.ofNat part.last ::
  part.body

/-- The section with its check value. -/
def encode (part : LongSection) : Bytes :=
  part.encodeChecked ++ Bytes.ofNat 4 (Crc.checksum part.encodeChecked).toNat

end LongSection

end TransportStream
