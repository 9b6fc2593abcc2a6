import TransportStream.Error
import TransportStream.Hex

/-!
Addresses on which datagrams are received: four decimal octets, or eight hexadecimal groups
in brackets, and the number of a socket. Each reader takes the characters from where it
starts and returns what it read and the characters after it.
-/
namespace TransportStream

/-- An address and the number of a socket on it. -/
inductive Endpoint where
  | ipv4 (octets : List Nat) (socket : Nat)
  | ipv6 (groups : List Nat) (scope socket : Nat)
  deriving DecidableEq, Repr

namespace Endpoint

/-- How a number is written: its radix, its greatest value, how many digits it may have,
and whether zeros may stand in front. -/
structure NumberForm where
  radix : Nat
  limit : Nat
  digits : Option Nat := none
  padded : Bool := true

def octetForm : NumberForm := { radix := 10, limit := 255, digits := some 3, padded := false }

def groupForm : NumberForm := { radix := 16, limit := 0xFFFF, digits := some 4 }

def socketForm : NumberForm := { radix := 10, limit := 0xFFFF }

def scopeForm : NumberForm := { radix := 10, limit := 0xFFFFFFFF }

def isDigit (radix : Nat) (char : Char) : Bool := (Hex.digit? char).any (fun digit => digit < radix)

/-- The number that digits write. -/
def valueOf (radix : Nat) (digits : List Char) : Nat :=
  digits.foldl (fun number digit => number * radix + (Hex.digit? digit).getD 0) 0

/-- Reads all digits that follow as one number. -/
def readNumber (form : NumberForm) (input : List Char) : Option (Nat × List Char) :=
  let digits := input.takeWhile (isDigit form.radix)
  let value := valueOf form.radix digits
  if digits.isEmpty || form.digits.any (fun most => most < digits.length) then none
  else if !form.padded && digits.head? == some '0' && digits != ['0'] then none
  else if form.limit < value then none
  else some (value, input.dropWhile (isDigit form.radix))

/-- Reads a number behind a mark. -/
def readMarked (mark : Char) (form : NumberForm) : List Char → Option (Nat × List Char)
  | [] => none
  | char :: rest => if char = mark then readNumber form rest else none

/-- Reads four octets with points between them. -/
def readOctets (input : List Char) : Option (List Nat × List Char) := do
  let (a, rest) ← readNumber octetForm input
  let (b, rest) ← readMarked '.' octetForm rest
  let (c, rest) ← readMarked '.' octetForm rest
  let (d, rest) ← readMarked '.' octetForm rest
  return ([a, b, c, d], rest)

/-- Skips the colon before every group but the first. -/
def skipColon (first : Bool) : List Char → Option (List Char)
  | input => if first then some input else
    match input with
    | ':' :: rest => some rest
    | _ => none

/-- The two groups that four octets fill. -/
def groupsOfOctets : List Nat → List Nat
  | [a, b, c, d] => [a * 256 + b, c * 256 + d]
  | _ => []

/-- Reads at most `room` groups with colons between them. The last two may be written as
four octets; whether they were is the second answer. -/
def readGroups (first : Bool) (room : Nat) (input : List Char) :
    List Nat × Bool × List Char :=
  match room with
  | 0 => ([], false, input)
  | room + 1 =>
    match (skipColon first input).bind (fun rest => if room = 0 then none else readOctets rest) with
    | some (octets, rest) => (groupsOfOctets octets, true, rest)
    | none =>
      match (skipColon first input).bind (readNumber groupForm) with
      | none => ([], false, input)
      | some (group, rest) =>
        let (groups, octets, rest) := readGroups false room rest
        (group :: groups, octets, rest)

/-- Reads eight groups. Two colons stand for zeros between those before and behind them. -/
def readAddress6 (input : List Char) : Option (List Nat × List Char) :=
  let (head, octets, rest) := readGroups true 8 input
  if head.length = 8 then some (head, rest)
  else if octets then none
  else
    match rest with
    | ':' :: ':' :: rest =>
      let (tail, _, rest) := readGroups true (7 - head.length) rest
      some (head ++ List.replicate (8 - head.length - tail.length) 0 ++ tail, rest)
    | _ => none

/-- Reads a scope, zero if there is none. -/
def readScope (input : List Char) : Nat × List Char :=
  (readMarked '%' scopeForm input).getD (0, input)

/-- Reads four octets and a socket number. -/
def readIpv4 (input : List Char) : Option (Endpoint × List Char) := do
  let (octets, rest) ← readOctets input
  let (socket, rest) ← readMarked ':' socketForm rest
  return (.ipv4 octets socket, rest)

/-- Reads eight groups in brackets and a socket number. -/
def readIpv6 : List Char → Option (Endpoint × List Char)
  | '[' :: rest => do
    let (groups, rest) ← readAddress6 rest
    let (scope, rest) := readScope rest
    match rest with
    | ']' :: rest =>
      let (socket, rest) ← readMarked ':' socketForm rest
      return (.ipv6 groups scope socket, rest)
    | _ => none
  | _ => none

/-- Reads an endpoint from a whole text. -/
def parse? (text : String) : Option Endpoint :=
  match (readIpv4 text.toList).or (readIpv6 text.toList) with
  | some (endpoint, []) => some endpoint
  | some (_, _ :: _) | none => none

/-- Reads an endpoint to receive on, which must have four octets. -/
def ofText (text : String) : Except Error Endpoint :=
  match parse? text with
  | none => .error (.invalidOptions (.badAddress text))
  | some (.ipv6 _ _ _) => .error (.invalidOptions .addressNotIpv4)
  | some (.ipv4 octets socket) => .ok (.ipv4 octets socket)

end Endpoint

end TransportStream
