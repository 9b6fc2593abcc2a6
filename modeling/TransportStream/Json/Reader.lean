import TransportStream.Hex

/-!
Reading JSON text piece by piece. Each reader takes the characters from where it starts and
returns what it read and the characters after it, or nothing if the text is not of the
kind it reads.
-/
namespace TransportStream.Json

/-- Blanks, tabs and line ends. -/
def isSpace (char : Char) : Bool :=
  char == ' ' || char == '\n' || char == '\r' || char == '\t'

def skipSpace (input : List Char) : List Char := input.dropWhile isSpace

/-- Reads given characters. -/
def readWord (word : List Char) (input : List Char) : Option (List Char) :=
  match word, input with
  | [], rest => some rest
  | _ :: _, [] => none
  | expected :: others, char :: rest => if char = expected then readWord others rest else none

/-- Reads four hexadecimal digits. -/
def readHex4 : List Char → Option (Nat × List Char)
  | a :: b :: c :: d :: rest => do
    let a ← Hex.digit? a
    let b ← Hex.digit? b
    let c ← Hex.digit? c
    let d ← Hex.digit? d
    return (((a * 16 + b) * 16 + c) * 16 + d, rest)
  | _ => none

theorem readHex4_rest {input rest : List Char} {unit : Nat}
    (result : readHex4 input = some (unit, rest)) : rest.length < input.length := by
  unfold readHex4 at result
  split at result
  · simp only [Option.bind_eq_bind, Option.bind_eq_some_iff, pure, Option.some.injEq,
      Prod.mk.injEq] at result
    obtain ⟨_, _, _, _, _, _, _, _, _, same⟩ := result
    subst same
    simp only [List.length_cons]
    omega
  · cases result

/-- A piece of a text between quotes: a character, or a 16-bit unit of one that was
written as an escape. -/
inductive Piece where
  | char (value : Char)
  | unit (value : Nat)
  deriving DecidableEq, Repr

/-- The character of a one-letter escape. -/
def simpleEscape? (letter : Char) : Option Char :=
  match letter with
  | '"' => some '"'
  | '\\' => some '\\'
  | '/' => some '/'
  | 'b' => some (Char.ofNat 8)
  | 'f' => some (Char.ofNat 12)
  | 'n' => some '\n'
  | 'r' => some '\r'
  | 't' => some '\t'
  | _ => none

/-- Reads a text from behind its opening quote to behind its closing one. Control
characters must be escaped. -/
def readPieces (input : List Char) : Option (List Piece × List Char) :=
  match input with
  | [] => none
  | '"' :: rest => some ([], rest)
  | '\\' :: 'u' :: rest =>
    match _read : readHex4 rest with
    | none => none
    | some (unit, after) => do
      let (pieces, last) ← readPieces after
      return (.unit unit :: pieces, last)
  | '\\' :: letter :: rest => do
    let char ← simpleEscape? letter
    let (pieces, last) ← readPieces rest
    return (.char char :: pieces, last)
  | char :: rest =>
    if char.toNat < 32 ∨ char = '\\' then none
    else do
      let (pieces, last) ← readPieces rest
      return (.char char :: pieces, last)
termination_by input.length
decreasing_by
  · have := readHex4_rest _read
    simp only [List.length_cons]
    omega
  · simp only [List.length_cons]; omega
  · simp only [List.length_cons]; omega

/-- Joins pieces into characters. Escaped units of a pair make one character; half a pair
makes none. -/
def joinPieces : List Piece → Option (List Char)
  | [] => some []
  | .char char :: rest => do return char :: (← joinPieces rest)
  | .unit high :: .unit low :: rest =>
    if 0xD800 ≤ high ∧ high < 0xDC00 then
      if 0xDC00 ≤ low ∧ low < 0xE000 then do
        return Char.ofNat (0x10000 + (high - 0xD800) * 0x400 + (low - 0xDC00)) ::
          (← joinPieces rest)
      else none
    else if 0xDC00 ≤ high ∧ high < 0xE000 then none
    else do return Char.ofNat high :: (← joinPieces (.unit low :: rest))
  | .unit unit :: rest =>
    if 0xD800 ≤ unit ∧ unit < 0xE000 then none
    else do return Char.ofNat unit :: (← joinPieces rest)

/-- Reads a text between quotes from behind its opening quote. -/
def readText (input : List Char) : Option (String × List Char) := do
  let (pieces, rest) ← readPieces input
  let chars ← joinPieces pieces
  return (String.ofList chars, rest)

/-- A number as it is written: sign, digits before and after the point, and exponent. -/
structure Numeral where
  negative : Bool
  whole : List Char
  fraction : Option (List Char)
  exponent : Option (Bool × List Char)
  deriving DecidableEq, Repr

/-- Reads at least one digit. -/
def readDigits (input : List Char) : Option (List Char × List Char) :=
  match input.takeWhile Char.isDigit with
  | [] => none
  | digits => some (digits, input.dropWhile Char.isDigit)

/-- Reads the digits before the point, which have no needless zero in front. -/
def readWhole : List Char → Option (List Char × List Char)
  | '0' :: rest => if rest.head?.any Char.isDigit then none else some (['0'], rest)
  | input => readDigits input

/-- Reads the digits after a point, if there is one. -/
def readFraction : List Char → Option (Option (List Char) × List Char)
  | '.' :: rest => (readDigits rest).map (fun (digits, rest) => (some digits, rest))
  | input => some (none, input)

/-- Reads the sign of an exponent: true if it is negative. -/
def readExponentSign : List Char → Bool × List Char
  | '+' :: rest => (false, rest)
  | '-' :: rest => (true, rest)
  | input => (false, input)

/-- Reads an exponent, if there is one. -/
def readExponent : List Char → Option (Option (Bool × List Char) × List Char)
  | [] => some (none, [])
  | char :: rest =>
    if char = 'e' ∨ char = 'E' then
      let (negative, rest) := readExponentSign rest
      (readDigits rest).map (fun (digits, rest) => (some (negative, digits), rest))
    else some (none, char :: rest)

/-- Reads the sign of a number: true if it is negative. -/
def readMinus : List Char → Bool × List Char
  | '-' :: rest => (true, rest)
  | input => (false, input)

/-- Reads a number. -/
def readNumeral (input : List Char) : Option (Numeral × List Char) := do
  let (negative, rest) := readMinus input
  let (whole, rest) ← readWhole rest
  let (fraction, rest) ← readFraction rest
  let (exponent, rest) ← readExponent rest
  return ({ negative, whole, fraction, exponent }, rest)

/-- Reads a value that holds no others. -/
def readScalar (input : List Char) : Option (List Char) :=
  match input with
  | 'n' :: rest => readWord ['u', 'l', 'l'] rest
  | 't' :: rest => readWord ['r', 'u', 'e'] rest
  | 'f' :: rest => readWord ['a', 'l', 's', 'e'] rest
  | '"' :: rest => (readPieces rest).map (·.2)
  | _ => (readNumeral input).map (·.2)

/-- What a value inside brackets stands in. -/
inductive Bracket where
  | array
  | object
  deriving DecidableEq, Repr

/-- Reads a key and the colon behind it, without a look at the key. -/
def skipKey (input : List Char) : Option (List Char) :=
  match skipSpace input with
  | '"' :: rest => do
    let (_, rest) ← readPieces rest
    match skipSpace rest with
    | ':' :: rest => some rest
    | _ => none
  | _ => none

/-- Reads what comes before the next value inside a bracket. -/
def skipBefore : Bracket → List Char → Option (List Char)
  | .array, input => some input
  | .object, input => skipKey input

/-- The closing bracket. -/
def Bracket.closing : Bracket → Char
  | array => ']'
  | object => '}'

/-- Reads closing brackets after a value, and a comma if the value was not the last. The
brackets still open come back, none if the outermost value has ended. -/
def skipAfter : List Bracket → List Char → Option (List Bracket × List Char)
  | [], input => some ([], input)
  | bracket :: outer, input =>
    match skipSpace input with
    | ',' :: rest => (skipBefore bracket rest).map (fun rest => (bracket :: outer, rest))
    | char :: rest => if char = bracket.closing then skipAfter outer rest else none
    | [] => none

/-- Reads an opening bracket and what stands before its first value. An empty bracket is
closed at once; whether it was is the first answer. -/
def skipOpen (bracket : Bracket) (input : List Char) : Option (Bool × List Char) :=
  match skipSpace input with
  | [] => none
  | char :: rest =>
    if char = bracket.closing then some (true, rest)
    else (skipBefore bracket (char :: rest)).map (fun rest => (false, rest))

/-- One step through a value of any kind: the brackets open before the next value and the
input from there. No brackets are left when the outermost value has ended. -/
def skipStep (outer : List Bracket) (input : List Char) :
    Option (Option (List Bracket) × List Char) :=
  let finished := fun (brackets : List Bracket) (rest : List Char) => do
    let (brackets, rest) ← skipAfter brackets rest
    return (if brackets.isEmpty then none else some brackets, rest)
  let opened := fun (bracket : Bracket) (rest : List Char) => do
    let (closed, rest) ← skipOpen bracket rest
    if closed then finished outer rest else return (some (bracket :: outer), rest)
  match skipSpace input with
  | '[' :: rest => opened .array rest
  | '{' :: rest => opened .object rest
  | input => do finished outer (← readScalar input)

/-- Reads a value of any kind without a look at it: brackets must match, and texts and
numbers be well formed. Each step takes at least one character, so `fuel` characters are
always enough for an input of that length. -/
def skipWithin (fuel : Nat) (outer : List Bracket) (input : List Char) : Option (List Char) :=
  match fuel with
  | 0 => none
  | fuel + 1 =>
    match skipStep outer input with
    | none => none
    | some (none, rest) => some rest
    | some (some brackets, rest) => skipWithin fuel brackets rest

/-- Reads a value of any kind without a look at it. -/
def skipValue (input : List Char) : Option (List Char) :=
  skipWithin (input.length + 1) [] input

end TransportStream.Json
