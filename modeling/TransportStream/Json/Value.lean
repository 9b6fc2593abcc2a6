import TransportStream.Decimal.Text
import TransportStream.Hex

/-!
Structured documents and their indented text.
-/
namespace TransportStream.Json

/-- A document. The entries of an object keep their order. -/
inductive Value where
  | null
  | boolean (value : Bool)
  | natural (value : Nat)
  | real (value : Float)
  | text (value : String)
  | array (items : List Value)
  | object (entries : List (String × Value))

/-- A character inside quotes. -/
def escape (char : Char) : List Char :=
  if char = '"' then ['\\', '"']
  else if char = '\\' then ['\\', '\\']
  else if char = '\n' then ['\\', 'n']
  else if char = '\r' then ['\\', 'r']
  else if char = '\t' then ['\\', 't']
  else if char.toNat = 8 then ['\\', 'b']
  else if char.toNat = 12 then ['\\', 'f']
  else if char.toNat < 32 then
    ['\\', 'u', '0', '0'] ++ [Nat.digitChar (char.toNat / 16), Nat.digitChar (char.toNat % 16)]
  else [char]

def quote (text : String) : String := "\"" ++ String.ofList (text.toList.flatMap escape) ++ "\""

/-- The start of a line at a depth: two blanks for each level. -/
def margin (depth : Nat) : String := "\n" ++ String.ofList (List.replicate (2 * depth) ' ')

/-- Items between brackets, one a line; brackets around nothing stay together. -/
def enclose (opening closing : String) (depth : Nat) (items : List String) : String :=
  if items.isEmpty then opening ++ closing
  else
    opening ++ margin (depth + 1) ++ String.intercalate ("," ++ margin (depth + 1)) items ++
      margin depth ++ closing

mutual

/-- The text of a document whose lines start at a depth. -/
def Value.indented (depth : Nat) : Value → String
  | .null => "null"
  | .boolean value => if value then "true" else "false"
  | .natural value => toString value
  | .real value => Decimal.documentText value
  | .text value => quote value
  | .array items => enclose "[" "]" depth (itemTexts (depth + 1) items)
  | .object entries => enclose "\x7b" "\x7d" depth (entryTexts (depth + 1) entries)

def itemTexts (depth : Nat) : List Value → List String
  | [] => []
  | item :: others => item.indented depth :: itemTexts depth others

def entryTexts (depth : Nat) : List (String × Value) → List String
  | [] => []
  | (key, value) :: others => (quote key ++ ": " ++ value.indented depth) :: entryTexts depth others

end

/-- The indented text of a document. -/
def Value.render (value : Value) : String := value.indented 0

end TransportStream.Json
