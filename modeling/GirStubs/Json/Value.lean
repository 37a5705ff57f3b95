/-! # JSON values

A JSON value without numbers, with the members of an object in order, and its
text on several lines: two spaces for each level, one member or item on a line,
and nothing between the brackets of an empty array or object.
-/

namespace GirStubs.Json

/-- A JSON value. -/
inductive Value where
  | null
  | bool (value : Bool)
  | string (text : String)
  | array (items : List Value)
  | object (members : List (String × Value))
  deriving Repr, Inhabited

/-- The value, or null where there is none. -/
def Value.ofOption {α : Type} (encode : α → Value) : Option α → Value
  | some a => encode a
  | none => .null

/-- A hexadecimal digit in lower case. -/
def hexDigit (n : Nat) : Char := Nat.digitChar (n % 16)

/-- One character of a string. Quotes, backslashes and controls are escaped; all else stands for
itself. -/
def escapeChar (c : Char) : List Char :=
  if c = '"' ∨ c = '\\' then ['\\', c]
  else if c.toNat = 8 then ['\\', 'b']
  else if c.toNat = 12 then ['\\', 'f']
  else if c = '\n' then ['\\', 'n']
  else if c = '\r' then ['\\', 'r']
  else if c = '\t' then ['\\', 't']
  else if c.toNat < 32 then ['\\', 'u', '0', '0', hexDigit (c.toNat / 16), hexDigit c.toNat]
  else [c]

/-- A string in quotes. -/
def quote (text : String) : String :=
  "\"" ++ String.ofList (text.toList.flatMap escapeChar) ++ "\""

/-- A line break and the blanks before a line at a level. -/
def lineAt (level : Nat) : String := "\n" ++ String.ofList (List.replicate (2 * level) ' ')

/-- Entries between brackets, each on a line one level further in. -/
def bracketed (opening closing : String) (level : Nat) (entries : List String) : String :=
  if entries = [] then opening ++ closing
  else
    opening ++ ",".intercalate (entries.map (lineAt (level + 1) ++ ·)) ++ lineAt level ++ closing

mutual

/-- The text of a value that starts at a level. -/
def Value.pretty (level : Nat) : Value → String
  | .null => "null"
  | .bool true => "true"
  | .bool false => "false"
  | .string text => quote text
  | .array items => bracketed "[" "]" level (prettyItems (level + 1) items)
  | .object members => bracketed "\x7b" "\x7d" level (prettyMembers (level + 1) members)

/-- The texts of the items of an array. -/
def prettyItems (level : Nat) : List Value → List String
  | [] => []
  | item :: rest => item.pretty level :: prettyItems level rest

/-- The texts of the members of an object. -/
def prettyMembers (level : Nat) : List (String × Value) → List String
  | [] => []
  | (key, value) :: rest =>
    (quote key ++ ": " ++ value.pretty level) :: prettyMembers level rest

end

end GirStubs.Json
