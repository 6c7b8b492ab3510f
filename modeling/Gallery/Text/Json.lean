import Gallery.Text.Numeral

/-!
# `Gallery.Text.Json` — documents and how they are laid out

## Contents
- `Json`, the documents.
- `escape`, the text of a string between its quotes.
- `Json.pretty`, the text of a document with one member a line, indented by two spaces a level.
-/

namespace Gallery.Text

/-- A document. -/
inductive Json where
  | null
  /-- A number, as it is written. -/
  | number (digits : String)
  | string (s : String)
  | array (items : List Json)
  | object (fields : List (String × Json))

/-- A character of a string: quotes, backslashes and control characters are escaped. -/
def escapeChar (c : Char) : List Char :=
  if c = '"' then ['\\', '"']
  else if c = '\\' then ['\\', '\\']
  else if c.toNat = 8 then ['\\', 'b']
  else if c.toNat = 9 then ['\\', 't']
  else if c.toNat = 10 then ['\\', 'n']
  else if c.toNat = 12 then ['\\', 'f']
  else if c.toNat = 13 then ['\\', 'r']
  else if c.toNat < 32 then '\\' :: 'u' :: writeHex 4 c.toNat
  else [c]

/-- The text of a string between its quotes. -/
def escape (s : String) : List Char := s.toList.flatMap escapeChar

/-- A string in quotes. -/
def quoted (s : String) : String := String.ofList ('"' :: escape s ++ ['"'])

/-- The start of a line at a level. -/
def margin (level : Nat) : String := String.ofList (List.replicate (2 * level) ' ')

/-- The members of an array or an object, one a line, between brackets; nothing stands between the
brackets if there is no member. -/
def bracketed (level : Nat) (opening closing : String) (members : List String) : String :=
  if members.isEmpty then opening ++ closing
  else
    let lines := members.map fun m => margin (level + 1) ++ m
    opening ++ "\n" ++ ",\n".intercalate lines ++ "\n" ++ margin level ++ closing

namespace Json

mutual

/-- The text of a document that starts at a level. -/
def layout (level : Nat) : Json → String
  | null => "null"
  | number digits => digits
  | string s => quoted s
  | array items => bracketed level "[" "]" (layoutItems (level + 1) items)
  | object fields => bracketed level "\x7b" "\x7d" (layoutFields (level + 1) fields)

/-- The texts of the items of an array. -/
def layoutItems (level : Nat) : List Json → List String
  | [] => []
  | item :: rest => layout level item :: layoutItems level rest

/-- The texts of the fields of an object. -/
def layoutFields (level : Nat) : List (String × Json) → List String
  | [] => []
  | (name, value) :: rest => (quoted name ++ ": " ++ layout level value) :: layoutFields level rest

end

/-- The text of a document. -/
def pretty (d : Json) : String := d.layout 0

end Json

end Gallery.Text
