import EventDelivery.Decimal.Shortest
import EventDelivery.Json.Basic
/-!
# JSON text

The compact and the indented text of a value. Only the quote, the backslash and the control
characters below U+0020 are escaped; floating-point numbers have their shortest digits and always a
point or an exponent.
-/

namespace EventDelivery

/-- Doubles are positional from `0.00001` up to below `10 ^ 16`; otherwise they have an exponent
with its sign. -/
def Number.layout : Decimal.Layout :=
  { leastPoint := -4, greatestPoint := 16, mark := "e", plus := "+" }

def Number.toText : Number → String
  | .whole n => toString n.val
  | .double x => Number.layout.text x

namespace Json

/-- The characters that stand for one character inside quotes. -/
def escapeChar (c : Char) : List Char :=
  if c = '"' then ['\\', '"']
  else if c = '\\' then ['\\', '\\']
  else if c = '\x08' then ['\\', 'b']
  else if c = '\x0c' then ['\\', 'f']
  else if c = '\n' then ['\\', 'n']
  else if c = '\r' then ['\\', 'r']
  else if c = '\t' then ['\\', 't']
  else if c.toNat < 0x20 then
    ['\\', 'u', '0', '0', Nat.digitChar (c.toNat / 16), Nat.digitChar (c.toNat % 16)]
  else [c]

def quote (s : String) : String :=
  String.ofList ('"' :: (s.toList.flatMap escapeChar ++ ['"']))

mutual

/-- The text of a value without blanks. -/
def compact : Json → String
  | .null => "null"
  | .bool true => "true"
  | .bool false => "false"
  | .num n => n.toText
  | .str s => quote s
  | .arr items => "[" ++ String.intercalate "," (compactItems items) ++ "]"
  | .obj members => "\x7b" ++ String.intercalate "," (compactMembers members) ++ "\x7d"

/-- The texts of the items of an array. -/
def compactItems : List Json → List String
  | [] => []
  | item :: rest => compact item :: compactItems rest

/-- The texts of the members of an object. -/
def compactMembers : List (String × Json) → List String
  | [] => []
  | (key, value) :: rest => (quote key ++ ":" ++ compact value) :: compactMembers rest

end

/-- Lines between brackets: one part a line, the closing bracket on a line of its own. -/
def indented (opening closing margin : String) : List String → String
  | [] => opening ++ closing
  | parts =>
    opening ++ "\n" ++ String.intercalate ",\n" (parts.map fun part => margin ++ "  " ++ part) ++
      "\n" ++ margin ++ closing

mutual

/-- The text of a value with two blanks of indentation a level, after a margin. -/
def pretty (margin : String) : Json → String
  | .arr items => indented "[" "]" margin (prettyItems (margin ++ "  ") items)
  | .obj members => indented "\x7b" "\x7d" margin (prettyMembers (margin ++ "  ") members)
  | scalar => compact scalar

/-- The indented texts of the items of an array. -/
def prettyItems (margin : String) : List Json → List String
  | [] => []
  | item :: rest => pretty margin item :: prettyItems margin rest

/-- The indented texts of the members of an object. -/
def prettyMembers (margin : String) : List (String × Json) → List String
  | [] => []
  | (key, value) :: rest =>
    (quote key ++ ": " ++ pretty margin value) :: prettyMembers margin rest

end

end Json

end EventDelivery
