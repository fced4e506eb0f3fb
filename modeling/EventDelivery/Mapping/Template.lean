import EventDelivery.Json.Printer
import EventDelivery.Mapping.Path
import EventDelivery.Text.Characters
/-!
# Text templates

A template is text with tokens between double braces. A token is a dotted path from the root; it
stands for the text of the value there, or for nothing.
-/

namespace EventDelivery

namespace Template

/-- A part of a template. -/
inductive Piece where
  /-- Text that stays. -/
  | text (chars : List Char)
  /-- What stands between double braces. -/
  | token (chars : List Char)
deriving DecidableEq

/-- Where the reader of a template stands; what it is reading comes last character first. -/
inductive Reader where
  /-- Outside of braces. -/
  | text (read : List Char)
  /-- Inside double braces. -/
  | token (read : List Char)

/-- Reads the pieces of a template from left to right. Opening braces that are never closed are
text. -/
def read : Reader → List Char → List Piece
  | .text cs, [] => [.text cs.reverse]
  | .text cs, '{' :: '{' :: rest => .text cs.reverse :: read (.token []) rest
  | .text cs, c :: rest => read (.text (c :: cs)) rest
  | .token cs, [] => [.text ('{' :: '{' :: cs.reverse)]
  | .token cs, '}' :: '}' :: rest => .token cs.reverse :: read (.text []) rest
  | .token cs, c :: rest => read (.token (c :: cs)) rest

def parse (template : String) : List Piece :=
  read (.text []) template.toList

/-- The step that a part of a token stands for. -/
def segment (part : List Char) : Segment :=
  let trimmed := Text.trimChars part
  match Text.readUInt64? trimmed with
  | some position => .index position
  | none => .key (String.ofList trimmed)

/-- The path of a token; an empty token has none. -/
def tokenPath? (token : List Char) : Option Path :=
  let trimmed := Text.trimChars token
  if trimmed.isEmpty then none else some ((Text.splitOn '.' trimmed).map segment)

/-- The text that a value leaves in a template. -/
def valueText : Json → String
  | .str s => s
  | .null => ""
  | value => value.compact

/-- The text that a piece leaves. -/
def Piece.render (data : Json) : Piece → String
  | .text chars => String.ofList chars
  | .token chars =>
    match (tokenPath? chars).bind (fun path => path.select data) with
    | some value => valueText value
    | none => ""

/-- The text of a template over event data. Texts from the data are not read again. -/
def render (template : String) (data : Json) : String :=
  String.join ((parse template).map (Piece.render data))

end Template

end EventDelivery
