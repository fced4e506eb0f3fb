import EventDelivery.Json.Basic
import EventDelivery.Mapping.Fault
import EventDelivery.Text.Blank
import EventDelivery.Text.Unsigned
/-!
# Paths into a value

A path is a list of steps from the root: into an object by key, into an array by position. Its text
is `$` followed by `.name`, `['any key']` and `[0]` pieces.
-/

namespace EventDelivery

/-- One step of a path. -/
inductive Segment where
  /-- Into the member of an object. -/
  | key (name : String)
  /-- Into the item of an array. -/
  | index (position : UInt64)
deriving DecidableEq, Inhabited

/-- The steps from the root to a position. -/
abbrev Path := List Segment

namespace Path

/-- The value at the end of a path; none when a step finds nothing or a value of another kind. -/
def select : Path → Json → Option Json
  | [], value => some value
  | .key name :: rest, .obj members => (Assoc.get? name members).bind (select rest)
  | .index position :: rest, .arr items => items[position.toNat]?.bind (select rest)
  | _ :: _, _ => none

/-- The text between a quote at the start and the same quote at the end. -/
def unquote? (quote : Char) : List Char → Option (List Char)
  | [] => none
  | c :: rest =>
    if c = quote ∧ rest.getLast? = some quote then some rest.dropLast else none

/-- The step that brackets around `inner` stand for: a quoted key or a position. -/
def bracketed (path : String) (inner : List Char) : Except MappingFault Segment :=
  match unquote? '\'' inner with
  | some name => .ok (.key (String.ofList name))
  | none =>
    match unquote? '"' inner with
    | some name => .ok (.key (String.ofList name))
    | none =>
      match Text.readUInt64? inner with
      | some position => .ok (.index position)
      | none => .error (.invalidIndex (String.ofList inner) path)

/-- Where the reader of a path stands; what it is reading comes last character first. -/
inductive Reader where
  /-- Between two pieces. -/
  | between
  /-- In a name after a point. -/
  | name (read : List Char)
  /-- Between brackets. -/
  | bracket (read : List Char)

/-- Reads the pieces after the root. -/
def read (path : String) : Reader → List Char → Except MappingFault Path
  | .between, [] => .ok []
  | .between, c :: rest =>
    if c = '.' then read path (.name []) rest
    else if c = '[' then read path (.bracket []) rest
    else .error (.unexpected c path)
  | .name [], [] => .error (.emptySegment path)
  | .name (c :: cs), [] => .ok [.key (String.ofList (c :: cs).reverse)]
  | .name cs, c :: rest =>
    if c = '.' ∨ c = '[' then
      if cs.isEmpty then .error (.emptySegment path)
      else do
        let following ← read path (if c = '.' then .name [] else .bracket []) rest
        .ok (.key (String.ofList cs.reverse) :: following)
    else read path (.name (c :: cs)) rest
  | .bracket _, [] => .error (.unclosedBracket path)
  | .bracket cs, c :: rest =>
    if c = ']' then do
      let segment ← bracketed path (Text.trimChars cs.reverse)
      let following ← read path .between rest
      .ok (segment :: following)
    else read path (.bracket (c :: cs)) rest

/-- Reads a path. Blanks around it do not count. -/
def parse (path : String) : Except MappingFault Path :=
  match Text.trimChars path.toList with
  | '$' :: rest => read path .between rest
  | _ => .error (.rootless path)

/-- The value that the text of a path selects. -/
def get (path : String) (value : Json) : Except MappingFault (Option Json) := do
  let steps ← parse path
  .ok (steps.select value)

end Path

end EventDelivery
