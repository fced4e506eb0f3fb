import EventDelivery.Json.Reader
import EventDelivery.RunConfig.Basic
/-!
# Texts of run configurations

A text says more than a value: members can be repeated, and a record can have members that nothing
is known of. Unknown members of a record are skipped whatever they hold, known ones may come once,
and of the repeated keys of a map the last stays, though every one of them has to decode.
-/

namespace EventDelivery

/-- The parts of a configuration text, by the type that they are read as. -/
inductive ConfigPart where
  | value
  /-- A name out of a list, or an object that has it as its only key. -/
  | name
  | run
  | action
  | tokens
  | field
  | fields
  | flags
deriving DecidableEq

namespace ConfigPart

/-- The parts of a record in the order in which they are declared, other names of a part last. -/
private def parts? : ConfigPart → Option (List (String × ConfigPart))
  | .run =>
    some [("destination", .value), ("action", .action), ("settings", .value), ("mapping", .value),
      ("events", .value), ("batch", .value), ("auth", .tokens), ("features", .flags)]
  | .action => some [("title", .value), ("description", .value), ("fields", .fields)]
  | .tokens => some [("accessToken", .value), ("refreshToken", .value)]
  | .field =>
    some [("label", .value), ("description", .value), ("type", .name), ("required", .value),
      ("default", .value), ("hidden", .value), ("multiple", .value), ("allowNull", .value),
      ("choices", .value), ("format", .value), ("properties", .fields),
      ("additionalProperties", .value), ("dynamic", .value), ("placeholder", .value),
      ("unsafe_hidden", .value)]
  | _ => none

/-- What a member is read as; none when it is skipped. -/
def member? (part : ConfigPart) (key : String) : Option ConfigPart :=
  match part with
  | .fields => some .field
  | .value | .name | .flags => some .value
  | record => record.parts?.bind (Assoc.get? key)

/-- What the items of an array are read as; items past the end are any values. -/
def items (part : ConfigPart) : List ConfigPart := (part.parts?.getD []).map Prod.snd

/-- Whether a member may stand in front of others. -/
def admits (part : ConfigPart) (key : String) (value : Json) (others : List (String × Json)) :
    Bool :=
  match part with
  | .value => true
  | .name => others.isEmpty
  | .flags => (Wire.flag value).isOk
  | .fields => (Field.ofJson value).isOk
  | _ => (Assoc.get? key others).isNone

end ConfigPart

namespace Json.Document

mutual

/-- The value of a document that is read as a part and nested at most `depth` deep. -/
def readAs? (part : ConfigPart) (depth : Nat) : Document → Option Json
  | .array items =>
    match depth with
    | 0 => none
    | depth + 1 => (readItems? part.items depth items).map .arr
  | .object members =>
    match depth with
    | 0 => none
    | depth + 1 => (readMembers? part depth members).map Json.ofMembers
  | scalar => scalar.toJson? depth

/-- The values of the items of an array, which are read as parts in turn. -/
def readItems? (parts : List ConfigPart) (depth : Nat) : List Document → Option (List Json)
  | [] => some []
  | item :: rest =>
    match item.readAs? (parts.headD .value) depth, readItems? parts.tail depth rest with
    | some value, some values => some (value :: values)
    | _, _ => none

/-- The members of an object that is read as a part. -/
def readMembers? (part : ConfigPart) (depth : Nat) :
    List (TextLiteral × Document) → Option (List (String × Json))
  | [] => some []
  | (literal, item) :: rest =>
    match literal.text? with
    | none => none
    | some key =>
      match part.member? key with
      | none => readMembers? part depth rest
      | some inner =>
        match item.readAs? inner depth, readMembers? part depth rest with
        | some value, some others =>
          if part.admits key value others then some ((key, value) :: others) else none
        | _, _ => none

end

end Json.Document

/-- The run that a text describes, none when the text is no JSON or does not decode. -/
def RunConfig.ofText? (text : String) : Option RunConfig := do
  let document ← Json.Document.parse? text
  let value ← document.readAs? .run Json.maxDepth
  (ofJson value).toOption

end EventDelivery
