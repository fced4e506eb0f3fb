import EventDelivery.Wire.Scalar
/-!
# Decoding records

A record is given as an object, or as an array of its fields in the order they are declared. All
fields are read, and of everything that stands in the way the one that comes first is reported: a
fault by the place of its member, and only when there is none a missing field.
-/

namespace EventDelivery

/-- The name of a record type and its fields in the order they are declared. -/
structure Record where
  /-- The name in messages. -/
  title : String
  /-- The names of the fields. -/
  fields : List String

namespace Record

/-- Where the fields of a record are taken from. -/
inductive Source where
  /-- From the members of an object. -/
  | members (members : List (String × Json))
  /-- From the items of an array. -/
  | items (items : List Json)

/-- What keeps a field from being read. -/
inductive Obstacle where
  /-- A fault of the value given under a key; items have no key. -/
  | fault (key : String) (cause : DecodeFault)
  /-- Nothing is given. -/
  | absent (name : String)

/-- The obstacle that is reported of two, the first of them being declared earlier. -/
def Obstacle.first : Obstacle → Obstacle → Obstacle
  | .fault key cause, .fault other otherCause =>
    if other < key then .fault other otherCause else .fault key cause
  | .fault key cause, .absent _ => .fault key cause
  | .absent _, .fault key cause => .fault key cause
  | .absent name, .absent _ => .absent name

/-- Fields that have been read, or the obstacle to report. -/
inductive Reading (α : Type) where
  | done (value : α)
  | stuck (obstacle : Obstacle)

variable {α β : Type}

/-- Applies a function to what has been read. -/
def Reading.map (f : α → β) : Reading α → Reading β
  | .done value => .done (f value)
  | .stuck obstacle => .stuck obstacle

/-- Reads one more field; it is declared after those read so far. -/
def Reading.and (read : Reading (α → β)) (next : Reading α) : Reading β :=
  match read, next with
  | .done f, .done value => .done (f value)
  | .done _, .stuck obstacle => .stuck obstacle
  | .stuck obstacle, .done _ => .stuck obstacle
  | .stuck obstacle, .stuck other => .stuck (obstacle.first other)

instance : Seq Reading := ⟨fun read next => read.and (next ())⟩
instance : Functor Reading := { map := Reading.map }

/-- A field that was given, under a key, and decoded. -/
def Reading.given (key : String) : Decoded α → Reading α
  | .ok value => .done value
  | .error cause => .stuck (.fault key cause)

/-- The value given for a field and its key. -/
def given? (record : Record) (name : String) : Source → Option (String × Json)
  | .members members => (Assoc.get? name members).map fun value => (name, value)
  | .items items => items[record.fields.idxOf name]?.map fun value => ("", value)

/-- The fault of an array that ends before a field. -/
def tooShort (record : Record) (name : String) : DecodeFault :=
  .wrongLength (record.fields.idxOf name)
    ("struct " ++ record.title ++ " with " ++ toString record.fields.length ++ " elements")

/-- What it means that a field is not given. -/
def missing (record : Record) (name : String) : Source → Reading α
  | .members _ => .stuck (.absent name)
  | .items _ => .stuck (.fault "" (record.tooShort name))

/-- A field that has to be given. -/
def required (record : Record) (source : Source) (name : String) (decode : Json → Decoded α) :
    Reading α :=
  match record.given? name source with
  | some (key, value) => .given key (decode value)
  | none => record.missing name source

def optional (record : Record) (source : Source) (name : String) (byDefault : α)
    (decode : Json → Decoded α) : Reading α :=
  match record.given? name source with
  | some (key, value) => .given key (decode value)
  | none => .done byDefault

/-- A field that an object may also hold under another name, but not under both. -/
def aliased (record : Record) (source : Source) (name other : String) (byDefault : α)
    (decode : Json → Decoded α) : Reading α :=
  match source with
  | .items _ => record.optional source name byDefault decode
  | .members members =>
    match Assoc.get? name members, Assoc.get? other members with
    | none, none => .done byDefault
    | some value, none => .given name (decode value)
    | none, some value => .given other (decode value)
    | some value, some otherValue =>
      let (first, second, taken) :=
        if name < other then (name, other, value) else (other, name, otherValue)
      match decode taken with
      | .ok _ => .stuck (.fault second (.duplicateField name))
      | .error cause => .stuck (.fault first cause)

/-- The outcome for a whole record. -/
def finish (record : Record) (source : Source) : Reading α → Decoded α
  | .done value =>
    match source with
    | .items items =>
      if record.fields.length < items.length then
        .error (.wrongLength items.length "fewer elements in array")
      else .ok value
    | .members _ => .ok value
  | .stuck (.fault _ cause) => .error cause
  | .stuck (.absent name) => .error (.missingField name)

/-- Decodes a record whose fields `read` takes from a source. -/
def decode (record : Record) (read : Source → Reading α) : Json → Decoded α
  | .obj members => record.finish (.members members) (read (.members members))
  | .arr items => record.finish (.items items) (read (.items items))
  | value => .error (.wrongType value ("struct " ++ record.title))

/-- A member of an encoded record that is left out when there is no value. -/
def present (name : String) (value : Option Json) : List (String × Json) :=
  match value with
  | some value => [(name, value)]
  | none => []

end Record

end EventDelivery
