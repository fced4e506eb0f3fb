import EventDelivery.Json.Basic
/-!
# Removing empty values

Null and the empty text are removed from payloads unless the schema accepts null for their key.
-/

namespace EventDelivery

namespace Clean

/-- Null and the empty text are empty. -/
def isEmpty : Json → Bool
  | .null => true
  | .str s => s.isEmpty
  | _ => false

/-- Whether the schema of a property lists null among its types. -/
def acceptsNull (property : Option Json) : Bool :=
  match property.bind (Json.get? "type") with
  | some (.str name) => name == "null"
  | some (.arr names) => names.any (· == .str "null")
  | _ => false

/-- The schema of a key, when the schema of its object has one. -/
def property? (schema : Json) (key : String) : Option Json :=
  (schema.get? "properties").bind (Json.get? key)

mutual

/-- Cleans an object by its schema; other values stay. -/
def cleanObject (schema : Json) : Json → Json
  | .obj members => .obj (cleanMembers schema members)
  | value => value

/-- Cleans what a key holds by the schema of the key. -/
def cleanProperty (property : Option Json) : Json → Json
  | .obj members =>
    match property with
    | some schema => .obj (cleanMembers schema members)
    | none => .obj members
  | .arr items =>
    match property.bind (Json.get? "items") with
    | some schema => .arr (cleanItems schema items)
    | none => .arr items
  | value => value

/-- Removes the empty members that the schema does not accept, and cleans the others. -/
def cleanMembers (schema : Json) : List (String × Json) → List (String × Json)
  | [] => []
  | (key, value) :: rest =>
    if isEmpty value && !acceptsNull (property? schema key) then cleanMembers schema rest
    else (key, cleanProperty (property? schema key) value) :: cleanMembers schema rest

/-- Cleans every object in an array; no item is removed. -/
def cleanItems (schema : Json) : List Json → List Json
  | [] => []
  | item :: rest => cleanObject schema item :: cleanItems schema rest

end

/-- Removes every empty member of the object itself. -/
def cleanRoot : Json → Json
  | .obj members => .obj (members.filter fun member => !isEmpty member.2)
  | value => value

end Clean

/-- Removes empty values: by the schema when there is one, otherwise from the root object alone, and
only when that is asked for. -/
def removeEmptyValues (payload : Json) (schema : Option Json) (fromRoot : Bool) : Json :=
  match schema with
  | some schema => Clean.cleanObject schema payload
  | none => if fromRoot then Clean.cleanRoot payload else payload

end EventDelivery
