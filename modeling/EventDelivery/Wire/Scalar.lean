import EventDelivery.Wire.Fault
/-!
# Decoding values that are not records

Texts, flags, words, names out of a list, and values that may be null, lists or maps of others.
-/

namespace EventDelivery.Wire

variable {α : Type}

def text : Json → Decoded String
  | .str s => .ok s
  | value => .error (.wrongType value "a string")

def flag : Json → Decoded Bool
  | .bool b => .ok b
  | value => .error (.wrongType value "a boolean")

/-- A whole number from zero up to below `bound`. -/
def below (bound : Nat) (name : String) : Json → Decoded Nat
  | .num (.whole n) =>
    if 0 ≤ n.val ∧ n.val < bound then .ok n.val.toNat
    else .error (.wrongValue (.num (.whole n)) name)
  | value => .error (.wrongType value name)

def word16 (value : Json) : Decoded UInt16 :=
  (below UInt16.size "u16" value).map UInt16.ofNat

def word64 (value : Json) : Decoded UInt64 :=
  (below UInt64.size "u64" value).map UInt64.ofNat

def any (value : Json) : Decoded Json := .ok value

/-- A value that may be null. -/
def nullable (decode : Json → Decoded α) : Json → Decoded (Option α)
  | .null => .ok none
  | value => (decode value).map some

/-- The items of a list, up to the first fault. -/
def decodeItems (decode : Json → Decoded α) : List Json → Decoded (List α)
  | [] => .ok []
  | item :: rest => do
    let first ← decode item
    let others ← decodeItems decode rest
    .ok (first :: others)

def list (decode : Json → Decoded α) : Json → Decoded (List α)
  | .arr items => decodeItems decode items
  | value => .error (.wrongType value "a sequence")

/-- The members of a map, up to the first fault. -/
def decodeMembers (decode : Json → Decoded α) :
    List (String × Json) → Decoded (List (String × α))
  | [] => .ok []
  | (key, value) :: rest => do
    let first ← decode value
    let others ← decodeMembers decode rest
    .ok ((key, first) :: others)

def keyed (decode : Json → Decoded α) : Json → Decoded (Keyed α)
  | .obj members => (decodeMembers decode members).map Keyed.ofList
  | value => .error (.wrongType value "a map")

/-- The value that a name stands for. -/
def lookup (names : List (String × α)) (given : String) : Decoded α :=
  match Assoc.get? given names with
  | some value => .ok value
  | none => .error (.unknownVariant given (names.map Prod.fst))

/-- One of a list of names; a name may also come as the only key of an object, with null. -/
def oneOf (names : List (String × α)) : Json → Decoded α
  | .str given => lookup names given
  | .obj [(given, value)] => do
    let found ← lookup names given
    match value with
    | .null => .ok found
    | other => .error (.wrongType other "unit")
  | .obj members => .error (.wrongValue (.obj members) "map with a single key")
  | value => .error (.wrongType value "string or map")

end EventDelivery.Wire
