import EventDelivery.Json.Printer
import EventDelivery.Text.Quoted
/-!
# Faults of decoding

What can be wrong with a value that should be one of the library's types, and the sentence that says
so.
-/

namespace EventDelivery

/-- What is wrong with a value. -/
inductive DecodeFault where
  /-- A record lacks a member. -/
  | missingField (name : String)
  /-- A record has a member twice, under two names. -/
  | duplicateField (name : String)
  /-- None of the known names. -/
  | unknownVariant (given : String) (known : List String)
  /-- A value of another kind. -/
  | wrongType (found : Json) (expected : String)
  /-- A value of the right kind that does not fit. -/
  | wrongValue (found : Json) (expected : String)
  /-- An array with too few or too many items. -/
  | wrongLength (length : Nat) (expected : String)
  /-- A value that is none of the alternatives. -/
  | noAlternative (name : String)
deriving DecidableEq

namespace DecodeFault

/-- The kind of a value, with the value itself where it is short. -/
def describe : Json → String
  | .null => "null"
  | .bool true => "boolean `true`"
  | .bool false => "boolean `false`"
  | .num (.whole n) => "integer `" ++ toString n.val ++ "`"
  | .num (.double x) => "floating point `" ++ (Number.double x).toText ++ "`"
  | .str s => "string " ++ Text.quoted s
  | .arr _ => "sequence"
  | .obj _ => "map"

/-- A list of known names. -/
def alternatives : List String → String
  | [] => "there are no variants"
  | [a] => "expected `" ++ a ++ "`"
  | [a, b] => "expected `" ++ a ++ "` or `" ++ b ++ "`"
  | names =>
    "expected one of " ++ String.intercalate ", " (names.map fun name => "`" ++ name ++ "`")

def message : DecodeFault → String
  | .missingField name => "missing field `" ++ name ++ "`"
  | .duplicateField name => "duplicate field `" ++ name ++ "`"
  | .unknownVariant given known =>
    "unknown variant `" ++ given ++ "`, " ++ alternatives known
  | .wrongType found expected => "invalid type: " ++ describe found ++ ", expected " ++ expected
  | .wrongValue found expected => "invalid value: " ++ describe found ++ ", expected " ++ expected
  | .wrongLength length expected =>
    "invalid length " ++ toString length ++ ", expected " ++ expected
  | .noAlternative name => "data did not match any variant of untagged enum " ++ name

end DecodeFault

/-- The outcome of decoding. -/
abbrev Decoded (α : Type) := Except DecodeFault α

end EventDelivery
