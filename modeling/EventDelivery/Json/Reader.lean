import EventDelivery.Json.Basic
import EventDelivery.Json.Document
/-!
# Reading JSON values

Turns documents into values. A document has a value when its nesting stays within a limit, no number
leaves the range of doubles and no text names half of a surrogate pair; the last of repeated members
stays.
-/

namespace EventDelivery.Json

/-- Takes digits as long as the number stays below `2 ^ 64`; the rest is left over. -/
def absorb (total : Nat) : List Char → Nat × List Char
  | [] => (total, [])
  | d :: rest =>
    let next := 10 * total + (d.toNat - '0'.toNat)
    if next < UInt64.size then absorb next rest else (total, d :: rest)

/-- The double of a literal. Digits beyond 64 bits count only for the size. -/
def NumberLiteral.double? (literal : NumberLiteral) : Option Double :=
  let whole := absorb 0 literal.whole
  let all := absorb whole.1 literal.fraction
  let used := literal.fraction.length - all.2.length
  Double.ofScaled? literal.negative all.1 ((whole.2.length : Int) - used + literal.exponent)

/-- The number of a literal. It is exact when the literal has neither point nor exponent and fits 64
bits, minus zero excepted; otherwise it is a double. -/
def NumberLiteral.toNumber? (literal : NumberLiteral) : Option Number :=
  let size := digitsToNat literal.whole
  let exact : Int := if literal.negative then -size else size
  if h : literal.plain = true ∧ ¬(literal.negative = true ∧ size = 0) ∧
      (-9223372036854775808 ≤ exact ∧ exact < 18446744073709551616) then
    some (.whole ⟨exact, h.2.2⟩)
  else literal.double?.map .double

/-- The text of a literal, none when half of a surrogate pair is named. -/
def TextLiteral.text? (literal : TextLiteral) : Option String :=
  if literal.paired then some literal.text else none

/-- The deepest nesting of arrays and objects that texts from outside may have. -/
def maxDepth : Nat := 127

mutual

/-- The value of a document nested at most `depth` deep. -/
def Document.toJson? (depth : Nat) : Document → Option Json
  | .null => some .null
  | .bool b => some (.bool b)
  | .number literal => literal.toNumber?.map .num
  | .text literal => literal.text?.map .str
  | .array items =>
    match depth with
    | 0 => none
    | depth + 1 => (toItems? depth items).map .arr
  | .object members =>
    match depth with
    | 0 => none
    | depth + 1 => (toMembers? depth members).map Json.ofMembers

/-- The values of the items of an array. -/
def Document.toItems? (depth : Nat) : List Document → Option (List Json)
  | [] => some []
  | item :: rest =>
    match item.toJson? depth, toItems? depth rest with
    | some value, some values => some (value :: values)
    | _, _ => none

/-- The members of an object, in the order of the text. -/
def Document.toMembers? (depth : Nat) :
    List (TextLiteral × Document) → Option (List (String × Json))
  | [] => some []
  | (key, item) :: rest =>
    match key.text?, item.toJson? depth, toMembers? depth rest with
    | some key, some value, some values => some ((key, value) :: values)
    | _, _, _ => none

end

/-- The value of a JSON text, none when the text is not JSON or has no value. -/
def parse? (s : String) : Option Json :=
  (Document.parse? s).bind (Document.toJson? maxDepth)

end EventDelivery.Json
