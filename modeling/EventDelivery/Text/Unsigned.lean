/-!
# Unsigned 64-bit decimals

The one textual form in which positions are written: an optional plus sign, then ASCII digits whose
value is below `2 ^ 64`.
-/

namespace EventDelivery.Text

/-- The value of a digit sequence, most significant digit first. -/
def digitsValue (cs : List Char) : Nat :=
  cs.foldl (fun total c => 10 * total + (c.toNat - '0'.toNat)) 0

def dropPlus : List Char → List Char
  | '+' :: rest => rest
  | cs => cs

/-- Reads an unsigned 64-bit decimal; signs other than one plus, blanks, an empty digit sequence
and values from `2 ^ 64` on are refused. -/
def readUInt64? (cs : List Char) : Option UInt64 :=
  let digits := dropPlus cs
  if digits.isEmpty || !digits.all Char.isDigit then none
  else if digitsValue digits < UInt64.size then some (UInt64.ofNat (digitsValue digits))
  else none

end EventDelivery.Text
