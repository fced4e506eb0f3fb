/-!
# Blank characters

The characters with the Unicode property `White_Space`, and trimming by them.
-/

namespace EventDelivery.Text

/-- The characters with the Unicode property `White_Space`. -/
def isBlank (c : Char) : Bool :=
  (0x09 ≤ c.toNat && c.toNat ≤ 0x0d) || c.toNat == 0x20 || c.toNat == 0x85 ||
  c.toNat == 0xa0 || c.toNat == 0x1680 || (0x2000 ≤ c.toNat && c.toNat ≤ 0x200a) ||
  c.toNat == 0x2028 || c.toNat == 0x2029 || c.toNat == 0x202f || c.toNat == 0x205f ||
  c.toNat == 0x3000

/-- Removes the characters at the end that satisfy `p`. -/
def dropEndWhile (p : Char → Bool) (cs : List Char) : List Char :=
  (cs.reverse.dropWhile p).reverse

/-- Removes the characters at both ends that satisfy `p`. -/
def trimBy (p : Char → Bool) (cs : List Char) : List Char :=
  dropEndWhile p (cs.dropWhile p)

/-- Removes blank characters at both ends. -/
def trimChars (cs : List Char) : List Char :=
  trimBy isBlank cs

/-- A text is blank when nothing is left of it after trimming. -/
def isAllBlank (s : String) : Bool :=
  s.toList.all isBlank

end EventDelivery.Text
