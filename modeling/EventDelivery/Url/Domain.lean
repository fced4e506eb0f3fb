import EventDelivery.Character.Direction
import EventDelivery.Text.Characters
import EventDelivery.Url.NameMapping
import EventDelivery.Url.Punycode
/-!
# Domain names

Domain names in their ASCII form: mapped and composed characters, and labels beyond ASCII as marked
digits. A label starts with no mark, joins only what can be joined, and does not change direction in
a name that has a label written from right to left.
-/

namespace EventDelivery.Domain

/-- Whether names cannot hold an ASCII character. -/
def isDenied (c : Char) : Bool :=
  c.toNat ≤ 0x20 || c.toNat == 0x7f || "%#/:<>?@[\\]^|".toList.contains c

/-- Whether a character is a mark on the one before it. -/
def isMark (c : Char) : Bool := Category.marks.contains (Category.of c)

/-- Whether a mark kills the vowel of the letter before it. -/
private def isVowelKiller (c : Char) : Bool := Composition.markClass c.toNat == 9

/-- Whether what is before a sign, last one first, and what is after it join through it. -/
private def joinsThrough (before after : List Char) : Bool :=
  let beforeJoins := (before.dropWhile Joining.isTransparent).head?.any fun c =>
    Joining.forward.holds c.toNat
  let afterJoins := (after.dropWhile Joining.isTransparent).head?.any fun c =>
    Joining.backward.holds c.toNat
  beforeJoins && afterJoins

/-- Whether the signs for joining and for keeping apart stand where they have an effect; `before`
holds the characters before, the last one first. -/
def joinsWell (before : List Char) : List Char → Bool
  | [] => true
  | c :: after =>
    let killed := before.head?.any isVowelKiller
    (match c.toNat with
      | 0x200d => killed
      | 0x200c => killed || joinsThrough before after
      | _ => true) && joinsWell (c :: before) after

/-- Whether a character is written from right to left. -/
def isBackward : Direction → Bool
  | .rightToLeft | .arabicLetter => true
  | _ => false

/-- The directions that a label of either direction can have among its characters. -/
private def commonDirections : List Direction :=
  [.europeanNumber, .europeanSeparator, .commonSeparator, .europeanTerminator, .otherNeutral,
    .boundaryNeutral, .mark]

/-- The last direction of a label but those of the marks at its end. -/
private def lastDirection? (directions : List Direction) : Option Direction :=
  (directions.reverse.dropWhile (· == .mark)).head?

/-- Whether a label of a name that has a label written from right to left keeps its direction. -/
private def keepsDirection (label : List Char) : Bool :=
  let directions := label.map Direction.of
  let has (direction : Direction) : Bool := directions.contains direction
  match directions, lastDirection? directions with
  | [], _ => true
  | _, none => false
  | first :: _, some last =>
    if isBackward first then
      directions.all (fun direction =>
        isBackward direction || direction == .arabicNumber ||
          commonDirections.contains direction) &&
      (isBackward last || last == .europeanNumber || last == .arabicNumber) &&
      !(has .europeanNumber && has .arabicNumber)
    else if first == .leftToRight then
      directions.all (fun direction =>
        direction == .leftToRight || commonDirections.contains direction) &&
      (last == .leftToRight || last == .europeanNumber)
    else false

/-- Whether a label has characters that are written from right to left. -/
def isBackwardLabel (label : List Char) : Bool :=
  label.any fun c =>
    let direction := Direction.of c
    isBackward direction || direction == .arabicNumber

/-- Whether a name can hold a character as it is. -/
def isStable (c : Char) : Bool := NameMapping.map? c == some [c]

/-- The greatest number of characters beyond ASCII labels. -/
def encodeLimit : Nat := 1000

/-- The greatest number of digits of a marked label. -/
def decodeLimit : Nat := 2000

/-- The label that marked digits stand for; none when it is plain ASCII, or is not written in its
one way. -/
private def unmark? (digits : List Char) : Option (List Char) := do
  if decodeLimit < digits.length then none
  let label ← Punycode.decode? digits
  if label.any (fun c => 128 ≤ c.toNat) && label.all isStable &&
      Composition.compose label == label && Punycode.encode label == digits then
    some label
  else none

/-- A label, read from its ASCII form if it is marked. -/
def label? (label : List Char) : Option (List Char) := do
  let label ←
    match label with
    | 'x' :: 'n' :: '-' :: '-' :: digits =>
      if digits.all fun c => c.toNat < 128 then unmark? digits else none
    | _ => some label
  if label.head?.any isMark || label.any isDenied || !joinsWell [] label then none else some label

/-- The ASCII form of a label. -/
def asciiLabel? (label : List Char) : Option (List Char) :=
  if label.all fun c => c.toNat < 128 then some label
  else if encodeLimit < label.length then none
  else some ('x' :: 'n' :: '-' :: '-' :: Punycode.encode label)

/-- The labels of a name, in their readable form; none when it has no ASCII form. -/
def labels? (name : List Char) : Option (List (List Char)) := do
  let mapped ← name.mapM NameMapping.map?
  let labels ← (Text.splitOn '.' (Composition.compose mapped.flatten)).mapM label?
  if labels.any isBackwardLabel && !labels.all keepsDirection then none else some labels

/-- The ASCII form of a name; none when it has no such form. -/
def toAscii? (name : List Char) : Option (List Char) := do
  let labels ← labels? name
  let written ← labels.mapM asciiLabel?
  some (['.'].intercalate written)

end EventDelivery.Domain
