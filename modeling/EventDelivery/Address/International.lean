import EventDelivery.Address.Name
import EventDelivery.Character.Script
import EventDelivery.Url.Domain
/-!
# International host names

Host names beyond ASCII. They have an ASCII form that is a host name, and some of their signs stand
only beside characters of their own writing.
-/

namespace EventDelivery.Address

/-- Whether a label has no hyphen at its ends and no two of them where marks end. -/
private def hasPlainHyphens (label : List Char) : Bool :=
  label.head? != some '-' && label.getLast? != some '-' && (label.drop 2).take 2 != ['-', '-']

/-- Whether a character is a sign that names do not hold: signs that make letters longer, repeat
letters, or mark their tone. -/
def isBarred (c : Char) : Bool :=
  [0x640, 0x7fa, 0x302e, 0x302f, 0x303b].contains c.toNat || (0x3031 ≤ c.toNat && c.toNat ≤ 0x3035)

/-- Whether a character is of a writing with the given short name. -/
private def isOfScript (name : String) (c : Option Char) : Bool := (c.map Script.of) == some name

/-- Whether a sign stands beside the characters that it needs. -/
private def standsWell (before : Option Char) (sign : Char) (after : Option Char) : Bool :=
  match sign.toNat with
  | 0xb7 => before == some 'l' && after == some 'l'
  | 0x375 => isOfScript "Grek" after
  | 0x5f3 | 0x5f4 => isOfScript "Hebr" before
  | _ => !isBarred sign

/-- Whether all signs of a name stand beside the characters that they need. -/
private def allStandWell (before : Option Char) : List Char → Bool
  | [] => true
  | c :: rest => standsWell before c rest.head? && allStandWell (some c) rest

/-- Whether a name has a character of the writings in which a point divides words. -/
private def hasDividedWriting (name : List Char) : Bool :=
  name.any fun c =>
    c.toNat != 0x30fb &&
      ((0x3040 ≤ c.toNat && c.toNat ≤ 0x30ff) || (0x4e00 ≤ c.toNat && c.toNat ≤ 0x9fff))

/-- Whether a name has a character between two codes. -/
private def hasBetween (first last : Nat) (name : List Char) : Bool :=
  name.any fun c => first ≤ c.toNat && c.toNat ≤ last

/-- A host name that may have characters beyond ASCII. -/
def isWideHostName (cs : List Char) : Bool :=
  match Domain.labels? cs, Domain.toAscii? cs with
  | some labels, some ascii =>
    let name := ['.'].intercalate labels
    isHostName ascii && labels.all hasPlainHyphens && allStandWell none name &&
      (!hasBetween 0x30fb 0x30fb name || hasDividedWriting name) &&
      !(hasBetween 0x660 0x669 name && hasBetween 0x6f0 0x6f9 name)
  | _, _ => false

end EventDelivery.Address
