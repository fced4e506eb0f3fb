/-!
# Lists of characters

Splitting at a separator, and the classes of ASCII characters that names and addresses are made of.
-/

namespace EventDelivery.Text

/-- The parts of a character list between separators. -/
def splitOn (separator : Char) : List Char → List (List Char)
  | [] => [[]]
  | c :: rest =>
    if c = separator then [] :: splitOn separator rest
    else
      match splitOn separator rest with
      | [] => [[c]]
      | part :: parts => (c :: part) :: parts

/-- What stands before and after the first separator. -/
def splitFirst? (separator : Char) (cs : List Char) : Option (List Char × List Char) :=
  match cs.dropWhile (· ≠ separator) with
  | [] => none
  | _ :: after => some (cs.takeWhile (· ≠ separator), after)

/-- What stands before and after the last separator. -/
def splitLast? (separator : Char) (cs : List Char) : Option (List Char × List Char) :=
  (splitFirst? separator cs.reverse).map fun (after, before) => (before.reverse, after.reverse)

/-- What stands before and after the first occurrence of a phrase. -/
def splitPhrase? (phrase : List Char) : List Char → Option (List Char × List Char)
  | [] => if phrase.isEmpty then some ([], []) else none
  | c :: rest =>
    if phrase.isPrefixOf (c :: rest) then some ([], (c :: rest).drop phrase.length)
    else (splitPhrase? phrase rest).map fun (before, after) => (c :: before, after)

def isLetter (c : Char) : Bool := c.isAlpha

def isLetterOrDigit (c : Char) : Bool := c.isAlphanum

def isHexDigit (c : Char) : Bool :=
  c.isDigit || ('a' ≤ c && c ≤ 'f') || ('A' ≤ c && c ≤ 'F')

/-- The value of a hexadecimal digit, zero for other characters. -/
def hexDigitValue (c : Char) : Nat :=
  if c.isDigit then c.toNat - '0'.toNat
  else if 'a' ≤ c ∧ c ≤ 'f' then c.toNat - 'a'.toNat + 10
  else if 'A' ≤ c ∧ c ≤ 'F' then c.toNat - 'A'.toNat + 10
  else 0

/-- Whether all characters are ASCII digits and there is at least one. -/
def isDigits (cs : List Char) : Bool := !cs.isEmpty && cs.all Char.isDigit

/-- Small letters for capital ones, ASCII only. -/
def lower (s : String) : String := String.ofList (s.toList.map Char.toLower)

/-- Capital letters for small ones, ASCII only. -/
def upper (s : String) : String := String.ofList (s.toList.map Char.toUpper)

end EventDelivery.Text
