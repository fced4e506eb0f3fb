import EventDelivery.Text.Characters
import EventDelivery.Text.Utf8
/-!
# Percent escapes

Characters that a part of a URL cannot hold are written as their octets, each a percent sign and two
hexadecimal digits. Form values escape more, and write blanks as plus signs.
-/

namespace EventDelivery.Percent

def hexDigit (n : Nat) : Char := (Nat.digitChar n).toUpper

/-- The escape of an octet. -/
def escape (octet : UInt8) : List Char :=
  ['%', hexDigit (octet.toNat / 16), hexDigit (octet.toNat % 16)]

/-- Escapes the characters that are not kept. -/
def encode (keep : Char → Bool) (cs : List Char) : List Char :=
  cs.flatMap fun c => if keep c then [c] else (Text.utf8 c).flatMap escape

/-- The octets of a text with escapes; a percent sign without two digits stands for itself. -/
def decode : List Char → List UInt8
  | '%' :: a :: b :: rest =>
    if Text.isHexDigit a && Text.isHexDigit b then
      .ofNat (16 * Text.hexDigitValue a + Text.hexDigitValue b) :: decode rest
    else 0x25 :: decode (a :: b :: rest)
  | c :: rest => Text.utf8 c ++ decode rest
  | [] => []
termination_by structural cs => cs

/-- What every part can hold: ASCII without control characters. -/
def isPlain (c : Char) : Bool := 0x20 ≤ c.toNat && c.toNat ≤ 0x7e

def inFragment (c : Char) : Bool := isPlain c && !" \"<>\x60".toList.contains c

/-- What a query can hold; that of the web schemes cannot hold an apostrophe. -/
def inQuery (special : Bool) (c : Char) : Bool :=
  isPlain c && !" \"#<>".toList.contains c && !(special && c == '\'')

def inPath (c : Char) : Bool := isPlain c && !" \"<>\x60#?\x7b\x7d/".toList.contains c

/-- What a user name or a password can hold. -/
def inUser (c : Char) : Bool :=
  isPlain c && !" \"<>\x60#?\x7b\x7d/:;=@[\\]^|".toList.contains c

/-- What a form value keeps. -/
def inForm (c : Char) : Bool := Text.isLetterOrDigit c || "*-._".toList.contains c

def formValue (s : String) : List Char :=
  s.toList.flatMap fun c => if c = ' ' then ['+'] else encode inForm [c]

def readFormValue (cs : List Char) : String :=
  String.ofList (Text.decodeUtf8 (decode (cs.map fun c => if c = '+' then ' ' else c)))

def formPair (pair : String × String) : List Char :=
  formValue pair.1 ++ '=' :: formValue pair.2

/-- The pairs of a form text; empty pairs do not count. -/
def readForm (cs : List Char) : List (String × String) :=
  ((Text.splitOn '&' cs).filter fun part => !part.isEmpty).map fun part =>
    let (name, value) := (Text.splitFirst? '=' part).getD (part, [])
    (readFormValue name, readFormValue value)

end EventDelivery.Percent
