import EventDelivery.Address.Numeric
import EventDelivery.Text.Blank
/-!
# Names and mail addresses

Host names of letters, digits and hyphens, and the addresses of mail boxes.
-/

namespace EventDelivery.Address

/-- The number of octets of a character list. -/
def octets (cs : List Char) : Nat := cs.foldl (fun total c => total + c.utf8Size) 0

/-- A part of a host name: letters, digits and inner hyphens. -/
private def isLabel (isWordChar : Char → Bool) (cs : List Char) : Bool :=
  !cs.isEmpty && cs.length ≤ 63 && cs.all (fun c => isWordChar c || c == '-') &&
    cs.head? != some '-' && cs.getLast? != some '-'

/-- A host name of at most 253 characters. -/
def isHostName (cs : List Char) : Bool :=
  cs.length ≤ 253 && (Text.splitOn '.' cs).all (isLabel Text.isLetterOrDigit)

/-- Whether a character is beyond ASCII. -/
def isBeyondAscii (c : Char) : Bool := 0x80 ≤ c.toNat

/-- A character of an unquoted mail box name. -/
private def isAtomChar (c : Char) : Bool :=
  Text.isLetterOrDigit c || "!#$%&'*+-/=?^_\x60\x7b|\x7d~".toList.contains c || isBeyondAscii c

/-- A nonempty run of mail box characters. -/
private def isAtom (cs : List Char) : Bool := !cs.isEmpty && cs.all isAtomChar

/-- Whether a character can be seen, ASCII only. -/
private def isVisible (c : Char) : Bool := 0x21 ≤ c.toNat && c.toNat ≤ 0x7e

/-- What may stand between the quotes of a mail box name. -/
def isQuotedContent : List Char → Bool
  | [] => true
  | ['\\'] => false
  | '\\' :: c :: rest => isVisible c && isQuotedContent rest
  | c :: rest =>
    (c == ' ' || c == '\t' || (isVisible c && c != '"') || isBeyondAscii c) && isQuotedContent rest

/-- The name of a mail box before the sign. -/
private def isMailbox (cs : List Char) : Bool :=
  !cs.isEmpty && octets cs ≤ 64 &&
  if cs.head? = some '"' ∧ cs.getLast? = some '"' then
    3 ≤ cs.length && isQuotedContent cs.tail.dropLast
  else (Text.splitOn '.' cs).all isAtom

/-- What stands after the last opening bracket that follows a space. -/
private def bracketed? (cs : List Char) : Option (List Char) :=
  go cs none
where
  /-- Remembers what follows the brackets found so far. -/
  go : List Char → Option (List Char) → Option (List Char)
    | ' ' :: '<' :: rest, _ => go rest (some rest)
    | _ :: rest, found => go rest found
    | [], found => found

/-- The domain of a mail address, in brackets or a name. -/
private def isMailDomain (isName : List Char → Bool) (cs : List Char) : Bool :=
  !cs.isEmpty && octets cs ≤ 254 &&
  if cs.head? = some '[' ∧ cs.getLast? = some ']' then
    let inner := cs.tail.dropLast
    match inner with
    | 'I' :: 'P' :: 'v' :: '6' :: ':' :: address => (eight? address).isSome
    | address => (four? address).isSome
  else (Text.splitOn '.' cs).all (fun label => octets label ≤ 63) && isName cs

/-- A mail address without a name for display. -/
private def isBareMail (isName : List Char → Bool) (cs : List Char) : Bool :=
  match Text.splitLast? '@' cs with
  | some (mailbox, domain) => isMailbox mailbox && isMailDomain isName domain
  | none => false

/-- A mail address; a name for display may stand before the address in brackets. -/
def isMail (isName : List Char → Bool) (cs : List Char) : Bool :=
  match bracketed? cs with
  | some inner =>
    let trimmed := Text.trimChars inner
    trimmed.getLast? == some '>' && isBareMail isName trimmed.dropLast
  | none => isBareMail isName cs

end EventDelivery.Address
