import EventDelivery.Address.Numeric
import EventDelivery.Url.Domain
import EventDelivery.Url.Percent
/-!
# Hosts of URLs

Hosts are names or numeric addresses. In the web schemes a name that ends in a number is an address
of four numbers, in any of their notations.
-/

namespace EventDelivery

/-- What is wrong with a URL. -/
inductive UrlFault where
  | schemeMissing
  | emptyHost
  | invalidPort
  | invalidIpv4
  | invalidIpv6
  /-- A name has no ASCII form. -/
  | invalidName
  /-- A name outside of the web schemes has a character that separates. -/
  | invalidNameCharacter
deriving DecidableEq

def UrlFault.message : UrlFault → String
  | .schemeMissing => "relative URL without a base"
  | .emptyHost => "empty host"
  | .invalidPort => "invalid port number"
  | .invalidIpv4 => "invalid IPv4 address"
  | .invalidIpv6 => "invalid IPv6 address"
  | .invalidName => "invalid international domain name"
  | .invalidNameCharacter => "invalid domain character"

/-- A host. -/
inductive Host where
  | name (text : String)
  | ipv4 (value : Nat)
  | ipv6 (groups : List Nat)
deriving DecidableEq

namespace Host

/-- The number of a part of an address: decimal, octal after `0`, hexadecimal after `0x`. -/
def number? (cs : List Char) : Option Nat :=
  let read (base : Nat) (digits : List Char) : Option Nat :=
    if digits.all fun c => Text.isHexDigit c && Text.hexDigitValue c < base then
      some (digits.foldl (fun total c => base * total + Text.hexDigitValue c) 0)
    else none
  match cs with
  | [] => none
  | '0' :: 'x' :: digits | '0' :: 'X' :: digits => read 16 digits
  | '0' :: d :: digits => read 8 (d :: digits)
  | digits => read 10 digits

/-- The parts of a name between points, without the empty one after a final point. -/
def parts (name : List Char) : List (List Char) :=
  let all := Text.splitOn '.' name
  if all.length ≠ 1 ∧ all.getLast? = some [] then all.dropLast else all

/-- Whether the last part of a name is a number. -/
private def endsInNumber (name : List Char) : Bool :=
  match (parts name).getLast? with
  | some last => Text.isDigits last || (number? last).isSome
  | none => false

/-- The value of an address of one to four numbers; the last fills the octets that are left. -/
def ipv4? (name : List Char) : Option Nat := do
  let numbers ← (parts name).mapM number?
  let last ← numbers.getLast?
  let first := numbers.dropLast
  let scale := Nat.pow 256 (5 - numbers.length)
  if 4 < numbers.length ∨ first.any (255 < ·) ∨ scale ≤ last then none
  else some (first.foldl (fun total n => 256 * total + n) 0 * scale + last)

def bracketed (cs : List Char) : Except UrlFault Host :=
  if cs.getLast? = some ']' then
    match Address.eight? cs.dropLast with
    | some groups => .ok (.ipv6 groups)
    | none => .error .invalidIpv6
  else .error .invalidIpv6

/-- The host of a web scheme. -/
def ofWeb : List Char → Except UrlFault Host
  | '[' :: rest => bracketed rest
  | cs =>
    match (Text.decodeUtf8? (Percent.decode cs)).bind Domain.toAscii? with
    | none => .error .invalidName
    | some ascii =>
      if ascii.isEmpty then .error .emptyHost
      else if endsInNumber ascii then
        match ipv4? ascii with
        | some value => .ok (.ipv4 value)
        | none => .error .invalidIpv4
      else .ok (.name (String.ofList ascii))

def ofOther : List Char → Except UrlFault Host
  | '[' :: rest => bracketed rest
  | cs =>
    if cs.any fun c => "\x00\t\n\r #/:<>?@[\\]^|".toList.contains c then
      .error .invalidNameCharacter
    else .ok (.name (String.ofList (Percent.encode Percent.isPlain cs)))

/-- The length of the run of zeros at the start. -/
private def zeroRun (groups : List Nat) : Nat := (groups.takeWhile (· == 0)).length

/-- The longest run of zeros, the first of equal ones: its place and its length. -/
private def longestZeros : Nat → List Nat → Nat × Nat
  | place, [] => (place, 0)
  | place, group :: rest =>
    let here := zeroRun (group :: rest)
    let later := longestZeros (place + 1) rest
    if later.2 ≤ here then (place, here) else later

def groupsText (groups : List Nat) : String :=
  String.intercalate ":" (groups.map fun group => String.ofList (Nat.toDigits 16 group))

/-- The text of a host. Of the groups of an address the longest run of zeros is left out. -/
def toText : Host → String
  | .name text => text
  | .ipv4 value =>
    String.intercalate "." ([16777216, 65536, 256, 1].map fun unit => toString (value / unit % 256))
  | .ipv6 groups =>
    let (place, length) := longestZeros 0 groups
    if length < 2 then "[" ++ groupsText groups ++ "]"
    else
      "[" ++ groupsText (groups.take place) ++ "::" ++ groupsText (groups.drop (place + length)) ++
        "]"

end Host

end EventDelivery
