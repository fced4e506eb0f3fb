import EventDelivery.Text.Blank
import EventDelivery.Url.Basic
/-!
# Reading URLs

The parts of a URL text. Blanks around it, tabs and line ends do not count, in the web schemes
backslashes are slashes, and steps to the same or the upper segment are taken.
-/

namespace EventDelivery.Url

/-- The text without what does not count. -/
def significant (s : String) : List Char :=
  (Text.trimBy (fun c => c.toNat ≤ 0x20) s.toList).filter fun c =>
    c ≠ '\t' && c ≠ '\n' && c ≠ '\r'

/-- The part before a mark and, when the mark is there, what follows it. -/
def cut (mark : Char) (cs : List Char) : List Char × Option (List Char) :=
  match Text.splitFirst? mark cs with
  | some (before, after) => (before, some after)
  | none => (cs, none)

/-- The scheme in small letters, and what follows the colon. -/
def scheme? (cs : List Char) : Option (String × List Char) :=
  match Text.splitFirst? ':' cs with
  | some (c :: name, rest) =>
    if Text.isLetter c && name.all fun d => Text.isLetterOrDigit d || "+-.".toList.contains d then
      some (Text.lower (String.ofList (c :: name)), rest)
    else none
  | _ => none

def isSlash (special : Bool) (c : Char) : Bool := c == '/' || (special && c == '\\')

def divide (special : Bool) (cs : List Char) : List (List Char) :=
  Text.splitOn '/' (if special then cs.map fun c => if c = '\\' then '/' else c else cs)

/-- Points of a segment, escaped or not; none when there is anything else. -/
def points? : List Char → Option Nat
  | [] => some 0
  | '.' :: rest => (points? rest).map (· + 1)
  | '%' :: '2' :: e :: rest => if e = 'e' ∨ e = 'E' then (points? rest).map (· + 1) else none
  | _ => none
termination_by structural cs => cs

/-- Takes the steps of segments; `taken` holds the segments so far, last first. -/
def walk (taken : List String) : List (List Char) → List String
  | [] => taken.reverse
  | segment :: rest =>
    match points? segment with
    | some 1 => if rest.isEmpty then ("" :: taken).reverse else walk taken rest
    | some 2 =>
      if rest.isEmpty then ("" :: taken.tail).reverse else walk taken.tail rest
    | _ => walk (String.ofList (Percent.encode Percent.inPath segment) :: taken) rest

/-- The segments of a path text; without its first slash. -/
def segments (special : Bool) (cs : List Char) : UrlPath := .segments (walk [] (divide special cs))

def pathAfterHost (special : Bool) : List Char → UrlPath
  | [] => if special then .segments [""] else .segments []
  | c :: rest => if isSlash special c then segments special rest else segments special (c :: rest)

/-- User name and password of the text before the sign. -/
def readUser (cs : List Char) : String × Option String :=
  let encode (part : List Char) : String := String.ofList (Percent.encode Percent.inUser part)
  match Text.splitFirst? ':' cs with
  | some (name, []) => (encode name, none)
  | some (name, password) => (encode name, some (encode password))
  | none => (encode cs, none)

/-- Divides host and port at the first colon outside of brackets. -/
def splitPort (inside : Bool) : List Char → List Char × Option (List Char)
  | [] => ([], none)
  | c :: rest =>
    if c = ':' ∧ !inside then ([], some rest)
    else
      let within := if c = '[' then true else if c = ']' then false else inside
      let (host, port) := splitPort within rest
      (c :: host, port)

/-- The port of its digits; none when there are none or it is the usual one. -/
private def readPort (scheme : String) (digits : List Char) : Except UrlFault (Option UInt16) :=
  if !digits.all Char.isDigit then .error .invalidPort
  else
    let value := digits.foldl (fun total c => 10 * total + (c.toNat - '0'.toNat)) 0
    if 65535 < value then .error .invalidPort
    else if digits.isEmpty ∨ usualPort scheme = some value then .ok none
    else .ok (some (UInt16.ofNat value))

/-- Reads what stands between the slashes and the path; `more` says whether anything follows. -/
def readAuthority (scheme : String) (more : Bool) (cs : List Char) :
    Except UrlFault (String × Option String × Host × Option UInt16) := do
  let special := isSpecial scheme
  let (before, place) :=
    match Text.splitLast? '@' cs with
    | some (before, after) => (some before, after)
    | none => (none, cs)
  if before = some [] ∧ place = [] ∧ more then throw .emptyHost
  let (username, password) := readUser (before.getD [])
  let (hostText, portText) := splitPort false place
  if hostText.isEmpty ∧ (special ∨ portText.isSome) then throw .emptyHost
  let host ← if special then Host.ofWeb hostText else Host.ofOther hostText
  let number ← readPort scheme (portText.getD [])
  if hostText.isEmpty ∧ (username ≠ "" ∨ password.isSome) then throw .emptyHost
  return (username, password, host, number)

/-- Reads what follows the scheme, up to the query: a URL without query and fragment. -/
def hierarchy (scheme : String) (more : Bool) (cs : List Char) : Except UrlFault Url :=
  let special := isSpecial scheme
  let afterSlashes (rest : List Char) : Except UrlFault Url := do
    let inHost (c : Char) : Bool := !isSlash special c
    let path := rest.dropWhile inHost
    let (username, password, host, port) ←
      readAuthority scheme (more || !path.isEmpty) (rest.takeWhile inHost)
    return {
      scheme, username, password, host := some host, port, path := pathAfterHost special path }
  if scheme = "file" then
    match cs with
    | a :: b :: rest =>
      if isSlash true a && isSlash true b then do
        let hostText := rest.takeWhile fun c => !isSlash true c
        let host ← if hostText.isEmpty then pure (Host.name "") else Host.ofWeb hostText
        let shown := if host = .name "localhost" then .name "" else host
        return {
          scheme, host := some shown
          path := pathAfterHost true (rest.dropWhile fun c => !isSlash true c) }
      else .ok { scheme, host := some (.name ""), path := pathAfterHost true cs }
    | _ => .ok { scheme, host := some (.name ""), path := pathAfterHost true cs }
  else if special then afterSlashes (cs.dropWhile (isSlash true))
  else
    match cs with
    | '/' :: '/' :: rest => afterSlashes rest
    | '/' :: rest => .ok { scheme, path := segments false rest }
    | _ => .ok { scheme, path := .whole (String.ofList (Percent.encode Percent.isPlain cs)) }

/-- Reads a URL. -/
def parse (s : String) : Except UrlFault Url :=
  match scheme? (significant s) with
  | none => .error .schemeMissing
  | some (scheme, rest) => do
    let (rest, fragment) := cut '#' rest
    let (rest, query) := cut '?' rest
    let url ← hierarchy scheme (query.isSome || fragment.isSome) rest
    return { url with
      query := query.map fun cs =>
        String.ofList (Percent.encode (Percent.inQuery (isSpecial scheme)) cs)
      fragment := fragment.map fun cs => String.ofList (Percent.encode Percent.inFragment cs) }

end EventDelivery.Url
