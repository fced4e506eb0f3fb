import EventDelivery.Address.Numeric
/-!
# Absolute locators

Locators with a scheme, in the strict ASCII form: scheme, authority, path, query and fragment, each
of its own characters, with percent signs only before two hexadecimal digits.
-/

namespace EventDelivery.Locator

/-- A character that never has to be escaped. -/
def isUnreserved (c : Char) : Bool :=
  Text.isLetterOrDigit c || "-._~".toList.contains c

/-- A character that separates inside of parts. -/
def isInner (c : Char) : Bool := "!$&'()*+,;=".toList.contains c

/-- Text of the given characters and of escapes. -/
def isEscapedText (allowed : Char → Bool) : List Char → Bool
  | [] => true
  | '%' :: a :: b :: rest => Text.isHexDigit a && Text.isHexDigit b && isEscapedText allowed rest
  | c :: rest => c != '%' && allowed c && isEscapedText allowed rest

/-- A character of a path segment. -/
def isPathChar (c : Char) : Bool := isUnreserved c || isInner c || c == ':' || c == '@'

/-- A character of a query or a fragment. -/
def isQueryChar (c : Char) : Bool := isPathChar c || c == '/' || c == '?'

/-- An address of the future form: a version after `v`, then anything. -/
private def isFutureAddress : List Char → Bool
  | v :: rest =>
    (v == 'v' || v == 'V') &&
    match Text.splitFirst? '.' rest with
    | some (version, address) =>
      !version.isEmpty && version.all Text.isHexDigit && !address.isEmpty &&
        address.all fun c => isUnreserved c || isInner c || c == ':'
    | none => false
  | [] => false

/-- A host and, after a colon, the digits of a port. -/
private def isHostAndPort (cs : List Char) : Bool :=
  match cs with
  | '[' :: rest =>
    match Text.splitFirst? ']' rest with
    | some (address, after) =>
      ((Address.eight? address).isSome || isFutureAddress address) &&
        (after.isEmpty || (after.head? == some ':' && after.tail.all Char.isDigit))
    | none => false
  | _ =>
    match Text.splitLast? ':' cs with
    | some (host, port) =>
      isEscapedText (fun c => isUnreserved c || isInner c) host && port.all Char.isDigit
    | none => isEscapedText (fun c => isUnreserved c || isInner c) cs

/-- What stands between two slashes and the path. -/
private def isAuthority (cs : List Char) : Bool :=
  match Text.splitLast? '@' cs with
  | some (user, host) =>
    isEscapedText (fun c => isUnreserved c || isInner c || c == ':') user && isHostAndPort host
  | none => isHostAndPort cs

/-- What follows the scheme, up to the query. -/
def isHierarchy : List Char → Bool
  | '/' :: '/' :: rest =>
    isAuthority (rest.takeWhile (· ≠ '/')) &&
      isEscapedText (fun c => isPathChar c || c == '/') (rest.dropWhile (· ≠ '/'))
  | path => isEscapedText (fun c => isPathChar c || c == '/') path

def isScheme : List Char → Bool
  | c :: rest =>
    Text.isLetter c && rest.all fun d => Text.isLetterOrDigit d || d == '+' || d == '-' || d == '.'
  | [] => false

/-- The part before a mark, and what follows the mark; everything when there is none. -/
def cut (mark : Char) (cs : List Char) : List Char × List Char :=
  (Text.splitFirst? mark cs).getD (cs, [])

def isAbsolute (cs : List Char) : Bool :=
  let (body, fragment) := cut '#' cs
  let (body, query) := cut '?' body
  match Text.splitFirst? ':' body with
  | some (scheme, rest) =>
    isScheme scheme && isHierarchy rest && isEscapedText isQueryChar query &&
      isEscapedText isQueryChar fragment
  | none => false

end EventDelivery.Locator
