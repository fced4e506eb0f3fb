import EventDelivery.Schema.Format.Locator
/-!
# Relative locators

A locator may leave out its first parts; they are then those of the locator that it is relative to.
-/

namespace EventDelivery.Locator

/-- A locator in its parts. -/
structure Parts where
  scheme : Option (List Char) := none
  authority : Option (List Char) := none
  path : List Char := []
  query : Option (List Char) := none
  fragment : Option (List Char) := none

/-- Divides at the first sign, if there is one. -/
def divide (sign : Char) (cs : List Char) : List Char × Option (List Char) :=
  match Text.splitFirst? sign cs with
  | some (before, after) => (before, some after)
  | none => (cs, none)

namespace Parts

def ofText (cs : List Char) : Parts :=
  let (body, fragment) := divide '#' cs
  let (body, query) := divide '?' body
  let (scheme, hierarchy) :=
    match Text.splitFirst? ':' body with
    | some (name, rest) => if isScheme name then (some name, rest) else (none, body)
    | none => (none, body)
  match hierarchy with
  | '/' :: '/' :: rest =>
    { scheme, authority := some (rest.takeWhile (· ≠ '/')), path := rest.dropWhile (· ≠ '/')
      query, fragment }
  | path => { scheme, path, query, fragment }

def toText (parts : Parts) : String :=
  String.ofList <|
    (match parts.scheme with
      | some scheme => scheme ++ [':']
      | none => []) ++
    (match parts.authority with
      | some authority => '/' :: '/' :: authority
      | none => []) ++
    parts.path ++
    (match parts.query with
      | some query => '?' :: query
      | none => []) ++
    match parts.fragment with
    | some fragment => '#' :: fragment
    | none => []

/-- Takes the steps of path segments to the same and to the upper level; `taken` holds the segments
so far, the last one first. -/
def walk (taken : List (List Char)) : List (List Char) → List (List Char)
  | [] => taken.reverse
  | segment :: rest =>
    if segment = ['.'] then walk (if rest.isEmpty then [] :: taken else taken) rest
    else if segment = ['.', '.'] then
      walk (if rest.isEmpty then [] :: taken.tail else taken.tail) rest
    else walk (segment :: taken) rest

/-- A path without steps to the same or the upper level. -/
def straighten (path : List Char) : List Char :=
  match path with
  | '/' :: rest => '/' :: ['/'].intercalate (walk [] (Text.splitOn '/' rest))
  | path => path

/-- The path of a locator relative to another one. -/
private def mergePath (base : Parts) (path : List Char) : List Char :=
  if base.authority.isSome ∧ base.path.isEmpty then '/' :: path
  else (base.path.reverse.dropWhile (· ≠ '/')).reverse ++ path

/-- A locator in full, by the one that it is relative to. -/
def resolve (base parts : Parts) : Parts :=
  match parts.scheme, parts.authority, parts.path with
  | some _, _, path => { parts with path := straighten path }
  | none, some _, path => { parts with scheme := base.scheme, path := straighten path }
  | none, none, [] =>
    { base with query := parts.query.or base.query, fragment := parts.fragment }
  | none, none, '/' :: rest =>
    { parts with
      scheme := base.scheme, authority := base.authority, path := straighten ('/' :: rest) }
  | none, none, path =>
    { parts with
      scheme := base.scheme, authority := base.authority
      path := straighten (mergePath base path) }

/-- Small letters in the scheme and in the authority. -/
def normalize (parts : Parts) : Parts :=
  { parts with
    scheme := parts.scheme.map (List.map Char.toLower)
    authority := parts.authority.map (List.map Char.toLower) }

end Parts

/-- A locator in full, by the one that it is relative to. -/
def resolve (base reference : String) : String :=
  ((Parts.ofText base.toList).resolve (Parts.ofText reference.toList)).normalize.toText

def withoutFragment (locator : String) : String :=
  String.ofList (divide '#' locator.toList).1

def scheme (locator : String) : String :=
  String.ofList ((Parts.ofText locator.toList).scheme.getD [])

/-- Why a text is no locator, not even a relative one. -/
inductive Unreadable where
  /-- It holds a character that locators do not hold. -/
  | character (position : Nat)
  /-- It holds a percent sign without two digits. -/
  | escape (position : Nat)
deriving DecidableEq

def Unreadable.message : Unreadable → String
  | .character position => "unexpected character at index " ++ toString position
  | .escape position => "invalid percent-encoded octet at index " ++ toString position

/-- The first fault of a text of the given characters and of escapes; positions count octets. -/
def unreadableIn (allowed : Char → Bool) (position : Nat) : List Char → Option Unreadable
  | [] => none
  | '%' :: rest =>
    match rest with
    | a :: b :: _ =>
      if Text.isHexDigit a && Text.isHexDigit b then unreadableIn allowed (position + 1) rest
      else some (.escape position)
    | _ => some (.escape position)
  | c :: rest =>
    if allowed c then unreadableIn allowed (position + c.utf8Size) rest
    else some (.character position)

/-- The first fault of a locator, which may be relative. -/
def unreadable? (cs : List Char) : Option Unreadable :=
  let parts := Parts.ofText cs
  let octets (part : List Char) : Nat :=
    part.foldl (fun total c => total + c.utf8Size) 0
  let optional (part : Option (List Char)) (signs : Nat) : Nat :=
    (part.map fun text => octets text + signs).getD 0
  let host := optional parts.scheme 1 + (if parts.authority.isSome then 2 else 0)
  let path := host + optional parts.authority 0
  let query := path + octets parts.path
  let fragment := query + optional parts.query 1
  let first := parts.path.takeWhile (· ≠ '/')
  let inPath (c : Char) : Bool := isPathChar c || c == '/'
  let colon :=
    if parts.scheme.isNone ∧ parts.authority.isNone ∧ first.contains ':' then
      some (Unreadable.character (path + octets (first.takeWhile (· ≠ ':'))))
    else none
  let inHost (c : Char) : Bool := isUnreserved c || isInner c || ":@[]".toList.contains c
  (((unreadableIn inHost host (parts.authority.getD [])).or colon).or
    (unreadableIn inPath path parts.path)).or
    ((unreadableIn isQueryChar (query + 1) (parts.query.getD [])).or
      (unreadableIn isQueryChar (fragment + 1) (parts.fragment.getD [])))

end EventDelivery.Locator
