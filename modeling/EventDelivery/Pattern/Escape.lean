import EventDelivery.Pattern.Class
/-!
# Escapes in patterns

What a backslash and the characters after it stand for in the plain grammar of patterns, and the
notation of classes in brackets, which is made of such escapes.
-/

namespace EventDelivery.Pattern

/-- Why a text is not of the plain grammar. -/
inductive Refusal where
  /-- It looks around or refers back, for which the plain grammar has no signs. -/
  | beyond
  /-- It names a control character; what follows the sign for that. -/
  | control (rest : List Char)
  /-- It is of no grammar. -/
  | malformed

/-- What an escape stands for. -/
inductive Escaped where
  | character (c : Char)
  /-- The bell, which has an escape of its own. -/
  | bell
  | members (set : CharClass)
  | place

/-- The characters that have a meaning in patterns. -/
def hasMeaning (c : Char) : Bool := "\\.+*?()|[]\x7b\x7d^$#&-~".toList.contains c

/-- Whether a backslash makes a character stand for itself. -/
private def isEscapable (c : Char) : Bool :=
  hasMeaning c || (c.toNat < 128 && !Text.isLetterOrDigit c && c ≠ '<' && c ≠ '>')

/-- The value of hexadecimal digits as a character. -/
def hexCharacter? (digits : List Char) : Option Char :=
  let code := Ranges.hexValue digits
  if !digits.isEmpty && digits.all Text.isHexDigit && decide code.isValidChar then
    some (Char.ofNat code)
  else none

/-- Drops blanks and comments where they do not count. -/
def skipFrom (inComment : Bool) : List Char → List Char
  | [] => []
  | c :: rest =>
    if inComment then skipFrom (c != '\n') rest
    else if c = '#' then skipFrom true rest
    else if Text.isBlank c then skipFrom false rest
    else c :: rest

/-- Drops what does not count: blanks and comments when `spaced` says that they do not. -/
def skip (spaced : Bool) (cs : List Char) : List Char := if spaced then skipFrom false cs else cs

/-- Takes a number of characters, leaving out what does not count before each. -/
private def takeKept? (spaced : Bool) : Nat → List Char → Option (List Char × List Char)
  | 0, cs => some ([], cs)
  | count + 1, cs =>
    match skip spaced cs with
    | c :: rest => (takeKept? spaced count rest).map fun (taken, rest) => (c :: taken, rest)
    | [] => none

/-- Takes characters while a test holds, leaving out what does not count before each; `fuel` is more
than their number. -/
def takeKeptWhile (spaced : Bool) (test : Char → Bool) : Nat → List Char → List Char × List Char
  | 0, cs => ([], cs)
  | fuel + 1, cs =>
    match skip spaced cs with
    | c :: rest =>
      if test c then
        let (taken, rest) := takeKeptWhile spaced test fuel rest
        (c :: taken, rest)
      else ([], c :: rest)
    | [] => ([], [])

/-- Takes what stands before the next closing brace. -/
def takeBraced? (spaced : Bool) (cs : List Char) : Option (List Char × List Char) :=
  match takeKeptWhile spaced (· != '\x7d') (cs.length + 1) cs with
  | (taken, _ :: rest) => some (taken, rest)
  | (_, []) => none

/-- Reads a character by its code: a fixed number of digits, or any number of them in braces. -/
def readHex (spaced : Bool) (width : Nat) (cs : List Char) : Except Refusal (Escaped × List Char) :=
  let found :=
    match skip spaced cs with
    | '\x7b' :: rest => takeBraced? spaced rest
    | cs => takeKept? spaced width cs
  match found with
  | some (digits, rest) =>
    match hexCharacter? digits with
    | some c => .ok (.character c, rest)
    | none => .error .malformed
  | none => .error .malformed

/-- Reads a property. One that does not exist holds for no character, unless `strict` refuses it. -/
def readProperty (strict spaced negated : Bool) (cs : List Char) :
    Except Refusal (Escaped × List Char) :=
  let make (set : Option CharClass) (rest : List Char) : Except Refusal (Escaped × List Char) :=
    if strict && set.isNone then .error .malformed
    else .ok (.members (CharClass.negateIf negated (set.getD .none)), rest)
  match skip spaced cs with
  | '\x7b' :: rest =>
    match takeBraced? spaced rest with
    | some (name, rest) => make (CharClass.ofBraced? name) rest
    | none => .error .malformed
  | c :: rest =>
    if c = '\\' then .error .malformed else make (CharClass.ofName? (String.ofList [c])) rest
  | [] => .error .malformed

/-- The places that stand in braces after the sign for the end of a word. -/
def wordPlaces : List String := ["start", "end", "start-half", "end-half"]

/-- Reads what follows the sign for the end of a word. Braces that hold no letters are left. -/
private def readWordPlace (spaced : Bool) (cs : List Char) : Except Refusal (Escaped × List Char) :=
  match cs with
  | '\x7b' :: rest =>
    match skip spaced rest with
    | c :: _ =>
      if Text.isLetter c || c == '-' then
        match takeBraced? spaced rest with
        | some (name, rest) =>
          if wordPlaces.contains (String.ofList name) then .ok (.place, rest)
          else .error .malformed
        | none => .error .malformed
      else .ok (.place, cs)
    | [] => .error .malformed
  | _ => .ok (.place, cs)

def readEscape (strict spaced : Bool) : List Char → Except Refusal (Escaped × List Char)
  | [] => .error .malformed
  | c :: rest =>
    if c.isDigit then .error .beyond
    else if isEscapable c then .ok (.character c, rest)
    else
      match CharClass.ofLetter? c with
      | some set => .ok (.members set, rest)
      | none =>
        match c with
        | 'x' => readHex spaced 2 rest
        | 'u' => readHex spaced 4 rest
        | 'U' => readHex spaced 8 rest
        | 'p' => readProperty strict spaced false rest
        | 'P' => readProperty strict spaced true rest
        | 'a' => .ok (.bell, rest)
        | 'f' => .ok (.character '\x0c', rest)
        | 't' => .ok (.character '\t', rest)
        | 'n' => .ok (.character '\n', rest)
        | 'r' => .ok (.character '\r', rest)
        | 'v' => .ok (.character '\x0b', rest)
        | 'A' | 'z' | 'B' | '<' | '>' => .ok (.place, rest)
        | 'b' => readWordPlace spaced rest
        | 'c' => .error (.control rest)
        | _ => .error .malformed

/-- Reads the name of an ASCII class after the bracket before it. -/
private def readAsciiClass? : List Char → Option (CharClass × List Char)
  | ':' :: cs =>
    let (negated, cs) :=
      match cs with
      | '^' :: rest => (true, rest)
      | _ => (false, cs)
    match Text.splitFirst? ':' cs with
    | some (name, ']' :: rest) =>
      (CharClass.ofAsciiName? (String.ofList name)).map fun set =>
        (CharClass.negateIf negated set, rest)
    | _ => none
  | _ => none

/-- Reads one end of a range, or a member of a class. -/
private def readEnd (strict spaced : Bool) : List Char → Except Refusal (Escaped × List Char)
  | [] => .error .malformed
  | '\\' :: rest => readEscape strict spaced rest
  | c :: rest => .ok (.character c, rest)

/-- The character of an end of a range. -/
def Escaped.character? : Escaped → Option Char
  | .character c => some c
  | .bell => some '\x07'
  | _ => none

/-- The members that an escape adds to a class. -/
def Escaped.set? : Escaped → Option CharClass
  | .members set => some set
  | other => other.character?.map CharClass.single

/-- Reads a range or a single member of a class. A hyphen before the closing bracket or before
another hyphen makes no range. -/
private def readMember (strict spaced : Bool) (cs : List Char) :
    Except Refusal (CharClass × List Char) := do
  let (first, after) ← readEnd strict spaced cs
  let single : Except Refusal (CharClass × List Char) :=
    match first.set? with
    | some set => .ok (set, after)
    | none => .error .malformed
  match skip spaced after with
  | [] => .error .malformed
  | '-' :: rest =>
    match skip spaced rest with
    | ']' :: _ | '-' :: _ => single
    | rest =>
      let (last, rest) ← readEnd strict spaced rest
      match first.character?, last.character? with
      | some a, some b => if a ≤ b then .ok (CharClass.range a b, rest) else .error .malformed
      | _, _ => .error .malformed
  | _ => single

mutual

/-- Reads a class after its opening bracket. Hyphens at its start are members, and so is a closing
bracket there. -/
def readClass (strict spaced : Bool) : Nat → List Char → Except Refusal (CharClass × List Char)
  | 0, _ => .error .malformed
  | fuel + 1, cs => do
    let cs := skip spaced cs
    let (negated, cs) :=
      match cs with
      | '^' :: rest => (true, skip spaced rest)
      | _ => (false, cs)
    let (hyphens, cs) := takeKeptWhile spaced (· == '-') (cs.length + 1) cs
    let (first, cs) :=
      match hyphens, cs with
      | [], ']' :: rest => ([CharClass.single ']'], rest)
      | _, _ => (hyphens.map CharClass.single, cs)
    let (set, rest) ← readMembers strict spaced fuel id first cs
    return (CharClass.negateIf negated set, rest)

/-- Reads the rest of a class. `join` combines what stands before the last operator with the members
after it, of which `items` are read. -/
def readMembers (strict spaced : Bool) : Nat → (CharClass → CharClass) → List CharClass →
    List Char → Except Refusal (CharClass × List Char)
  | 0, _, _, _ => .error .malformed
  | fuel + 1, join, items, cs =>
    let left := join (CharClass.unionAll items)
    match skip spaced cs with
    | [] => .error .malformed
    | ']' :: rest => .ok (left, rest)
    | '[' :: rest =>
      match readAsciiClass? rest with
      | some (set, rest) => readMembers strict spaced fuel join (items ++ [set]) rest
      | none => do
        let (set, rest) ← readClass strict spaced fuel rest
        readMembers strict spaced fuel join (items ++ [set]) rest
    | '&' :: '&' :: rest => readMembers strict spaced fuel (.intersection left) [] rest
    | '-' :: '-' :: rest => readMembers strict spaced fuel (CharClass.difference left) [] rest
    | '~' :: '~' :: rest =>
      readMembers strict spaced fuel
        (fun right => .union (CharClass.difference left right) (CharClass.difference right left))
        [] rest
    | cs => do
      let (set, rest) ← readMember strict spaced cs
      readMembers strict spaced fuel join (items ++ [set]) rest

end

end EventDelivery.Pattern
