import EventDelivery.Pattern.Escape
/-!
# The plain grammar of patterns

Patterns are checked against a plain grammar first. Texts that leave it only by looking around or by
referring back are patterns as well, but of a wider grammar, in which digits, blanks and word
characters are those of all writings; in the plain one they are those of ASCII.
-/

namespace EventDelivery.Pattern

/-- What is known of a group that is still open, or of the pattern itself. Heights are those of the
tree that the text describes. -/
structure Level where
  /-- Whether blanks and comments do not count. -/
  spaced : Bool := false
  /-- The number of parts of the branch that is read. -/
  parts : Nat := 0
  /-- The height of the last part. -/
  last : Nat := 0
  /-- The greatest height of its parts. -/
  height : Nat := 0
  /-- The greatest height of the branches before, if there are any. -/
  finished : Option Nat := none
  /-- Whether there is something before that can be repeated. -/
  repeatable : Bool := false

namespace Level

/-- Adds a part of the given height. -/
def add (level : Level) (height : Nat) : Level :=
  { level with
    parts := level.parts + 1, last := height, height := max level.height height
    repeatable := true }

def repeatLast (level : Level) : Level :=
  let last := level.last + 1
  { level with last, height := max level.height last }

/-- The height of the branch that is read. -/
def branchHeight (level : Level) : Nat := level.height + (if 1 < level.parts then 1 else 0)

/-- Starts the next branch. -/
def divide (level : Level) : Level :=
  { spaced := level.spaced
    finished := some (max (level.finished.getD 0) level.branchHeight) }

/-- The height of all branches together. -/
def totalHeight (level : Level) : Nat :=
  match level.finished with
  | some height => max height level.branchHeight + 1
  | none => level.branchHeight

end Level

/-- Where the check of a pattern stands. -/
structure Scan where
  /-- What is read of the innermost group. -/
  level : Level := {}
  /-- What was read of the groups around it, the innermost first. -/
  outer : List Level := []
  names : List String := []
  /-- Whether the bell was escaped. -/
  bell : Bool := false

namespace Scan

/-- The greatest height that a pattern can have. -/
def heightLimit : Nat := 250

/-- Reads digits with blanks around them. -/
private def readCount? (spaced : Bool) (cs : List Char) : Option (Nat × List Char) :=
  let (digits, rest) :=
    takeKeptWhile spaced Char.isDigit (cs.length + 1) (cs.dropWhile Text.isBlank)
  let value := Text.digitsValue digits
  if digits.isEmpty ∨ 4294967296 ≤ value then none
  else some (value, skip spaced (rest.dropWhile Text.isBlank))

/-- Reads the counts of a repetition after the opening brace. -/
def readCounts? (spaced : Bool) (cs : List Char) : Option (List Char) := do
  let (least, cs) ← readCount? spaced (skip spaced cs)
  match cs with
  | '\x7d' :: rest => some rest
  | ',' :: rest =>
    match skip spaced rest with
    | '\x7d' :: rest => some rest
    | rest => do
      let (greatest, rest) ← readCount? spaced rest
      match rest with
      | '\x7d' :: rest => if least ≤ greatest then some rest else none
      | _ => none
  | _ => none

/-- Drops the sign that makes a repetition as short as possible. -/
private def dropShort : List Char → List Char
  | '?' :: rest => rest
  | cs => cs

/-- A character of the name of a group. -/
private def isNameChar (first : Bool) (c : Char) : Bool :=
  if first then c == '_' || Character.isAlphabetic c
  else c == '_' || c == '.' || c == '[' || c == ']' || Character.isAlphanumeric c

/-- Whether a text can be the name of a group. -/
def isName : List Char → Bool
  | [] => false
  | c :: rest => isNameChar true c && rest.all (isNameChar false)

def enter (scan : Scan) (spaced : Bool) : Scan :=
  { scan with level := { spaced }, outer := scan.level :: scan.outer }

def enterNamed (scan : Scan) (cs : List Char) : Except Refusal (Scan × List Char) :=
  match Text.splitFirst? '>' cs with
  | some (name, rest) =>
    let text := String.ofList name
    if isName name && !scan.names.contains text then
      .ok ({ scan.enter scan.level.spaced with names := text :: scan.names }, rest)
    else .error .malformed
  | none => .error .malformed

/-- Whether signs for modes are allowed together: each once, with a minus sign before those that are
switched off. -/
def areModes (modes : List Char) : Bool :=
  modes.all (fun c => "imsUuRx-".toList.contains c) && modes.eraseDups.length == modes.length &&
    modes.getLast? != some '-'

/-- Whether blanks do not count after modes. -/
private def spacedAfter (modes : List Char) (before : Bool) : Bool :=
  if (modes.takeWhile (· != '-')).contains 'x' then true
  else if modes.contains 'x' then false
  else before

/-- Sets modes, for a group or for what follows. -/
private def enterModes (scan : Scan) (cs : List Char) : Except Refusal (Scan × List Char) :=
  let modes := cs.takeWhile fun c => c != ':' && c != ')'
  if !areModes modes then .error .malformed
  else
    let spaced := spacedAfter modes scan.level.spaced
    match cs.drop modes.length with
    | ':' :: rest => .ok (scan.enter spaced, rest)
    | ')' :: rest =>
      if modes.isEmpty then .error .malformed
      else .ok ({ scan with level := { scan.level.add 0 with spaced, repeatable := false } }, rest)
    | _ => .error .malformed

private def enterAny (scan : Scan) (cs : List Char) : Except Refusal (Scan × List Char) :=
  match skip scan.level.spaced cs with
  | '?' :: '=' :: _ | '?' :: '!' :: _ | '?' :: '<' :: '=' :: _ | '?' :: '<' :: '!' :: _ =>
    .error .beyond
  | '?' :: 'P' :: '<' :: rest | '?' :: '<' :: rest => scan.enterNamed rest
  | '?' :: rest => scan.enterModes rest
  | rest => .ok (scan.enter scan.level.spaced, rest)

/-- Adds a part of the given height. -/
def add (scan : Scan) (height : Nat) : Scan := { scan with level := scan.level.add height }

def pass (scan : Scan) (c : Char) (rest : List Char) : Except Refusal (Scan × List Char) :=
  let spaced := scan.level.spaced
  let repeated : Scan := { scan with level := scan.level.repeatLast }
  if c = '(' then scan.enterAny rest
  else if c = ')' then
    match scan.outer with
    | level :: outer =>
      .ok ({ scan with level := level.add (scan.level.totalHeight + 1), outer }, rest)
    | [] => .error .malformed
  else if c = '|' then .ok ({ scan with level := scan.level.divide }, rest)
  else if c = '[' then do
    let (_, rest) ← readClass false spaced (2 * rest.length + 2) rest
    return (scan.add 1, rest)
  else if c = '?' ∨ c = '*' ∨ c = '+' then
    if scan.level.repeatable then .ok (repeated, dropShort rest) else .error .malformed
  else if c = '\x7b' then
    match readCounts? spaced rest with
    | some rest =>
      if scan.level.repeatable then .ok (repeated, dropShort (skip spaced rest))
      else .error .malformed
    | none => .error .malformed
  else if c = '\\' then do
    let (escaped, rest) ← readEscape false spaced rest
    match escaped with
    | .bell => return ({ scan.add 0 with bell := true }, rest)
    | _ => return (scan.add 0, rest)
  else .ok (scan.add 0, rest)

/-- The ASCII members of a letter that stands for a class. -/
private def narrowSet? : Char → Option String
  | 'd' => some "[0-9]"
  | 'D' => some "[^0-9]"
  | 'w' => some "[A-Za-z0-9_]"
  | 'W' => some "[^A-Za-z0-9_]"
  | 's' => some "[ \t\n\r\x0b\x0c\u00a0\ufeff\u2003\u2029]"
  | 'S' => some "[^ \t\n\r\x0b\x0c\u00a0\ufeff\u2003\u2029]"
  | _ => none

/-- Writes out the letters that stand for classes, except in comments. -/
def narrow (spaced inComment : Bool) : List Char → List Char
  | '\\' :: c :: rest =>
    match inComment, narrowSet? c with
    | false, some set => set.toList ++ narrow spaced false rest
    | _, _ => '\\' :: c :: narrow spaced (inComment && c != '\n') rest
  | c :: rest => c :: narrow spaced (if inComment then c != '\n' else spaced && c == '#') rest
  | [] => []
termination_by structural cs => cs

/-- Checks a whole pattern, and writes out the letters that stand for classes; `fuel` is more than
its length. The bell has no escape in the end. -/
def run : Nat → Scan → List Char → Except Refusal (List Char)
  | 0, _, _ => .error .malformed
  | fuel + 1, scan, cs =>
    match skip scan.level.spaced cs with
    | [] =>
      if scan.outer.isEmpty && !scan.bell && scan.level.totalHeight ≤ heightLimit then .ok cs
      else .error .malformed
    | c :: rest => do
      let (next, rest) ← scan.pass c rest
      let passed := cs.take (cs.length - rest.length)
      return narrow scan.level.spaced false passed ++ (← run fuel next rest)

end Scan

namespace Wording

/-- Checks a text, naming control characters one after the other, and gives the text that is read:
in the plain grammar letters stand for ASCII classes. `fuel` is more than its length. -/
def resolve? : Nat → List Char → Option (List Char)
  | 0, _ => none
  | fuel + 1, cs =>
    match Scan.run (cs.length + 1) {} cs with
    | .ok text => some text
    | .error .beyond => some cs
    | .error .malformed => none
    | .error (.control []) => none
    | .error (.control (letter :: rest)) =>
      if Text.isLetter letter then
        let before := cs.take (cs.length - rest.length - 3)
        resolve? fuel (before ++ Char.ofNat (letter.toNat % 32) :: rest)
      else none

/-- The wording of a text that is a pattern, as it is read. -/
def ofText? (cs : List Char) : Option (List Char) := resolve? (cs.length + 1) cs

end Wording

end EventDelivery.Pattern
