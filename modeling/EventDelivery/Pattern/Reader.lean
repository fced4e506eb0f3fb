import EventDelivery.Assoc
import EventDelivery.Pattern.Escape
import EventDelivery.Pattern.Expression
/-!
# Reading patterns

From the text of a pattern to its expression, in the wide grammar: with signs for looking around,
references to groups, ways that are final, conditions and comments.
-/

namespace EventDelivery.Pattern

/-- The modes in which a part of a pattern is read. -/
structure Modes where
  /-- Case does not count. -/
  caseless : Bool := false
  /-- Line ends are ends as those of the text are. -/
  lines : Bool := false
  /-- A point stands for line ends, too. -/
  pointForAll : Bool := false
  /-- Repetitions are short where they would be long. -/
  short : Bool := false
  /-- Blanks and comments do not count. -/
  spaced : Bool := false

/-- What an open bracket has opened. -/
inductive Opening where
  /-- Nothing: the pattern itself. -/
  | whole
  | group (number : Nat)
  | look (ahead negated : Bool)
  | atomic
  /-- Modes for what is inside; those before come back after it. -/
  | modes (before : Modes)
  | condition
  /-- What is done when a condition fits and when it does not; `left` is the number of characters
  after the condition. -/
  | branches (condition : Expression) (left : Nat)

/-- What is read of a bracket that is still open. -/
structure Frame where
  opening : Opening
  /-- The finished branches, the last one first. -/
  finished : List Expression := []
  /-- The parts of the branch that is read, the last one first. -/
  parts : List Expression := []

namespace Frame

/-- The branch that is read, so far. -/
def branch (frame : Frame) : Expression :=
  match frame.parts with
  | [] => .empty
  | [part] => part
  | parts => .sequence parts.reverse

/-- All that is read, so far. -/
def expression (frame : Frame) : Expression :=
  match frame.finished with
  | [] => frame.branch
  | finished => .choice (finished.reverse ++ [frame.branch])

/-- Adds a part to the branch that is read. -/
def add (frame : Frame) (part : Expression) : Frame :=
  match part with
  | .empty => frame
  | part => { frame with parts := part :: frame.parts }

end Frame

/-- Where the reading of a pattern stands. -/
structure Reader where
  modes : Modes := {}
  /-- The number of groups so far. -/
  groups : Nat := 0
  /-- The numbers of named groups, the last one first. -/
  names : List (String × Nat) := []
  /-- Whether a group was referred to by its number. -/
  numbered : Bool := false
  /-- The open brackets around the innermost one, from inside to outside. -/
  outer : List Frame := []
  frame : Frame := { opening := .whole }

namespace Reader

/-- What is left out at the moment. -/
inductive Ignoring where
  | nothing
  | line
  | bracket

/-- Drops comments and, when `spaced` says so, blanks. A comment in brackets has to end. -/
def dropIgnored (spaced : Bool) : Ignoring → List Char → Option (List Char)
  | .nothing, '(' :: '?' :: '#' :: rest => dropIgnored spaced .bracket rest
  | .nothing, c :: rest =>
    if spaced && c == '#' then dropIgnored spaced .line rest
    else if spaced && (c == ' ' || c == '\r' || c == '\n' || c == '\t') then
      dropIgnored spaced .nothing rest
    else some (c :: rest)
  | .nothing, [] => some []
  | .line, c :: rest => dropIgnored spaced (if c = '\n' then .nothing else .line) rest
  | .line, [] => some []
  | .bracket, '\\' :: _ :: rest => dropIgnored spaced .bracket rest
  | .bracket, c :: rest => dropIgnored spaced (if c = ')' then .nothing else .bracket) rest
  | .bracket, [] => none
termination_by structural _ cs => cs

/-- Drops what does not count. -/
def dropSkipped (modes : Modes) (cs : List Char) : Option (List Char) :=
  dropIgnored modes.spaced .nothing cs

def readDecimal? (cs : List Char) : Option (Nat × List Char) :=
  let digits := cs.takeWhile Char.isDigit
  let value := Text.digitsValue digits
  if digits.isEmpty ∨ UInt64.size ≤ value then none else some (value, cs.drop digits.length)

/-- Reads the counts of a repetition after the opening brace. The least one is zero when it is left
out before a comma. -/
def readCounts? (modes : Modes) (cs : List Char) : Option (Nat × Option Nat × List Char) := do
  let cs ← dropSkipped modes cs
  let (least, cs) ←
    match cs with
    | ',' :: _ => some (0, cs)
    | _ => readDecimal? cs
  match ← dropSkipped modes cs with
  | '\x7d' :: rest => some (least, some least, rest)
  | ',' :: rest =>
    let cs ← dropSkipped modes rest
    let (greatest, cs) :=
      match readDecimal? cs with
      | some (value, rest) => (some value, rest)
      | none => (none, cs)
    match ← dropSkipped modes cs with
    | '\x7d' :: rest => some (least, greatest, rest)
    | _ => none
  | _ => none

/-- The counts of the sign for repetition that comes next. -/
private def readTimes? (modes : Modes) : List Char → Option (Nat × Option Nat × List Char)
  | '?' :: rest => some (0, some 1, rest)
  | '*' :: rest => some (0, none, rest)
  | '+' :: rest => some (1, none, rest)
  | '\x7b' :: rest => readCounts? modes rest
  | _ => none

/-- Adds a part with the sign for repetition after it, if there is one. -/
def addPart (reader : Reader) (part : Expression) (cs : List Char) :
    Option (Reader × List Char) := do
  let put (part : Expression) : Reader := { reader with frame := reader.frame.add part }
  let cs ← dropSkipped reader.modes cs
  match readTimes? reader.modes cs with
  | none => some (put part, cs)
  | some (least, greatest, rest) =>
    if !part.isRepeatable then none
    else
      let rest ← dropSkipped reader.modes rest
      let (short, rest) :=
        match rest with
        | '?' :: rest => (true, rest)
        | rest => (false, rest)
      let repeated := Expression.repetition part least greatest (short == reader.modes.short)
      match rest with
      | '+' :: rest => some (put (.atomic repeated), rest)
      | rest => some (put repeated, rest)

def single (reader : Reader) (c : Char) : Expression :=
  .member (CharClass.single c) reader.modes.caseless

def ofClass (reader : Reader) (set : CharClass) : Expression :=
  .member set reader.modes.caseless

/-- The character that a backslash and a letter or sign stand for when they stand for one. -/
private def plainEscape? (c : Char) : Option Char :=
  match c with
  | 'a' => some '\x07'
  | 'b' => some '\x08'
  | 'e' => some '\x1b'
  | 'f' => some '\x0c'
  | 'n' => some '\n'
  | 'r' => some '\r'
  | 't' => some '\t'
  | 'v' => some '\x0b'
  | c => if Text.isLetterOrDigit c || c.toNat < 0x20 || 0x7f < c.toNat then none else some c

/-- Reads a character by its code: a fixed number of digits, or up to eight of them in braces. -/
private def readCode? (width : Nat) (cs : List Char) : Option (Char × List Char) :=
  let digits := cs.take width
  if digits.length = width ∧ digits.all Text.isHexDigit then
    (hexCharacter? digits).map fun c => (c, cs.drop width)
  else
    match cs with
    | '\x7b' :: rest => do
      let (digits, rest) ← Text.splitFirst? '\x7d' rest
      if 8 < digits.length then none else (hexCharacter? digits).map fun c => (c, rest)
    | _ => none

private def readProperty? (letter : Char) (cs : List Char) : Option (List Char × List Char) :=
  match cs with
  | [] => none
  | '\x7b' :: rest =>
    (Text.splitFirst? '\x7d' rest).map fun (name, rest) =>
      ('\\' :: letter :: '\x7b' :: (name ++ ['\x7d']), rest)
  | c :: rest => some (['\\', letter, c], rest)

/-- The width of a code after its letter. -/
private def codeWidth? : Char → Option Nat
  | 'x' => some 2
  | 'u' => some 4
  | 'U' => some 8
  | _ => none

/-- The members of a hexadecimal digit class, or of its complement. -/
private def hexMembers? : Char → Option String
  | 'h' => some "[0-9A-Fa-f]"
  | 'H' => some "[^0-9A-Fa-f]"
  | _ => none

/-- The letters that stand for themselves after a backslash in a class, though they name places or
references elsewhere. -/
private def isClassLetter (c : Char) : Bool := "kAzBKG".toList.contains c

/-- What an escape in a class is written as in the plain grammar, after its backslash. -/
private def classEscape? : List Char → Option (List Char × List Char)
  | [] => none
  | c :: rest =>
    let written (c : Char) : List Char := if hasMeaning c then ['\\', c] else [c]
    match CharClass.ofLetter? c, hexMembers? c, codeWidth? c with
    | some _, _, _ => some (['\\', c], rest)
    | _, some set, _ => some (set.toList, rest)
    | _, _, some width => (readCode? width rest).map fun (d, rest) => (written d, rest)
    | _, _, _ =>
      if c = 'p' ∨ c = 'P' then readProperty? c rest
      else if isClassLetter c then some ([c], rest)
      else (plainEscape? c).map fun d => (written d, rest)

/-- Copies a class in the plain grammar up to the bracket that closes the `depth` open ones; `fuel`
is at least the length of the text. -/
def copyClass? : Nat → Nat → List Char → Option (List Char × List Char)
  | 0, _, _ | _, _, [] => none
  | fuel + 1, depth, c :: rest =>
    if c = '\\' then do
      let (escape, rest) ← classEscape? rest
      let (copied, rest) ← copyClass? fuel depth rest
      some (escape ++ copied, rest)
    else if c = ']' ∧ depth = 1 then some ([c], rest)
    else do
      let inner := if c = '[' then depth + 1 else if c = ']' then depth - 1 else depth
      let (copied, rest) ← copyClass? fuel inner rest
      some (c :: copied, rest)

/-- Reads a class after its opening bracket. -/
def readClass? (cs : List Char) : Option (CharClass × List Char) := do
  let (hat, cs) :=
    match cs with
    | '^' :: rest => (['^'], rest)
    | cs => ([], cs)
  let (bracket, cs) :=
    match cs with
    | ']' :: rest => ([']'], rest)
    | cs => ([], cs)
  let (copied, rest) ← copyClass? cs.length 1 cs
  let text := hat ++ bracket ++ copied
  match Pattern.readClass true false (2 * text.length + 2) text with
  | .ok (set, []) => some (set, rest)
  | _ => none

/-- Reads a name before a closing sign. -/
def readName? (closing : Char) (cs : List Char) : Option (String × List Char) :=
  let name := cs.takeWhile fun c => Character.isAlphanumeric c || c == '_'
  match cs.drop name.length with
  | c :: rest => if c = closing ∧ !name.isEmpty then some (String.ofList name, rest) else none
  | [] => none

/-- The number that digits stand for. -/
def number? (name : String) : Option Nat :=
  if Text.isDigits name.toList then some (Text.digitsValue name.toList) else none

/-- The number of the group of a name or of a number as a name. -/
def groupOf? (reader : Reader) (name : String) : Option Nat :=
  (Assoc.get? name reader.names).or (number? name)

/-- The number of the group that was opened so many groups ago; zero stands for itself. -/
private def groupBefore? (reader : Reader) (count : Nat) : Option Nat :=
  if count = 0 then some 0
  else if count ≤ reader.groups + 1 then some (reader.groups + 1 - count)
  else none

/-- Reads which group is meant: a name, a number, or a minus sign and how many groups ago it was
opened. -/
def readGroup? (reader : Reader) (closing : Char) (cs : List Char) : Option (Nat × List Char) :=
  match cs with
  | '-' :: rest => do
    let (name, rest) ← readName? closing rest
    let group ← reader.groupBefore? (← number? name)
    some (group, rest)
  | _ => do
    let (name, rest) ← readName? closing cs
    some (← reader.groupOf? name, rest)

/-- Refers to a group that was opened before. -/
def refer? (reader : Reader) (number : Nat) : Option Expression :=
  if number ≤ reader.groups then some (.again number) else none

def readNamed? (reader : Reader) (closing : Char) (cs : List Char) :
    Option (Expression × List Char) := do
  let (number, rest) ← reader.readGroup? closing cs
  let reference ← reader.refer? number
  some (reference, rest)

/-- The place that a letter after a backslash stands for. -/
private def placeOf? : Char → Option Place
  | 'A' => some .textStart
  | 'z' => some .textEnd
  | 'b' => some .wordEdge
  | 'B' => some .wordInside
  | '<' => some .wordStart
  | '>' => some .wordEnd
  | _ => none

def passEscape (reader : Reader) (cs : List Char) : Option (Reader × List Char) :=
  match cs with
  | [] => none
  | c :: rest =>
    if c.isDigit then do
      let (number, rest) ← readDecimal? cs
      let reference ← reader.refer? number
      { reader with numbered := true }.addPart reference rest
    else if c = 'k' ∨ c = 'g' then do
      let (reference, rest) ←
        match rest with
        | '\'' :: rest => reader.readNamed? '\'' rest
        | '<' :: rest => reader.readNamed? '>' rest
        | _ => none
      reader.addPart reference rest
    else if c = 'K' then reader.addPart .keep rest
    else if c = 'G' then reader.addPart .origin rest
    else
      match placeOf? c, CharClass.ofLetter? c, codeWidth? c with
      | some place, _, _ =>
        if (c = 'b' ∨ c = 'B') ∧ rest.head? = some '\x7b' then none
        else reader.addPart (.place place) rest
      | _, some set, _ => reader.addPart (reader.ofClass set) rest
      | _, _, some width => do
        let (d, rest) ← readCode? width rest
        reader.addPart (reader.single d) rest
      | _, _, _ =>
        if c = 'p' ∨ c = 'P' then
          match Pattern.readProperty true false (c == 'P') rest with
          | .ok (.members set, rest) => reader.addPart (reader.ofClass set) rest
          | _ => none
        else if c = 'h' ∨ c = 'H' then
          let digits := CharClass.ranges [('0', '9'), ('A', 'F'), ('a', 'f')]
          reader.addPart (reader.ofClass (CharClass.negateIf (c == 'H') digits)) rest
        else do
          let d ← plainEscape? c
          reader.addPart (reader.single d) rest

def push (reader : Reader) (opening : Opening) : Reader :=
  { reader with outer := reader.frame :: reader.outer, frame := { opening } }

def pushGroup (reader : Reader) : Reader :=
  { reader with groups := reader.groups + 1 }.push (.group (reader.groups + 1))

def pushNamed (reader : Reader) (cs : List Char) : Option (Reader × List Char) := do
  let (name, rest) ← readName? '>' cs
  let opened := reader.pushGroup
  some ({ opened with names := (name, opened.groups) :: opened.names }, rest)

def setMode? (modes : Modes) (value : Bool) : Char → Option Modes
  | 'i' => some { modes with caseless := value }
  | 'm' => some { modes with lines := value }
  | 's' => some { modes with pointForAll := value }
  | 'U' => some { modes with short := value }
  | 'x' => some { modes with spaced := value }
  | 'u' => if value then some modes else none
  | _ => none

/-- Reads modes; those after a minus sign are switched off. The result says whether they are for a
bracket, and not for what follows. `last` is the character before, if there is one, and `fuel` is
more than the number of characters. -/
def readModes? : Nat → Modes → Bool → Option Char → List Char → Option (Modes × Bool × List Char)
  | 0, _, _, _, _ => none
  | fuel + 1, modes, value, last, cs => do
    let kept ← dropSkipped modes cs
    let last := if kept.length = cs.length then last else some ' '
    match kept with
    | [] => none
    | ':' :: rest => if last = some '-' then none else some (modes, true, rest)
    | ')' :: rest => if last.isNone || last = some '-' then none else some (modes, false, rest)
    | '-' :: rest => if value then readModes? fuel modes false (some '-') rest else none
    | c :: rest => do
      let modes ← setMode? modes value c
      readModes? fuel modes value (some c) rest

/-- Opens a bracket for modes, or sets them for what follows. -/
def passModes (reader : Reader) (cs : List Char) : Option (Reader × List Char) := do
  let (modes, isBracket, rest) ← readModes? (cs.length + 1) reader.modes true none cs
  if isBracket then some ({ reader.push (.modes reader.modes) with modes }, rest)
  else ({ reader with modes } : Reader).addPart .empty rest

def passCondition (reader : Reader) (cs : List Char) : Option (Reader × List Char) := do
  let close (reader : Reader) (number : Nat) (cs : List Char) : Option (Reader × List Char) := do
    match ← dropSkipped reader.modes cs with
    | ')' :: rest => do
      let reference ← reader.refer? number
      some (reader.push (.branches reference rest.length), rest)
    | _ => none
  let named (closing : Char) (cs : List Char) : Option (Reader × List Char) := do
    let (number, rest) ← reader.readGroup? closing cs
    close reader number rest
  match cs with
  | '\'' :: rest => named '\'' rest
  | '<' :: rest => named '>' rest
  | [] => none
  | c :: _ =>
    if c.isDigit then do
      let (number, rest) ← readDecimal? cs
      close { reader with numbered := true } number rest
    else some (reader.push .condition, cs)

/-- Opens what a round bracket opens. Brackets can be in each other 63 deep. -/
def passBracket (reader : Reader) (cs : List Char) : Option (Reader × List Char) := do
  if 63 ≤ reader.outer.length then none
  else
    match ← dropSkipped reader.modes cs with
    | '?' :: '=' :: rest => some (reader.push (.look true false), rest)
    | '?' :: '!' :: rest => some (reader.push (.look true true), rest)
    | '?' :: '<' :: '=' :: rest => some (reader.push (.look false false), rest)
    | '?' :: '<' :: '!' :: rest => some (reader.push (.look false true), rest)
    | '?' :: '<' :: rest | '?' :: 'P' :: '<' :: rest => reader.pushNamed rest
    | '?' :: 'P' :: '=' :: rest => do
      let (name, rest) ← readName? ')' rest
      let reference ← reader.refer? (← reader.groupOf? name)
      reader.addPart reference rest
    | '?' :: '>' :: rest => some (reader.push .atomic, rest)
    | '?' :: '(' :: rest => reader.passCondition rest
    | '?' :: rest => reader.passModes rest
    | rest => some (reader.pushGroup, rest)

/-- Whether the innermost bracket can be closed: a pattern without branches cannot refer by numbers
and have names as well. -/
private def canClose (reader : Reader) : Bool :=
  !(reader.frame.finished.isEmpty && reader.numbered && !reader.names.isEmpty)

/-- The expression of a condition with what is done after it; `isAlone` says that nothing is written
there. Referring to a group asks whether it held something. -/
private def decide? (condition done : Expression) (isAlone : Bool) : Option Expression :=
  let asked :=
    match condition with
    | .again number => .hasHeld number
    | other => other
  let (yes, no) :=
    match done with
    | .choice [yes, no] => (yes, no)
    | .choice (yes :: rest) => (yes, .choice rest)
    | other => (other, .empty)
  match isAlone, condition, yes, no with
  | true, .again _, _, _ => some asked
  | true, _, _, _ => none
  | false, _, .empty, .empty => some asked
  | false, _, yes, no => some (.conditional asked yes no)

def pop (reader : Reader) (cs : List Char) : Option (Reader × List Char) :=
  match reader.outer with
  | [] => none
  | frame :: outer =>
    let inner := reader.frame.expression
    let around : Reader := { reader with frame, outer }
    if !reader.canClose then none
    else
      match reader.frame.opening with
      | .whole => none
      | .group number => around.addPart (.group number inner) cs
      | .look ahead negated => around.addPart (.look ahead negated inner) cs
      | .atomic => around.addPart (.atomic inner) cs
      | .modes before => { around with modes := before }.addPart inner cs
      | .condition => some (around.push (.branches inner cs.length), cs)
      | .branches condition left => do
        let decided ← decide? condition inner (cs.length + 1 == left)
        around.addPart decided cs

def pass (reader : Reader) (c : Char) (rest : List Char) : Option (Reader × List Char) :=
  match c with
  | '.' =>
    let set := if reader.modes.pointForAll then .every else .complement (.single '\n')
    reader.addPart (.member set false) rest
  | '^' => reader.addPart (.place (if reader.modes.lines then .lineStart else .textStart)) rest
  | '$' => reader.addPart (.place (if reader.modes.lines then .lineEnd else .textEnd)) rest
  | '(' => reader.passBracket rest
  | ')' => reader.pop rest
  | '|' =>
    let finished := reader.frame.branch :: reader.frame.finished
    some ({ reader with frame := { reader.frame with finished, parts := [] } }, rest)
  | '\\' => reader.passEscape rest
  | '[' => do
    let (set, rest) ← readClass? rest
    reader.addPart (reader.ofClass set) rest
  | '+' | '*' | '?' => none
  | c => reader.addPart (reader.single c) rest

/-- Reads a whole pattern, with the number of its groups; `fuel` is more than its length. -/
def run? : Nat → Reader → List Char → Option (Nat × Expression)
  | 0, _, _ => none
  | fuel + 1, reader, cs => do
    match ← dropSkipped reader.modes cs with
    | [] =>
      if reader.outer.isEmpty && reader.canClose then
        some (reader.groups, reader.frame.expression)
      else none
    | c :: rest =>
      let (reader, rest) ← reader.pass c rest
      run? fuel reader rest

end Reader

end EventDelivery.Pattern
