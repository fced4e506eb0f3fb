/-!
# JSON documents

The grammar of JSON texts. A document keeps what a text says before any value is made of it: number
literals in parts, members in their order with repeated names, and texts in which half of a
surrogate pair was named. The text is read in two passes without look-ahead: characters to tokens,
tokens to a tree.
-/

namespace EventDelivery.Json

/-- A number literal in its parts. -/
structure NumberLiteral where
  /-- Whether a minus sign comes first. -/
  negative : Bool
  /-- The digits before the point. -/
  whole : List Char
  /-- The digits after the point. -/
  fraction : List Char
  /-- The exponent, zero when there is none. -/
  exponent : Int
  /-- Whether there is neither a point nor an exponent. -/
  plain : Bool
deriving DecidableEq

/-- A text literal. -/
structure TextLiteral where
  /-- The text with its escapes replaced. -/
  text : String
  /-- No escape names half of a surrogate pair. -/
  paired : Bool
deriving DecidableEq

/-- The tree of a JSON text. -/
inductive Document where
  | null
  | bool (value : Bool)
  | number (literal : NumberLiteral)
  | text (literal : TextLiteral)
  | array (items : List Document)
  | object (members : List (TextLiteral × Document))
deriving Inhabited

/-- A token of a JSON text; `scalar` is a value that is one token. -/
inductive Token where
  | openArray
  | closeArray
  | openObject
  | closeObject
  | comma
  | colon
  | text (literal : TextLiteral)
  | scalar (value : Document)

def digitsToNat (digits : List Char) : Nat :=
  digits.foldl (fun total c => 10 * total + (c.toNat - '0'.toNat)) 0

/-- A nonempty digit sequence at the start, and what follows it. -/
def spanDigits? (cs : List Char) : Option (List Char × List Char) :=
  let digits := cs.takeWhile Char.isDigit
  if digits.isEmpty then none else some (digits, cs.dropWhile Char.isDigit)

/-- The exponent part of a number literal, which ends it. -/
private def readExponent? : List Char → Option Int
  | '+' :: cs => unsigned cs
  | '-' :: cs => (unsigned cs).map (fun e => -e)
  | cs => unsigned cs
where
  unsigned (cs : List Char) : Option Int :=
    match spanDigits? cs with
    | some (digits, []) => some (digitsToNat digits : Int)
    | _ => none

/-- Reads a number literal without its sign. -/
private def readMagnitude? (negative : Bool) (cs : List Char) : Option NumberLiteral := do
  let (whole, rest) ← spanDigits? cs
  if whole.head? = some '0' ∧ whole.length ≠ 1 then none
  else
    match rest with
    | [] => some ⟨negative, whole, [], 0, true⟩
    | '.' :: rest =>
      let (fraction, rest) ← spanDigits? rest
      match rest with
      | [] => some ⟨negative, whole, fraction, 0, false⟩
      | e :: rest =>
        if e = 'e' ∨ e = 'E' then
          (readExponent? rest).map fun exponent => ⟨negative, whole, fraction, exponent, false⟩
        else none
    | e :: rest =>
      if e = 'e' ∨ e = 'E' then
        (readExponent? rest).map fun exponent => ⟨negative, whole, [], exponent, false⟩
      else none

private def readNumber? : List Char → Option NumberLiteral
  | '-' :: cs => readMagnitude? true cs
  | cs => readMagnitude? false cs

/-- A text literal being read. -/
structure OpenText where
  /-- The characters so far, last first. -/
  chars : List Char := []
  /-- The first half of a surrogate pair whose second half has to follow at once. -/
  half : Option Nat := none
  /-- No half has been left alone so far. -/
  paired : Bool := true

/-- Notes that a half waiting for its other half stays alone. -/
def OpenText.settle (t : OpenText) : OpenText :=
  match t.half with
  | none => t
  | some _ => { t with half := none, paired := false }

def OpenText.push (t : OpenText) (c : Char) : OpenText :=
  { t.settle with chars := c :: t.chars }

/-- Adds a 16-bit unit named by an escape. -/
def OpenText.pushUnit (t : OpenText) (unit : Nat) : OpenText :=
  if 0xdc00 ≤ unit ∧ unit < 0xe000 then
    match t.half with
    | some high =>
      { t with
        chars := Char.ofNat (0x10000 + (high - 0xd800) * 0x400 + (unit - 0xdc00)) :: t.chars
        half := none }
    | none => { t with paired := false }
  else if 0xd800 ≤ unit ∧ unit < 0xdc00 then { t.settle with half := some unit }
  else t.push (Char.ofNat unit)

/-- The finished literal. -/
def OpenText.close (t : OpenText) : TextLiteral :=
  ⟨String.ofList t.chars.reverse, t.settle.paired⟩

/-- What the lexer stands in. -/
inductive Lexer.Mode where
  | between
  | word (letters : List Char)
  | number (chars : List Char)
  | text (open_ : OpenText)
  | escape (open_ : OpenText)
  | hex (open_ : OpenText) (unit : Nat) (left : Nat)

/-- The lexer's place and the tokens so far, last first. -/
structure Lexer where
  mode : Lexer.Mode := .between
  tokens : List Token := []

namespace Lexer

private def wordToken? (letters : List Char) : Option Token :=
  if letters = ['n', 'u', 'l', 'l'] then some (.scalar .null)
  else if letters = ['t', 'r', 'u', 'e'] then some (.scalar (.bool true))
  else if letters = ['f', 'a', 'l', 's', 'e'] then some (.scalar (.bool false))
  else none

/-- Finishes a word or a number. -/
def flush? (l : Lexer) : Option Lexer :=
  match l.mode with
  | .between => some l
  | .word letters => (wordToken? letters.reverse).map fun token => ⟨.between, token :: l.tokens⟩
  | .number chars =>
    (readNumber? chars.reverse).map fun literal =>
      ⟨.between, .scalar (.number literal) :: l.tokens⟩
  | _ => none

private def hexValue? (c : Char) : Option Nat :=
  if c.isDigit then some (c.toNat - '0'.toNat)
  else if 'a' ≤ c ∧ c ≤ 'f' then some (c.toNat - 'a'.toNat + 10)
  else if 'A' ≤ c ∧ c ≤ 'F' then some (c.toNat - 'A'.toNat + 10)
  else none

/-- Reads a character that starts a token or separates two. -/
def start? (tokens : List Token) (c : Char) : Option Lexer :=
  if c = ' ' ∨ c = '\t' ∨ c = '\n' ∨ c = '\r' then some ⟨.between, tokens⟩
  else if c = '[' then some ⟨.between, .openArray :: tokens⟩
  else if c = ']' then some ⟨.between, .closeArray :: tokens⟩
  else if c = '\x7b' then some ⟨.between, .openObject :: tokens⟩
  else if c = '\x7d' then some ⟨.between, .closeObject :: tokens⟩
  else if c = ',' then some ⟨.between, .comma :: tokens⟩
  else if c = ':' then some ⟨.between, .colon :: tokens⟩
  else if c = '"' then some ⟨.text {}, tokens⟩
  else if c.isDigit ∨ c = '-' then some ⟨.number [c], tokens⟩
  else if c.isLower then some ⟨.word [c], tokens⟩
  else none

/-- Whether a character can continue a number literal. -/
private def continuesNumber (c : Char) : Bool :=
  c.isDigit || c == '.' || c == 'e' || c == 'E' || c == '+' || c == '-'

private def escape? (t : OpenText) (c : Char) : Option Mode :=
  if c = '"' ∨ c = '\\' ∨ c = '/' then some (.text (t.push c))
  else if c = 'b' then some (.text (t.push '\x08'))
  else if c = 'f' then some (.text (t.push '\x0c'))
  else if c = 'n' then some (.text (t.push '\n'))
  else if c = 'r' then some (.text (t.push '\r'))
  else if c = 't' then some (.text (t.push '\t'))
  else if c = 'u' then some (.hex t 0 4)
  else none

def step? (l : Lexer) (c : Char) : Option Lexer :=
  match l.mode with
  | .between => start? l.tokens c
  | .word letters =>
    if c.isLower then some ⟨.word (c :: letters), l.tokens⟩
    else (flush? l).bind fun done => start? done.tokens c
  | .number chars =>
    if continuesNumber c then some ⟨.number (c :: chars), l.tokens⟩
    else (flush? l).bind fun done => start? done.tokens c
  | .text t =>
    if c = '"' then some ⟨.between, .text t.close :: l.tokens⟩
    else if c = '\\' then some ⟨.escape t, l.tokens⟩
    else if c.toNat < 0x20 then none
    else some ⟨.text (t.push c), l.tokens⟩
  | .escape t => (escape? t c).map fun mode => ⟨mode, l.tokens⟩
  | .hex t unit left =>
    (hexValue? c).map fun digit =>
      let unit := 16 * unit + digit
      if left ≤ 1 then ⟨.text (t.pushUnit unit), l.tokens⟩ else ⟨.hex t unit (left - 1), l.tokens⟩

def tokens? (s : String) : Option (List Token) := do
  let read ← s.toList.foldlM step? ({} : Lexer)
  let done ← flush? read
  some done.tokens.reverse

end Lexer

/-- An array or object whose end has not been read; parts are last first. -/
inductive Builder.Frame where
  | array (items : List Document)
  | object (members : List (TextLiteral × Document)) (key : Option TextLiteral)

/-- What may come next. -/
inductive Builder.Expected where
  | value
  | itemOrClose
  | keyOrClose
  | key
  | colon
  | separator
deriving DecidableEq

/-- The open arrays and objects, innermost first, and the tree once it is complete. -/
structure Builder where
  frames : List Builder.Frame := []
  expected : Builder.Expected := .value
  root : Option Document := none

namespace Builder

/-- Puts a complete value into the innermost open frame. -/
def complete? (frames : List Frame) (value : Document) : Option Builder :=
  match frames with
  | [] => some { frames := [], expected := .separator, root := some value }
  | .array items :: outer =>
    some { frames := .array (value :: items) :: outer, expected := .separator }
  | .object members (some key) :: outer =>
    some { frames := .object ((key, value) :: members) none :: outer, expected := .separator }
  | .object _ none :: _ => none

def step? (b : Builder) (token : Token) : Option Builder :=
  match b.expected, token, b.frames with
  | .value, .scalar value, frames | .itemOrClose, .scalar value, frames => complete? frames value
  | .value, .text literal, frames | .itemOrClose, .text literal, frames =>
    complete? frames (.text literal)
  | .value, .openArray, frames | .itemOrClose, .openArray, frames =>
    some { frames := .array [] :: frames, expected := .itemOrClose }
  | .value, .openObject, frames | .itemOrClose, .openObject, frames =>
    some { frames := .object [] none :: frames, expected := .keyOrClose }
  | .itemOrClose, .closeArray, .array items :: outer
  | .separator, .closeArray, .array items :: outer => complete? outer (.array items.reverse)
  | .keyOrClose, .closeObject, .object members none :: outer
  | .separator, .closeObject, .object members none :: outer =>
    complete? outer (.object members.reverse)
  | .keyOrClose, .text key, .object members none :: outer
  | .key, .text key, .object members none :: outer =>
    some { frames := .object members (some key) :: outer, expected := .colon }
  | .colon, .colon, frames => some { frames, expected := .value }
  | .separator, .comma, .array items :: outer =>
    some { frames := .array items :: outer, expected := .value }
  | .separator, .comma, .object members none :: outer =>
    some { frames := .object members none :: outer, expected := .key }
  | _, _, _ => none

end Builder

/-- The tree of a JSON text, none when the text is not JSON. -/
def Document.parse? (s : String) : Option Document := do
  let tokens ← Lexer.tokens? s
  let built ← tokens.foldlM Builder.step? ({} : Builder)
  built.root

end EventDelivery.Json
