import EventDelivery.Character.Folding
import EventDelivery.Character.Property
import EventDelivery.Character.Script
import EventDelivery.Text.Blank
/-!
# Classes of characters

The sets of characters that patterns name: ranges, properties, and what is made of them by union,
intersection and complement. Where case does not count, a set also holds the letters that differ
from a member in nothing but their case.
-/

namespace EventDelivery.Pattern

/-- A test that a character passes or not. -/
inductive CharTest where
  | range (first last : Char)
  | categories (members : List Category)
  | script (code : String)
  | property (property : CharProperty)
  | word

def CharTest.holds : CharTest → Char → Bool
  | .range first last, c => first ≤ c && c ≤ last
  | .categories members, c => members.contains (Category.of c)
  | .script name, c => Script.of c == name
  | .property flag, c => flag.holds c
  | .word, c => Character.isWordCharacter c

/-- A set of characters. -/
inductive CharClass where
  | none
  | test (test : CharTest)
  | complement (inner : CharClass)
  | union (left right : CharClass)
  | intersection (left right : CharClass)

namespace CharClass

/-- Whether a character is in a set; `caseless` says that case does not count. -/
def holds (caseless : Bool) : CharClass → Char → Bool
  | .none, _ => false
  | .test kind, c =>
    kind.holds c ||
      (caseless && (Folding.variants c.toNat).any fun code => kind.holds (Char.ofNat code))
  | .complement inner, c => !inner.holds caseless c
  | .union left right, c => left.holds caseless c || right.holds caseless c
  | .intersection left right, c => left.holds caseless c && right.holds caseless c

def range (first last : Char) : CharClass := .test (.range first last)

def single (c : Char) : CharClass := range c c

def unionAll : List CharClass → CharClass
  | [] => .none
  | [set] => set
  | set :: rest => .union set (unionAll rest)

def ranges (list : List (Char × Char)) : CharClass :=
  unionAll (list.map fun (first, last) => range first last)

/-- The complement when that is asked for. -/
def negateIf (negated : Bool) (set : CharClass) : CharClass :=
  if negated then .complement set else set

/-- What is in the first set and not in the second one. -/
def difference (left right : CharClass) : CharClass := .intersection left (.complement right)

def every : CharClass := .complement .none

/-- Digits, blanks or word characters by the letter that stands for them; capital letters stand for
the complements. -/
def ofLetter? (letter : Char) : Option CharClass :=
  let digits : CharClass := .test (.categories [.decimalNumber])
  let blanks : CharClass := .test (.property CharProperty.whiteSpace)
  match letter with
  | 'd' => some digits
  | 'D' => some (.complement digits)
  | 's' => some blanks
  | 'S' => some (.complement blanks)
  | 'w' => some (.test .word)
  | 'W' => some (.complement (.test .word))
  | _ => Option.none

def asciiClasses : List (String × List (Char × Char)) :=
  [("alnum", [('0', '9'), ('A', 'Z'), ('a', 'z')]), ("alpha", [('A', 'Z'), ('a', 'z')]),
    ("ascii", [('\x00', '\x7f')]), ("blank", [('\t', '\t'), (' ', ' ')]),
    ("cntrl", [('\x00', '\x1f'), ('\x7f', '\x7f')]), ("digit", [('0', '9')]),
    ("graph", [('!', '~')]), ("lower", [('a', 'z')]), ("print", [(' ', '~')]),
    ("punct", [('!', '/'), (':', '@'), ('[', '\x60'), ('\x7b', '~')]),
    ("space", [('\t', '\r'), (' ', ' ')]), ("upper", [('A', 'Z')]),
    ("word", [('0', '9'), ('A', 'Z'), ('_', '_'), ('a', 'z')]),
    ("xdigit", [('0', '9'), ('A', 'F'), ('a', 'f')])]

def ofAsciiName? (name : String) : Option CharClass :=
  (asciiClasses.find? fun entry => entry.1 == name).map fun entry => ranges entry.2

/-- A name as names are compared: without case, blanks, hyphens, underscores and a leading `is`. -/
def looseName (name : String) : String :=
  let cs := name.toList
  let hasIs := (cs.take 2).map Char.toLower == ['i', 's']
  let kept := ((if hasIs then cs.drop 2 else cs).filter fun c =>
    c.toNat < 128 && c ≠ ' ' && c ≠ '_' && c ≠ '-').map Char.toLower
  String.ofList (if hasIs && kept == ['c'] then "isc".toList else kept)

def categoryGroups : List (List String × List Category) :=
  [(["L", "Letter"], Category.letters),
    (["LC", "Cased_Letter"], [.uppercaseLetter, .lowercaseLetter, .titlecaseLetter]),
    (["M", "Mark", "Combining_Mark"], Category.marks), (["N", "Number"], Category.numbers),
    (["P", "Punctuation", "punct"], Category.punctuation), (["S", "Symbol"], Category.symbols),
    (["Z", "Separator"], Category.separators), (["C", "Other"], Category.others),
    (["digit"], [.decimalNumber]), (["cntrl"], [.control])]

/-- Whether a name is one of the given ones, as names are compared. -/
def isNamed (loose : String) (names : List String) : Bool :=
  names.any fun name => looseName name == loose

private def ofCategoryName? (loose : String) : Option CharClass :=
  if loose = "any" then some every
  else if loose = "assigned" then some (.complement (.test (.categories [.unassigned])))
  else if loose = "ascii" then some (range '\x00' '\x7f')
  else
    match categoryGroups.find? fun entry => isNamed loose entry.1 with
    | some entry => some (.test (.categories entry.2))
    | Option.none =>
      (Category.names.find? fun entry => isNamed loose [entry.2.1, entry.2.2]).map fun entry =>
        .test (.categories [entry.1])

private def ofScriptName? (loose : String) : Option CharClass :=
  ((Script.names.find? fun names => isNamed loose names).bind List.head?).map fun code =>
    .test (.script code)

private def ofPropertyName? (loose : String) : Option CharClass :=
  (CharProperty.all.find? fun property => isNamed loose [property.name, property.short]).map
    fun property => .test (.property property)

/-- The characters of a property, a category or a script. Three short names are those of categories
or of nothing, though properties have them too. -/
def ofName? (name : String) : Option CharClass :=
  let loose := looseName name
  let property :=
    if loose = "cf" ∨ loose = "sc" ∨ loose = "lc" then Option.none
    else if loose = "space" then ofPropertyName? "whitespace"
    else ofPropertyName? loose
  (property.or (ofCategoryName? loose)).or (ofScriptName? loose)

/-- The characters for which what is named has a value. -/
private def ofNameAndValue? (name value : String) : Option CharClass :=
  let loose := looseName name
  if loose = "gc" ∨ loose = "generalcategory" then ofCategoryName? (looseName value)
  else if loose = "sc" ∨ loose = "script" ∨ loose = "scx" ∨ loose = "scriptextensions" then
    ofScriptName? (looseName value)
  else Option.none

/-- The characters of what stands between the braces of a property escape. -/
def ofBraced? (cs : List Char) : Option CharClass :=
  let text := String.ofList cs
  match Text.splitPhrase? ['!', '='] cs with
  | some (name, value) =>
    (ofNameAndValue? (String.ofList name) (String.ofList value)).map .complement
  | Option.none =>
    match (Text.splitFirst? ':' cs).or (Text.splitFirst? '=' cs) with
    | some (name, value) => ofNameAndValue? (String.ofList name) (String.ofList value)
    | Option.none => ofName? text

end CharClass

end EventDelivery.Pattern
