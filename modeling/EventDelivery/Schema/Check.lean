import EventDelivery.Schema.Violation
/-!
# Checking values

All violations of a value against a schema, in the order of the names of the keywords; those of the
values of keys come in the order of the keys. What other schemas say comes from outside.
-/

namespace EventDelivery

/-- What a schema finds in a value at a position. -/
abbrev Checker := Pointer → Json → List Violation

namespace Rules

/-- The offence against a list of values. -/
def checkValues (rules : Rules) : Checker := fun location value =>
  match rules.values with
  | some values =>
    if values.any (Json.same value) then [] else [⟨location, .unlisted value values⟩]
  | none => []

def checkFormat (rules : Rules) : Checker := fun location value =>
  match rules.format, value with
  | some format, .str s =>
    if format.accepts s then [] else [⟨location, .malformed (.str s) format⟩]
  | _, _ => []

def checkPattern (rules : Rules) : Checker := fun location value =>
  match rules.pattern, value with
  | some pattern, .str s =>
    match pattern.find s with
    | .ok true => []
    | .ok false => [⟨location, .unmatched s pattern.text⟩]
    | .error limit => [⟨location, .unsearchable limit⟩]
  | _, _ => []

def checkRequired (rules : Rules) : Checker := fun location value =>
  match value with
  | .obj members =>
    (rules.required.filter fun name => (Assoc.get? name members).isNone).map fun name =>
      ⟨location, .missing name⟩
  | _ => []

def checkTypes (rules : Rules) : Checker := fun location value =>
  match rules.types with
  | some types =>
    if types.any fun type => type.holds value then [] else [⟨location, .mistyped value types⟩]
  | none => []

def checkLeast (rules : Rules) : Checker := fun location value =>
  match rules.least, value with
  | some bound, .num n => if bound.isAbove n then [⟨location, .below value bound⟩] else []
  | _, _ => []

def checkGreatest (rules : Rules) : Checker := fun location value =>
  match rules.greatest, value with
  | some bound, .num n => if bound.isBelow n then [⟨location, .above value bound⟩] else []
  | _, _ => []

/-- The offence against the number that numbers are multiples of. -/
def checkUnit (rules : Rules) : Checker := fun location value =>
  match rules.unit, value with
  | some unit, .num n => if n.isMultipleOf unit then [] else [⟨location, .uneven value unit⟩]
  | _, _ => []

def checkLeastCount (rules : Rules) (counted : Counted) : Checker := fun location value =>
  match (rules.counts counted).least, counted.count? value with
  | some limit, some count =>
    if count < limit then [⟨location, .tooFew value counted limit⟩] else []
  | _, _ => []

def checkGreatestCount (rules : Rules) (counted : Counted) : Checker := fun location value =>
  match (rules.counts counted).greatest, counted.count? value with
  | some limit, some count =>
    if limit < count then [⟨location, .tooMany value counted limit⟩] else []
  | _, _ => []

/-- Whether two items are the same in the given way. -/
def hasRepeated (same : Json → Json → Bool) : List Json → Bool
  | [] => false
  | item :: rest => rest.any (same item) || hasRepeated same rest

/-- Whether a list repeats an item. In lists of more than fifteen items zeros of different signs are
different items. -/
def repeats (items : List Json) : Bool :=
  if items.length ≤ 15 then hasRepeated Json.same items
  else hasRepeated (Json.sameBy Number.sameSigned) items

def checkDistinct (rules : Rules) : Checker := fun location value =>
  match rules.distinct, value with
  | true, .arr items => if repeats items then [⟨location, .repeated value⟩] else []
  | _, _ => []

end Rules

namespace Check

/-- Finds nothing. -/
def nothing : Checker := fun _ _ => []

/-- Checks the value of every described key. -/
def described (known : List (String × Checker)) (location : Pointer)
    (members : List (String × Json)) : List Violation :=
  members.flatMap fun member =>
    match Assoc.get? member.1 known with
    | some check => check (location ++ [member.1]) member.2
    | none => []

/-- Checks the values of the keys in which patterns are found, one pattern after the other. -/
def matched (patterns : List (Pattern × Checker)) (location : Pointer)
    (members : List (String × Json)) : List Violation :=
  patterns.flatMap fun (pattern, check) =>
    (members.filter fun member => pattern.fits member.1).flatMap fun member =>
      check (location ++ [member.1]) member.2

/-- The checkers of the patterns that are found in a key. -/
def fitting (patterns : List (Pattern × Checker)) (key : String) : List Checker :=
  (patterns.filter fun entry => entry.1.fits key).map Prod.snd

/-- Whether a key is described, itself or by a pattern. -/
def isKnown (known : List (String × Checker)) (patterns : List (Pattern × Checker))
    (key : String) : Bool :=
  (Assoc.get? key known).isSome || patterns.any fun entry => entry.1.fits key

/-- Checks the value of every key: what describes the key itself, then the patterns found in it,
and the rule for other keys when there is neither. -/
def every (known : List (String × Checker)) (patterns : List (Pattern × Checker))
    (other : Checker) (location : Pointer) (members : List (String × Json)) : List Violation :=
  members.flatMap fun member =>
    let place := location ++ [member.1]
    (match Assoc.get? member.1 known with
      | some check => check place member.2
      | none => []) ++
    ((fitting patterns member.1).flatMap fun check => check place member.2) ++
    if isKnown known patterns member.1 then [] else other place member.2

/-- Refuses the keys that are not described. Where nothing is said about keys, the first value is
refused in their place. -/
def unknown (known : Option (List (String × Checker)))
    (patterns : Option (List (Pattern × Checker))) (location : Pointer)
    (members : List (String × Json)) : List Violation :=
  match known, patterns with
  | none, none =>
    (members.head?.map fun member => (⟨location, .refused member.2⟩ : Violation)).toList
  | known, patterns =>
    match (members.filter fun member =>
        !isKnown (known.getD []) (patterns.getD []) member.1).map Prod.fst with
    | [] => []
    | names => [⟨location, .unexpected names⟩]

/-- Checks items by position with the checkers at the same positions. -/
def inTurn (location : Pointer) : Nat → List Checker → List Json → List Violation
  | position, check :: checks, item :: items =>
    check (location ++ [toString position]) item ++ inTurn location (position + 1) checks items
  | _, _, _ => []

/-- Checks every item, counting from a position. -/
def items (check : Checker) (location : Pointer) : Nat → List Json → List Violation
  | _, [] => []
  | position, item :: rest =>
    check (location ++ [toString position]) item ++ items check location (position + 1) rest

/-- Refuses the items that are not described. -/
def surplus (location : Pointer) : List Json → List Violation
  | [] => []
  | items => [⟨location, .surplus items⟩]

/-- Whether a checker finds nothing. -/
def accepts (location : Pointer) (value : Json) (check : Checker) : Bool :=
  (check location value).isEmpty

/-- What all checkers find. -/
def all (checks : List Checker) : Checker := fun location value =>
  checks.flatMap fun check => check location value

/-- The offence of a value that no checker accepts. -/
def any (checks : List Checker) : Checker := fun location value =>
  if checks.isEmpty || checks.any (accepts location value) then []
  else [⟨location, .unaccepted value .anyOf⟩]

/-- The offence of a value that no checker or more than one accepts. -/
def one (checks : List Checker) : Checker := fun location value =>
  if checks.isEmpty then []
  else
    match checks.filter (accepts location value) with
    | [] => [⟨location, .unaccepted value .oneOf⟩]
    | [_] => []
    | _ => [⟨location, .ambiguous value⟩]

/-- The offence of a value that a checker accepts. -/
def excluded (source : Json) (check : Checker) : Checker := fun location value =>
  if accepts location value check then [⟨location, .excluded value source⟩] else []

/-- What the checkers find that go with keys of an object. -/
def dependencies (checks : List (String × Checker)) : Checker := fun location value =>
  match value with
  | .obj members =>
    checks.flatMap fun (key, check) =>
      if (Assoc.get? key members).isSome then check location value else []
  | _ => []

/-- Checks the keys of an object: what is found before the value as a whole is tried, and what is
found after. -/
def keys (known : Option (List (String × Checker))) (patterns : Option (List (Pattern × Checker)))
    (others : Others Checker) (location : Pointer) : Json → List Violation × List Violation
  | .obj members =>
    match others with
    | .free =>
      ([], matched (patterns.getD []) location members ++
        described (known.getD []) location members)
    | .refused =>
      (every (known.getD []) (patterns.getD []) nothing location members ++
        unknown known patterns location members, [])
    | .checked check => (every (known.getD []) (patterns.getD []) check location members, [])
  | _ => ([], [])

/-- Checks the items of an array: what is found in those after the described ones, and what is found
in those. -/
def positions (rule : Items Checker) (location : Pointer) :
    Json → List Violation × List Violation
  | .arr values =>
    match rule with
    | .free => ([], [])
    | .every check => ([], items check location 0 values)
    | .each checks others =>
      let rest := values.drop checks.length
      ((match others with
        | .free => []
        | .refused => surplus location rest
        | .checked check => items check location checks.length rest),
        inTurn location 0 checks values)
  | _ => ([], [])

/-- What rules find together with the checkers of the schemas beside them. -/
def together (rules : Rules) (known : Option (List (String × Checker)))
    (patterns : Option (List (Pattern × Checker))) (others : Others Checker)
    (its : Items Checker) (trials : Trials Checker) (asked : List (String × Checker)) : Checker :=
  fun location value =>
  let (early, late) := keys known patterns others location value
  let (further, inside) := positions its location value
  let banned :=
    match trials.none_ with
    | some (source, check) => excluded source check location value
    | none => []
  further ++ early ++ all trials.all location value ++ any trials.any location value ++
    dependencies asked location value ++
    rules.checkValues location value ++ rules.checkFormat location value ++ inside ++
    rules.checkGreatestCount .items location value ++
    rules.checkGreatestCount .characters location value ++
    rules.checkGreatestCount .properties location value ++ rules.checkGreatest location value ++
    rules.checkLeastCount .items location value ++
    rules.checkLeastCount .characters location value ++
    rules.checkLeastCount .properties location value ++ rules.checkLeast location value ++
    rules.checkUnit location value ++ banned ++
    one trials.one location value ++ rules.checkPattern location value ++
    late ++ rules.checkRequired location value ++ rules.checkTypes location value ++
    rules.checkDistinct location value

end Check

namespace Schema

mutual

/-- What a schema finds in a value, where `follow` says what other schemas find. -/
def violations (follow : Reference → Checker) : Schema → Checker
  | .reference target => follow target
  | .nothing => fun location value => [⟨location, .refused value⟩]
  | .of rules properties patterns others items trials dependencies =>
    Check.together rules (checkersIn follow properties) (patternCheckersIn follow patterns)
      (otherChecker follow others) (itemCheckers follow items) (trialCheckers follow trials)
      (checkers follow dependencies)

/-- The checkers of schemas by key, when there are any. -/
def checkersIn (follow : Reference → Checker) :
    Option (List (String × Schema)) → Option (List (String × Checker))
  | none => none
  | some schemas => some (checkers follow schemas)

def checkers (follow : Reference → Checker) : List (String × Schema) → List (String × Checker)
  | [] => []
  | (name, schema) :: rest => (name, violations follow schema) :: checkers follow rest

/-- The checkers of schemas by pattern, when there are any. -/
def patternCheckersIn (follow : Reference → Checker) :
    Option (List (Pattern × Schema)) → Option (List (Pattern × Checker))
  | none => none
  | some schemas => some (patternCheckers follow schemas)

def patternCheckers (follow : Reference → Checker) :
    List (Pattern × Schema) → List (Pattern × Checker)
  | [] => []
  | (pattern, schema) :: rest => (pattern, violations follow schema) :: patternCheckers follow rest

/-- The checker of a rule for what is not described. -/
def otherChecker (follow : Reference → Checker) : Others Schema → Others Checker
  | .free => .free
  | .refused => .refused
  | .checked schema => .checked (violations follow schema)

/-- The checkers of a rule for items. -/
def itemCheckers (follow : Reference → Checker) : Items Schema → Items Checker
  | .free => .free
  | .every schema => .every (violations follow schema)
  | .each schemas others => .each (checkerList follow schemas) (otherChecker follow others)

/-- The checkers of schemas that a value is tried with. -/
def trialCheckers (follow : Reference → Checker) : Trials Schema → Trials Checker
  | ⟨all, any, one, banned⟩ =>
    ⟨checkerList follow all, checkerList follow any, checkerList follow one,
      bannedChecker follow banned⟩

/-- The checker of a schema that must not accept, with the value it comes from. -/
def bannedChecker (follow : Reference → Checker) :
    Option (Json × Schema) → Option (Json × Checker)
  | none => none
  | some (source, schema) => some (source, violations follow schema)

/-- The checkers of a list of schemas. -/
def checkerList (follow : Reference → Checker) : List Schema → List Checker
  | [] => []
  | schema :: rest => violations follow schema :: checkerList follow rest

end

end Schema

end EventDelivery
