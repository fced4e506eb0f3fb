import EventDelivery.Pattern.Expression
/-!
# The memory of plain searches

A plain expression is searched for by a machine whose states are made from it: one for a character
or a byte of it, and as many copies of those of a repeated expression as it can be repeated.
Expressions that would need too much memory are refused, and so are counts that are out of order or
too great.
-/

namespace EventDelivery.Pattern

namespace CharTest

/-- Whether only characters of ASCII pass a test. -/
def isAscii : CharTest → Bool
  | .range _ last => last.toNat < 128
  | .categories _ | .script _ | .property _ | .word => false

/-- Whether a test asks for a property of characters. -/
def isBroad : CharTest → Bool
  | .range _ _ => false
  | .categories _ | .script _ | .property _ | .word => true

end CharTest

namespace CharClass

/-- Whether a set is made of ASCII characters alone. -/
def isAscii : CharClass → Bool
  | .none => true
  | .test kind => kind.isAscii
  | .complement _ => false
  | .union left right => left.isAscii && right.isAscii
  | .intersection left right => left.isAscii || right.isAscii

/-- Whether properties of characters are in the description of a set. -/
def isBroad : CharClass → Bool
  | .none => false
  | .test kind => kind.isBroad
  | .complement inner => inner.isBroad
  | .union left right | .intersection left right => left.isBroad || right.isBroad

def asciiCharacters : List Char := (List.range 128).map Char.ofNat

/-- The number of ranges that the ASCII members of a set make up. -/
def asciiRanges (set : CharClass) (caseless : Bool) : Nat :=
  let members := asciiCharacters.map (set.holds caseless)
  ((false :: members).zip members |>.filter fun (before, member) => !before && member).length

/-- The bytes for one state of a search. -/
def stateSize : Nat := 32

/-- About how many bytes the states for a set take. -/
def memory (set : CharClass) (caseless : Bool) : Nat :=
  if set.isAscii then
    let ranges := asciiRanges set caseless
    if ranges ≤ 1 then stateSize else stateSize + 8 * ranges
  else
    match set with
    | .test (.range first last) =>
      if first = last then stateSize * first.utf8Size else 12 * stateSize
    | set => if set.isBroad then 1500 * stateSize else 12 * stateSize

end CharClass

namespace Expression

mutual

/-- About how many bytes the states for a plain expression take. -/
def memory : Expression → Nat
  | .member set caseless => set.memory caseless
  | .sequence parts => totalMemory parts
  | .choice branches => totalMemory branches + 2 * CharClass.stateSize + 4 * branches.length
  | .group _ inner => memory inner + 2 * CharClass.stateSize
  | .repetition inner least greatest _ =>
    let once := memory inner
    let fork := CharClass.stateSize + 8
    match greatest with
    | some greatest => least * once + (greatest - least) * (once + fork) + CharClass.stateSize
    | none => max 1 least * once + fork
  | .look _ _ inner | .atomic inner => memory inner
  | .conditional condition yes no => memory condition + memory yes + memory no
  | .empty | .place _ | .origin | .keep | .again _ | .hasHeld _ => CharClass.stateSize

/-- About how many bytes the states for expressions take. -/
def totalMemory : List Expression → Nat
  | [] => 0
  | part :: rest => memory part + totalMemory rest

end

/-- The bytes that the states of a search take at most. -/
def memoryLimit : Nat := 10 * Nat.pow 2 20

/-- The counts of plain repetitions are below this. -/
def countLimit : Nat := UInt32.size

mutual

/-- Whether the counts of a plain expression are in order and below the limit. -/
def isCountable : Expression → Bool
  | .repetition inner least greatest _ =>
    isCountable inner && least < countLimit &&
      greatest.all fun greatest => least ≤ greatest && greatest < countLimit
  | .group _ inner | .atomic inner | .look _ _ inner => isCountable inner
  | .sequence parts | .choice parts => areCountable parts
  | .conditional condition yes no => isCountable condition && isCountable yes && isCountable no
  | .empty | .member _ _ | .place _ | .origin | .keep | .again _ | .hasHeld _ => true

/-- Whether the counts of plain expressions are in order and below the limit. -/
def areCountable : List Expression → Bool
  | [] => true
  | part :: rest => isCountable part && areCountable rest

end

/-- Whether a plain expression can be searched for. -/
def isBounded (expression : Expression) : Bool :=
  expression.isCountable && expression.memory ≤ memoryLimit

end Expression

end EventDelivery.Pattern
