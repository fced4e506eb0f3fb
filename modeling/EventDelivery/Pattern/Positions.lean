import EventDelivery.Pattern.Expression
/-!
# Positions that plain expressions reach

A position in a text is the number of characters before it, and a set of positions is a natural
number whose bits are its members. A plain expression takes a set of positions to the set of those
that it can lead to, so a text is searched in one pass for all starts together.
-/

namespace EventDelivery.Pattern

/-- A set of positions: position `i` is in it when bit `i` is set. -/
abbrev Positions := Nat

namespace Positions

/-- The positions at which a list says so. -/
def ofBits : List Bool → Positions
  | [] => 0
  | bit :: rest => 2 * ofBits rest + bit.toNat

/-- All positions of a text of the given length. -/
def all (length : Nat) : Positions := Nat.pow 2 (length + 1) - 1

/-- The positions before the characters of a set. -/
def before (text : List Char) (isMember : Char → Bool) : Positions := ofBits (text.map isMember)

/-- The neighbours of every position of a text. -/
def neighbours (text : List Char) : List (Option Char × Option Char) :=
  (none :: text.map some).zip (text.map some ++ [none])

/-- The positions of a kind. -/
def places (text : List Char) (place : Place) : Positions :=
  ofBits ((neighbours text).map fun pair => place.holds pair.1 pair.2)

/-- Moves over one character of a set, ahead or back. -/
def cross (ahead : Bool) (members from_ : Positions) : Positions :=
  if ahead then (from_ &&& members) <<< 1 else (from_ >>> 1) &&& members

/-- Takes a step a number of times; a step that changes nothing is the last one. -/
def times (step : Positions → Positions) : Nat → Positions → Positions
  | 0, from_ => from_
  | count + 1, from_ =>
    let next := step from_
    if next = from_ then from_ else times step count next

/-- The positions of a set that are not in another one. -/
def minus (left right : Positions) : Positions := left ^^^ (left &&& right)

/-- Adds what can be reached in at most `limit` steps. `fresh` holds the positions that were reached
last, and `fuel` is at least the number of positions. -/
def grow (step : Positions → Positions) :
    Nat → Option Nat → Positions → Positions → Positions
  | 0, _, reached, _ => reached
  | fuel + 1, limit, reached, fresh =>
    if limit = some 0 then reached
    else
      let next := minus (step fresh) reached
      if next = 0 then reached
      else grow step fuel (limit.map (· - 1)) (reached ||| next) next

end Positions

namespace Expression

mutual

/-- The positions that a plain expression leads to from the given ones, ahead or back. -/
def reach (text : List Char) (ahead : Bool) : Expression → Positions → Positions
  | .empty, from_ => from_
  | .member set caseless, from_ =>
    Positions.cross ahead (Positions.before text (set.holds caseless)) from_
  | .place kind, from_ => from_ &&& Positions.places text kind
  | .sequence parts, from_ =>
    if ahead then reachAhead text parts from_ else reachBack text parts from_
  | .choice branches, from_ => reachAny text ahead branches from_
  | .group _ inner, from_ => reach text ahead inner from_
  | .repetition inner least greatest _, from_ =>
    let step := reach text ahead inner
    let start := Positions.times step least from_
    Positions.grow step (text.length + 1) (greatest.map (· - least)) start start
  | .origin, _ | .keep, _ | .look _ _ _, _ | .atomic _, _ | .again _, _ | .hasHeld _, _
  | .conditional _ _ _, _ => 0

/-- Takes the parts of a sequence ahead. -/
def reachAhead (text : List Char) : List Expression → Positions → Positions
  | [], from_ => from_
  | part :: rest, from_ => reachAhead text rest (reach text true part from_)

/-- Takes the parts of a sequence back, the last one first. -/
def reachBack (text : List Char) : List Expression → Positions → Positions
  | [], from_ => from_
  | part :: rest, from_ => reach text false part (reachBack text rest from_)

/-- Takes any of the branches. -/
def reachAny (text : List Char) (ahead : Bool) : List Expression → Positions → Positions
  | [], _ => 0
  | branch :: rest, from_ => reach text ahead branch from_ ||| reachAny text ahead rest from_

end

/-- Whether a plain expression fits anywhere in a text. -/
def isReached (expression : Expression) (text : List Char) : Bool :=
  expression.reach text true (Positions.all text.length) != 0

end Expression

end EventDelivery.Pattern
