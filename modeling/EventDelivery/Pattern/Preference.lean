import EventDelivery.Pattern.Positions
/-!
# The preferred way of a plain expression

Of all ways of a plain expression from one position to a set of goals, the preferred one: earlier
branches go before later ones, and more times before fewer where repetitions are greedy. The goals
of a part are the positions from which what comes afterwards can be done, so no way is left again.
-/

namespace EventDelivery.Pattern

/-- The positions at which the parts of a way were saved, by slot. -/
abbrev Slots := Array (Option Nat)

/-- The slot for the start of a group. -/
def startSlot (group : Nat) : Nat := 2 * group

/-- The slot for the end of a group. -/
def endSlot (group : Nat) : Nat := 2 * group + 1

/-- A position, and what was saved on the way to it. -/
structure Way where
  position : Nat
  slots : Slots

namespace Way

/-- What was saved in a slot. -/
def saved (way : Way) (slot : Nat) : Option Nat := way.slots[slot]?.join

/-- Saves a number in a slot. -/
def save (way : Way) (slot value : Nat) : Way :=
  { way with slots := way.slots.setIfInBounds slot (some value) }

def clear (way : Way) (groups : List Nat) : Way :=
  { way with
    slots := groups.foldl (fun slots group =>
      (slots.setIfInBounds (startSlot group) none).setIfInBounds (endSlot group) none) way.slots }

end Way

/-- The preferred way from a given one to a set of goals, if there is one. -/
abbrev Guide := Positions → Way → Option Way

namespace Guide

def stay : Guide := fun goals way => if goals.testBit way.position then some way else none

/-- The goals of each of a number of times, the first time first. -/
def goalsOfTimes (back : Positions → Positions) : Nat → Positions → List Positions
  | 0, _ => []
  | count + 1, goals =>
    match goalsOfTimes back count goals with
    | [] => [goals]
    | next :: rest => back next :: next :: rest

/-- Takes a guide once for each of the goals. -/
def follow (guide : Guide) : List Positions → Way → Option Way
  | [], way => some way
  | goals :: rest, way => (guide goals way).bind (follow guide rest)

/-- The goals of at most a number of times, those with most times left first; the last ones are
those of what comes afterwards. -/
def goalsAtMost (back : Positions → Positions) (goals : Positions) : Nat → List Positions
  | 0 => [goals]
  | count + 1 =>
    match goalsAtMost back goals count with
    | [] => [goals]
    | next :: rest => (goals ||| back next) :: next :: rest

/-- Takes a guide at most once for each of the goals. -/
def followAtMost (guide : Guide) (greedy : Bool) (goals : Positions) :
    List Positions → Way → Option Way
  | [], way => stay goals way
  | next :: rest, way =>
    if !greedy && goals.testBit way.position then some way
    else
      match guide next way with
      | some reached => followAtMost guide greedy goals rest reached
      | none => stay goals way

/-- Takes a guide as often as it moves. `open_` holds the positions from which the goals can be
reached, and `fuel` is more than the number of characters left. -/
def followWhileMoving (guide : Guide) (greedy : Bool) (goals open_ : Positions) :
    Nat → Way → Option Way
  | 0, _ => none
  | fuel + 1, way =>
    let isGoal := goals.testBit way.position
    if !greedy && isGoal then some way
    else
      let here := 1 <<< way.position
      match guide (if isGoal then open_ else Positions.minus open_ here) way with
      | some reached =>
        if reached.position = way.position then some reached
        else followWhileMoving guide greedy goals open_ fuel reached
      | none => stay goals way

end Guide

namespace Expression

/-- The positions from which the goals can be reached through all parts, and the goals of each
part. -/
def goalsOfParts (text : List Char) (goals : Positions) :
    List Expression → Positions × List Positions
  | [] => (goals, [])
  | part :: rest =>
    let (next, more) := goalsOfParts text goals rest
    (reach text false part next, next :: more)

mutual

/-- The preferred way of a plain expression. -/
def guide (text : List Char) : Expression → Guide
  | .empty => Guide.stay
  | .member set caseless => fun goals way =>
    match text[way.position]? with
    | some c =>
      if set.holds caseless c then Guide.stay goals { way with position := way.position + 1 }
      else none
    | none => none
  | .place kind => fun goals way =>
    if (Positions.places text kind).testBit way.position then Guide.stay goals way else none
  | .sequence parts => fun goals way =>
    let (starts, goals) := goalsOfParts text goals parts
    if starts.testBit way.position then guideAll text parts goals way else none
  | .choice branches => guideAny text branches
  | .group number inner => fun goals way =>
    (guide text inner goals (way.save (startSlot number) way.position)).map fun reached =>
      reached.save (endSlot number) reached.position
  | .repetition inner least greatest greedy => fun goals way =>
    let back := reach text false inner
    let (tailGoals, tail) : Positions × (Way → Option Way) :=
      match greatest with
      | some greatest =>
        match Guide.goalsAtMost back goals (greatest - least) with
        | [] => (goals, Guide.stay goals)
        | first :: rest => (first, Guide.followAtMost (guide text inner) greedy goals rest)
      | none =>
        let open_ := Positions.grow back (text.length + 1) none goals goals
        (open_, Guide.followWhileMoving (guide text inner) greedy goals open_ (text.length + 1))
    (Guide.follow (guide text inner) (Guide.goalsOfTimes back least tailGoals) way).bind tail
  | .origin | .keep | .look _ _ _ | .atomic _ | .again _ | .hasHeld _ | .conditional _ _ _ =>
    fun _ _ => none

/-- The preferred way of one part after the other, each to its own goals. -/
def guideAll (text : List Char) : List Expression → List Positions → Way → Option Way
  | part :: rest, goals :: more, way => (guide text part goals way).bind (guideAll text rest more)
  | _, _, way => some way

/-- The preferred way of the first branch that has one. -/
def guideAny (text : List Char) : List Expression → Guide
  | [] => fun _ _ => none
  | branch :: rest => fun goals way =>
    (guide text branch goals way).orElse fun _ => guideAny text rest goals way

end

end Expression

end EventDelivery.Pattern
