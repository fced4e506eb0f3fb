import EventDelivery.Pattern.Memory
import EventDelivery.Pattern.Preference
import EventDelivery.Pattern.Traits
/-!
# Programs for hard patterns

A hard expression is laid out as a list of instructions, which are addressed by their place in the
list. What is plain in it and has a fixed size, or is plain as a whole, stays one instruction. A
choice is a fork whose preferred way comes first; repetitions keep their counts in slots of their
own, after those of the groups.
-/

namespace EventDelivery.Pattern

/-- One step of a search. -/
inductive Instruction where
  /-- One character of a set. -/
  | member (set : CharClass) (caseless : Bool)
  | place (kind : Place)
  /-- The place where the search began. -/
  | origin
  /-- The preferred way of a plain expression, whose groups are cleared first. -/
  | plain (expression : Expression) (groups : List Nat)
  /-- One way and, when that fails, another one. -/
  | fork (first second : Nat)
  | jump (target : Nat)
  | save (slot : Nat)
  /-- Goes back to a saved position. -/
  | restore (slot : Nat)
  | zero (slot : Nat)
  /-- Counts the times of what comes next; `exit` is what comes after the last one. -/
  | count (slot least : Nat) (greatest : Option Nat) (greedy : Bool) (exit : Nat)
  /-- Counts the times of what comes next, each of which after the least number has to move from the
  position in the second slot. -/
  | countMoving (slot mark least : Nat) (greedy : Bool) (exit : Nat)
  | back (count : Nat)
  /-- Takes what a group held. -/
  | again (group : Nat)
  | hasHeld (group : Nat)
  /-- Starts what has only one way. -/
  | begin
  /-- Drops the other ways since the matching start. -/
  | commit
  /-- Drops the ways down to the one that leads to the next instruction, and that one as well. -/
  | refuse
  | finish

namespace Program

/-- What is compiled: instructions, and the first slot that is free after them. -/
structure Piece where
  code : List Instruction
  free : Nat

/-- The instructions for plain expressions in a row, if they can be searched for. -/
def plain? (parts : List Expression) : Option (List Instruction) :=
  let single : Expression → Option Instruction
    | .member set caseless => some (.member set caseless)
    | .place kind => some (.place kind)
    | _ => none
  if !(Expression.sequence parts).isBounded then none
  else
    match parts.mapM single with
    | some code => some code
    | none => some [.plain (.sequence parts) (Expression.allGroups parts)]

/-- An expression as one plain instruction, unless it is hard or ways of it may be left again. -/
def orPlain (referred : List Nat) (hard : Bool) (expression : Expression) (free : Nat)
    (otherwise : Unit → Option Piece) : Option Piece :=
  if !hard && !(expression.traits referred).isHard then
    (plain? [expression]).map fun code => ⟨code, free⟩
  else otherwise ()

/-- The instructions of a look ahead, or behind at what has a fixed size, from those of its inner
expression. -/
def look? (inner : Nat → Nat → Option Piece) (traits : Traits) (ahead negated : Bool)
    (base free : Nat) : Option Piece :=
  if !ahead && !traits.isFixed then none
  else
    let steps : List Instruction := if ahead then [] else [.back traits.least]
    let start := base + 1 + steps.length
    if negated then do
      let piece ← inner start free
      some ⟨.fork (base + 1) (start + piece.code.length + 1) :: steps ++ piece.code ++ [.refuse],
        piece.free⟩
    else do
      let piece ← inner start (free + 1)
      some ⟨.save free :: steps ++ piece.code ++ [.restore free], piece.free⟩

/-- How the parts of a sequence are divided: how many at the start are simple, and how many after
them are not left to the end. -/
def divide (hard : Bool) (parts : List Traits) : Nat × Nat :=
  let simple := (parts.takeWhile Traits.isSimple).length
  let rest := (parts.drop simple).reverse
  let atEnd := rest.takeWhile fun traits => if hard then traits.isSimple else !traits.isHard
  (simple, rest.length - atEnd.length)

/-- The instructions of a repetition from those of its inner expression, which are made for an
address and a first free slot. -/
def repeated? (inner : Bool → Nat → Nat → Option Piece) (traits : Traits) (hard : Bool)
    (least : Nat) (greatest : Option Nat) (greedy : Bool) (base free : Nat) : Option Piece :=
  let fork (first second : Nat) : Instruction :=
    if greedy then .fork first second else .fork second first
  let inside := hard || traits.isHard
  match least, greatest with
  | 0, some 1 => do
    let piece ← inner hard (base + 1) free
    some ⟨fork (base + 1) (base + piece.code.length + 1) :: piece.code, piece.free⟩
  | least, none =>
    if traits.least = 0 then do
      let piece ← inner inside (base + 2) (free + 2)
      let exit := base + piece.code.length + 3
      some ⟨.zero free :: .countMoving free (free + 1) least greedy exit ::
        piece.code ++ [.jump (base + 1)], piece.free⟩
    else if least = 0 then do
      let piece ← inner inside (base + 1) free
      some ⟨fork (base + 1) (base + piece.code.length + 2) :: piece.code ++ [.jump base],
        piece.free⟩
    else if least = 1 then do
      let piece ← inner inside base free
      some ⟨piece.code ++ [fork base (base + piece.code.length + 1)], piece.free⟩
    else do
      let piece ← inner inside (base + 2) (free + 1)
      let exit := base + piece.code.length + 3
      some ⟨.zero free :: .count free least none greedy exit :: piece.code ++ [.jump (base + 1)],
        piece.free⟩
  | least, some greatest => do
    let piece ← inner inside (base + 2) (free + 1)
    let exit := base + piece.code.length + 3
    some ⟨.zero free :: .count free least (some greatest) greedy exit ::
      piece.code ++ [.jump (base + 1)], piece.free⟩

end Program

namespace Expression

mutual

/-- The instructions of an expression from an address on. `hard` says that ways of the expression
may be left again for what comes afterwards. -/
def compile (referred : List Nat) (hard : Bool) (base free : Nat) :
    Expression → Option Program.Piece
  | .empty => some ⟨[], free⟩
  | .member set caseless => some ⟨[.member set caseless], free⟩
  | .place kind => some ⟨[.place kind], free⟩
  | .origin => some ⟨[.origin], free⟩
  | .keep => some ⟨[.save (startSlot 0)], free⟩
  | .sequence parts => Program.orPlain referred hard (.sequence parts) free fun _ => do
    let (simple, middle) := Program.divide hard (allTraits referred parts)
    let first ← Program.plain? (parts.take simple)
    let piece ← compileAll referred simple middle (base + first.length) free parts
    let last ← Program.plain? (parts.drop (simple + middle))
    some ⟨first ++ piece.code ++ last, piece.free⟩
  | .choice branches => Program.orPlain referred hard (.choice branches) free fun _ =>
    compileAny referred hard base free branches
  | .group number inner => Program.orPlain referred hard (.group number inner) free fun _ => do
    let piece ← compile referred hard (base + 1) free inner
    some ⟨.save (startSlot number) :: piece.code ++ [.save (endSlot number)], piece.free⟩
  | .repetition inner least greatest greedy =>
    Program.orPlain referred hard (.repetition inner least greatest greedy) free fun _ =>
      let traits := inner.traits referred
      Program.repeated? (fun hard base free => compile referred hard base free inner) traits hard
        least greatest greedy base free
  | .look ahead negated inner =>
    let traits := inner.traits referred
    match ahead || traits.isFixed, inner with
    | false, .choice branches =>
      if negated then compileRefused referred base free branches
      else compileBehind referred base free branches
    | _, inner =>
      Program.look? (fun base free => compile referred false base free inner) traits ahead negated
        base free
  | .atomic inner => do
    let piece ← compile referred false (base + 1) free inner
    some ⟨.begin :: piece.code ++ [.commit], piece.free⟩
  | .again number => some ⟨[.again number], free⟩
  | .hasHeld number => some ⟨[.hasHeld number], free⟩
  | .conditional condition yes no => do
    let condition ← compile referred hard (base + 2) free condition
    let yesBase := base + condition.code.length + 3
    let yes ← compile referred hard yesBase condition.free yes
    let noBase := yesBase + yes.code.length + 1
    let no ← compile referred hard noBase yes.free no
    some ⟨.begin :: .fork (base + 2) noBase :: condition.code ++ .commit :: yes.code ++
      .jump (noBase + no.code.length) :: no.code, no.free⟩

/-- The instructions of the parts of a sequence between the first ones and the last ones. -/
def compileAll (referred : List Nat) (skipped count base free : Nat) :
    List Expression → Option Program.Piece
  | [] => some ⟨[], free⟩
  | part :: rest =>
    match skipped, count with
    | skipped + 1, count => compileAll referred skipped count base free rest
    | 0, 0 => some ⟨[], free⟩
    | 0, count + 1 => do
      let first ← compile referred true base free part
      let more ← compileAll referred 0 count (base + first.code.length) first.free rest
      some ⟨first.code ++ more.code, more.free⟩

def compileAny (referred : List Nat) (hard : Bool) (base free : Nat) :
    List Expression → Option Program.Piece
  | [] => some ⟨[], free⟩
  | [branch] => compile referred hard base free branch
  | branch :: rest => do
    let first ← compile referred hard (base + 1) free branch
    let next := base + first.code.length + 2
    let more ← compileAny referred hard next first.free rest
    some ⟨.fork (base + 1) next :: first.code ++ .jump (next + more.code.length) :: more.code,
      more.free⟩

/-- The instructions for finding one of branches behind. -/
def compileBehind (referred : List Nat) (base free : Nat) :
    List Expression → Option Program.Piece
  | [] => some ⟨[], free⟩
  | [branch] =>
    Program.look? (fun base free => compile referred false base free branch)
      (branch.traits referred) false false base free
  | branch :: rest => do
    let first ← Program.look? (fun base free => compile referred false base free branch)
      (branch.traits referred) false false (base + 1) free
    let next := base + first.code.length + 2
    let more ← compileBehind referred next first.free rest
    some ⟨.fork (base + 1) next :: first.code ++ .jump (next + more.code.length) :: more.code,
      more.free⟩

/-- The instructions for finding none of branches behind. -/
def compileRefused (referred : List Nat) (base free : Nat) :
    List Expression → Option Program.Piece
  | [] => some ⟨[], free⟩
  | branch :: rest => do
    let first ← Program.look? (fun base free => compile referred false base free branch)
      (branch.traits referred) false true base free
    let more ← compileRefused referred (base + first.code.length) first.free rest
    some ⟨first.code ++ more.code, more.free⟩

end

end Expression

/-- A program, and the number of slots that it uses. -/
structure Program where
  code : Array Instruction
  slots : Nat

namespace Program

/-- The program that searches for a hard expression from every position on, with the number of
groups in it. -/
def ofExpression? (groups : Nat) (expression : Expression) : Option Program := do
  let free := 2 * (groups + 1)
  let piece ← (Expression.group 0 expression).compile expression.references true 3 free
  let code : List Instruction :=
    [.fork 3 1, .member .every false, .jump 0] ++ piece.code ++ [.finish]
  some ⟨code.toArray, piece.free⟩

end Program

end EventDelivery.Pattern
