import EventDelivery.Pattern.Program
/-!
# Running programs

A program runs along one way at a time. Forks leave the other way behind, on a stack; when a way
fails, the last one that was left is taken up again. How often that happens and how many ways are
left at a time is limited, and a search that reaches a limit has no answer.
-/

namespace EventDelivery.Pattern

/-- A limit that a search has reached. -/
inductive SearchLimit where
  /-- Too many ways were taken up again. -/
  | returns
  /-- Too many ways were left at a time. -/
  | depth
deriving DecidableEq

namespace SearchLimit

def message : SearchLimit → String
  | .returns => "Error executing regex: Max limit for backtracking count exceeded"
  | .depth =>
    "Error executing regex: Max stack size exceeded for backtracking while executing regex"

/-- How many ways are taken up again at most. -/
def greatestReturns : Nat := 1000000

/-- How many ways are left at a time at most. -/
def greatestDepth : Nat := 1000000

end SearchLimit

/-- A way that runs: the next instruction, where it stands, and the depths of the starts of what has
only one way. -/
structure Thread where
  next : Nat
  way : Way
  starts : List Nat

/-- Where the run of a program stands. -/
structure Machine where
  /-- The way that is followed. -/
  thread : Thread
  /-- The ways that were left, the last one first. -/
  left : List Thread := []
  /-- The number of ways that were left. -/
  depth : Nat := 0
  /-- How often ways were taken up again. -/
  returns : Nat := 0

/-- What comes of one instruction. -/
inductive Progress where
  | going (machine : Machine)
  | found
  /-- The way has failed; the ways that were left remain. -/
  | failed (machine : Machine)
  | limit (limit : SearchLimit)

namespace Machine

/-- Goes on with an instruction on a way. -/
def goTo (machine : Machine) (next : Nat) (way : Way) : Progress :=
  .going { machine with thread := { machine.thread with next, way } }

/-- Goes on with the next instruction on a way. -/
def advance (machine : Machine) (way : Way) : Progress :=
  machine.goTo (machine.thread.next + 1) way

/-- Goes on with the next instruction when a test holds. -/
def advanceIf (machine : Machine) (holds : Bool) : Progress :=
  if holds then machine.advance machine.thread.way else .failed machine

/-- Leaves a way at one instruction and goes on with another one. -/
def fork (machine : Machine) (first second : Nat) (way : Way) : Progress :=
  if SearchLimit.greatestDepth ≤ machine.depth then .limit .depth
  else
    { machine with
      left := { machine.thread with next := second, way } :: machine.left
      depth := machine.depth + 1 }.goTo first way

/-- Drops the ways that were left above a depth. -/
private def dropTo (machine : Machine) (depth : Nat) : Machine :=
  { machine with
    left := machine.left.drop (machine.depth - depth)
    depth := min machine.depth depth }

/-- Drops the ways down to the one that leads to an instruction, and that one as well. -/
private def dropPast (machine : Machine) (next : Nat) : Machine :=
  let left := (machine.left.dropWhile fun thread => thread.next != next).drop 1
  { machine with left, depth := left.length }

/-- Takes up the way that was left last. -/
private def resume (machine : Machine) : Except (Option SearchLimit) Machine :=
  match machine.left with
  | [] => .error none
  | thread :: left =>
    if SearchLimit.greatestReturns ≤ machine.returns then .error (some .returns)
    else .ok ⟨thread, left, machine.depth - 1, machine.returns + 1⟩

/-- Goes on with what is repeated or with what comes after it. -/
def repeats (machine : Machine) (again : Bool) (greedy : Bool) (exit : Nat) (way : Way) :
    Progress :=
  let body := machine.thread.next + 1
  if again then machine.goTo body way
  else if greedy then machine.fork body exit way
  else machine.fork exit body way

/-- Does one instruction. -/
def step (text : Array Char) (machine : Machine) : Instruction → Progress
  | .member set caseless =>
    let way := machine.thread.way
    match text[way.position]? with
    | some c =>
      if set.holds caseless c then machine.advance { way with position := way.position + 1 }
      else .failed machine
    | none => .failed machine
  | .place kind =>
    let position := machine.thread.way.position
    let before := if position = 0 then none else text[position - 1]?
    machine.advanceIf (kind.holds before text[position]?)
  | .origin => machine.advanceIf (machine.thread.way.position == 0)
  | .plain expression groups =>
    let goals := Positions.all text.size
    match expression.guide text.toList goals (machine.thread.way.clear groups) with
    | some way => machine.advance way
    | none => .failed machine
  | .fork first second => machine.fork first second machine.thread.way
  | .jump target => machine.goTo target machine.thread.way
  | .save slot =>
    let way := machine.thread.way
    machine.advance (way.save slot way.position)
  | .restore slot =>
    let way := machine.thread.way
    machine.advance { way with position := (way.saved slot).getD way.position }
  | .zero slot => machine.advance (machine.thread.way.save slot 0)
  | .count slot least greatest greedy exit =>
    let way := machine.thread.way
    let count := (way.saved slot).getD 0
    if greatest = some count then machine.goTo exit way
    else machine.repeats (count < least) greedy exit (way.save slot (count + 1))
  | .countMoving slot mark least greedy exit =>
    let way := machine.thread.way
    let count := (way.saved slot).getD 0
    if least < count ∧ way.saved mark = some way.position then .failed machine
    else
      let counted := way.save slot (count + 1)
      machine.repeats (count < least) greedy exit
        (if count < least then counted else counted.save mark way.position)
  | .back count =>
    let way := machine.thread.way
    if count ≤ way.position then machine.advance { way with position := way.position - count }
    else .failed machine
  | .again group =>
    let way := machine.thread.way
    match way.saved (startSlot group), way.saved (endSlot group) with
    | some start, some finish =>
      let held := text.extract start finish
      if text.extract way.position (way.position + held.size) = held then
        machine.advance { way with position := way.position + held.size }
      else .failed machine
    | _, _ => .failed machine
  | .hasHeld group => machine.advanceIf (machine.thread.way.saved (endSlot group)).isSome
  | .begin =>
    let thread := machine.thread
    { machine with thread := { thread with starts := machine.depth :: thread.starts } }.advance
      thread.way
  | .commit =>
    let thread := machine.thread
    match thread.starts with
    | depth :: starts =>
      ({ machine with thread := { thread with starts } }.dropTo depth).advance thread.way
    | [] => machine.advance thread.way
  | .refuse => .failed (machine.dropPast (machine.thread.next + 1))
  | .finish => .found

/-- Runs a program. `fuel` is the number of instructions that are done at most. -/
def run (code : Array Instruction) (text : Array Char) : Nat → Machine → Except SearchLimit Bool
  | 0, _ => .error .returns
  | fuel + 1, machine =>
    match (code[machine.thread.next]?).map (machine.step text) with
    | some (.going machine) => run code text fuel machine
    | some .found => .ok true
    | some (.limit limit) => .error limit
    | some (.failed machine) =>
      match machine.resume with
      | .ok machine => run code text fuel machine
      | .error none => .ok false
      | .error (some limit) => .error limit
    | none => .ok false

end Machine

namespace Program

/-- More instructions than a search does before it reaches a limit. -/
private def patience : Nat := Nat.pow 2 60

/-- Whether a program finds something in a text. -/
def finds (program : Program) (text : List Char) : Except SearchLimit Bool :=
  let way : Way := ⟨0, Array.replicate program.slots none⟩
  Machine.run program.code text.toArray patience { thread := ⟨0, way, []⟩ }

end Program

end EventDelivery.Pattern
