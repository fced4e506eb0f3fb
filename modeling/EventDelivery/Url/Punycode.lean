/-!
# Names beyond ASCII as ASCII

The digits that stand for the characters beyond ASCII of a label: by ascending character, the steps
to the next position and character, in a mixed base that adapts to the steps before.
-/

namespace EventDelivery.Punycode

/-- The letter or digit for a value below 36. -/
def digit (value : Nat) : Char :=
  if value < 26 then Char.ofNat (97 + value) else Char.ofNat (22 + value)

/-- The value of a letter or digit. -/
private def value? (c : Char) : Option Nat :=
  if 'a' ≤ c ∧ c ≤ 'z' then some (c.toNat - 97)
  else if 'A' ≤ c ∧ c ≤ 'Z' then some (c.toNat - 65)
  else if c.isDigit then some (c.toNat - 22)
  else none

/-- The value from which on a digit at a position is the last one. -/
def threshold (position bias : Nat) : Nat := min 26 (max 1 (36 * (position + 1) - bias))

/-- Divides by 35 as long as the number is above 455, counting the steps. -/
private def shrink : Nat → Nat → Nat × Nat
  | 0, delta => (0, delta)
  | fuel + 1, delta =>
    if 455 < delta then
      let (steps, rest) := shrink fuel (delta / 35)
      (steps + 1, rest)
    else (0, delta)

/-- The bias after a step, for `count` characters so far. -/
private def adapt (delta count : Nat) (first : Bool) : Nat :=
  let halved := if first then delta / 700 else delta / 2
  let (steps, rest) := shrink 64 (halved + halved / count)
  36 * steps + 36 * rest / (rest + 38)

/-- The digits of a step; `fuel` is at least the number of digits. -/
def digits (bias : Nat) : Nat → Nat → Nat → List Char
  | 0, _, _ => []
  | fuel + 1, position, q =>
    let t := threshold position bias
    if q < t then [digit q]
    else digit (t + (q - t) % (36 - t)) :: digits bias fuel (position + 1) ((q - t) / (36 - t))

/-- The encoder between two characters. -/
structure Encoder where
  out : List Char
  /-- The steps since the last digit. -/
  delta : Nat
  bias : Nat
  /-- The number of characters that stand already. -/
  done : Nat

/-- Passes one character of the label while the characters with code `code` are placed. -/
def Encoder.pass (basic code : Nat) (e : Encoder) (c : Char) : Encoder :=
  if c.toNat < code then { e with delta := e.delta + 1 }
  else if c.toNat = code then
    { out := e.out ++ digits e.bias 64 0 e.delta
      delta := 0
      bias := adapt e.delta (e.done + 1) (e.done == basic)
      done := e.done + 1 }
  else e

/-- Places the characters of the codes, which ascend. -/
def Encoder.place (basic : Nat) (label : List Char) (e : Encoder) (next : Nat) :
    List Nat → Encoder
  | [] => e
  | code :: rest =>
    let skipped := { e with delta := e.delta + (code - next) * (e.done + 1) }
    let placed := label.foldl (Encoder.pass basic code) skipped
    place basic label { placed with delta := placed.delta + 1 } (code + 1) rest

/-- The codes beyond ASCII of a label, ascending and without repetition. -/
def codes (label : List Char) : List Nat :=
  ((label.filter fun c => 128 ≤ c.toNat).map Char.toNat).mergeSort.eraseReps

/-- A label in ASCII, without its mark. -/
def encode (label : List Char) : List Char :=
  let plain := label.filter fun c => c.toNat < 128
  let placed := Encoder.place plain.length label ⟨[], 0, 72, plain.length⟩ 128 (codes label)
  (if plain.isEmpty then [] else plain ++ ['-']) ++ placed.out

/-- Reads the digits of one step: the step and what follows. -/
private def readStep? (bias : Nat) (weight position total : Nat) :
    List Char → Option (Nat × List Char)
  | [] => none
  | c :: rest =>
    match value? c with
    | none => none
    | some v =>
      let t := threshold position bias
      if v < t then some (total + v * weight, rest)
      else readStep? bias (weight * (36 - t)) (position + 1) (total + v * weight) rest

/-- Inserts the characters that the digits stand for; `fuel` is at least their number. -/
def readSteps? : Nat → List Char → Nat → Nat → Nat → List Char → Option (List Char)
  | 0, _, _, _, _, _ => none
  | _ + 1, built, _, _, _, [] => some built
  | fuel + 1, built, code, position, bias, cs =>
    match readStep? bias 1 0 0 cs with
    | none => none
    | some (step, rest) =>
      let count := built.length + 1
      let place := position + step
      let code := code + place / count
      let position := place % count
      if 0x10ffff < code ∨ (0xd800 ≤ code ∧ code ≤ 0xdfff) then none
      else
        readSteps? fuel (built.take position ++ Char.ofNat code :: built.drop position) code
          (position + 1) (adapt step count (built.all fun c => c.toNat < 128)) rest

/-- The label of its ASCII form without the mark. -/
def decode? (cs : List Char) : Option (List Char) :=
  let tail := (cs.reverse.takeWhile (· ≠ '-')).reverse
  let plain := (cs.take (cs.length - tail.length)).dropLast
  readSteps? (cs.length + 1) plain 128 0 72 tail

end EventDelivery.Punycode
