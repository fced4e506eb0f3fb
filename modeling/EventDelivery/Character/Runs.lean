import EventDelivery.Text.Characters
import EventDelivery.Text.Unsigned
/-!
# Runs of codes

Tables of character data. `Runs` gives a value to every code, the same one to all codes of a run;
`Ranges` is a set of codes. Both are read from a short notation and looked up by halving.
-/

namespace EventDelivery

/-- The number of bounds that are at most a code, when those before `low` are and those from `high`
on are not. -/
def boundsAtMost (bounds : Array Nat) (code low high : Nat) : Nat :=
  if low < high then
    let middle := (low + high) / 2
    if bounds.getD middle 0 ≤ code then boundsAtMost bounds code (middle + 1) high
    else boundsAtMost bounds code low middle
  else low
termination_by high - low

/-- Values of codes in runs. -/
structure Runs (α : Type) where
  /-- The first code after each run, ascending. -/
  ends : Array Nat
  /-- The value of each run. -/
  values : Array α

namespace Runs

variable {α : Type}

def at? (runs : Runs α) (code : Nat) : Option α :=
  runs.values[boundsAtMost runs.ends code 0 runs.ends.size]?

/-- Adds a run of the given length. -/
def add (runs : Runs α) (value : α) (length : Nat) : Runs α :=
  ⟨runs.ends.push ((runs.ends.back?).getD 0 + length), runs.values.push value⟩

/-- Reads runs in their order: each is the name of its value and its length, which is left out when
it is one. -/
def read (value : String → α) (lines : List String) : Runs α :=
  lines.foldl (fun runs line =>
    (Text.splitOn ' ' line.toList).foldl (fun runs run =>
      let name := run.takeWhile fun c => !c.isDigit
      let digits := run.dropWhile fun c => !c.isDigit
      runs.add (value (String.ofList name))
        (if digits.isEmpty then 1 else Text.digitsValue digits)) runs) ⟨#[], #[]⟩

end Runs

/-- A set of codes. -/
structure Ranges where
  /-- The first code of each range and the first code after it, ascending. -/
  bounds : Array Nat

namespace Ranges

/-- Whether a code is in the set. -/
def holds (ranges : Ranges) (code : Nat) : Bool :=
  boundsAtMost ranges.bounds code 0 ranges.bounds.size % 2 == 1

def hexValue (digits : List Char) : Nat :=
  digits.foldl (fun total c => 16 * total + Text.hexDigitValue c) 0

/-- Reads ascending ranges: the first and the last code, or a single one, in hexadecimal digits. -/
def read (lines : List String) : Ranges :=
  ⟨lines.foldl (fun bounds line =>
    (Text.splitOn ' ' line.toList).foldl (fun bounds range =>
      let (first, last) := (Text.splitFirst? '-' range).getD (range, range)
      (bounds.push (hexValue first)).push (hexValue last + 1)) bounds) #[]⟩

end Ranges

end EventDelivery
