import EventDelivery.Character.Runs
/-!
# Sequences for codes

Tables that give a sequence of codes to some codes. They are read from a short notation and looked
up by halving.
-/

namespace EventDelivery

/-- Sequences of codes for codes. -/
structure Sequences where
  /-- The codes that have a sequence, ascending. -/
  codes : Array Nat
  /-- The sequence of each code. -/
  values : Array (List Nat)

namespace Sequences

def at? (sequences : Sequences) (code : Nat) : Option (List Nat) :=
  let place := boundsAtMost sequences.codes code 0 sequences.codes.size
  if 0 < place ∧ sequences.codes.getD (place - 1) 0 = code then sequences.values[place - 1]?
  else none

/-- The code that has a sequence. -/
def find? (sequences : Sequences) (sequence : List Nat) : Option Nat :=
  (sequences.values.findIdx? (· == sequence)).bind fun place => sequences.codes[place]?

/-- Adds the sequences of neighbouring codes. -/
def addFrom (sequences : Sequences) (first : Nat) (entries : List (List Nat)) : Sequences :=
  entries.zipIdx.foldl (fun sequences entry =>
    ⟨sequences.codes.push (first + entry.2), sequences.values.push entry.1⟩) sequences

/-- Reads sequences: a code, a colon, and the sequences of it and of the next codes between commas.
The codes of a sequence stand between points. -/
def read (lines : List String) : Sequences :=
  lines.foldl (fun sequences line =>
    (Text.splitOn ' ' line.toList).foldl (fun sequences item =>
      let (first, entries) := (Text.splitFirst? ':' item).getD (item, [])
      sequences.addFrom (Ranges.hexValue first) ((Text.splitOn ',' entries).map fun entry =>
        (Text.splitOn '.' entry).map Ranges.hexValue)) sequences) ⟨#[], #[]⟩

end Sequences

end EventDelivery
