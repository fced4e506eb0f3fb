import EventDelivery.Text.Characters
import EventDelivery.Text.Unsigned
/-!
# Numeric addresses

Four decimal numbers between points, and eight hexadecimal groups between colons of which one run
may be left out and the last two may be written as four numbers.
-/

namespace EventDelivery.Address

/-- A number up to 255 without needless zeros. -/
private def octet? (cs : List Char) : Option Nat :=
  if Text.isDigits cs && cs.length ≤ 3 && (cs.length == 1 || cs.head? != some '0') then
    let value := Text.digitsValue cs
    if value ≤ 255 then some value else none
  else none

/-- The four numbers of an address between points. -/
def four? (cs : List Char) : Option (List Nat) :=
  let parts := Text.splitOn '.' cs
  if parts.length = 4 then parts.mapM octet? else none

/-- A group of at most four hexadecimal digits. -/
private def group? (cs : List Char) : Option Nat :=
  if !cs.isEmpty && cs.length ≤ 4 && cs.all Text.isHexDigit then
    some (cs.foldl (fun total c => 16 * total + Text.hexDigitValue c) 0)
  else none

/-- The groups of parts between colons; the last part may be four numbers when `final`. -/
private def groupsOf? (final : Bool) : List (List Char) → Option (List Nat)
  | [] => some []
  | part :: rest =>
    match group? part with
    | some value => (groupsOf? final rest).map (value :: ·)
    | none =>
      if final && rest.isEmpty then
        match four? part with
        | some [a, b, c, d] => some [256 * a + b, 256 * c + d]
        | _ => none
      else none

/-- Groups between colons; there may be none at all. -/
def groups? (final : Bool) (cs : List Char) : Option (List Nat) :=
  if cs.isEmpty then some [] else groupsOf? final (Text.splitOn ':' cs)

/-- What stands before and after the first pair of colons. -/
private def splitGap? : List Char → Option (List Char × List Char)
  | ':' :: ':' :: rest => some ([], rest)
  | c :: rest => (splitGap? rest).map fun (before, after) => (c :: before, after)
  | [] => none

/-- The eight groups of an address; a gap stands for at least one group. -/
def eight? (cs : List Char) : Option (List Nat) :=
  match splitGap? cs with
  | none =>
    match groups? true cs with
    | some groups => if groups.length = 8 then some groups else none
    | none => none
  | some (before, after) =>
    match groups? false before, groups? true after with
    | some first, some last =>
      if first.length + last.length < 8 then
        some (first ++ List.replicate (8 - first.length - last.length) 0 ++ last)
      else none
    | _, _ => none

end EventDelivery.Address
