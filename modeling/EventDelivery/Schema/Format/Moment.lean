import EventDelivery.Text.Characters
import EventDelivery.Text.Unsigned
/-!
# Dates and times

Calendar dates, times of day with an offset, and the two together.
-/

namespace EventDelivery.Moment

/-- Whether a year has a 29th of February. -/
private def isLeapYear (year : Nat) : Bool :=
  (year % 4 == 0 && year % 100 != 0) || year % 400 == 0

/-- The number of days of a month, zero when there is no such month. -/
private def daysInMonth (year month : Nat) : Nat :=
  if month = 2 then (if isLeapYear year then 29 else 28)
  else if month ∈ [4, 6, 9, 11] then 30
  else if 1 ≤ month ∧ month ≤ 12 then 31
  else 0

/-- A number of a fixed number of digits at the start, and what follows. -/
def takeNumber? (width : Nat) (cs : List Char) : Option (Nat × List Char) :=
  let digits := cs.take width
  if digits.length = width ∧ digits.all Char.isDigit then
    some (Text.digitsValue digits, cs.drop width)
  else none

/-- What follows a character that has to come first. -/
def takeChar? (expected : Char) : List Char → Option (List Char)
  | c :: rest => if c = expected then some rest else none
  | [] => none

/-- A date of the form `2024-02-29` in the calendar. -/
def isDate (cs : List Char) : Bool :=
  (do
    let (year, cs) ← takeNumber? 4 cs
    let cs ← takeChar? '-' cs
    let (month, cs) ← takeNumber? 2 cs
    let cs ← takeChar? '-' cs
    let (day, cs) ← takeNumber? 2 cs
    some (cs.isEmpty && 1 ≤ day && day ≤ daysInMonth year month)) == some true

/-- Removes a point and the digits after it, when there is a point. -/
private def dropFraction? : List Char → Option (List Char)
  | '.' :: cs =>
    if (cs.takeWhile Char.isDigit).isEmpty then none else some (cs.dropWhile Char.isDigit)
  | cs => some cs

/-- The offset in minutes of what ends a time. -/
def offset? : List Char → Option Int
  | ['Z'] | ['z'] => some 0
  | sign :: cs => do
    let (hours, cs) ← takeNumber? 2 cs
    let cs ← takeChar? ':' cs
    let (minutes, cs) ← takeNumber? 2 cs
    if !cs.isEmpty || 23 < hours || 59 < minutes then none
    else if sign = '+' then some (60 * hours + minutes : Nat)
    else if sign = '-' then some (-(60 * hours + minutes : Nat))
    else none
  | [] => none

/-- A time of the form `10:20:30.5+01:00`. The 60th second is there only where it is the last of a
day without offset. -/
def isTime (cs : List Char) : Bool :=
  (do
    let (hours, cs) ← takeNumber? 2 cs
    let cs ← takeChar? ':' cs
    let (minutes, cs) ← takeNumber? 2 cs
    let cs ← takeChar? ':' cs
    let (seconds, cs) ← takeNumber? 2 cs
    let cs ← dropFraction? cs
    let offset ← offset? cs
    some (hours ≤ 23 && minutes ≤ 59 &&
      (seconds ≤ 59 ||
        seconds == 60 && (((60 * hours + minutes : Nat) : Int) - offset) % 1440 == 1439))) ==
    some true

/-- A date and a time with a `T` between them. -/
def isDateTime (cs : List Char) : Bool :=
  let isMark (c : Char) : Bool := c == 'T' || c == 't'
  isDate (cs.takeWhile fun c => !isMark c) &&
    match cs.dropWhile fun c => !isMark c with
    | [] => false
    | _ :: time => isTime time

end EventDelivery.Moment
