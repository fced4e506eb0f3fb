import EventDelivery.Pattern.Grammar
import EventDelivery.Pattern.Machine
import EventDelivery.Pattern.Reader
/-!
# Patterns

Texts that ask for something to be found in other texts. A plain pattern is searched for from all
positions together; a hard one is laid out as a program, and its search may end without an answer.
-/

namespace EventDelivery

namespace Pattern

/-- How a pattern is searched for. -/
inductive Search where
  | plain (expression : Expression)
  | program (program : Program)

/-- The search for what an expression asks for. -/
def Search.ofExpression? (groups : Nat) (expression : Expression) : Option Search :=
  if (expression.traits expression.references).isHard then
    (Program.ofExpression? groups expression).map .program
  else if expression.isBounded then some (.plain expression)
  else none

end Pattern

/-- A pattern: its text and how it is searched for. -/
structure Pattern where
  text : String
  search : Pattern.Search

namespace Pattern

/-- Whether a text has the form of a pattern. Not every such text can be used. -/
def isWellFormed (text : String) : Bool := (Wording.ofText? text.toList).isSome

/-- The pattern of a text that can be used. -/
def ofText? (text : String) : Option Pattern := do
  let wording ← Wording.ofText? text.toList
  let (groups, expression) ← Reader.run? (wording.length + 1) {} wording
  let search ← Search.ofExpression? groups expression
  some ⟨text, search⟩

/-- Looks for a pattern anywhere in a text. -/
def find (pattern : Pattern) (text : String) : Except SearchLimit Bool :=
  match pattern.search with
  | .plain expression => .ok (expression.isReached text.toList)
  | .program program => program.finds text.toList

/-- Whether a pattern is found in a text. A search without an answer has found nothing. -/
def fits (pattern : Pattern) (text : String) : Bool :=
  match pattern.find text with
  | .ok found => found
  | .error _ => false

end Pattern

end EventDelivery
