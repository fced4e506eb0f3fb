import EventDelivery.Error
import EventDelivery.RunConfig.Load
/-!
# Reports of failures

What the program says when it fails: a sentence, and the causes behind it, each on lines of its own.
-/

namespace EventDelivery

/-- A failure: a sentence, and the causes behind it, each behind the one before. -/
structure Failure where
  message : String
  causes : List String := []
deriving DecidableEq

namespace Failure

/-- The lines of a text, the first one after a label and the others after a margin. -/
private def hang (label margin text : String) : String :=
  label ++ String.intercalate ("\n" ++ margin)
    ((Text.splitOn '\n' text.toList).map String.ofList)

/-- A number in a column of five characters. -/
private def column (number : Nat) : String :=
  String.ofList (List.replicate (5 - (toString number).length) ' ') ++ toString number

def numbered : Nat → List String → String
  | _, [] => ""
  | number, cause :: rest =>
    "\n" ++ hang (column number ++ ": ") "       " cause ++ numbered (number + 1) rest

/-- The report of a failure. A single cause has no number. -/
def report (failure : Failure) : String :=
  failure.message ++
    match failure.causes with
    | [] => ""
    | [cause] => "\n\nCaused by:\n" ++ hang "    " "    " cause
    | causes => "\n\nCaused by:" ++ numbered 0 causes

/-- The failure of an error that happens while something is done. -/
def during (activity : String) (error : ActionError) : Failure :=
  ⟨activity, error.message :: error.causes⟩

/-- The failure of a configuration that cannot be loaded. -/
def ofLoadError (error : LoadError) : Failure := ⟨error.message, error.causes⟩

end Failure

end EventDelivery
