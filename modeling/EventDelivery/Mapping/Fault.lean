/-!
# Faults of mappings

Everything that can be wrong with a mapping, and the sentence that says so.
-/

namespace EventDelivery

/-- What is wrong with a mapping. -/
inductive MappingFault where
  /-- A path does not start at the root. -/
  | rootless (path : String)
  /-- A point in a path is followed by no name. -/
  | emptySegment (path : String)
  /-- A bracket in a path is never closed. -/
  | unclosedBracket (path : String)
  /-- A character in a path stands where only a point or a bracket can. -/
  | unexpected (c : Char) (path : String)
  /-- Brackets in a path hold neither a quoted name nor a position. -/
  | invalidIndex (text path : String)
  /-- A directive stands beside other keys. -/
  | crowdedDirective
  /-- There is no directive of that name. -/
  | unknownDirective (name : String)
  /-- The argument of a directive has to be a string. -/
  | textExpected (directive : String)
  /-- The argument of a condition has to be an object. -/
  | optionsExpected
  | untested
  /-- The argument of an array directive has to start with a source. -/
  | sourceExpected
deriving DecidableEq

def MappingFault.message : MappingFault → String
  | .rootless path => "path `" ++ path ++ "` must start with `$`"
  | .emptySegment path => "path `" ++ path ++ "` has an empty segment"
  | .unclosedBracket path => "path `" ++ path ++ "` has an unclosed `[`"
  | .unexpected c path => "unexpected `" ++ c.toString ++ "` in path `" ++ path ++ "`"
  | .invalidIndex text path => "invalid index `" ++ text ++ "` in path `" ++ path ++ "`"
  | .crowdedDirective => "a directive object must contain exactly one key"
  | .unknownDirective name => "`" ++ name ++ "` is not a valid directive"
  | .textExpected directive => directive ++ " expects a string"
  | .optionsExpected => "@if expects an object"
  | .untested => "@if requires an `exists` or `blank` condition"
  | .sourceExpected => "@arrayPath expects `[path, itemMapping?]`"

end EventDelivery
