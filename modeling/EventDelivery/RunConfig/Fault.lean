import EventDelivery.RunConfig.Basic
import EventDelivery.Webhook
/-!
# Rules for run configurations

What a run has to satisfy before anything is delivered. The rules are checked in a fixed order, and
the first kind of rule that is broken is reported.
-/

namespace EventDelivery

/-- The parts of a run that must not be empty. -/
inductive EssentialPart where
  | destination
  | title
  | events
deriving DecidableEq

namespace EssentialPart

/-- The parts in the order in which they are declared. -/
def all : List EssentialPart := [.destination, .title, .events]

/-- Whether a run lacks a part. -/
def lacking (config : RunConfig) : EssentialPart → Bool
  | .destination => config.destination.isEmpty
  | .title => config.action.title.isEmpty
  | .events => config.events.isEmpty

/-- The report for one part: its sentences, then the reports of what it consists of, in the order of
declaration. -/
def sentences (texts : List String) (inner : List (String × Json)) : Json :=
  .obj (("errors", .ofTexts texts) :: inner)

/-- The member of a report for a part that is lacking. -/
def report : EssentialPart → String × Json
  | .destination => ("destination", sentences ["The length of the value must be `>= 1`."] [])
  | .title =>
    ("action", sentences []
      [("properties", .obj
        [("title", sentences ["The length of the value must be `>= 1`."] [])])])
  | .events => ("events", sentences ["The length of the items must be `>= 1`."] [])

end EssentialPart

/-- What is wrong with a run. -/
inductive ConfigFault where
  | lacking (parts : List EssentialPart)
  /-- A destination that is not built in. -/
  | unknownDestination (name : String)
  /-- Settings that are neither null nor an object. -/
  | settings
  /-- A mapping that is no object. -/
  | mapping
  /-- A field without a readable label. -/
  | blankLabel (field action : String)
deriving DecidableEq

def ConfigFault.message : ConfigFault → String
  | .lacking parts =>
    "Invalid run configuration: " ++
      (EssentialPart.sentences [] [("properties", .obj (parts.map EssentialPart.report))]).compact
  | .unknownDestination name =>
    "Unknown destination '" ++ name ++ "' (available: " ++
      String.intercalate ", " builtInDestinations ++ ")"
  | .settings => "`settings` must be a JSON object"
  | .mapping => "`mapping` must be a JSON object"
  | .blankLabel field action =>
    "Field '" ++ field ++ "' of action '" ++ action ++ "' has an empty label"

namespace RunConfig

/-- The first field whose label is blank. -/
def blankField? (config : RunConfig) : Option String :=
  (config.action.fields.find? fun entry => Text.isAllBlank entry.2.traits.label).map Prod.fst

/-- The fault of a run, none when it follows every rule. -/
def fault? (config : RunConfig) : Option ConfigFault :=
  let lacking := EssentialPart.all.filter (EssentialPart.lacking config)
  if !lacking.isEmpty then some (.lacking lacking)
  else if !isBuiltIn config.destination then some (.unknownDestination config.destination)
  else if !(config.settings.isObject || config.settings.isNull) then some .settings
  else if config.mapping.any fun mapping => !mapping.isObject then some .mapping
  else config.blankField?.map fun field => .blankLabel field config.action.title

end RunConfig

end EventDelivery
