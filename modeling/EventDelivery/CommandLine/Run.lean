import EventDelivery.CommandLine.Arguments
import EventDelivery.CommandLine.Failure
import EventDelivery.RunConfig.Delivery
import EventDelivery.RunConfig.Schema
/-!
# Runs of the program

From arguments to lines of output and an exit code. What files hold and who answers requests comes
from outside.
-/

namespace EventDelivery

/-- How the program ends. -/
inductive Ending where
  /-- All that was asked for is done. -/
  | done
  | failed (failure : Failure)
  /-- The arguments make no sense. -/
  | refused
deriving DecidableEq

def Ending.exitCode : Ending → UInt32
  | .done => 0
  | .failed _ => 1
  | .refused => 2

/-- What a run of the program leaves behind. -/
structure ProgramRun where
  ending : Ending
  output : List String := []
  events : List Event := []

namespace ProgramRun

/-- A run that ends with a text. -/
def printing (text : String) : ProgramRun :=
  { ending := .done, output := (Text.splitOn '\n' text.toList).map String.ofList }

/-- A run that fails before anything is delivered. -/
def failing (failure : Failure) : ProgramRun := { ending := .failed failure }

def versionLine : String := programName ++ " " ++ programVersion

def help : String :=
  String.intercalate "\n" [
    "Map, validate and deliver events through a destination action",
    "",
    "Usage: " ++ programName ++ " [OPTIONS]",
    "",
    "Options:",
    "  -c, --config <CONFIG>        Path to the JSON run configuration [default: config/run.json]",
    "      --dry-run                Log payloads instead of sending them",
    "      --batch                  Deliver all events in a single batch " ++
      "(overrides the config's `batch`)",
    "      --log-level <LOG_LEVEL>  Set log level (e.g., trace, debug, info, warn, error)",
    "      --print-schema           Print the JSON Schema for the run configuration and exit",
    "      --print-payload-schema   Print the JSON Schema generated from the action's fields " ++
      "and exit",
    "  -h, --help                   Print help",
    "  -V, --version                Print version"]

/-- Delivers the events of a run and reports what becomes of them. -/
def deliver (config : RunConfig) (action : Action) (mapping : Json) (inBatch : Bool)
    (transport : Transport) : ProgramRun :=
  if inBatch then
    let ran := config.deliverBatch action mapping transport
    match ran.result with
    | .ok report => { ending := .done, output := [report.compact], events := ran.events }
    | .error error =>
      { ending := .failed (.during "Batch delivery failed" error), events := ran.events }
  else
    let ran := config.deliverEach action mapping 0 config.events transport
    { ending := .done, output := ran.result.map Json.compact, events := ran.events }

/-- Builds the action of a run, and prints the schema of its payloads or delivers the events. -/
def ofConfig (arguments : Arguments) (config : RunConfig) (transport : Transport) : ProgramRun :=
  match (Webhook.builder (config.definition arguments.dryRun)).build with
  | .error error => failing (.during "Failed to build the action" error)
  | .ok action =>
    if arguments.printPayloadSchema then
      printing ((Json.ofOption (action.schema.map CompiledSchema.source)).pretty "")
    else
      deliver config action (config.usedMapping arguments.dryRun)
        (arguments.batch || config.batch) transport

/-- Runs the program. `read` says what a file holds. -/
def ofArguments (arguments : List String) (read : String → Except FileFault String)
    (transport : Transport) : ProgramRun :=
  match Invocation.ofArguments arguments with
  | .refused => { ending := .refused }
  | .help => printing help
  | .version => printing versionLine
  | .run arguments =>
    if arguments.printSchema then printing (ConfigSchema.toText ConfigSchema.run)
    else
      let path := arguments.configPath
      match RunConfig.loadFile .whole path (read path) with
      | .error error => failing (.ofLoadError error)
      | .ok config => ofConfig arguments config transport

end ProgramRun

end EventDelivery
