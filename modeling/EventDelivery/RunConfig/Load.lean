import EventDelivery.RunConfig.Fault
import EventDelivery.RunConfig.Text
/-!
# Loading run configurations

A configuration comes as a text, from a stream, or from a file that is read piece by piece or at
once. The ways differ in the words for a text that cannot be read, and in nothing else.
-/

namespace EventDelivery

/-- Why a file cannot be read. -/
inductive FileFault where
  | notFound
  | notDirectory
  | isDirectory
deriving DecidableEq

/-- The words of the operating system. -/
def FileFault.message : FileFault → String
  | .notFound => "No such file or directory (os error 2)"
  | .notDirectory => "Not a directory (os error 20)"
  | .isDirectory => "Is a directory (os error 21)"

/-- How a file is read. -/
inductive FileAccess where
  /-- As a stream, once it is open. -/
  | streamed
  /-- At once. -/
  | whole
deriving DecidableEq

/-- Where a configuration comes from. -/
inductive ConfigOrigin where
  | text
  | stream
  | file (access : FileAccess) (path : String)
deriving DecidableEq

/-- Why a configuration cannot be loaded. -/
inductive LoadError where
  /-- There is no text in a file. -/
  | unreadable (access : FileAccess) (path : String) (cause : FileFault)
  /-- The text is no JSON, or does not decode. -/
  | malformed (origin : ConfigOrigin)
  | refused (fault : ConfigFault)
deriving DecidableEq

namespace LoadError

def message : LoadError → String
  | .unreadable .streamed path _ => "Failed to open config file " ++ path
  | .unreadable .whole path _ => "Failed to read config file " ++ path
  | .malformed .text => "Failed to parse JSON config string into RunConfig"
  | .malformed .stream | .malformed (.file .streamed _) => "Failed to parse JSON config from reader"
  | .malformed (.file .whole path) => "Failed to parse JSON config from " ++ path
  | .refused fault => fault.message

/-- The causes behind the sentence, as far as they are told. -/
def causes : LoadError → List String
  | .unreadable _ _ cause => [cause.message]
  | _ => []

end LoadError

namespace RunConfig

/-- Reads a run and checks its rules. -/
def accept (origin : ConfigOrigin) (content : String) : Except LoadError RunConfig :=
  match ofText? content with
  | none => .error (.malformed origin)
  | some config =>
    match config.fault? with
    | some fault => .error (.refused fault)
    | none => .ok config

def loadText (content : String) : Except LoadError RunConfig := accept .text content

/-- Loads a run from what a stream holds. -/
def loadStream (content : String) : Except LoadError RunConfig := accept .stream content

/-- Loads a run from what a file holds. -/
def loadFile (access : FileAccess) (path : String) :
    Except FileFault String → Except LoadError RunConfig
  | .error cause => .error (.unreadable access path cause)
  | .ok content => accept (.file access path) content

end RunConfig

end EventDelivery
