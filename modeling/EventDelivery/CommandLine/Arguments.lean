import EventDelivery.Text.Characters
/-!
# Command line arguments

What the program is asked to do. Options have a long form with two dashes, some also a short one,
and short forms can share a dash; no option may come twice.
-/

namespace EventDelivery

def programName : String := "destination-kit"

def programVersion : String := "0.1.0"

/-- What a run is asked to do. -/
structure Arguments where
  /-- The path of the configuration, when it is not the usual one. -/
  config : Option String := none
  /-- Payloads are shown instead of sent. -/
  dryRun : Bool := false
  /-- The events are delivered in one piece. -/
  batch : Bool := false
  /-- How much is logged; this says nothing about what is delivered. -/
  logLevel : Option String := none
  /-- The schema of configurations is printed, and nothing else is done. -/
  printSchema : Bool := false
  /-- The schema of payloads is printed, and nothing is delivered. -/
  printPayloadSchema : Bool := false
deriving DecidableEq

def Arguments.configPath (arguments : Arguments) : String :=
  arguments.config.getD "config/run.json"

/-- What the program is asked for. -/
inductive Invocation where
  | run (arguments : Arguments)
  | version
  | help
  /-- The arguments make no sense. -/
  | refused
deriving DecidableEq

namespace Arguments

/-- Takes the value of an option that must have one. A path is not empty. -/
def setValue? (option value : String) (arguments : Arguments) : Option Arguments :=
  if option = "config" then
    if arguments.config.isSome ∨ value.isEmpty then none
    else some { arguments with config := some value }
  else if option = "log-level" then
    if arguments.logLevel.isSome then none else some { arguments with logLevel := some value }
  else none

/-- Whether an option must have a value. -/
private def takesValue (option : String) : Bool := option == "config" || option == "log-level"

/-- Takes an option that has no value. -/
private def setFlag? (option : String) (arguments : Arguments) : Option Arguments :=
  if option = "dry-run" ∧ !arguments.dryRun then some { arguments with dryRun := true }
  else if option = "batch" ∧ !arguments.batch then some { arguments with batch := true }
  else if option = "print-schema" ∧ !arguments.printSchema then
    some { arguments with printSchema := true }
  else if option = "print-payload-schema" ∧ !arguments.printPayloadSchema then
    some { arguments with printPayloadSchema := true }
  else none

end Arguments

/-- An argument by its form. -/
inductive ArgumentForm where
  /-- A long option, and the value after its equals sign. -/
  | long (name : String) (value : Option String)
  /-- The letters of short options. -/
  | short (letters : List Char)
  /-- Two dashes: no option follows. -/
  | endOfOptions
  /-- Anything else, a single dash too. -/
  | plain (text : String)

/-- The form of an argument. -/
def ArgumentForm.of (argument : String) : ArgumentForm :=
  match argument.toList with
  | ['-', '-'] => .endOfOptions
  | '-' :: '-' :: rest =>
    match Text.splitFirst? '=' rest with
    | some (name, value) => .long (String.ofList name) (some (String.ofList value))
    | none => .long (String.ofList rest) none
  | '-' :: letter :: letters => .short (letter :: letters)
  | _ => .plain argument

namespace Invocation

/-- A short option, and what stands behind it in the same argument. -/
inductive ShortOption where
  | version
  | help
  /-- The path of the configuration, as far as it stands in the same argument. -/
  | config (value : Option String)
  | unknown

/-- The short option at the start of letters; letters behind a path belong to it, an equals sign in
front of it does not. -/
def ShortOption.of : List Char → ShortOption
  | ['c'] => .config none
  | 'c' :: '=' :: value => .config (some (String.ofList value))
  | 'c' :: value => .config (some (String.ofList value))
  | 'V' :: _ => .version
  | 'h' :: _ => .help
  | _ => .unknown

/-- Reads arguments after those that have been taken. A value that stands apart from its option must
not look like an option. -/
def read (taken : Arguments) : List String → Invocation
  | [] => .run taken
  | argument :: rest =>
    match ArgumentForm.of argument with
    | .endOfOptions => if rest.isEmpty then .run taken else .refused
    | .plain _ => .refused
    | .long name (some value) =>
      match taken.setValue? name value with
      | some next => read next rest
      | none => .refused
    | .long name none =>
      if name = "version" then .version
      else if name = "help" then .help
      else if Arguments.takesValue name then readValue name taken rest
      else
        match taken.setFlag? name with
        | some next => read next rest
        | none => .refused
    | .short letters =>
      match ShortOption.of letters with
      | .version => .version
      | .help => .help
      | .unknown => .refused
      | .config none => readValue "config" taken rest
      | .config (some value) =>
        match taken.setValue? "config" value with
        | some next => read next rest
        | none => .refused
where
  /-- Reads the value of an option from the arguments behind it. -/
  readValue (option : String) (taken : Arguments) : List String → Invocation
    | [] => .refused
    | argument :: rest =>
      match ArgumentForm.of argument with
      | .plain value =>
        match taken.setValue? option value with
        | some next => read next rest
        | none => .refused
      | _ => .refused

/-- What the program is asked for by its arguments. -/
def ofArguments (arguments : List String) : Invocation := read {} arguments

end Invocation

end EventDelivery
