import EventDelivery.CommandLine.Run
/-!
# The program

Reads the arguments and the file that they name, prints the lines of the run, and reports a failure.
There is no network: requests reach nobody.
-/

open EventDelivery

/-- What a file holds. Octets that are no text are no configuration either. -/
def readConfigFile (path : String) : IO (Except FileFault String) := do
  try
    let octets ← IO.FS.readBinFile path
    return .ok ((String.fromUTF8? octets).getD "")
  catch
    | .inappropriateType _ 21 _ => return .error .isDirectory
    | .inappropriateType _ _ _ => return .error .notDirectory
    | _ => return .error .notFound

def main (arguments : List String) : IO UInt32 := do
  let content ←
    match Invocation.ofArguments arguments with
    | .run taken => if taken.printSchema then pure (.ok "") else readConfigFile taken.configPath
    | _ => pure (.ok "")
  let run := ProgramRun.ofArguments arguments (fun _ => content) .offline
  for line in run.output do
    IO.println line
  match run.ending with
  | .done => pure ()
  | .failed failure => IO.eprintln ("Error: " ++ failure.report)
  | .refused => IO.eprintln ProgramRun.help
  return run.ending.exitCode
