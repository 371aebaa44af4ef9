import SimEngine.CommandLine
/-!
# The program

Reads the configuration file that the command line names, runs the simulation,
and prints what was reported.
-/

namespace SimEngine

/-- The value of a field as a line shows it. -/
def NoticeField.written : NoticeField → String
  | .text value => Text.quoted value
  | .count value => toString value
  | .flag value => if value then "true" else "false"
  | .float value => DecimalStyle.plain.render value

/-- A notice in one line. -/
def Notice.line (n : Notice) : String :=
  let fields := n.fields.map fun (name, value) => " " ++ name ++ "=" ++ value.written
  n.level.name ++ " " ++ n.message ++ String.join fields

/-- The sentence that reports why the command line leads to no run. -/
def UsageStop.message : UsageStop → String
  | .help => "help"
  | .unknownOption argument => "error: unexpected argument '" ++ argument ++ "' found"
  | .unexpectedArgument argument => "error: unexpected argument '" ++ argument ++ "' found"
  | .missingValue option => "error: a value is required for '--" ++ option ++ "'"
  | .unexpectedValue option => "error: '--" ++ option ++ "' takes no value"
  | .invalidValue option value =>
    "error: invalid value '" ++ value ++ "' for '--" ++ option ++ "'"
  | .repeated option => "error: '--" ++ option ++ "' cannot be used multiple times"

/-- The lines of the help. -/
def helpLines : List String :=
  ["Fixed-rate simulation host with pluggable systems", "", "Options:"]
    ++ RunOption.all.map fun o => "  " ++ o.written ++ "  " ++ o.description

/-- A summary in one line. -/
def RunSummary.line (s : RunSummary) : String :=
  "ticks=" ++ toString s.ticks ++ " faults=" ++ toString s.faults
    ++ " entities=" ++ toString s.entities ++ " systems=" ++ toString s.systems
    ++ " parameters=" ++ toString s.parameters

/-- The number of a fault, which some calls report negated. -/
def faultNumber (code : UInt32) : Nat :=
  if code.toNat < Nat.pow 2 31 then code.toNat else Nat.pow 2 32 - code.toNat

/-- Why nothing could be read from a path. -/
def FileFault.ofError : IO.Error → FileFault
  | .noFileOrDirectory _ _ _ => .notFound
  | .permissionDenied _ _ _ => .permissionDenied
  | .inappropriateType _ code details =>
    match faultNumber code with
    | 20 => .notADirectory
    | 21 => .isADirectory
    | _ => .other details
  | .invalidArgument _ code details =>
    if faultNumber code = 36 then .nameTooLong else .other details
  | .userError _ => .notText
  | e => .other (toString e)

/-- What is read from a path. -/
def readText (path : String) : IO (Except FileFault String) := do
  try
    let text ← IO.FS.readFile path
    return .ok text
  catch e => return .error (.ofError e)

end SimEngine

open SimEngine in
/-- Runs the program. -/
def main (arguments : List String) : IO UInt32 := do
  let contents ← match RunOptions.parse arguments with
    | .ok { config := some path, .. } => readText path
    | _ => pure (.error .notFound)
  let (ending, notices) := runProgram arguments (fun _ => contents) (Nat.pow 2 64)
  for notice in notices do
    IO.println notice.line
  match ending with
  | .finished summary => IO.println summary.line
  | .stopped .help => IO.println (String.intercalate "\n" helpLines)
  | .stopped stop => IO.eprintln stop.message
  | .failed failure => IO.eprintln (String.intercalate "\n" failure.report)
  | .panicked message => IO.eprintln message
  return ending.exitCode
