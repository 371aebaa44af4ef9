import SimEngine.Cast.Scene
/-!
# The command line

Which options the program takes, what a run of it comes to, and with which code
it ends. Options are read in their order, and the first one that is refused, or
that asks for help, decides.
-/

namespace SimEngine

/-- What the command line asks for. -/
structure RunOptions where
  /-- The path of the configuration. -/
  config : Option String
  /-- The number of ticks, in place of the configured one. -/
  ticks : Option UInt64
  /-- The simulation starts paused. -/
  isPaused : Bool
  /-- There is no renderer. -/
  isHeadless : Bool
  deriving DecidableEq, Repr

/-- Why the command line leads to no run. -/
inductive UsageStop where
  | help
  | unknownOption (argument : String)
  | unexpectedArgument (argument : String)
  | missingValue (option : String)
  | unexpectedValue (option : String)
  | invalidValue (option value : String)
  | repeated (option : String)
  deriving DecidableEq, Repr

/-- The options of the program. -/
inductive RunOption where
  | config
  | ticks
  | paused
  | headless
  | help
  deriving DecidableEq, Repr

namespace RunOption

/-- All options. -/
def all : List RunOption :=
  [.config, .ticks, .paused, .headless, .help]

/-- The long name of an option. -/
def long : RunOption → String
  | .config => "config"
  | .ticks => "ticks"
  | .paused => "paused"
  | .headless => "headless"
  | .help => "help"

/-- The letter of an option, if it has one. -/
def letter : RunOption → Option Char
  | .config => some 'c'
  | .ticks => some 't'
  | .help => some 'h'
  | _ => none

/-- Whether an option takes a value. -/
def takesValue : RunOption → Bool
  | .config | .ticks => true
  | _ => false

/-- The option of a long name. -/
def ofLong? (name : String) : Option RunOption :=
  all.find? fun o => o.long == name

/-- The option of a letter. -/
def ofLetter? (c : Char) : Option RunOption :=
  all.find? fun o => o.letter == some c

/-- What a line of help says about an option. -/
def description : RunOption → String
  | .config => "Path to the JSON engine configuration"
  | .ticks => "Stop after this many ticks (overrides the configuration, 0 = unlimited)"
  | .paused => "Start with the simulation paused"
  | .headless => "Step on the current thread without a render task"
  | .help => "Print help"

/-- The option as the command line writes it. -/
def written (o : RunOption) : String :=
  match o.letter with
  | some c => "-" ++ c.toString ++ ", --" ++ o.long
  | none => "    --" ++ o.long

end RunOption

namespace RunOptions

/-- Nothing is asked for. -/
def none : RunOptions := ⟨.none, .none, false, false⟩

/-- The number that decimal digits write, after a plus sign or without one. -/
def parseWord? (text : String) : Option UInt64 :=
  let chars := text.toList
  let digits := if chars.head? = some '+' then chars.tail else chars
  if digits.isEmpty || !digits.all Char.isDigit then .none
  else
    let n := digits.foldl (fun n c => 10 * n + (c.toNat - '0'.toNat)) 0
    if n < Nat.pow 2 64 then some n.toUInt64 else .none

/-- The options with a switch turned on. -/
def switch (o : RunOptions) (option : RunOption) : Except UsageStop RunOptions :=
  match option with
  | .paused =>
    if o.isPaused then .error (.repeated option.long) else .ok { o with isPaused := true }
  | .headless =>
    if o.isHeadless then .error (.repeated option.long) else .ok { o with isHeadless := true }
  | .help => .error .help
  | .config | .ticks => .error (.missingValue option.long)

/-- The options with a value given. -/
def assign (o : RunOptions) (option : RunOption) (value : String) : Except UsageStop RunOptions :=
  match option with
  | .config =>
    if o.config.isSome then .error (.repeated option.long)
    else if value.isEmpty then .error (.invalidValue option.long value)
    else .ok { o with config := some value }
  | .ticks =>
    if o.ticks.isSome then .error (.repeated option.long)
    else
      match parseWord? value with
      | some n => .ok { o with ticks := some n }
      | .none => .error (.invalidValue option.long value)
  | _ => .error (.unexpectedValue option.long)

/-- Splits at the first equality sign. -/
def splitValue (chars : List Char) : List Char × Option String :=
  let name := chars.takeWhile (· ≠ '=')
  match chars.dropWhile (· ≠ '=') with
  | [] => (name, .none)
  | _ :: value => (name, some (String.ofList value))

/-- What an argument that starts with a dash asks for. -/
inductive Token where
  /-- Options, of which the last one may take the next argument as its value. -/
  | switches (options : List RunOption)
  /-- Switches, and an option with its value. -/
  | assignment (switches : List RunOption) (option : RunOption) (value : String)
  | refused (stop : UsageStop)

/-- The letters of an argument; what stands behind a letter that takes a value is the value. -/
def lettersToken (argument : String) (switches : List RunOption) : List Char → Token
  | [] => .switches switches
  | c :: rest =>
    match RunOption.ofLetter? c with
    | .none => .refused (.unknownOption argument)
    | some option =>
      if option = .help then .switches (switches ++ [option])
      else if option.takesValue then
        match rest with
        | [] => .switches (switches ++ [option])
        | '=' :: value => .assignment switches option (String.ofList value)
        | value => .assignment switches option (String.ofList value)
      else lettersToken argument (switches ++ [option]) rest

/-- What an argument asks for. -/
def token (argument : String) : Token :=
  match argument.toList with
  | ['-', '-'] => .switches []
  | '-' :: '-' :: chars =>
    let (name, value) := splitValue chars
    match RunOption.ofLong? (String.ofList name), value with
    | .none, _ => .refused (.unknownOption argument)
    | some option, .none => .switches [option]
    | some option, some value => .assignment [] option value
  | ['-'] => .refused (.unexpectedArgument argument)
  | '-' :: chars => lettersToken argument [] chars
  | _ => .refused (.unexpectedArgument argument)

/-- Whether an argument can be the value of the option before it. -/
def isValue (argument : String) : Bool :=
  match argument.toList with
  | ['-'] => true
  | '-' :: _ => false
  | _ => true

/-- Reads arguments one after the other. -/
def parseFrom (o : RunOptions) : List String → Except UsageStop RunOptions
  | [] => .ok o
  | "--" :: rest =>
    match rest with
    | [] => .ok o
    | argument :: _ => .error (.unexpectedArgument argument)
  | argument :: rest =>
    match token argument with
    | .refused stop => .error stop
    | .assignment switches option value => do
      parseFrom (← (← switches.foldlM switch o).assign option value) rest
    | .switches options =>
      match options.getLast? with
      | .none => parseFrom o rest
      | some option =>
        if option.takesValue then do
          let o ← options.dropLast.foldlM switch o
          match rest with
          | [] => .error (.missingValue option.long)
          | value :: rest =>
            if isValue value then parseFrom (← o.assign option value) rest
            else .error (.missingValue option.long)
        else do
          parseFrom (← options.foldlM switch o) rest

/-- Reads the command line. -/
def parse (arguments : List String) : Except UsageStop RunOptions :=
  parseFrom none arguments

end RunOptions

/-- What a run came to. -/
structure RunSummary where
  ticks : Nat
  simTime : Option Duration
  faults : Nat
  entities : Nat
  systems : Nat
  parameters : Nat

/-- How the program ends. -/
inductive ProgramEnd where
  | finished (summary : RunSummary)
  | stopped (stop : UsageStop)
  | failed (failure : Failure)
  | panicked (message : String)

namespace ProgramEnd

/-- The code with which the program ends. -/
def exitCode : ProgramEnd → UInt32
  | .finished _ => 0
  | .stopped .help => 0
  | .stopped _ => 2
  | .failed _ => 1
  | .panicked _ => 101

end ProgramEnd

/-- The lines that report a failure: the outermost cause, and the others below it. -/
def Failure.report (f : Failure) : List String :=
  match f.causes with
  | [] => []
  | [outer] => ["Error: " ++ outer]
  | [outer, inner] => ["Error: " ++ outer, "", "Caused by:", "    " ++ inner]
  | outer :: causes =>
    ["Error: " ++ outer, "", "Caused by:"]
      ++ causes.mapIdx fun place cause => "    " ++ toString place ++ ": " ++ cause

namespace RunSummary

/-- The state of a loop in numbers. -/
def ofLoop (t : TickLoop cast) : RunSummary where
  ticks := t.tickId
  simTime := t.last.map StepInfo.simTime
  faults := t.faults
  entities := t.env.world.entityCount
  systems := t.engine.scheduler.size
  parameters := t.env.parameters.size

end RunSummary

namespace RunOptions

/-- The configuration to run, given what is read from a path. -/
def engineConfig (o : RunOptions) (contents : String → Except FileFault String) :
    Except ConfigFileError EngineConfig := do
  let config ← match o.config with
    | some path => EngineConfig.ofFile path (contents path)
    | .none => .ok .default
  match o.ticks with
  | some ticks => return { config with tick := { config.tick with maxTicks := ticks } }
  | .none => return config

/-- Runs a configuration to its end, with at most `bound` ticks; the notices come with the end. -/
def runConfig (o : RunOptions) (config : EngineConfig) (bound : Nat) :
    ProgramEnd × List Notice :=
  match Cast.loopOfConfig [] config with
  | (.error cause, env) => (.failed cause.toFailure, env.journal.reverse)
  | (.ok t, _) =>
    let t := if o.isPaused then t.setPaused true else t
    let (outcome, t) :=
      if o.isHeadless then t.run Cast.behavior bound else t.runAsync Cast.behavior bound
    let notices := t.env.journal.reverse
    match outcome with
    | .failed cause => (.panicked cause.message, notices)
    | .finished | .unfinished => (.finished (.ofLoop t), notices)

/-- Runs the program with its options. -/
def run (o : RunOptions) (contents : String → Except FileFault String) (bound : Nat) :
    ProgramEnd × List Notice :=
  match o.engineConfig contents with
  | .error e => (.failed e.toFailure, [])
  | .ok config => o.runConfig config bound

end RunOptions

/-- Runs the program with its arguments, given what is read from a path. -/
def runProgram (arguments : List String) (contents : String → Except FileFault String)
    (bound : Nat) : ProgramEnd × List Notice :=
  match RunOptions.parse arguments with
  | .error stop => (.stopped stop, [])
  | .ok options => options.run contents bound

end SimEngine
