import SeededText.Number.Numeral
import SeededText.Tools.Files
import SeededText.Tools.Options
import SeededText.Tools.Report

/-!
Contract: the console, which runs a pattern from a file or one pattern per line.

Lines are run with the seed of the console, which then goes up by one. A line that starts with a
colon and a known word is a command.

Owns: arguments, commands, how output is shown.
Does not own: real streams and files (`SeededText.Main`).
-/

namespace SeededText.Tools

open Output Text

/-- Arguments of the console. -/
structure ConsoleOptions where
  file? : Option String
  dictionaries : List String
  settings? : Option String
  seed : UInt64
deriving DecidableEq, Repr

def consoleOptionNames : List OptionName :=
  [⟨"file", some 'f'⟩, ⟨"dict", some 'd'⟩, ⟨"config", some 'c'⟩, ⟨"seed", some 's'⟩]

/-- A seed as it is written. -/
def readSeed? (text : String) : Option UInt64 :=
  (Number.readCount? text.toList).map UInt64.ofNat

inductive ConsoleFault where
  | argument (fault : ArgumentFault)
  | extraArgument (argument : String)
  | invalidSeed (text : String)
deriving DecidableEq, Repr

def ConsoleFault.message : ConsoleFault → String
  | .argument fault => fault.message
  | .extraArgument text => s!"unexpected argument '{text}'"
  | .invalidSeed text => s!"invalid seed '{text}'"

def ConsoleOptions.read (arguments : List String) : Except ConsoleFault ConsoleOptions := do
  let read ← (Arguments.read consoleOptionNames arguments).mapError .argument
  match read.others with
  | argument :: _ => .error (.extraArgument argument)
  | [] =>
      let seed ←
        match read.value? "seed" with
        | none => .ok 0
        | some text =>
            match readSeed? text with
            | some seed => .ok seed
            | none => .error (.invalidSeed text)
      return ⟨read.value? "file", read.values "dict", read.value? "config", seed⟩

/-! ### Showing output -/

/-- Shows the main text, and then each other channel with its name and visibility. -/
def showOutput (channels : List ChannelOutput) : Report :=
  (channels.filter fun channel => channel.name ≠ mainChannel).foldl
    (fun report channel =>
      report.line s!"  [{channel.name} ({channel.visibility.name})] {channel.text}")
    (Report.empty.line (mainOutput channels))

/-- Shows the outcome of a run; one that failed has the status one. -/
def showRun : Except Failure (List ChannelOutput) → Report
  | .ok channels => showOutput channels
  | .error failure =>
      ((showOutput failure.written).errorLine ("ERROR: " ++ failure.fault.text)).withStatus 1

/-! ### One pattern from a file -/

variable {m : Type → Type} [Monad m]

/-- Name of the pattern in a file. -/
def patternName (path : String) : String :=
  (fileStem? path).getD "main"

def runFile (files : Files m) (engine : Engine) (path : String) (seed : UInt64) : m Report := do
  match (← files path).text with
  | .error fault => return .failure 1 s!"cannot read '{path}': {fault.message}"
  | .ok source =>
      match Machine.compile (patternName path) source with
      | .error fault => return .failure 1 fault.text
      | .ok pattern => return showRun (engine.run pattern seed)

/-! ### Patterns line by line -/

/-- What the console remembers between lines. -/
structure ConsoleState where
  seed : UInt64
  lastSource : String
deriving DecidableEq, Repr

def ConsoleState.start (seed : UInt64) : ConsoleState := ⟨seed, ""⟩

/-- What is shown before the first line. -/
def greeting (engine : Engine) (seed : UInt64) : Report :=
  let report := Report.empty.line s!"Seed: {seed}"
  let report :=
    if engine.lexicon?.isSome then report
    else report.line "No dictionary loaded; queries will fail."
  (report.line "Type ':help' for commands.").line ""

/-- What is shown before each line is read. -/
def prompt : String := "loom> "

def helpText : List String :=
  ["Enter a pattern to run it with the current seed.",
    "  :seed <n>   set the seed (no argument shows it)",
    "  :src        show the last pattern run",
    "  :help       this message",
    "  :quit       exit"]

/-- The words of a line, apart by blanks. -/
def lineWords (line : List Char) : List String :=
  ((line.splitOnP isBlank).filter fun word => !word.isEmpty).map String.ofList

/-- A line without its end. -/
def withoutLineEnd (line : String) : List Char :=
  dropTrailing (fun character => character == '\r' || character == '\n') line.toList

def changeSeed (state : ConsoleState) (argument? : Option String) : Report × ConsoleState :=
  match argument? with
  | none => (Report.empty.line s!"Current seed: {state.seed}", state)
  | some text =>
      match readSeed? text with
      | some seed => (Report.empty.line s!"Seed set to {seed}", { state with seed := seed })
      | none => (Report.empty.line "Invalid seed", state)

def runLine (engine : Engine) (state : ConsoleState) (source : String) : Report × ConsoleState :=
  (showRun (engine.runSource "main" source state.seed), ⟨state.seed + 1, source⟩)

/-- What the console does with a line; there is no state if it ends. -/
def respond (engine : Engine) (state : ConsoleState) (line : String) :
    Report × Option ConsoleState :=
  let characters := withoutLineEnd line
  let goOn (reply : Report × ConsoleState) : Report × Option ConsoleState :=
    (reply.1, some reply.2)
  match lineWords characters with
  | [] => goOn (.empty, state)
  | word :: words =>
      match word with
      | ":quit" | ":q" => (.empty, none)
      | ":help" | ":h" => goOn (helpText.foldl Report.line .empty, state)
      | ":seed" => goOn (changeSeed state words.head?)
      | ":src" => goOn (Report.empty.line state.lastSource, state)
      | _ => goOn (runLine engine state (String.ofList characters))

/-- A prompt and the answer for each line, up to a line that ends the console or the last one. -/
def converse (engine : Engine) : List String → ConsoleState → Report → Report
  | [], _, report => { report with output := report.output ++ prompt }
  | line :: lines, state, report =>
      let asked := { report with output := report.output ++ prompt }
      match respond engine state line with
      | (reply, none) => asked.andThen reply
      | (reply, some state) => converse engine lines state (asked.andThen reply)

/-- The lines of a text, without their ends; a text that ends with a line break has no line behind
it. -/
def textLines (text : String) : List String :=
  let lines := (text.toList.splitOnP fun character => character == '\n').map String.ofList
  if lines.getLast? == some "" then lines.dropLast else lines

/-- The console on given files and input. -/
def console (files : Files m) (arguments : List String) (input : String) : m Report := do
  match ConsoleOptions.read arguments with
  | .error fault => return .failure 2 fault.message
  | .ok options =>
      match ← loadEngine files options.settings? options.dictionaries with
      | .error fault => return .failure 1 fault.message
      | .ok engine =>
          match options.file? with
          | some path => runFile files engine path options.seed
          | none =>
              let talked := converse engine (textLines input) (.start options.seed)
                (greeting engine options.seed)
              return talked.withStatus 0

end SeededText.Tools
