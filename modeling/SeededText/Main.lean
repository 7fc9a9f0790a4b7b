import SeededText.Tools.Console
import SeededText.Tools.DictionaryLint

/-!
Contract: the command line.

The first argument names the tool, `console` or `dict_linter`; the others are for the tool.

Owns: real files and streams.
Does not own: what the tools do (`SeededText.Tools`).
-/

namespace SeededText.Tools

/-- Why reading failed, as far as tools tell reasons apart. -/
def faultOfError : IO.Error → FileFault
  | .noFileOrDirectory _ _ _ => .missing
  | error => .other (toString error)

/-- Reads what is at a real path, directories with everything below. -/
partial def readNode (path : String) : IO FileNode := do
  let place := System.mkFilePath [path]
  try
    if ← place.isDir then
      let names := (← place.readDir).toList.map IO.FS.DirEntry.fileName
      let sorted := names.mergeSort fun first second => first ≤ second
      return .directory (← sorted.mapM fun name => do
        return (name, ← readNode (joinPath path name)))
    else return .file (← IO.FS.readFile place)
  catch error => return .unreadable (faultOfError error)

/-- Writes a report to the real streams. -/
def Report.write (report : Report) : IO UInt32 := do
  let output ← IO.getStdout
  output.putStr report.output
  output.flush
  IO.eprint report.errors
  return UInt32.ofNat report.status

/-- Answers lines from the real input until it ends or a line ends the console. -/
partial def converseLive (engine : Engine) (state : ConsoleState) : IO UInt32 := do
  let output ← IO.getStdout
  output.putStr prompt
  output.flush
  let line ← (← IO.getStdin).getLine
  if line.isEmpty then return 0
  else
    let (reply, state?) := respond engine state line
    let _ ← reply.write
    match state? with
    | none => return 0
    | some state => converseLive engine state

/-- The console with real files and streams. -/
def consoleLive (arguments : List String) : IO UInt32 := do
  match ConsoleOptions.read arguments with
  | .error fault => (Report.failure 2 fault.message).write
  | .ok options =>
      match ← loadEngine readNode options.settings? options.dictionaries with
      | .error fault => (Report.failure 1 fault.message).write
      | .ok engine =>
          match options.file? with
          | some path => (← runFile readNode engine path options.seed).write
          | none =>
              let _ ← (greeting engine options.seed).write
              converseLive engine (.start options.seed)

end SeededText.Tools

def main (arguments : List String) : IO UInt32 :=
  open SeededText.Tools in
  match arguments with
  | "console" :: others => consoleLive others
  | "dict_linter" :: others => do (← dictionaryLint readNode others).write
  | _ => (Report.failure 2 "expected 'console' or 'dict_linter'").write
