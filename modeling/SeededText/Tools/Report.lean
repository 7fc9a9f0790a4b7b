/-!
Contract: what a tool leaves behind.

Owns: the exit status and the two output streams.
Does not own: real streams (`SeededText.Main`).
-/

namespace SeededText.Tools

structure Report where
  status : Nat
  output : String
  errors : String
deriving DecidableEq, Repr

namespace Report

/-- Nothing has happened. -/
def empty : Report := ⟨0, "", ""⟩

/-- Adds a line to the output. -/
def line (report : Report) (text : String) : Report :=
  { report with output := report.output ++ text ++ "\n" }

/-- Adds a line to the errors. -/
def errorLine (report : Report) (text : String) : Report :=
  { report with errors := report.errors ++ text ++ "\n" }

def withStatus (report : Report) (status : Nat) : Report :=
  { report with status := status }

/-- The streams of both reports, one behind the other, and the status of the second. -/
def andThen (first second : Report) : Report :=
  ⟨second.status, first.output ++ second.output, first.errors ++ second.errors⟩

/-- A tool that stops with a reason. -/
def failure (status : Nat) (reason : String) : Report :=
  (empty.errorLine ("ERROR: " ++ reason)).withStatus status

end Report

end SeededText.Tools
