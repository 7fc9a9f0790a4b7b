import SeededText.Tools.Files
import SeededText.Tools.Options
import SeededText.Tools.Report

/-!
Contract: the linter of dictionaries.

A dictionary is in order if queries can reach every table by its name, no table is empty, and every
entry has a term for each form of its table. Equal first terms and classes of a single entry are
worth a warning. Patterns may be checked too: each has to compile.

Owns: findings, the walk over dictionary files, the report.
Does not own: real files (`SeededText.Main`).
-/

namespace SeededText.Tools

open Vocabulary

inductive LintError where
  | unreachableName (table : String)
  | emptyTable (table : String)
  | termCount (table : String) (index : Nat) (term : String) (count expected : Nat)
  | file (path : String) (fault : SetupFault)
  | directory (path : String)
  | pattern (fault : Machine.Fault)
deriving DecidableEq, Repr

def LintError.message : LintError → String
  | .unreachableName table => s!"Table '{table}' has a name queries cannot reach"
  | .emptyTable table => s!"Table '{table}' has no entries"
  | .termCount table index term count expected =>
      s!"{table}[{index}] '{term}' has {count} terms but the table has {expected} subtypes"
  | .file path fault => s!"{path}: {fault.message}"
  | .directory path => s!"cannot read directory '{path}'"
  | .pattern fault => fault.text

inductive LintWarning where
  | duplicate (table : String) (index : Nat) (term : String) (earlier : Nat)
  | lonelyClass (className table : String)
deriving DecidableEq, Repr

def LintWarning.message : LintWarning → String
  | .duplicate table index term earlier =>
      s!"{table}[{index}] duplicates '{term}' from {table}[{earlier}]"
  | .lonelyClass className table =>
      s!"Class '{className}' in table '{table}' is used by a single entry"

/-! ### Tables -/

/-- Entries without a term for each form, the first of them with the index `index`. -/
def termCountErrors (table : String) (expected : Nat) : Nat → List Entry → List LintError
  | _, [] => []
  | index, entry :: entries =>
      let count := entry.terms.length
      let others := termCountErrors table expected (index + 1) entries
      if count = expected then others
      else
        let first := (entry.terms.head?.map Term.value).getD ""
        .termCount table index first count expected :: others

/-- Entries whose first term is that of an earlier one; `seen` has the last index of each term. -/
def duplicates (table : String) : Nat → List Entry → Table String Nat → List LintWarning
  | _, [], _ => []
  | index, entry :: entries, seen =>
      match entry.terms.head? with
      | none => duplicates table (index + 1) entries seen
      | some first =>
          let others := duplicates table (index + 1) entries (seen.insert first.value index)
          match seen.find? first.value with
          | some earlier => .duplicate table index first.value earlier :: others
          | none => others

/-- Classes that the entries of a table list once altogether, in order. -/
def lonelyClasses (entries : List Entry) : List String :=
  let uses := entries.flatMap Entry.classes
  (uses.filter fun className => uses.count className = 1).mergeSort
    fun first second => first ≤ second

def tableErrors (name : String) (table : WordTable) : List LintError :=
  let reach := if Pattern.isName name then [] else [LintError.unreachableName name]
  let contents :=
    if table.entries.isEmpty then [.emptyTable name]
    else termCountErrors name (max table.subtypes.length 1) 0 table.entries
  reach ++ contents

def tableWarnings (name : String) (table : WordTable) : List LintWarning :=
  duplicates name 0 table.entries .empty ++
    (lonelyClasses table.entries).map fun className => .lonelyClass className name

/-- Everything that is wrong with a dictionary. -/
def dictionaryErrors (dictionary : Dictionary) : List LintError :=
  dictionary.tables.flatMap fun (name, table) => tableErrors name table

def dictionaryWarnings (dictionary : Dictionary) : List LintWarning :=
  dictionary.tables.flatMap fun (name, table) => tableWarnings name table

/-! ### Files -/

/-- Dictionaries that were loaded: their paths, everything they have, and what could not be
loaded. -/
structure Loading where
  paths : List String
  dictionary : Dictionary
  errors : List LintError

namespace Loading

def start : Loading := ⟨[], .empty, []⟩

/-- Loads the dictionary that a text writes. -/
def load (loading : Loading) (path text : String) : Loading :=
  match loadDictionary text with
  | .ok dictionary =>
      { loading with
        paths := loading.paths ++ [path]
        dictionary := loading.dictionary.merge dictionary }
  | .error fault => { loading with errors := loading.errors ++ [.file path (.load fault)] }

/-- Whether the entry of a directory is looked at. -/
def isChosen (name : String) : FileNode → Bool
  | .directory _ => true
  | _ => extension? name == some "ron"

mutual

/-- Loads a file, or all dictionaries below a directory. -/
def visit (path : String) (node : FileNode) (loading : Loading) : Loading :=
  match node with
  | .file text => loading.load path text
  | .unreadable fault =>
      { loading with errors := loading.errors ++ [.file path (.file fault)] }
  | .directory entries => visitEntries path entries loading

/-- Loads what is below the entries of a directory. -/
def visitEntries (path : String) (entries : List (String × FileNode)) (loading : Loading) :
    Loading :=
  match entries with
  | [] => loading
  | (name, node) :: entries =>
      visitEntries path entries
        (if isChosen name node then visit (joinPath path name) node loading else loading)

end

end Loading

/-- Patterns of a directory that do not compile. -/
def patternErrors (path : String) : FileNode → List LintError
  | .directory entries =>
      (entries.filter fun entry => extension? entry.1 == some "loom").filterMap
        fun (name, node) =>
          match node.text with
          | .error fault => some (.file (joinPath path name) (.file fault))
          | .ok source =>
              match Machine.compile ((fileStem? name).getD "") source with
              | .ok _ => none
              | .error fault => some (.pattern fault)
  | _ => [.directory path]

/-! ### Report -/

/-- The report on what was loaded and found. -/
def lintReport (loading : Loading) (patterns : List LintError) : Report :=
  let warnings := dictionaryWarnings loading.dictionary
  let errors := dictionaryErrors loading.dictionary ++ loading.errors ++ patterns
  let lines :=
    loading.paths.map ("  Loaded: " ++ ·) ++
      [s!"Loaded {loading.dictionary.tables.length} tables", "",
        "=== Dictionary Lint Report ===", ""] ++
      (if errors.isEmpty && warnings.isEmpty then ["All checks passed!"] else []) ++
      (warnings.map fun warning => "WARNING: " ++ warning.message) ++
      (errors.map fun error => "ERROR: " ++ error.message) ++
      ["", s!"Summary: {errors.length} errors, {warnings.length} warnings"]
  (lines.foldl Report.line .empty).withStatus (if errors.isEmpty then 0 else 1)

variable {m : Type → Type} [Monad m]

def visitPaths (files : Files m) : List String → Loading → m Loading
  | [], loading => return loading
  | path :: paths, loading => do
      visitPaths files paths (loading.visit path (← files path))

/-- The linter on given files. -/
def dictionaryLint (files : Files m) (arguments : List String) : m Report := do
  match Arguments.read [⟨"patterns", none⟩] arguments with
  | .error fault => return .failure 2 fault.message
  | .ok read =>
      if read.others.isEmpty then return .failure 2 "a path is required"
      else
        let loading ← visitPaths files read.others .start
        let patterns ←
          match read.value? "patterns" with
          | none => pure []
          | some path => patternErrors path <$> files path
        return lintReport loading patterns

end SeededText.Tools
