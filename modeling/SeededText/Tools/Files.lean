import SeededText.Engine.Build
import SeededText.Tools.Path

/-!
Contract: what tools see of a file system.

Tools ask for what is at a path and get a file with its text, a whole directory, or the reason why
there is neither. How the question is answered is for the caller to say.

Owns: the tree of files, looking up a path in it, loading engines and dictionaries from files.
Does not own: real files (`SeededText.Main`).
-/

namespace SeededText.Tools

/-- Why a file cannot be read. -/
inductive FileFault where
  | missing
  | notDirectory
  | isDirectory
  | other (reason : String)
deriving DecidableEq, Repr

def FileFault.message : FileFault → String
  | .missing => "No such file or directory (os error 2)"
  | .notDirectory => "Not a directory (os error 20)"
  | .isDirectory => "Is a directory (os error 21)"
  | .other reason => reason

/-- What is at a path. -/
inductive FileNode where
  | file (text : String)
  /-- In order of names. -/
  | directory (entries : List (String × FileNode))
  | unreadable (fault : FileFault)

/-- Answers the question what is at a path. -/
abbrev Files (m : Type → Type) := String → m FileNode

namespace FileNode

def text : FileNode → Except FileFault String
  | .file text => .ok text
  | .directory _ => .error .isDirectory
  | .unreadable fault => .error fault

/-- Puts what belongs to a name at its place among entries in order of names. -/
def placeEntry (name : String) (node : FileNode) :
    List (String × FileNode) → List (String × FileNode)
  | [] => [(name, node)]
  | entry :: rest =>
      if entry.1 = name then (name, node) :: rest
      else if name < entry.1 then (name, node) :: entry :: rest
      else entry :: placeEntry name node rest

/-- Entries of the directory that a name belongs to, none if it belongs to something else. -/
def entriesOf (name : String) (entries : List (String × FileNode)) : List (String × FileNode) :=
  match entries.find? fun entry => entry.1 = name with
  | some (_, .directory inside) => inside
  | _ => []

/-- Puts a file below the directory with the given entries. -/
def insertFile (text : String) : List String → List (String × FileNode) → List (String × FileNode)
  | [], entries => entries
  | [name], entries => placeEntry name (.file text) entries
  | name :: below :: names, entries =>
      placeEntry name (.directory (insertFile text (below :: names) (entriesOf name entries)))
        entries

/-- The directory that holds the given files under their paths. -/
def ofFiles (files : List (String × String)) : FileNode :=
  .directory (files.foldl (fun entries (path, text) =>
    insertFile text (pathComponents path) entries) [])

/-- What is at the end of a way from a directory, which lies inside the directories `around`. -/
def walk (around : List FileNode) : List String → FileNode → FileNode
  | [], node => node
  | component :: components, node =>
      match node with
      | .unreadable fault => .unreadable fault
      | .file _ => .unreadable .notDirectory
      | .directory entries =>
          if component = ".." then
            match around with
            | [] => .unreadable .missing
            | outer :: others => walk others components outer
          else
            match entries.find? fun entry => entry.1 = component with
            | some (_, inner) => walk (node :: around) components inner
            | none => .unreadable .missing

/-- What is at a path, seen from a directory. A path that ends with a slash leads to no file. -/
def nodeAt (root : FileNode) (path : String) : FileNode :=
  if path.isEmpty || isAbsolute path then .unreadable .missing
  else
    match walk [] (pathComponents path) root with
    | .file text =>
        if path.toList.getLast? == some '/' then .unreadable .notDirectory else .file text
    | node => node

end FileNode

/-- Why a tool has no engine. -/
inductive SetupFault where
  | file (fault : FileFault)
  | load (fault : LoadFault)
deriving DecidableEq, Repr

def SetupFault.message : SetupFault → String
  | .file fault => "IO error: " ++ fault.message
  | .load fault => fault.message

variable {m : Type → Type} [Monad m]

/-- Reads the text of a file and makes something of it. -/
def loadFile {α : Type} (files : Files m) (path : String) (load : String → Except LoadFault α) :
    m (Except SetupFault α) := do
  match (← files path).text with
  | .error fault => return .error (.file fault)
  | .ok text => return (load text).mapError .load

/-- Reads settings. The path of their dictionary is relative to where they are. -/
def loadSettingsFile (files : Files m) (path : String) : m (Except SetupFault Settings) := do
  match ← loadFile files path loadSettings with
  | .error fault => return .error fault
  | .ok settings =>
      return .ok { settings with
        dictionary? := settings.dictionary?.map (joinPath (parentPath path)) }

/-- Reads dictionaries and merges them in order. -/
def loadDictionaryFiles (files : Files m) :
    List String → Vocabulary.Dictionary → m (Except SetupFault Vocabulary.Dictionary)
  | [], dictionary => return .ok dictionary
  | path :: paths, dictionary => do
      match ← loadFile files path loadDictionary with
      | .error fault => return .error fault
      | .ok loaded => loadDictionaryFiles files paths (dictionary.merge loaded)

/-- The engine of a settings file and dictionary files. Without dictionary files, the settings may
name one. -/
def loadEngine (files : Files m) (settingsPath? : Option String) (dictionaryPaths : List String) :
    m (Except SetupFault Engine) := do
  let settings ←
    match settingsPath? with
    | none => pure (.ok .standard)
    | some path => loadSettingsFile files path
  match settings with
  | .error fault => return .error fault
  | .ok settings =>
      let paths :=
        if dictionaryPaths.isEmpty then settings.dictionary?.toList else dictionaryPaths
      let engine := { Engine.standard with settings := settings }
      if paths.isEmpty then return .ok engine
      else
        match ← loadDictionaryFiles files paths .empty with
        | .error fault => return .error fault
        | .ok dictionary => return .ok { engine with lexicon? := some dictionary.lexicon }

end SeededText.Tools
