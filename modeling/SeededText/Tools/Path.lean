/-!
Contract: parts of paths.

Owns: components, file names and their stems and extensions, parents, joining.
Does not own: what is at a path (`SeededText.Tools.Files`).
-/

namespace SeededText.Tools

/-- The components of a path, without empty ones and single points. -/
def pathComponents (path : String) : List String :=
  ((path.toList.splitOnP fun character => character == '/').filter fun part =>
    !part.isEmpty && part != ['.']).map String.ofList

def isAbsolute (path : String) : Bool :=
  path.toList.head? == some '/'

/-- The last component, if it is a name. -/
def fileName? (path : String) : Option String :=
  (pathComponents path).getLast?.filter fun component => component ≠ ".."

/-- A file name before and behind its last point; a point at the start does not count. -/
def splitFileName (name : String) : String × Option String :=
  let reversed := name.toList.reverse
  match reversed.span fun character => character != '.' with
  | (_, []) => (name, none)
  | (_, [_]) => (name, none)
  | (extension, _ :: stem) =>
      (String.ofList stem.reverse, some (String.ofList extension.reverse))

def fileStem? (path : String) : Option String :=
  (fileName? path).map fun name => (splitFileName name).1

def extension? (path : String) : Option String :=
  (fileName? path).bind fun name => (splitFileName name).2

/-- A path below a directory; an absolute path stays as it is. -/
def joinPath (directory path : String) : String :=
  if isAbsolute path || directory.isEmpty then path
  else if directory.toList.getLast? == some '/' then directory ++ path
  else directory ++ "/" ++ path

/-- Path of the directory that holds what is at a path. -/
def parentPath (path : String) : String :=
  let parents := (pathComponents path).dropLast
  (if isAbsolute path then "/" else "") ++ String.intercalate "/" parents

end SeededText.Tools
