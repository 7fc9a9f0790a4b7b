import SeededText.Pattern.Scope
import SeededText.Regex.Matcher
import SeededText.Table

/-!
Contract: replacing the matches of a regex in a text.

Owns: what code sees of a match, a replacement under way.
Does not own: running the code that makes the text for a match.
-/

namespace SeededText.Machine

/-- A match of a replacer: its text, its groups, the first of which is the whole, and the groups
with names that took part. -/
structure MatchData where
  text : String
  groups : List (Option String)
  named : Table String String
deriving Repr

namespace MatchData

def sliceText (text : Array Char) (start stop : Nat) : String :=
  String.ofList (text.extract start stop).toList

/-- The data of a match in a text. -/
def ofMatch (regex : Regex) (text : Array Char) (found : Regex.Match) : MatchData :=
  let groups := found.groups.map fun group? =>
    group?.map fun (start, stop) => sliceText text start stop
  { text := sliceText text found.start found.stop
    groups := groups
    named := regex.names.foldl (fun named (name, index) =>
      match groups.getD index none with
      | some group => named.insert name group
      | none => named) .empty }

end MatchData

/-- Replacing the matches in a text: the matches that are left with the text before each, the text
behind the last, and what has been made of the text before. -/
structure Replacement where
  code : Code
  unread : List (String × MatchData)
  tail : String
  buffer : String
deriving Repr

/-- The matches in a text with the text before each, and the text behind the last. -/
def splitMatches (regex : Regex) (text : Array Char) :
    Nat → List Regex.Match → List (String × MatchData) × String
  | start, [] => ([], MatchData.sliceText text start text.size)
  | start, found :: others =>
      let (unread, tail) := splitMatches regex text found.stop others
      ((MatchData.sliceText text start found.start, .ofMatch regex text found) :: unread, tail)

/-- The replacement of all matches of a regex in a text. -/
def Replacement.start (regex : Regex) (code : Code) (text : String) : Replacement :=
  let characters := text.toList
  let (unread, tail) := splitMatches regex characters.toArray 0 (regex.allMatches characters)
  ⟨code, unread, tail, ""⟩

end SeededText.Machine
