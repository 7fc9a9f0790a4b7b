import SeededText.Text.Unicode.CaseFolding
import SeededText.Text.Unicode.Casing
import SeededText.Text.Unicode.Categories
import SeededText.Text.Unicode.Classes
import SeededText.Text.Unicode.Properties
import SeededText.Text.Unicode.Scripts

/-!
Contract: sets of characters that one place of a regex accepts.

A script means the characters that have it as their own script, also where it is named as a script
extension: characters that several scripts share belong to none of these sets. So `\p{scx=Hira}`
leaves out U+30FC, which a table of script extensions would add.

Owns: the set operations, matching without regard to case, classes by name.
Does not own: the written form of classes (`SeededText.Regex.Parser`).
-/

namespace SeededText.Regex

open Text Unicode

inductive CharClass where
  | range (first last : Nat)
  | table (ranges : RangeTable)
  | predicate (holds : Char → Bool)
  | complement (inner : CharClass)
  | union (left right : CharClass)
  | intersection (left right : CharClass)
  | difference (left right : CharClass)
  | symmetricDifference (left right : CharClass)
  /-- Characters with a case variant in the inner class. -/
  | caseless (inner : CharClass)

namespace CharClass

def contains : CharClass → Char → Bool
  | .range first last, character => first ≤ character.toNat && character.toNat ≤ last
  | .table ranges, character => ranges.contains character.toNat
  | .predicate holds, character => holds character
  | .complement inner, character => !inner.contains character
  | .union left right, character => left.contains character || right.contains character
  | .intersection left right, character => left.contains character && right.contains character
  | .difference left right, character => left.contains character && !right.contains character
  | .symmetricDifference left right, character =>
      left.contains character != right.contains character
  | .caseless inner, character =>
      (caseOrbit character.toNat).any fun variant => inner.contains (Char.ofNat variant)

def single (character : Char) : CharClass :=
  .range character.toNat character.toNat

/-- No character. -/
def nothing : CharClass := .range 1 0

/-- Every character. -/
def anything : CharClass := .range 0 0x10FFFF

def unionAll (classes : List CharClass) : CharClass :=
  classes.foldr .union nothing

def negatedIf (negated : Bool) (charClass : CharClass) : CharClass :=
  if negated then .complement charClass else charClass

def caselessIf (caseless : Bool) (charClass : CharClass) : CharClass :=
  if caseless then .caseless charClass else charClass

/-- The classes of the form `[:name:]`, which hold ASCII characters only. -/
def asciiNamed? (name : String) : Option CharClass :=
  let ranges (bounds : List (Char × Char)) : Option CharClass :=
    some (unionAll (bounds.map fun (first, last) => .range first.toNat last.toNat))
  match name with
  | "alnum" => ranges [('0', '9'), ('A', 'Z'), ('a', 'z')]
  | "alpha" => ranges [('A', 'Z'), ('a', 'z')]
  | "ascii" => some (.range 0 0x7F)
  | "blank" => ranges [('\t', '\t'), (' ', ' ')]
  | "cntrl" => some (.union (.range 0 0x1F) (.range 0x7F 0x7F))
  | "digit" => ranges [('0', '9')]
  | "graph" => ranges [('!', '~')]
  | "lower" => ranges [('a', 'z')]
  | "print" => ranges [(' ', '~')]
  | "punct" => ranges [('!', '/'), (':', '@'), ('[', '\x60'), ('\x7b', '~')]
  | "space" => some (.union (.range 9 13) (.range 32 32))
  | "upper" => ranges [('A', 'Z')]
  | "word" => ranges [('0', '9'), ('A', 'Z'), ('_', '_'), ('a', 'z')]
  | "xdigit" => ranges [('0', '9'), ('A', 'F'), ('a', 'f')]
  | _ => none

/-- The class with one of the given names among properties with ranges. -/
def named? (properties : List NamedRanges) (name : String) : Option CharClass :=
  (properties.find? fun property => property.names.contains name).map fun property =>
    .table (RangeTable.read property.ranges)

/-- General categories that are unions of others, by their names and the first letter or the names
of their parts. -/
def categoryUnions : List (List String × List String) :=
  [(["l", "letter"], ["lu", "ll", "lt", "lm", "lo"]),
    (["lc", "casedletter"], ["lu", "ll", "lt"]),
    (["m", "mark", "combiningmark"], ["mn", "mc", "me"]),
    (["n", "number"], ["nd", "nl", "no"]),
    (["p", "punctuation", "punct"], ["pc", "pd", "ps", "pe", "pi", "pf", "po"]),
    (["s", "symbol"], ["sm", "sc", "sk", "so"]),
    (["z", "separator"], ["zs", "zl", "zp"])]

/-- All assigned characters. -/
def assigned : CharClass :=
  unionAll (generalCategories.map fun category => .table (RangeTable.read category.ranges))

/-- A general category under one of its names. -/
def category? (name : String) : Option CharClass :=
  match name with
  | "any" => some anything
  | "ascii" => some (.range 0 0x7F)
  | "assigned" => some assigned
  | "cn" | "unassigned" => some (.complement assigned)
  | "c" | "other" =>
      some (.union (.complement assigned)
        (unionAll (["cc", "cf", "co"].filterMap (named? generalCategories))))
  | _ =>
      match categoryUnions.find? fun entry => entry.1.contains name with
      | some (_, parts) => some (unionAll (parts.filterMap (named? generalCategories)))
      | none => named? generalCategories name

def script? (name : String) : Option CharClass :=
  named? scripts name

/-- A property that a character has or has not. -/
def property? (name : String) : Option CharClass :=
  match name with
  | "alpha" | "alphabetic" => some (.predicate isAlphabetic)
  | "upper" | "uppercase" => some (.predicate isUppercase)
  | "cased" => some (.predicate isCased)
  | "ci" | "caseignorable" => some (.predicate isCaseIgnorable)
  | "wspace" | "whitespace" | "space" => some (.predicate isBlank)
  | _ => named? binaryProperties name

/-- A property name in its loose form: lower case, without blanks, hyphens, underscores and a
leading `is`. -/
def looseProperty (name : List Char) : String :=
  let kept := (name.map asciiLower).filter fun character =>
    character != ' ' && character != '-' && character != '_' && isAscii character
  match kept with
  | 'i' :: 's' :: rest => if rest = ['c'] then "isc" else String.ofList rest
  | _ => String.ofList kept

/-- The class that `\p` names by one name. Three names mean general categories or scripts although
they are short names of properties too. -/
def unnamedProperty? (name : String) : Option CharClass :=
  let asProperty := if ["cf", "sc", "lc"].contains name then none else property? name
  asProperty.orElse fun _ => (category? name).orElse fun _ => script? name

/-- The class that `\p` names by a property and its value. There are no tables of script extensions,
so they are looked up as scripts. -/
def valuedProperty? (property value : String) : Option CharClass :=
  match property with
  | "gc" | "generalcategory" => category? value
  | "sc" | "script" | "scx" | "scriptextensions" => script? value
  | _ => none

end CharClass

end SeededText.Regex
