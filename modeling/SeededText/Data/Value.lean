import SeededText.Number.Numeral
import SeededText.Text.Unicode.Letters

/-!
Contract: structured data as texts write it, and what a reader may ask of it.

Owns: values, faults, taking texts, counts, lists, maps and records out of a value.
Does not own: the written form (`SeededText.Data.Reader`), what records mean.
-/

namespace SeededText.Data

inductive Fault where
  | expected (what : String)
  | unfinished
  | unclosedComment
  | invalidEscape
  | invalidNumber
  | unknownExtension (name : String)
  | differentRecord (expectedName found : String)
  | repeatedField (name : String)
  | missingField (name : String)
  | nestedTooDeeply
  | trailingText
deriving DecidableEq, Repr

def Fault.message : Fault → String
  | .expected what => s!"expected {what}"
  | .unfinished => "unexpected end of input"
  | .unclosedComment => "unclosed block comment"
  | .invalidEscape => "invalid escape sequence"
  | .invalidNumber => "invalid number"
  | .unknownExtension name => s!"no extension named '{name}'"
  | .differentRecord expectedName found => s!"expected record '{expectedName}', found '{found}'"
  | .repeatedField name => s!"repeated field '{name}'"
  | .missingField name => s!"missing field '{name}'"
  | .nestedTooDeeply => "values are nested too deeply"
  | .trailingText => "text behind the value"

inductive Value where
  /-- A name without anything behind it. -/
  | word (name : String)
  | text (content : String)
  | character (content : Char)
  /-- A number as it is written. -/
  | number (written : List Char)
  /-- A value in `Some(…)`. -/
  | present (inner : Value)
  | list (items : List Value)
  | map (entries : List (Value × Value))
  | record (name? : Option String) (fields : List (String × Value))
  | tuple (name? : Option String) (items : List Value)

/-- A value with the rule under which it was written. -/
structure Document where
  value : Value
  /-- Whether an optional value may stand without `Some(…)`. -/
  implicitSome : Bool

namespace Value

def asText : Value → Except Fault String
  | .text content => .ok content
  | _ => .error (.expected "a string")

def asWord : Value → Except Fault String
  | .word name => .ok name
  | _ => .error (.expected "a name")

def asList : Value → Except Fault (List Value)
  | .list items => .ok items
  | _ => .error (.expected "a list")

def asMap : Value → Except Fault (List (Value × Value))
  | .map entries => .ok entries
  | _ => .error (.expected "a map")

def asTexts (value : Value) : Except Fault (List String) := do
  (← value.asList).mapM asText

/-- Base of an integer and its digits, by the two characters it begins with. -/
def splitBase : List Char → Nat × List Char
  | '0' :: 'x' :: digits => (16, digits)
  | '0' :: 'b' :: digits => (2, digits)
  | '0' :: 'o' :: digits => (8, digits)
  | digits => (10, digits)

/-- A natural number in a base, with underscores between its digits. -/
def readDigitsIn (base : Nat) (digits : List Char) : Except Fault Nat :=
  match digits with
  | [] => .error .invalidNumber
  | '_' :: _ => .error .invalidNumber
  | _ =>
      (digits.filter (· != '_')).foldlM (fun value digit =>
        match Text.Unicode.hexDigit? digit with
        | some amount =>
            if amount < base then .ok (base * value + amount) else .error .invalidNumber
        | none => .error .invalidNumber) 0

/-- A natural number up to `limit`. -/
def asCount (limit : Nat) : Value → Except Fault Nat
  | .number written => do
      let (base, digits) := splitBase written
      let count ← readDigitsIn base digits
      if count ≤ limit then return count else .error .invalidNumber
  | _ => .error (.expected "a natural number")

/-- A value that may be absent. -/
def asOptional (implicitSome : Bool) : Value → Except Fault (Option Value)
  | .word "None" => .ok none
  | .present inner => .ok (some inner)
  | value => if implicitSome then .ok (some value) else .error (.expected "Some or None")

/-- Checks a record's name, which may be left out. -/
def checkName (name : String) : Option String → Except Fault Unit
  | none => .ok ()
  | some found => if found = name then .ok () else .error (.differentRecord name found)

/-- Checks that none of the names occurs twice among the fields. -/
def checkFields (fields : List (String × Value)) (known : List String) : Except Fault Unit :=
  known.forM fun name =>
    if 2 ≤ (fields.filter fun field => field.1 = name).length then .error (.repeatedField name)
    else .ok ()

/-- Fields of a record, of which the known ones must not be repeated. -/
def asRecord (name : String) (known : List String) : Value → Except Fault (List (String × Value))
  | .record name? fields => do
      checkName name name?
      checkFields fields known
      return fields
  | .tuple name? [] => do
      checkName name name?
      return []
  | _ => .error (.expected s!"record '{name}'")

end Value

/-- A field that may be left out. -/
def optionalField {α : Type} (fields : List (String × Value)) (name : String) (absent : α)
    (read : Value → Except Fault α) : Except Fault α :=
  match fields.find? fun field => field.1 = name with
  | some (_, value) => read value
  | none => .ok absent

def requiredField {α : Type} (fields : List (String × Value)) (name : String)
    (read : Value → Except Fault α) : Except Fault α :=
  match fields.find? fun field => field.1 = name with
  | some (_, value) => read value
  | none => .error (.missingField name)

end SeededText.Data
