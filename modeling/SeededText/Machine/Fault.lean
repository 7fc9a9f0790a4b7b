import SeededText.Arithmetic.Expr
import SeededText.Pattern.Scope
import SeededText.Vocabulary.Carrier
import SeededText.Vocabulary.QueryParser

/-!
Contract: why a run stops before its end.

A fault has a place, which is a position in a pattern, and a cause. Causes have four sorts: what is
written wrongly, what is used wrongly, a vocabulary without a fitting entry, and a failure of
something that the run called.

Owns: causes and their wording, what a result says of the results it was made from.
Does not own: when faults arise.
-/

namespace SeededText.Machine

open Pattern

/-- Something that is written wrongly. -/
inductive Malformation where
  | lexeme (problem : LexProblem)
  | scope (problem : ScopeProblem)
  | strayCloser (spelling : String)
  | emptyTag
  | expectedTagName (found : String)
  | expectedArguments (name found : String)
  | replacerArguments (count : Nat)
  | missingSubroutineName
  | expectedSubroutine
  | missingBody (name : String)
  | query (problem : Vocabulary.QueryProblem)
  | regex (fault : Regex.Fault)
  | escapeCount (digits : String)
  | emptyEscape
  | codePoint (digits : String)
deriving DecidableEq, Repr

def Malformation.message : Malformation → String
  | .lexeme problem => problem.message
  | .scope problem => problem.message
  | .strayCloser spelling => s!"unexpected '{spelling}' without a matching opener"
  | .emptyTag => "empty tag"
  | .expectedTagName found => s!"expected a tag name, found '{found}'"
  | .expectedArguments name found => s!"expected ':' or ']' after '{name}', found '{found}'"
  | .replacerArguments count =>
      s!"a replacer takes an input and a replacement, found {count} argument(s)"
  | .missingSubroutineName => "expected a subroutine name after '$'"
  | .expectedSubroutine => "expected a subroutine name or '[' after '$'"
  | .missingBody name => s!"expected ':' before the body of subroutine '{name}'"
  | .query problem => problem.message
  | .regex fault => Vocabulary.invalidRegexMessage fault
  | .escapeCount digits => s!"invalid escape count '{digits}'"
  | .emptyEscape => "empty escape sequence"
  | .codePoint digits => s!"invalid unicode escape '\\u{digits}'"

/-- Something that is written well but cannot be meant. -/
inductive Misuse where
  | stackOverflow
  | invalidTagName (name : String)
  | unknownTag (name : String)
  | tagArguments (name : String) (count : Nat)
  | expectedCode
  | invalidName (what name : String)
  | invalidCount (what text : String)
  | countTooLarge (what : String) (count limit : Nat)
  | invalidChance (text : String)
  | invalidInteger (text : String)
  | unknownSynchronizerKind (name : String)
  | undefinedSynchronizer (name : String)
  | noRepeater (tag : String)
  | zeroInterval
  | noMatch (tag : String)
  | noGroup (key : String)
  | noBindings
  | noArgument (name : String)
  | unknownNumberFormat (name : String)
  | unknownCapitalization (name : String)
  | unknownVisibility (name : String)
  | undefinedMarker (name : String)
  | noCharacters
  | noComparison
  | unknownComparisonFlag (name : String)
  | noHook (name : String)
  | noSubroutine (name : String) (count : Nat)
  | invalidSubroutineName
  | invalidParameter (text name : String)
  | undefinedQueryMacro (name : String)
  | noVocabulary
  | escapeCountTooLarge (count : Nat)
deriving DecidableEq, Repr

def Misuse.message : Misuse → String
  | .stackOverflow => "stack overflow"
  | .invalidTagName name => s!"invalid tag name '{name}'"
  | .unknownTag name => s!"unknown tag '{name}'"
  | .tagArguments name count => s!"tag '{name}' does not take {count} argument(s)"
  | .expectedCode => "expected a code argument"
  | .invalidName what name => s!"invalid {what} name '{name}'"
  | .invalidCount what text => s!"invalid {what} '{text}'"
  | .countTooLarge what count limit => s!"{what} {count} exceeds the limit of {limit}"
  | .invalidChance text => s!"chance must be 0-100, got '{text}'"
  | .invalidInteger text => s!"invalid integer '{text}'"
  | .unknownSynchronizerKind name => s!"unknown synchronizer type '{name}'"
  | .undefinedSynchronizer name => s!"undefined synchronizer '{name}'"
  | .noRepeater tag => s!"[{tag}] outside of a block: no active repeater"
  | .zeroInterval => "[nth] interval must be greater than zero"
  | .noMatch tag => s!"[{tag}] outside of a replacer"
  | .noGroup key => s!"no capture group '{key}'"
  | .noBindings => "[arg] outside of a subroutine"
  | .noArgument name => s!"no argument named '{name}'"
  | .unknownNumberFormat name => s!"unknown number format '{name}'"
  | .unknownCapitalization name => s!"unknown capitalization '{name}'"
  | .unknownVisibility name => s!"unknown visibility '{name}'"
  | .undefinedMarker name => s!"undefined marker '{name}'"
  | .noCharacters => "[char] needs at least one character"
  | .noComparison => "[is] outside of [cmp]"
  | .unknownComparisonFlag name => s!"unknown comparison flag '{name}'"
  | .noHook name => s!"no hook named '{name}'"
  | .noSubroutine name count => s!"no subroutine '{name}' taking {count} argument(s)"
  | .invalidSubroutineName => "invalid subroutine name"
  | .invalidParameter text name => s!"invalid parameter '{text}' for subroutine '{name}'"
  | .undefinedQueryMacro name => s!"undefined query macro '{name}'"
  | .noVocabulary => "no vocabulary is loaded"
  | .escapeCountTooLarge count => s!"escape count {count} is too large"

/-- A failure of something that the run called. -/
inductive CallFailure where
  | lookup (table : String) (fault : Vocabulary.LookupFault)
  | arithmetic (text : String) (fault : Arithmetic.Fault)
  | hook (name reason : String)
deriving DecidableEq, Repr

def CallFailure.message : CallFailure → String
  | .lookup table fault => s!"lookup <{table}>: {fault.message}"
  | .arithmetic text fault => s!"arithmetic '{text}': {fault.message}"
  | .hook name reason => s!"hook '{name}': {reason}"

inductive Cause where
  | malformed (malformation : Malformation)
  | misused (misuse : Misuse)
  | exhausted (fault : Vocabulary.SelectionFault)
  | failed (failure : CallFailure)
deriving DecidableEq, Repr

def Cause.message : Cause → String
  | .malformed malformation => malformation.message
  | .misused misuse => misuse.message
  | .exhausted fault => fault.message
  | .failed failure => failure.message

structure Fault where
  /-- Name of the pattern. -/
  pattern : String
  position : Position
  cause : Cause
deriving DecidableEq, Repr

def Fault.message (fault : Fault) : String :=
  fault.cause.message

/-- The message with its place. -/
def Fault.text (fault : Fault) : String :=
  let sort :=
    match fault.cause with
    | .malformed _ => "syntax error: "
    | _ => ""
  s!"{fault.pattern} ({fault.position.text}): {sort}{fault.message}"

/-- The pattern with the given name and source; its fault names it. -/
def compile (name source : String) : Except Fault Pattern :=
  (Pattern.compile name source).mapError fun located =>
    ⟨name, located.position, .malformed (.lexeme located.problem)⟩

section Results

variable {ε α β : Type} {result : β} {error : ε}

theorem map_eq_ok {first : Except ε α} {change : α → β} :
    first.map change = .ok result ↔ ∃ value, first = .ok value ∧ change value = result := by
  cases first <;> simp [Except.map]

theorem bind_eq_ok {first : Except ε α} {next : α → Except ε β} :
    (first >>= next) = .ok result ↔ ∃ value, first = .ok value ∧ next value = .ok result := by
  cases first <;> simp [bind, Except.bind]

theorem map_eq_error {first : Except ε α} {change : α → β} :
    first.map change = .error error ↔ first = .error error := by
  cases first <;> simp [Except.map]

theorem bind_eq_error {first : Except ε α} {next : α → Except ε β} :
    (first >>= next) = .error error ↔
      first = .error error ∨ ∃ value, first = .ok value ∧ next value = .error error := by
  cases first <;> simp [bind, Except.bind]

end Results

end SeededText.Machine
