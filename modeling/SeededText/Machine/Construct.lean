import SeededText.Machine.Escape
import SeededText.Machine.Workspace

/-!
Contract: what the tokens of running code do.

Most tokens print their value. An opening bracket starts a construct, which reaches to its closing
bracket: a block, a tag, arithmetic or a query. Reading a construct does what needs no code inside
it to run, and tells what else is to be done. The index to read on from is always behind the token
that was read.

Owns: the form of every construct, and what is done before code inside it runs.
Does not own: how the code inside is run (`SeededText.Machine.Task`), the operations of tags
(`SeededText.Machine.Operation`).
-/

namespace SeededText.Machine

open Pattern

/-- What is left to be done for a construct that has been read. -/
inductive Construct where
  | nothing
  /-- The turns of a block. -/
  | block (repeater : Repeater)
  | tag (operation : TagOperation) (position : Position) (planned : List PlannedArgument)
  | call (subroutine : Subroutine) (position : Position) (planned : List PlannedArgument)
  | replacer (regex : Regex) (input replacement : Code)
  /-- Code that makes code. -/
  | generated (source : Code)
  | arithmetic (isStatement : Bool) (position : Position) (source : Code)
  /-- A subroutine whose body is made by code. -/
  | definition (name : String) (parameters : List SubroutineParameter) (source : Code)

/-- What reading a construct has done: the workspace, and what is left to be done. -/
abbrev Reading := Workspace × Construct

namespace Context

/-- The arguments behind the name of a call: none, or a colon or semicolon and then arguments with
semicolons between them. -/
def argumentSpans (context : Context) (index stop : Nat) (name : String) :
    Except Fault (List Span) :=
  let pattern := context.pattern
  let first := pattern.skipBlanks index stop
  if first < stop then
    match pattern.tokens[first]? with
    | none => .ok []
    | some token =>
        match token.kind with
        | .colon | .semicolon => .ok (pattern.splitTrimmed ⟨first + 1, stop⟩ .semicolon)
        | _ => context.reject token.position (.expectedArguments name token.value)
  else .ok []

theorem argumentSpans_self (context : Context) (stop : Nat) (name : String) :
    context.argumentSpans stop stop name = .ok [] := by
  simp only [argumentSpans, Pattern.skipBlanks_self, if_neg (Nat.lt_irrefl stop)]

/-! ### Blocks -/

/-- Enters a block, unless it has no items, chance decides against it, or it has no turns. Whatever
happens, the attributes for the next block are used up. -/
def readBlock (context : Context) (workspace : Workspace) (items : Array Span) : Reading :=
  let attributes := workspace.attributes
  let workspace := { workspace with attributes := .standard }
  if items.isEmpty then (workspace, .nothing)
  else
    let (isSkipped, workspace) :=
      match attributes.chance? with
      | none => (false, workspace)
      | some chance =>
          let (draw, generator) := workspace.generator.belowWord 100
          (decide (chance ≤ draw), { workspace with generator := generator })
    let repeater := Repeater.ofBlock context.pattern items attributes
    if isSkipped || repeater.count == 0 then (workspace, .nothing)
    else (workspace, .block repeater)

/-! ### Tags -/

/-- A call of a tag by its name. -/
def callTag (context : Context) (workspace : Workspace) (position : Position) (nameIndex : Nat)
    (name : Token) (close : Nat) : Except Fault Reading :=
  if isName name.value then do
    let spans ← context.argumentSpans (nameIndex + 1) close name.value
    match resolveTag name.value spans.length with
    | .error (.unknown tag) => context.refuse name.position (.unknownTag tag)
    | .error (.argumentCount tag count) => context.refuse name.position (.tagArguments tag count)
    | .ok signature =>
        let codes := spans.map (Code.mk context.pattern)
        let planned := ArgumentPlan.ofParameters codes signature.parameters
        return (workspace, .tag signature.operation position planned)
  else context.refuse name.position (.invalidTagName name.value)

/-- A replacer: a regex, an input and a replacement. -/
def replace (context : Context) (workspace : Workspace) (position : Position) (regexIndex : Nat)
    (regexToken : Token) (close : Nat) : Except Fault Reading := do
  let regex ←
    match Regex.compile regexToken.value with
    | .ok regex => pure regex
    | .error fault => context.reject regexToken.position (.regex fault)
  match ← context.argumentSpans (regexIndex + 1) close "replacer" with
  | [input, replacement] =>
      return (workspace, .replacer regex ⟨context.pattern, input⟩ ⟨context.pattern, replacement⟩)
  | spans => context.reject position (.replacerArguments spans.length)

/-! ### Subroutines -/

def callSubroutine (context : Context) (workspace : Workspace) (position : Position)
    (nameIndex : Nat) (name : Token) (close : Nat) : Except Fault Reading := do
  let spans ← context.argumentSpans (nameIndex + 1) close name.value
  match workspace.subroutines.find? (name.value, spans.length) with
  | none => context.refuse name.position (.noSubroutine name.value spans.length)
  | some subroutine =>
      let planned := subroutine.plan (spans.map (Code.mk context.pattern))
      return (workspace, .call subroutine position planned)

/-- A parameter with the name that a token writes. -/
def parameterNamed? (name : Token) (isCode : Bool) : Option SubroutineParameter :=
  if name.kind = .text ∧ isName name.value then some ⟨name.value, isCode⟩ else none

/-- A parameter: a name, with an at sign before it if the parameter takes code. -/
def readParameter? (tokens : List Token) : Option SubroutineParameter :=
  match tokens with
  | [name] => parameterNamed? name false
  | [sign, name] => if sign.kind = .atSign then parameterNamed? name true else none
  | _ => none

def readParameters (context : Context) (name : String) :
    List Span → Except Fault (List SubroutineParameter)
  | [] => .ok []
  | span :: spans => do
      let span := context.pattern.trimSpan span
      match readParameter? (context.pattern.slice span).toList with
      | some parameter => return parameter :: (← readParameters context name spans)
      | none =>
          context.refuse (context.pattern.positionAt span.start)
            (.invalidParameter (context.pattern.spanText span) name)

/-- Name and parameters of a subroutine, from `index` up to `stop`. -/
def readSignature (context : Context) (index stop : Nat) :
    Except Fault (String × List SubroutineParameter) := do
  let nameIndex := context.pattern.skipBlanks index stop
  let name ←
    match if nameIndex < stop then context.pattern.tokens[nameIndex]? else none with
    | some token =>
        if token.kind = .text ∧ isName token.value then pure token.value
        else context.refuse token.position .invalidSubroutineName
    | none => context.refuse (context.pattern.positionAt nameIndex) .invalidSubroutineName
  let spans ← context.argumentSpans (nameIndex + 1) stop name
  return (name, ← context.readParameters name spans)

/-- A definition of a subroutine. The body is code as it stands or, if `isGenerated`, code that
makes the text of the body. -/
def defineSubroutine (context : Context) (workspace : Workspace) (signatureIndex close : Nat)
    (isGenerated : Bool) : Except Fault Reading := do
  let pattern := context.pattern
  let signatureClose ← context.checkScope (pattern.scopeClose signatureIndex)
  let (name, parameters) ← context.readSignature (signatureIndex + 1) signatureClose
  let colon := pattern.skipBlanks (signatureClose + 1) close
  if colon < close ∧ pattern.kindAt? colon = some .colon then
    let body : Code := ⟨pattern, pattern.trimSpan ⟨colon + 1, close⟩⟩
    if isGenerated then return (workspace, .definition name parameters body)
    else
      let subroutine : Subroutine := ⟨name, parameters, body⟩
      return ({ workspace with subroutines := workspace.subroutines.define subroutine }, .nothing)
  else context.reject (pattern.positionAt colon) (.missingBody name)

/-- What stands behind a dollar sign: a call or a definition. -/
def readSubroutine (context : Context) (workspace : Workspace) (position : Position)
    (index close : Nat) : Except Fault Reading :=
  match if index < close then context.pattern.tokens[index]? else none with
  | none => context.reject position .missingSubroutineName
  | some token =>
      if token.kind = .text then context.callSubroutine workspace position index token close
      else
        let isGenerated := token.kind = .question
        let signatureIndex := if isGenerated then index + 1 else index
        if signatureIndex < close ∧
            context.pattern.kindAt? signatureIndex = some (.opens .square) then
          context.defineSubroutine workspace signatureIndex close isGenerated
        else context.reject token.position .expectedSubroutine

/-- The tag between the brackets at `opening` and `close`: code that makes code, a replacer, a
subroutine or a named tag. -/
def readTag (context : Context) (workspace : Workspace) (opener : Token) (opening close : Nat) :
    Except Fault Reading :=
  let pattern := context.pattern
  let first := pattern.skipBlanks (opening + 1) close
  match if first < close then pattern.tokens[first]? else none with
  | none => context.reject opener.position .emptyTag
  | some token =>
      match token.kind with
      | .question =>
          let body := pattern.trimSpan ⟨first + 1, close⟩
          .ok (workspace, .generated ⟨pattern, body⟩)
      | .regex => context.replace workspace opener.position first token close
      | .dollar => context.readSubroutine workspace opener.position (first + 1) close
      | .text => context.callTag workspace opener.position first token close
      | _ => context.reject token.position (.expectedTagName token.value)

/-! ### Arithmetic and queries -/

/-- The arithmetic between the brackets at `opening` and `close`. With an at sign it prints
nothing. -/
def readArithmetic (context : Context) (opener : Token) (opening close : Nat) : Construct :=
  let pattern := context.pattern
  let first := pattern.skipBlanks (opening + 1) close
  let isStatement := decide (first < close ∧ pattern.kindAt? first = some .atSign)
  let start := if isStatement then first + 1 else first
  .arithmetic isStatement opener.position ⟨pattern, start, close⟩

/-- Prints an entry that answers a query. -/
def writeEntry (context : Context) (workspace : Workspace) (position : Position)
    (query : Vocabulary.Query) : Except Fault Reading :=
  match context.engine.lexicon? with
  | none => context.refuse position .noVocabulary
  | some lexicon =>
      match workspace.history.resolve lexicon context.engine.rules query workspace.generator with
      | .ok (candidate, history, generator) =>
          let workspace := { workspace with history := history, generator := generator }
          .ok (workspace.write candidate.text, .nothing)
      | .error (.lookup fault) =>
          .error (context.fault position (.failed (.lookup query.table fault)))
      | .error fault => .error (context.fault position (.exhausted fault))

/-- The query called `name`: the one of this pattern, else the one of all patterns. -/
def namedQuery? (context : Context) (workspace : Workspace) (name : String) :
    Option Vocabulary.Query :=
  (workspace.localQueries.find? (context.pattern.name, name)).orElse fun _ =>
    workspace.globalQueries.find? name

/-- The query between the brackets at `opening` and `close`. -/
def readQuery (context : Context) (workspace : Workspace) (opener : Token) (opening close : Nat) :
    Except Fault Reading :=
  let pattern := context.pattern
  let body := (pattern.slice ⟨opening + 1, close⟩).toList
  let parsed := Vocabulary.parseQuery body (pattern.positionAt close)
  match parsed.diagnostics with
  | first :: _ => context.reject first.position (.query first.problem)
  | [] =>
      match parsed.form with
      | .lookup query => context.writeEntry workspace opener.position query
      | .define name isGlobal query =>
          let workspace :=
            if isGlobal then
              { workspace with globalQueries := workspace.globalQueries.insert name query }
            else
              { workspace with
                localQueries := workspace.localQueries.insert (pattern.name, name) query }
          .ok (workspace, .nothing)
      | .call name =>
          match context.namedQuery? workspace name with
          | some query => context.writeEntry workspace opener.position query
          | none => context.refuse opener.position (.undefinedQueryMacro name)

/-! ### Single tokens -/

/-- Prints what an escape token stands for. -/
def readEscape (context : Context) (workspace : Workspace) (token : Token) : Except Fault Reading :=
  let (digits, code) := splitEscape token.value.toList
  match escapeCount digits with
  | .error malformation => context.reject token.position malformation
  | .ok count =>
      if context.engine.settings.maxRepetitions < count then
        context.refuse token.position (.escapeCountTooLarge count)
      else
        match expandEscape code count "" workspace.generator with
        | .error malformation => context.reject token.position malformation
        | .ok (text, generator) =>
            .ok ({ workspace with generator := generator }.write text, .nothing)

/-- The text of a regex token as it stands in the source. -/
def regexText (value : String) : String :=
  let (body, flags) := splitRegex value.toList
  "//" ++ String.ofList body ++ "//" ++ String.ofList flags

/-- Index behind the construct that starts with the token at `index`. -/
def constructStop (context : Context) (index : Nat) (token : Token) : Except Fault Nat :=
  match token.kind with
  | .opens _ => do return (← context.checkScope (context.pattern.scopeClose index)) + 1
  | _ => .ok (index + 1)

/-- A construct in brackets reaches behind the closing one. -/
theorem constructStop_of_close {context : Context} {index close : Nat} {token : Token}
    {bracket : Bracket} (opens : token.kind = .opens bracket)
    (closes : context.pattern.scopeClose index = .ok close) :
    context.constructStop index token = .ok (close + 1) := by
  simp only [constructStop, opens, closes, checkScope_ok]
  rfl

theorem close_of_constructStop {context : Context} {index stop : Nat} {token : Token}
    {bracket : Bracket} (opens : token.kind = .opens bracket)
    (found : context.constructStop index token = .ok stop) :
    ∃ close, context.pattern.scopeClose index = .ok close ∧ stop = close + 1 := by
  simp only [constructStop, opens] at found
  cases scope : context.pattern.scopeClose index with
  | error problem =>
      rw [scope, checkScope_error] at found
      cases found
  | ok close =>
      rw [scope, checkScope_ok] at found
      cases found
      exact ⟨close, rfl, rfl⟩

/-- A construct is not empty. -/
theorem lt_of_constructStop {context : Context} {index stop : Nat} {token : Token}
    (found : context.constructStop index token = .ok stop) : index < stop := by
  cases kind : token.kind with
  | opens bracket =>
      obtain ⟨close, scope, rfl⟩ := close_of_constructStop kind found
      have bounds := Pattern.scopeClose_bounds scope
      omega
  | _ =>
      simp only [constructStop, kind] at found
      cases found
      omega

/-- Reads the construct from the token at `index` up to `stop`. -/
def readConstruct (context : Context) (workspace : Workspace) (index stop : Nat) (token : Token) :
    Except Fault Reading :=
  let close := stop - 1
  let write (text : String) : Except Fault Reading := .ok (workspace.write text, .nothing)
  match token.kind with
  | .opens .brace => .ok (context.readBlock workspace (context.pattern.itemsBetween index close))
  | .opens .square => context.readTag workspace token index close
  | .opens .round => .ok (workspace, context.readArithmetic token index close)
  | .opens .angle => context.readQuery workspace token index close
  | .closes _ => context.reject token.position (.strayCloser token.value)
  | .escape => context.readEscape workspace token
  | .regex => write (regexText token.value)
  | _ => write token.value

end Context

end SeededText.Machine
