import SeededText.Machine.Workspace

/-!
Contract: what tags do once their arguments are there.

A tag changes the workspace at once. Code that it wants to run, and leaving a block, it only asks
for.

Owns: the operations of all tags.
Does not own: reading a tag (`SeededText.Machine.Construct`), evaluating its arguments and granting
what it asks for (`SeededText.Machine.Task`).
-/

namespace SeededText.Machine

open Output Pattern SeededText.Random Text

/-- What a tag asks for. -/
inductive Request where
  | nothing
  | run (code : Code)
  /-- Other code in place of a trial that prints nothing, or nothing but blanks. -/
  | attempt (trial fallback : Code) (blankIsEmpty : Bool)
  /-- Code that may ask about a comparison. -/
  | compare (comparison : Comparison) (body : Code)
  /-- No more turns of the innermost block. -/
  | leaveBlock
deriving DecidableEq, Repr

/-- What a tag has done: the workspace, what it asks for, and whether an `else` may run next. -/
structure Outcome where
  workspace : Workspace
  request : Request
  elseArmed : Bool

/-- The call of a tag: where it stands and its arguments. -/
structure Invocation where withAbsent ::
  context : Context
  position : Position
  arguments : List Argument
  /-- What is read as the text of an argument that is code, or that is not there. -/
  absent : String

/-- A call as runs make it: without a text of its own an argument counts as empty. -/
def Invocation.mk (context : Context) (position : Position) (arguments : List Argument) :
    Invocation :=
  .withAbsent context position arguments ""

namespace Invocation

@[simp] theorem context_mk (context : Context) (position : Position) (arguments : List Argument) :
    (mk context position arguments).context = context := rfl

@[simp] theorem arguments_mk (context : Context) (position : Position)
    (arguments : List Argument) : (mk context position arguments).arguments = arguments := rfl

/-- Text of an argument. -/
def text (invocation : Invocation) (index : Nat) : String :=
  (invocation.arguments[index]?.map (Argument.textOr invocation.absent)).getD invocation.absent

/-- Texts of all arguments. -/
def texts (invocation : Invocation) : List String :=
  invocation.arguments.map (Argument.textOr invocation.absent)

def trimmedText (invocation : Invocation) (index : Nat) : String :=
  trim (invocation.text index)

def refuse {α : Type} (invocation : Invocation) (misuse : Misuse) : Except Fault α :=
  invocation.context.refuse invocation.position misuse

def code (invocation : Invocation) (index : Nat) : Except Fault Code :=
  match invocation.arguments[index]?.bind Argument.code? with
  | some code => .ok code
  | none => invocation.refuse .expectedCode

/-- A value that must be there. -/
def require {α : Type} (invocation : Invocation) (value? : Option α) (misuse : Misuse) :
    Except Fault α :=
  match value? with
  | some value => .ok value
  | none => invocation.refuse misuse

/-- A text as a name of something. -/
def name (invocation : Invocation) (what text : String) : Except Fault String :=
  let name := trim text
  if isName name then .ok name else invocation.refuse (.invalidName what name)

/-- A text as a count within the limit of the settings. -/
def count (invocation : Invocation) (what text : String) : Except Fault Nat := do
  let limit := invocation.context.engine.settings.maxRepetitions
  let count ← invocation.require (Number.readCount? (trimmed text.toList))
    (.invalidCount what (trim text))
  if limit < count then invocation.refuse (.countTooLarge what count limit) else return count

def integer (invocation : Invocation) (text : String) : Except Fault Int :=
  invocation.require (Number.readInteger? (trimmed text.toList)) (.invalidInteger (trim text))

/-- The innermost repeater. -/
def repeater (invocation : Invocation) (tag : String) : Except Fault Repeater :=
  invocation.require invocation.context.scope.repeater? (.noRepeater tag)

def ask (invocation : Invocation) (workspace : Workspace) (request : Request) : Outcome :=
  ⟨workspace, request, invocation.context.elseArmed⟩

/-- Only the workspace has changed. -/
def stay (invocation : Invocation) (workspace : Workspace) : Outcome :=
  invocation.ask workspace .nothing

/-- Runs code if a condition holds. -/
def runIf (invocation : Invocation) (workspace : Workspace) (condition : Bool) (code : Code) :
    Outcome :=
  invocation.ask workspace (if condition then .run code else .nothing)

def write (invocation : Invocation) (workspace : Workspace) (text : String) : Outcome :=
  invocation.stay (workspace.write text)

def writeInteger (invocation : Invocation) (workspace : Workspace) (number : Int) : Outcome :=
  invocation.stay (workspace.writeInteger number)

/-- Changes the sink that the activation writes to. -/
def onSink (invocation : Invocation) (workspace : Workspace) (change : Sink → Sink) : Outcome :=
  invocation.stay (workspace.onSink change)

/-! ### Attributes of the next block -/

/-- The repetition that an argument writes: `each` in any case, or a count. -/
def repetition (invocation : Invocation) : Except Fault Repetition := do
  let value := invocation.trimmedText 0
  if lowerAscii value = "each" then return .each
  else return .times (← invocation.count "repetition count" value)

/-- A percentage. -/
def chance (invocation : Invocation) : Except Fault Nat :=
  invocation.require
    ((Number.readWord? (trimmed (invocation.text 0).toList)).filter (· ≤ 100))
    (.invalidChance (invocation.text 0))

/-! ### Synchronizers -/

def synchronize (invocation : Invocation) (workspace : Workspace) : Except Fault Outcome := do
  let name ← invocation.name "synchronizer" (invocation.text 0)
  let kind ← invocation.require (Choice.SynchronizerKind.ofName? (invocation.text 1))
    (.unknownSynchronizerKind (invocation.trimmedText 1))
  return invocation.stay
    { workspace with synchronizers := workspace.synchronizers.activate name kind }

def controlSynchronizer (invocation : Invocation) (workspace : Workspace)
    (action : SynchronizerAction) : Except Fault Outcome := do
  let name := invocation.trimmedText 0
  let change :=
    match action with
    | .pin => Choice.Synchronizer.pin
    | .unpin => Choice.Synchronizer.unpin
    | .step => Choice.Synchronizer.step
    | .reset => Choice.Synchronizer.reset
  let synchronizers ← invocation.require (workspace.synchronizers.update? name change)
    (.undefinedSynchronizer name)
  return invocation.stay { workspace with synchronizers := synchronizers }

def reseedSynchronizer (invocation : Invocation) (workspace : Workspace) :
    Except Fault Outcome := do
  let name := invocation.trimmedText 0
  let synchronizers ← invocation.require
    (workspace.synchronizers.reseed? name (invocation.text 1)) (.undefinedSynchronizer name)
  return invocation.stay { workspace with synchronizers := synchronizers }

/-! ### Turns of blocks -/

end Invocation

/-- Name of the tag that makes a test. -/
def TurnTest.tag : TurnTest → String
  | .first => "first"
  | .last => "last"
  | .middle => "middle"
  | .notFirst => "notfirst"
  | .notLast => "notlast"
  | .notMiddle => "notmiddle"
  | .odd => "odd"
  | .even => "even"

/-- Whether the present turn passes a test. -/
def TurnTest.holds (test : TurnTest) (repeater : Repeater) : Bool :=
  match test with
  | .first => repeater.isFirst
  | .last => repeater.isLast
  | .middle => !repeater.isFirst && !repeater.isLast
  | .notFirst => !repeater.isFirst
  | .notLast => !repeater.isLast
  | .notMiddle => repeater.isFirst || repeater.isLast
  | .odd => repeater.isOdd
  | .even => repeater.isEven

/-- Name of the tag that prints a number. -/
def TurnNumber.tag : TurnNumber → String
  | .ordinal => "repnum"
  | .index => "repindex"
  | .count => "repcount"

def TurnNumber.of (number : TurnNumber) (repeater : Repeater) : Nat :=
  match number with
  | .ordinal => repeater.index + 1
  | .index => repeater.index
  | .count => repeater.count

namespace Invocation

def whenTurn (invocation : Invocation) (workspace : Workspace) (test : TurnTest) :
    Except Fault Outcome := do
  let repeater ← invocation.repeater test.tag
  let body ← invocation.code 0
  return invocation.runIf workspace (test.holds repeater) body

def whenNth (invocation : Invocation) (workspace : Workspace) : Except Fault Outcome := do
  let interval ← invocation.count "interval" (invocation.text 0)
  if interval = 0 then invocation.refuse .zeroInterval
  else
    let offset ←
      if invocation.arguments.length = 3 then invocation.count "offset" (invocation.text 1)
      else pure 0
    let repeater ← invocation.repeater "nth"
    let body ← invocation.code (invocation.arguments.length - 1)
    return invocation.runIf workspace (repeater.isNth offset interval) body

/-- Leaves the innermost block, if there is one. -/
def leaveBlock (invocation : Invocation) (workspace : Workspace) : Except Fault Outcome := do
  let _ ← invocation.repeater "break"
  return invocation.ask workspace .leaveBlock

/-! ### Alternatives, matches, arguments -/

def alternative (invocation : Invocation) (workspace : Workspace) (blankIsEmpty : Bool) :
    Except Fault Outcome := do
  let trial ← invocation.code 0
  let fallback ← invocation.code 1
  return invocation.ask workspace (.attempt trial fallback blankIsEmpty)

def matchedText (invocation : Invocation) (workspace : Workspace) : Except Fault Outcome := do
  let found ← invocation.require invocation.context.scope.found? (.noMatch "match")
  return invocation.write workspace found.text

/-- A group by its number or its name; one that took no part is empty if it is asked for by
number. -/
def capturedGroup (invocation : Invocation) (workspace : Workspace) : Except Fault Outcome := do
  let key := invocation.trimmedText 0
  let found ← invocation.require invocation.context.scope.found? (.noMatch "group")
  let group? :=
    match Number.readCount? key.toList with
    | some index => found.groups[index]?.map fun group? => group?.getD ""
    | none => found.named.find? key
  return invocation.write workspace (← invocation.require group? (.noGroup key))

def argument (invocation : Invocation) (workspace : Workspace) : Except Fault Outcome := do
  let name := invocation.trimmedText 0
  let bindings ← invocation.require invocation.context.scope.bindings? .noBindings
  match ← invocation.require (bindings.find? name) (.noArgument name) with
  | .value text => return invocation.write workspace text
  | .code code => return invocation.runIf workspace true code

/-! ### Formats, channels and targets -/

def setNumberFormat (invocation : Invocation) (workspace : Workspace) : Except Fault Outcome := do
  let format ← invocation.require (NumberFormat.ofName? (invocation.text 0))
    (.unknownNumberFormat (invocation.trimmedText 0))
  return invocation.stay { workspace with numberFormat := format }

def setCapitalization (invocation : Invocation) (workspace : Workspace) :
    Except Fault Outcome := do
  let mode ← invocation.require (Capitalization.ofName? (invocation.text 0))
    (.unknownCapitalization (invocation.trimmedText 0))
  return invocation.onSink workspace (·.setCapitalization mode)

/-- A sample that shows no mode changes nothing. -/
def inferCapitalization (invocation : Invocation) (workspace : Workspace) : Outcome :=
  match Capitalization.infer? (invocation.text 0) with
  | some mode => invocation.onSink workspace (·.setCapitalization mode)
  | none => invocation.stay workspace

def openChannel (invocation : Invocation) (workspace : Workspace) : Except Fault Outcome := do
  let name ← invocation.name "channel" (invocation.text 0)
  let visibility ← invocation.require (Visibility.ofName? (invocation.text 1))
    (.unknownVisibility (invocation.trimmedText 1))
  return invocation.onSink workspace (·.push name visibility)

/-- A channel that is not open stays as it is. -/
def closeChannel (invocation : Invocation) (workspace : Workspace) : Outcome :=
  invocation.onSink workspace fun sink => (sink.pop? (invocation.trimmedText 0)).getD sink

def placeTarget (invocation : Invocation) (workspace : Workspace) : Except Fault Outcome := do
  let name ← invocation.name "target" (invocation.text 0)
  return invocation.onSink { workspace with targets := workspace.targets.insertIfNew name "" }
    (·.placeTarget name)

/-- Gives a target a text made of the text it has. -/
def changeTarget (invocation : Invocation) (workspace : Workspace) (change : String → String) :
    Except Fault Outcome := do
  let name ← invocation.name "target" (invocation.text 0)
  return invocation.stay
    { workspace with
      targets := workspace.targets.insert name (change (workspace.targets.findD name "")) }

def setMarker (invocation : Invocation) (workspace : Workspace) : Except Fault Outcome := do
  let name ← invocation.name "marker" (invocation.text 0)
  let position := workspace.sink.position
  return invocation.stay { workspace with markers := workspace.markers.insert name position }

def marker (invocation : Invocation) (workspace : Workspace) (index : Nat) : Except Fault Nat :=
  let name := invocation.trimmedText index
  invocation.require (workspace.markers.find? name) (.undefinedMarker name)

/-- How many characters were written between two markers, negative if the second was set first. -/
def distance (invocation : Invocation) (workspace : Workspace) : Except Fault Outcome := do
  let first ← invocation.marker workspace 0
  let second ← invocation.marker workspace 1
  return invocation.writeInteger workspace ((second : Int) - first)

/-! ### Random numbers and characters -/

def randomNumber (invocation : Invocation) (workspace : Workspace) : Except Fault Outcome := do
  let first ← invocation.integer (invocation.text 0)
  let second ← invocation.integer (invocation.text 1)
  let (number, generator) := workspace.generator.between (min first second) (max first second)
  return invocation.writeInteger { workspace with generator := generator } number

end Invocation

/-- Characters from the smaller up to the larger of two characters. -/
def charactersBetween (first last : Char) : List Char :=
  let least := min first.toNat last.toNat
  let most := max first.toNat last.toNat
  ((List.range' least (most + 1 - least)).filter fun point => point.isValidChar).map Char.ofNat

/-- The characters that a list of characters and ranges names; a range may have its ends in either
order, and a hyphen at either end of the list stands for itself. -/
def expandRanges : List Char → List Char
  | first :: '-' :: last :: rest =>
      charactersBetween first last ++ expandRanges rest
  | character :: rest => character :: expandRanges rest
  | [] => []

/-- Draws `count` characters of a pool behind those of `drawn`. -/
def drawCharacters (pool : Array Char) : Nat → String → Generator → String × Generator
  | 0, drawn, generator => (drawn, generator)
  | count + 1, drawn, generator =>
      let (index, generator) := generator.below pool.size
      drawCharacters pool count (drawn.push (pool.getD index ' ')) generator

namespace Invocation

def randomCharacters (invocation : Invocation) (workspace : Workspace) : Except Fault Outcome := do
  let pool := expandRanges (trimmed (invocation.text 0).toList)
  if pool.isEmpty then invocation.refuse .noCharacters
  else
    let count ←
      if invocation.arguments.length = 2 then
        invocation.count "character count" (invocation.text 1)
      else pure 1
    let (drawn, generator) := drawCharacters pool.toArray count "" workspace.generator
    return invocation.write { workspace with generator := generator } drawn

/-! ### Flags and comparisons -/

end Invocation

/-- A list of flags with one of them set or not. -/
def setFlag (defined : Bool) (flags : List String) (name : String) : List String :=
  if defined then if flags.contains name then flags else name :: flags
  else flags.filter (· ≠ name)

namespace Invocation

/-- Sets or clears a flag for each argument that is not blank. -/
def setFlags (invocation : Invocation) (workspace : Workspace) (defined : Bool) :
    Except Fault Outcome := do
  let flags ← invocation.texts.foldlM (fun flags text =>
    if isBlankText text then pure flags
    else do return setFlag defined flags (← invocation.name "flag" text)) workspace.flags
  return invocation.stay { workspace with flags := flags }

def whenFlag (invocation : Invocation) (workspace : Workspace) (defined : Bool) :
    Except Fault Outcome := do
  let name ← invocation.name "flag" (invocation.text 0)
  let body ← invocation.code 1
  let holds := workspace.flags.contains name == defined
  return { invocation.runIf workspace holds body with elseArmed := !holds }

/-- Runs code if the last condition did not hold; it runs only once. -/
def otherwise (invocation : Invocation) (workspace : Workspace) : Except Fault Outcome := do
  let body ← invocation.code 0
  return { invocation.runIf workspace invocation.context.elseArmed body with elseArmed := false }

def compareTexts (invocation : Invocation) (workspace : Workspace) : Except Fault Outcome := do
  let body ← invocation.code 2
  let comparison := Comparison.ofTexts (invocation.text 0) (invocation.text 1)
  return invocation.ask workspace (.compare comparison body)

/-- The flags that a text names, apart by blanks or commas. -/
def flagNames (text : String) : List String :=
  ((text.toList.splitOnP fun character => isBlank character || character == ',').filter
    fun flag => !flag.isEmpty).map String.ofList

/-- Runs code if one of the named flags holds of the last comparison. -/
def whenCompared (invocation : Invocation) (workspace : Workspace) : Except Fault Outcome := do
  let comparison ← invocation.require invocation.context.scope.comparison? .noComparison
  let holds ← (flagNames (invocation.text 0)).foldlM (fun holds flag => do
    return holds || (← invocation.require (comparison.has? flag) (.unknownComparisonFlag flag)))
    false
  let body ← invocation.code 1
  return invocation.runIf workspace holds body

/-! ### Hooks -/

def callHook (invocation : Invocation) (workspace : Workspace) : Except Fault Outcome := do
  let name := invocation.trimmedText 0
  let hook ← invocation.require (invocation.context.engine.hooks.find? name) (.noHook name)
  match hook invocation.texts.tail with
  | .ok text => return invocation.write workspace text
  | .error reason =>
      .error (invocation.context.fault invocation.position (.failed (.hook name reason)))

/-- Carries an operation out. -/
def perform (invocation : Invocation) (workspace : Workspace) (operation : TagOperation) :
    Except Fault Outcome :=
  let withAttributes (attributes : BlockAttributes) : Except Fault Outcome :=
    .ok (invocation.stay { workspace with attributes := attributes })
  match operation with
  | .setRepetition => do
      withAttributes { workspace.attributes with repetition := ← invocation.repetition }
  | .setSeparator => do
      withAttributes { workspace.attributes with separator? := some (← invocation.code 0) }
  | .setBefore => do
      withAttributes { workspace.attributes with before? := some (← invocation.code 0) }
  | .setAfter => do
      withAttributes { workspace.attributes with after? := some (← invocation.code 0) }
  | .setChance => do
      withAttributes { workspace.attributes with chance? := some (← invocation.chance) }
  | .randomNumber => invocation.randomNumber workspace
  | .synchronize => invocation.synchronize workspace
  | .desynchronize =>
      .ok (invocation.stay { workspace with synchronizers := workspace.synchronizers.deactivate })
  | .control action => invocation.controlSynchronizer workspace action
  | .reseed => invocation.reseedSynchronizer workspace
  | .whenTurn test => invocation.whenTurn workspace test
  | .whenNth => invocation.whenNth workspace
  | .turnNumber number => do
      let repeater ← invocation.repeater number.tag
      return invocation.writeInteger workspace (number.of repeater)
  | .alternative blankIsEmpty => invocation.alternative workspace blankIsEmpty
  | .matchedText => invocation.matchedText workspace
  | .capturedGroup => invocation.capturedGroup workspace
  | .argument => invocation.argument workspace
  | .setNumberFormat => invocation.setNumberFormat workspace
  | .setCapitalization => invocation.setCapitalization workspace
  | .inferCapitalization => .ok (invocation.inferCapitalization workspace)
  | .openChannel => invocation.openChannel workspace
  | .closeChannel => .ok (invocation.closeChannel workspace)
  | .placeTarget => invocation.placeTarget workspace
  | .appendTarget => invocation.changeTarget workspace (· ++ invocation.text 1)
  | .replaceTarget => invocation.changeTarget workspace fun _ => invocation.text 1
  | .clearTarget => invocation.changeTarget workspace fun _ => ""
  | .setMarker => invocation.setMarker workspace
  | .distance => invocation.distance workspace
  | .textLength => .ok (invocation.writeInteger workspace (invocation.text 0).length)
  | .randomCharacters => invocation.randomCharacters workspace
  | .setFlags defined => invocation.setFlags workspace defined
  | .whenFlag defined => invocation.whenFlag workspace defined
  | .otherwise => invocation.otherwise workspace
  | .compareTexts => invocation.compareTexts workspace
  | .whenCompared => invocation.whenCompared workspace
  | .leaveBlock => invocation.leaveBlock workspace
  | .callHook => invocation.callHook workspace
  | .ownSource => .ok (invocation.write workspace invocation.context.pattern.source)

end Invocation

end SeededText.Machine
