/-!
Contract: the tags of patterns and the arguments they take.

A value argument is evaluated to text before its tag runs; a code argument is run by the tag, if at
all.

Owns: tag operations, the names and parameter lists of tags, choosing among parameter lists.
Does not own: what a tag does (`SeededText.Machine.Operation`).
-/

namespace SeededText.Machine

inductive Parameter where
  | value
  | code
  /-- Any number of values at the end. -/
  | values
deriving DecidableEq, Repr

/-- Where a turn of a block stands among its turns. -/
inductive TurnTest where
  | first
  | last
  | middle
  | notFirst
  | notLast
  | notMiddle
  | odd
  | even
deriving DecidableEq, Repr

/-- A number that a block's turn has. -/
inductive TurnNumber where
  | ordinal
  | index
  | count
deriving DecidableEq, Repr

/-- Operations on a synchronizer by name. -/
inductive SynchronizerAction where
  | pin
  | unpin
  | step
  | reset
deriving DecidableEq, Repr

inductive TagOperation where
  | setRepetition
  | setSeparator
  | setBefore
  | setAfter
  | setChance
  | randomNumber
  | synchronize
  | desynchronize
  | control (action : SynchronizerAction)
  | reseed
  | whenTurn (test : TurnTest)
  | whenNth
  | turnNumber (number : TurnNumber)
  /-- Code, or other code if the first prints nothing, or nothing but blanks. -/
  | alternative (blankIsEmpty : Bool)
  | matchedText
  | capturedGroup
  | argument
  | setNumberFormat
  | setCapitalization
  | inferCapitalization
  | openChannel
  | closeChannel
  | placeTarget
  | appendTarget
  | replaceTarget
  | clearTarget
  | setMarker
  | distance
  | textLength
  | randomCharacters
  | setFlags (defined : Bool)
  | whenFlag (defined : Bool)
  | otherwise
  | compareTexts
  | whenCompared
  | leaveBlock
  | callHook
  | ownSource
deriving DecidableEq, Repr

structure Signature where
  operation : TagOperation
  parameters : List Parameter
deriving DecidableEq, Repr

namespace Signature

def isVariadic (signature : Signature) : Bool :=
  signature.parameters.getLast? == some .values

/-- Fewest arguments that fit. -/
def leastArguments (signature : Signature) : Nat :=
  if signature.isVariadic then signature.parameters.length - 1 else signature.parameters.length

def fitsExactly (signature : Signature) (count : Nat) : Bool :=
  !signature.isVariadic && signature.parameters.length == count

def fitsVariadic (signature : Signature) (count : Nat) : Bool :=
  signature.isVariadic && signature.leastArguments ≤ count

end Signature

/-- The signatures of the tag called `name`. -/
def signatures? (name : String) : Option (List Signature) :=
  let only (operation : TagOperation) (parameters : List Parameter) : Option (List Signature) :=
    some [⟨operation, parameters⟩]
  match name with
  | "rep" | "r" => only .setRepetition [.value]
  | "sep" | "s" => only .setSeparator [.code]
  | "before" => only .setBefore [.code]
  | "after" => only .setAfter [.code]
  | "chance" => only .setChance [.value]
  | "num" | "n" => only .randomNumber [.value, .value]
  | "sync" => only .synchronize [.value, .value]
  | "desync" => only .desynchronize []
  | "pin" => only (.control .pin) [.value]
  | "unpin" => only (.control .unpin) [.value]
  | "step" => only (.control .step) [.value]
  | "reset" => only (.control .reset) [.value]
  | "reseed" => only .reseed [.value, .value]
  | "first" => only (.whenTurn .first) [.code]
  | "last" => only (.whenTurn .last) [.code]
  | "middle" => only (.whenTurn .middle) [.code]
  | "notfirst" => only (.whenTurn .notFirst) [.code]
  | "notlast" => only (.whenTurn .notLast) [.code]
  | "notmiddle" => only (.whenTurn .notMiddle) [.code]
  | "odd" => only (.whenTurn .odd) [.code]
  | "even" => only (.whenTurn .even) [.code]
  | "nth" => some [⟨.whenNth, [.value, .value, .code]⟩, ⟨.whenNth, [.value, .code]⟩]
  | "repnum" | "rn" => only (.turnNumber .ordinal) []
  | "repindex" | "ri" => only (.turnNumber .index) []
  | "repcount" | "rc" => only (.turnNumber .count) []
  | "alt" => only (.alternative false) [.code, .code]
  | "any" => only (.alternative true) [.code, .code]
  | "match" => only .matchedText []
  | "group" => only .capturedGroup [.value]
  | "arg" => only .argument [.value]
  | "numfmt" => only .setNumberFormat [.value]
  | "caps" => only .setCapitalization [.value]
  | "capsinfer" => only .inferCapitalization [.value]
  | "out" => only .openChannel [.value, .value]
  | "close" => only .closeChannel [.value]
  | "get" => only .placeTarget [.value]
  | "send" => only .appendTarget [.value, .value]
  | "osend" => only .replaceTarget [.value, .value]
  | "clrt" => only .clearTarget [.value]
  | "mark" => only .setMarker [.value]
  | "dist" => only .distance [.value, .value]
  | "len" => only .textLength [.value]
  | "char" => some [⟨.randomCharacters, [.value]⟩, ⟨.randomCharacters, [.value, .value]⟩]
  | "define" => only (.setFlags true) [.values]
  | "undef" => only (.setFlags false) [.values]
  | "ifdef" => only (.whenFlag true) [.value, .code]
  | "ifndef" => only (.whenFlag false) [.value, .code]
  | "else" => only .otherwise [.code]
  | "cmp" => only .compareTexts [.value, .value, .code]
  | "is" => only .whenCompared [.value, .code]
  | "break" => only .leaveBlock []
  | "extern" | "ext" => only .callHook [.value, .values]
  | "src" => only .ownSource []
  | _ => none

inductive TagProblem where
  | unknown (name : String)
  | argumentCount (name : String) (count : Nat)
deriving DecidableEq, Repr

/-- The later of two signatures with equally many arguments, else the one that needs more. -/
def moreDemanding (best? : Option Signature) (signature : Signature) : Option Signature :=
  match best? with
  | none => some signature
  | some best =>
      if best.leastArguments ≤ signature.leastArguments then some signature else some best

/-- The signature for a call with `count` arguments: one with exactly so many, else the most
demanding that takes any number and fits. -/
def resolveTag (name : String) (count : Nat) : Except TagProblem Signature :=
  match signatures? name with
  | none => .error (.unknown name)
  | some signatures =>
      match signatures.find? fun signature => signature.fitsExactly count with
      | some signature => .ok signature
      | none =>
          match (signatures.filter fun signature => signature.fitsVariadic count).foldl
            moreDemanding none with
          | some signature => .ok signature
          | none => .error (.argumentCount name count)

end SeededText.Machine
