import SeededText.Pattern.Lexer
import SeededText.Regex.Bracketed
import SeededText.Regex.Matcher

/-!
Contract: the written form of regexes.

A regex is read in one pass with an explicit stack of open groups. Flags hold to the end of the
group in which they are set.

A regex that is too large is refused. Its size is the number of instructions, where a class counts
as one however many ranges it has, and not the bytes that an automaton over encoded text would
take: a thousand repetitions of `\w` are accepted, which a limit of some megabytes for such an
automaton would refuse.

Owns: sequences, alternatives, repetitions, groups and flag settings; compiling the value of a regex
token.
Does not own: escapes and classes (`SeededText.Regex.Escape`, `SeededText.Regex.Bracketed`).
-/

namespace SeededText.Regex

open Text

/-- Part of a sequence. Flag settings match nothing and cannot be repeated. -/
structure Item where
  expr : Expr
  repeatable : Bool
  depth : Nat

/-- An item without parts of its own. -/
def Item.leaf (expr : Expr) : Item := ⟨expr, true, 0⟩

/-- Items one after the other. -/
def Item.inSequence : List Item → Item
  | [] => .leaf .empty
  | [item] => item
  | items =>
      ⟨items.foldr (fun item rest => .sequence item.expr rest) .empty, true,
        items.foldr (fun item depth => max item.depth depth) 0 + 1⟩

/-- The first of several choices, and if it fails the others. -/
def choiceOf : Expr → List Expr → Expr
  | first, [] => first
  | first, second :: others => .choice first (choiceOf second others)

/-- An item for each of several branches. -/
def Item.inChoice (first : Item) : List Item → Item
  | [] => first
  | others =>
      ⟨choiceOf first.expr (others.map Item.expr), true,
        others.foldr (fun item depth => max item.depth depth) first.depth + 1⟩

/-- A group that is still open, or the whole regex. Branches and items stand last first. -/
structure OpenGroup where
  branches : List Item
  items : List Item
  outerFlags : Flags
  capture? : Option Nat

/-- The content of a group that closes. -/
def OpenGroup.content (group : OpenGroup) : Item :=
  match (Item.inSequence group.items.reverse :: group.branches).reverse with
  | [] => .leaf .empty
  | first :: others => .inChoice first others

/-- The group as an item of what stands around it. -/
def OpenGroup.asItem (group : OpenGroup) : Item :=
  let content := group.content
  ⟨match group.capture? with
    | some index => .group index content.expr
    | none => content.expr, true, content.depth + 1⟩

structure ReadingState where
  flags : Flags
  current : OpenGroup
  outer : List OpenGroup
  groupCount : Nat
  names : List (String × Nat)

namespace ReadingState

def start (flags : Flags) : ReadingState :=
  ⟨flags, ⟨[], [], flags, none⟩, [], 0, []⟩

def push (state : ReadingState) (item : Item) : ReadingState :=
  { state with current := { state.current with items := item :: state.current.items } }

/-- Ends the current branch. -/
def nextBranch (state : ReadingState) : ReadingState :=
  { state with
    current :=
      { state.current with
        branches := Item.inSequence state.current.items.reverse :: state.current.branches
        items := [] } }

def pushAssertion (state : ReadingState) (assertion : Assertion) : ReadingState :=
  state.push (.leaf (.assertion assertion state.flags.isWord))

/-- A character that stands for itself; case is regarded outside ASCII without the flag `u`. -/
def pushLiteral (state : ReadingState) (character : Char) : ReadingState :=
  let single := CharClass.single character
  state.push (.leaf (.one
    (if state.flags.unicode || isAscii character then state.flags.fold single else single)))

def pushPrimitive (state : ReadingState) : Primitive → ReadingState
  | .literal character => state.pushLiteral character
  | .charClass charClass => state.push (.leaf (.one charClass))
  | .assertion assertion => state.pushAssertion assertion

/-- Opens a group whose content is read under `flags`. -/
def openGroup (state : ReadingState) (flags : Flags) (capture? : Option Nat) : ReadingState :=
  { state with
    flags := flags
    current := ⟨[], [], state.flags, capture?⟩
    outer := state.current :: state.outer }

/-- Opens the next capture group. -/
def openCapture (state : ReadingState) : ReadingState :=
  let index := state.groupCount + 1
  { state.openGroup state.flags (some index) with groupCount := index }

def closeGroup (state : ReadingState) : Except Fault ReadingState :=
  match state.outer with
  | [] => .error .unopenedGroup
  | parent :: outer =>
      .ok ({ state with
        flags := state.current.outerFlags, current := parent, outer := outer }.push
          state.current.asItem)

/-- Repeats the last item. -/
def repeatLast (state : ReadingState) (least : Nat) (most? : Option Nat) (lazily : Bool) :
    Except Fault ReadingState :=
  match state.current.items with
  | [] => .error .nothingToRepeat
  | item :: items =>
      if item.repeatable then
        let greedy := lazily == state.flags.swapGreed
        let repeatedItem : Item := ⟨item.expr.times least most? greedy, true, item.depth + 1⟩
        .ok { state with current := { state.current with items := repeatedItem :: items } }
      else .error .nothingToRepeat

end ReadingState

/-- A mark that makes a repetition lazy, if one comes next. -/
def readLazyMark : List Char → Bool × List Char
  | '?' :: rest => (true, rest)
  | characters => (false, characters)

/-- Largest count of a repetition. -/
def largestCount : Nat := UInt32.size - 1

/-- A count: digits with blanks around them. -/
def readRepeatCount (characters : List Char) : Except Fault Nat :=
  let digits := trimmed characters
  if !digits.isEmpty && digits.all isAsciiDigit && Unicode.decimalValue digits ≤ largestCount then
    .ok (Unicode.decimalValue digits)
  else .error .invalidCount

/-- Bounds of a repetition in braces: one count, a least count and a comma, or both bounds. -/
def readBounds (inside : List Char) : Except Fault (Nat × Option Nat) := do
  let lower := inside.takeWhile (· != ',')
  let least ← readRepeatCount lower
  match inside.drop lower.length with
  | [] => return (least, some least)
  | [_] => return (least, none)
  | _ :: upper =>
      let most ← readRepeatCount upper
      if least ≤ most then return (least, some most) else .error .invalidCount

/-- A repetition in braces, the first of which has been read. -/
def readCounted (state : ReadingState) (rest : List Char) :
    Except Fault (ReadingState × List Char) :=
  match untilBrace? state.flags (state.flags.skip rest) with
  | none => .error .invalidCount
  | some (inside, behind) => do
      let (least, most?) ← readBounds inside
      let (lazily, behind) := readLazyMark (state.flags.skip behind)
      return (← state.repeatLast least most? lazily, behind)

def isGroupNameStart (character : Char) : Bool :=
  character == '_' || isAlphabetic character

def isGroupNameCharacter (character : Char) : Bool :=
  character == '_' || character == '.' || character == '[' || character == ']' ||
    isAlphanumeric character

def isGroupName : List Char → Bool
  | [] => false
  | first :: rest => isGroupNameStart first && rest.all isGroupNameCharacter

/-- A named group, of which everything before the name has been read. -/
def readNamedGroup (state : ReadingState) (characters : List Char) :
    Except Fault (ReadingState × List Char) :=
  let name := characters.takeWhile (· != '>')
  let text := String.ofList name
  match characters.drop name.length with
  | [] => .error .invalidGroupName
  | _ :: rest =>
      if ¬ isGroupName name then .error .invalidGroupName
      else if (state.names.map Prod.fst).contains text then .error (.repeatedGroupName text)
      else
        let state := state.openCapture
        .ok ({ state with names := state.names ++ [(text, state.groupCount)] }, rest)

/-- Flag letters up to `:` or `)`: the flags they make, what ends them, whether there were any, and
what follows. `seen` holds the letters and hyphens before, the last first. -/
def readFlagLetters : List Char → Flags → List Char → Except Fault (Flags × Char × Bool × List Char)
  | _, _, [] => .error .unclosedGroup
  | seen, flags, letter :: rest =>
      if letter = ':' ∨ letter = ')' then
        if seen.head? = some '-' then .error .invalidFlag
        else .ok (flags, letter, !seen.isEmpty, rest)
      else if seen.contains letter then .error .invalidFlag
      else if letter = '-' then readFlagLetters (letter :: seen) flags rest
      else
        match flags.set? letter (!seen.contains '-') with
        | some flags => readFlagLetters (letter :: seen) flags rest
        | none => .error .invalidFlag

/-- A flag setting, or a group without capture under its own flags. -/
def readFlagGroup (state : ReadingState) (characters : List Char) :
    Except Fault (ReadingState × List Char) := do
  let (flags, ending, someFlag, rest) ← readFlagLetters [] state.flags characters
  if ending = ':' then return (state.openGroup flags none, rest)
  else if someFlag then return ({ state with flags := flags }.push ⟨.empty, false, 0⟩, rest)
  else .error .nothingToRepeat

/-- The start of a group behind its parenthesis. -/
def readGroupStart (state : ReadingState) (characters : List Char) :
    Except Fault (ReadingState × List Char) :=
  match state.flags.skip characters with
  | '?' :: '=' :: _ | '?' :: '!' :: _ | '?' :: '<' :: '=' :: _ | '?' :: '<' :: '!' :: _ =>
      .error .lookAround
  | '?' :: 'P' :: '<' :: rest => readNamedGroup state rest
  | '?' :: '<' :: rest => readNamedGroup state rest
  | '?' :: rest => readFlagGroup state rest
  | rest => .ok (state.openCapture, rest)

/-- The class of `.`, which without the flag `u` could match parts of characters. -/
def dotClass (flags : Flags) : Except Fault CharClass :=
  if ¬ flags.unicode then .error .textOutsideAscii
  else if flags.dotAll then .ok .anything
  else if flags.anyLineBreak then .ok (.complement (.union (.single '\n') (.single '\r')))
  else .ok (.complement (.single '\n'))

def startAssertion (flags : Flags) : Assertion :=
  if flags.multiline then if flags.anyLineBreak then .anyLineStart else .lineStart else .textStart

def endAssertion (flags : Flags) : Assertion :=
  if flags.multiline then if flags.anyLineBreak then .anyLineEnd else .lineEnd else .textEnd

/-- Reads what the first character introduces. -/
def readNext (state : ReadingState) (first : Char) (rest : List Char) :
    Except Fault (ReadingState × List Char) :=
  let repeated (least : Nat) (most? : Option Nat) : Except Fault (ReadingState × List Char) := do
    let (lazily, rest) := readLazyMark rest
    return (← state.repeatLast least most? lazily, rest)
  match first with
  | '(' => readGroupStart state rest
  | ')' => do return (← state.closeGroup, rest)
  | '|' => .ok (state.nextBranch, rest)
  | '[' => do
      let (nested, rest) ← readClass state.flags rest
      return (state.push ⟨.one nested.charClass, true, nested.depth⟩, rest)
  | '?' => repeated 0 (some 1)
  | '*' => repeated 0 none
  | '+' => repeated 1 none
  | '{' => readCounted state rest
  | '\\' => do
      let (escaped, rest) ← readEscapeSequence state.flags rest
      return (state.pushPrimitive escaped, rest)
  | '.' => do return (state.push (.leaf (.one (← dotClass state.flags))), rest)
  | '^' => .ok (state.pushAssertion (startAssertion state.flags), rest)
  | '$' => .ok (state.pushAssertion (endAssertion state.flags), rest)
  | _ => .ok (state.pushLiteral first, rest)

/-- Reads to the end. Every round reads a character, so `rounds` need not exceed their number. -/
def readFrom : Nat → ReadingState → List Char → Except Fault ReadingState
  | 0, state, _ => .ok state
  | rounds + 1, state, characters =>
      match state.flags.skip characters with
      | [] => .ok state
      | first :: rest => do
          let (state, rest) ← readNext state first rest
          readFrom rounds state rest

/-- How deep the parts of a regex may nest. -/
def depthLimit : Nat := 250

/-- How many instructions a program may have, whatever the classes in them. -/
def sizeLimit : Nat := 1 <<< 18

/-- The regex with a written form, read under the given flags. -/
def compileBody (source : String) (flags : Flags) (body : List Char) : Except Fault Regex := do
  let state ← readFrom (body.length + 1) (.start flags) body
  if state.outer.isEmpty then
    let item := state.current.content
    if depthLimit < item.depth then .error .nestedTooDeeply
    else if sizeLimit < item.expr.size then .error .tooLarge
    else
      let (entry, program) := compileProgram item.expr
      return ⟨source, entry, program, state.groupCount, state.names⟩
  else .error .unclosedGroup

/-- The regex that the value of a regex token holds: a body, `//`, and flags. -/
def compile (value : String) : Except Fault Regex :=
  let (body, letters) := Pattern.splitRegex value.toList
  compileBody (String.ofList body)
    { caseless := letters.contains 'i'
      multiline := letters.contains 'm'
      dotAll := letters.contains 's'
      swapGreed := false
      unicode := true
      anyLineBreak := false
      extended := letters.contains 'x' }
    body

end SeededText.Regex
