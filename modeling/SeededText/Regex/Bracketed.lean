import SeededText.Regex.Escape

/-!
Contract: character classes in brackets.

A class is a union of members; `&&`, `--` and `~~` combine what stands to their left with what
stands to their right, from the left. Classes nest. The stack of open brackets is explicit, so
reading a class is one loop over its characters.

Owns: the written form of classes.
Does not own: sets of characters (`SeededText.Regex.CharClass`).
-/

namespace SeededText.Regex

open Text

inductive SetOperator where
  | intersection
  | difference
  | symmetricDifference
deriving DecidableEq, Repr

def SetOperator.apply : SetOperator → CharClass → CharClass → CharClass
  | .intersection, left, right => .intersection left right
  | .difference, left, right => .difference left right
  | .symmetricDifference, left, right => .symmetricDifference left right

/-- A class with the depth of the brackets, unions and operators in it. -/
structure NestedClass where
  charClass : CharClass
  depth : Nat

/-- A bracket that is still open: the members of the current operand and what was combined
before. -/
structure OpenClass where
  negated : Bool
  members : CharClass
  memberCount : Nat
  memberDepth : Nat
  before? : Option (NestedClass × SetOperator)

namespace OpenClass

def fresh (negated : Bool) : OpenClass :=
  ⟨negated, .nothing, 0, 0, none⟩

def add (bracket : OpenClass) (member : NestedClass) : OpenClass :=
  { bracket with
    members := .union bracket.members member.charClass
    memberCount := bracket.memberCount + 1
    memberDepth := max bracket.memberDepth member.depth }

/-- Everything read so far as one class. -/
def combined (bracket : OpenClass) (flags : Flags) : NestedClass :=
  let operandDepth :=
    if 2 ≤ bracket.memberCount then bracket.memberDepth + 1 else bracket.memberDepth
  match bracket.before? with
  | none => ⟨bracket.members, operandDepth⟩
  | some (before, operator) =>
      ⟨operator.apply (flags.fold before.charClass) (flags.fold bracket.members),
        max before.depth operandDepth + 1⟩

/-- The bracket behind an operator. -/
def operate (bracket : OpenClass) (flags : Flags) (operator : SetOperator) : OpenClass :=
  { fresh bracket.negated with before? := some (bracket.combined flags, operator) }

/-- The class of a bracket that closes. -/
def close (bracket : OpenClass) (flags : Flags) : Except Fault NestedClass := do
  let inner := bracket.combined flags
  return ⟨← flags.negate bracket.negated (flags.fold inner.charClass), inner.depth + 1⟩

end OpenClass

/-- A single character as a class; without the flag `u` it must be ASCII. -/
def memberClass (flags : Flags) (character : Char) : Except Fault CharClass :=
  if flags.unicode || isAscii character then .ok (.single character)
  else .error .textOutsideAscii

/-- Hyphens at the start of a bracket, which stand for themselves. -/
def readLeadingHyphens (flags : Flags) : OpenClass → List Char → OpenClass × List Char
  | bracket, [] => (bracket, [])
  | bracket, character :: rest =>
      if character = '-' then
        readLeadingHyphens flags (bracket.add ⟨.single '-', 0⟩) (flags.skip rest)
      else (bracket, character :: rest)
termination_by _ characters => characters.length
decreasing_by exact Nat.lt_succ_of_le (flags.length_skip rest)

/-- The start of a bracket: an optional `^`, hyphens, and a closing bracket that stands for itself
if it is the first member. -/
def openClass (flags : Flags) (characters : List Char) : OpenClass × List Char :=
  let (negated, characters) :=
    match flags.skip characters with
    | '^' :: rest => (true, flags.skip rest)
    | characters => (false, characters)
  let (bracket, characters) := readLeadingHyphens flags (.fresh negated) characters
  match characters with
  | ']' :: rest =>
      if bracket.memberCount = 0 then (bracket.add ⟨.single ']', 0⟩, flags.skip rest)
      else (bracket, characters)
  | _ => (bracket, characters)

/-- A class of the form `[:name:]`, of which the first bracket has been read: whether it is negated,
the class, and what follows. -/
def readNamedClass? (characters : List Char) : Option (Bool × CharClass × List Char) :=
  match characters with
  | ':' :: rest =>
      let (negated, rest) :=
        match rest with
        | '^' :: rest => (true, rest)
        | _ => (false, rest)
      let name := rest.takeWhile (· != ':')
      match rest.drop name.length with
      | ':' :: ']' :: behind =>
          (CharClass.asciiNamed? (String.ofList name)).map fun charClass =>
            (negated, charClass, behind)
      | _ => none
  | _ => none

/-- A character or an escape inside brackets. -/
def readMemberPrimitive (flags : Flags) : List Char → Except Fault (Primitive × List Char)
  | [] => .error .unclosedClass
  | '\\' :: rest => readEscapeSequence flags rest
  | character :: rest => .ok (.literal character, rest)

/-- A member that is no range. -/
def singleMember (flags : Flags) : Primitive → Except Fault CharClass
  | .literal character => memberClass flags character
  | .charClass charClass => .ok charClass
  | .assertion _ => .error .invalidClassMember

/-- A range between two members, which must be characters. -/
def rangeMember (flags : Flags) : Primitive → Primitive → Except Fault CharClass
  | .literal first, .literal last => do
      let _ ← memberClass flags first
      let _ ← memberClass flags last
      if first ≤ last then return .range first.toNat last.toNat
      else .error (.invalidRange first last)
  | _, _ => .error .invalidClassMember

/-- A member: one character, one escape, or a range. -/
def readMember (flags : Flags) (characters : List Char) : Except Fault (CharClass × List Char) := do
  let (first, rest) ← readMemberPrimitive flags characters
  match flags.skip rest with
  | '-' :: behind =>
      let next? := flags.peekPast behind
      if next? = some ']' ∨ next? = some '-' then return (← singleMember flags first, '-' :: behind)
      else
        let (last, behind) ← readMemberPrimitive flags (flags.skip behind)
        return (← rangeMember flags first last, behind)
  | rest => return (← singleMember flags first, rest)

/-- Reads up to the bracket that closes the outermost one. Every round reads a character, so
`rounds` need not exceed their number. -/
def readClassFrom (flags : Flags) :
    Nat → OpenClass → List OpenClass → List Char → Except Fault (NestedClass × List Char)
  | 0, _, _, _ => .error .unclosedClass
  | rounds + 1, bracket, outer, characters =>
      match flags.skip characters with
      | [] => .error .unclosedClass
      | '[' :: rest =>
          match readNamedClass? rest with
          | some (negated, charClass, behind) => do
              let charClass ← flags.negate negated (flags.fold charClass)
              readClassFrom flags rounds (bracket.add ⟨charClass, 0⟩) outer behind
          | none =>
              let (inner, rest) := openClass flags rest
              readClassFrom flags rounds inner (bracket :: outer) rest
      | ']' :: rest => do
          let closed ← bracket.close flags
          match outer with
          | [] => return (closed, rest)
          | parent :: outer => readClassFrom flags rounds (parent.add closed) outer rest
      | '&' :: '&' :: rest =>
          readClassFrom flags rounds (bracket.operate flags .intersection) outer rest
      | '-' :: '-' :: rest =>
          readClassFrom flags rounds (bracket.operate flags .difference) outer rest
      | '~' :: '~' :: rest =>
          readClassFrom flags rounds (bracket.operate flags .symmetricDifference) outer rest
      | characters => do
          let (member, rest) ← readMember flags characters
          readClassFrom flags rounds (bracket.add ⟨member, 0⟩) outer rest

/-- The class whose opening bracket has been read, and what follows its closing one. -/
def readClass (flags : Flags) (characters : List Char) : Except Fault (NestedClass × List Char) :=
  let (bracket, rest) := openClass flags characters
  readClassFrom flags (characters.length + 1) bracket [] rest

end SeededText.Regex
