import SeededText.Regex.CharClass

/-!
Contract: regular expressions with captures.

Owns: the expressions, the conditions they can state about a place in a text.
Does not own: their written form (`SeededText.Regex.Parser`) and matching
(`SeededText.Regex.Matcher`).
-/

namespace SeededText.Regex

/-- Conditions on the place between two characters. -/
inductive Assertion where
  | textStart
  | textEnd
  | lineStart
  | lineEnd
  /-- Lines that end in a line feed, a carriage return, or both. -/
  | anyLineStart
  | anyLineEnd
  | wordBoundary
  | notWordBoundary
  | wordStart
  | wordEnd
  | wordStartHalf
  | wordEndHalf
deriving DecidableEq, Repr

inductive Expr where
  | empty
  | one (charClass : CharClass)
  | assertion (assertion : Assertion) (isWord : Char → Bool)
  | group (index : Nat) (inner : Expr)
  | sequence (first second : Expr)
  | choice (preferred other : Expr)
  | repeated (inner : Expr) (least : Nat) (most? : Option Nat) (greedy : Bool)

/-- Whether the expression can match the empty text. -/
def Expr.acceptsEmpty : Expr → Bool
  | .empty | .assertion .. => true
  | .one _ => false
  | .group _ inner => inner.acceptsEmpty
  | .sequence first second => first.acceptsEmpty && second.acceptsEmpty
  | .choice preferred other => preferred.acceptsEmpty || other.acceptsEmpty
  | .repeated inner least _ _ => least == 0 || inner.acceptsEmpty

/-- Whether the expression can match nothing but the empty text. -/
def Expr.onlyEmpty : Expr → Bool
  | .empty | .assertion .. => true
  | .one _ => false
  | .group _ inner => inner.onlyEmpty
  | .sequence first second => first.onlyEmpty && second.onlyEmpty
  | .choice preferred other => preferred.onlyEmpty && other.onlyEmpty
  | .repeated inner _ _ _ => inner.onlyEmpty

/-- The expression between `least` and `most` times. What matches only the empty text need not be
tried twice. -/
def Expr.times (inner : Expr) (least : Nat) (most? : Option Nat) (greedy : Bool) : Expr :=
  let (least, most?) :=
    if inner.onlyEmpty then (min least 1, some (min (most?.getD 1) 1)) else (least, most?)
  if most? = some 0 then .empty
  else if least = 1 ∧ most? = some 1 then inner
  else .repeated inner least most? greedy

/-- Number of instructions of the expression's program. -/
def Expr.size : Expr → Nat
  | .empty => 0
  | .one _ | .assertion .. => 1
  | .group _ inner => inner.size + 2
  | .sequence first second => first.size + second.size
  | .choice preferred other => preferred.size + other.size + 1
  | .repeated inner least none _ => (inner.size + 2) * max least 1
  | .repeated inner _ (some most) _ => (inner.size + 1) * most

end SeededText.Regex
