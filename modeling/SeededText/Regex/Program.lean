import SeededText.Regex.Expr

/-!
Contract: programs for a matching machine with backtracking.

An expression is compiled from its end: `compileExpr` takes the address to go on at and gives the
address to begin at.

Owns: instructions, compilation.
Does not own: running a program (`SeededText.Regex.Matcher`).
-/

namespace SeededText.Regex

inductive Instruction where
  | consume (charClass : CharClass) (next : Nat)
  | check (assertion : Assertion) (isWord : Char → Bool) (next : Nat)
  /-- Stores the place in a slot. -/
  | save (slot next : Nat)
  /-- Tries `preferred`, then `other`. -/
  | split (preferred other : Nat)
  | accept

abbrev Program := Array Instruction

/-- The program with one instruction more, and its address. -/
def emit (instruction : Instruction) (program : Program) : Nat × Program :=
  (program.size, program.push instruction)

def splitFor (greedy : Bool) (inner next : Nat) : Instruction :=
  if greedy then .split inner next else .split next inner

/-- The same code `count` times, one after the other. -/
def compileCopies (compileInner : Nat → Program → Nat × Program) :
    Nat → Nat → Program → Nat × Program
  | 0, next, program => (next, program)
  | count + 1, next, program =>
      let (entry, program) := compileInner next program
      compileCopies compileInner count entry program

/-- Up to `count` copies of the same code, each of which may be skipped with all that follow. -/
def compileOptional (compileInner : Nat → Program → Nat × Program) (greedy : Bool) (next : Nat) :
    Nat → Nat → Program → Nat × Program
  | 0, behind, program => (behind, program)
  | count + 1, behind, program =>
      let (inner, program) := compileInner behind program
      let (entry, program) := emit (splitFor greedy inner next) program
      compileOptional compileInner greedy next count entry program

/-- A loop that runs the code at least once: its entry, the address of its split, the program. -/
def compileLoop (compileInner : Nat → Program → Nat × Program) (greedy : Bool) (next : Nat)
    (program : Program) : Nat × Nat × Program :=
  let (loop, program) := emit .accept program
  let (inner, program) := compileInner loop program
  (inner, loop, program.setIfInBounds loop (splitFor greedy inner next))

def compileExpr : Expr → Nat → Program → Nat × Program
  | .empty, next, program => (next, program)
  | .one charClass, next, program => emit (.consume charClass next) program
  | .assertion assertion isWord, next, program => emit (.check assertion isWord next) program
  | .group index inner, next, program =>
      let (close, program) := emit (.save (2 * index + 1) next) program
      let (inner, program) := compileExpr inner close program
      emit (.save (2 * index) inner) program
  | .sequence first second, next, program =>
      let (second, program) := compileExpr second next program
      compileExpr first second program
  | .choice preferred other, next, program =>
      let (preferred, program) := compileExpr preferred next program
      let (other, program) := compileExpr other next program
      emit (.split preferred other) program
  | .repeated inner least (some most) greedy, next, program =>
      let (entry, program) :=
        compileOptional (compileExpr inner) greedy next (most - least) next program
      compileCopies (compileExpr inner) least entry program
  | .repeated inner 0 none greedy, next, program =>
      let (entry, loop, program) := compileLoop (compileExpr inner) greedy next program
      if inner.acceptsEmpty then emit (splitFor greedy entry next) program
      else (loop, program)
  | .repeated inner (least + 1) none greedy, next, program =>
      let (entry, _, program) := compileLoop (compileExpr inner) greedy next program
      compileCopies (compileExpr inner) least entry program

/-- Program of a whole expression, and where it begins. -/
def compileProgram (expr : Expr) : Nat × Program :=
  let (accept, program) := emit .accept #[]
  compileExpr expr accept program

end SeededText.Regex
