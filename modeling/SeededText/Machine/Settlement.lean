import SeededText.Machine.Workspace

/-!
Contract: what is done between pieces of code.

A block chooses the pieces of each turn. Text that code has made is evaluated, run as code, or made
the body of a subroutine.

Owns: the pieces of a turn, arithmetic, generated code.
Does not own: running the pieces.
-/

namespace SeededText.Machine

/-! ### Turns of blocks -/

/-- Index of the item for the present turn of a repeater. A block with a turn for each item takes
them in order; else the active synchronizer chooses, or chance. -/
def Workspace.chooseItem (workspace : Workspace) (repeater : Repeater) : Nat × Workspace :=
  let length := repeater.items.size
  if repeater.isEach then (repeater.index % max 1 length, workspace)
  else
    match workspace.synchronizers.active? with
    | some (name, synchronizer) =>
        let (choice, advanced) := synchronizer.next length
        (choice, { workspace with synchronizers := workspace.synchronizers.set name advanced })
    | none =>
        let (choice, generator) := workspace.generator.below (max 1 length)
        (choice, { workspace with generator := generator })

/-- Pieces of the present turn with the given item, the first to run in front. -/
def Repeater.pieces (repeater : Repeater) (choice : Nat) : List Code :=
  let separator? := if 0 < repeater.index then repeater.separator? else none
  [separator?, repeater.before?, repeater.item? choice, repeater.after?].filterMap id

/-! ### Text that code has made -/

/-- Whether a text counts as nothing: it is empty, or all blanks if those count as nothing too. -/
def isNothing (blankIsEmpty : Bool) (text : String) : Bool :=
  if blankIsEmpty then Text.isBlankText text else text.isEmpty

namespace Context

/-- A text as code, in a pattern that is called like this one with a question mark behind. -/
def generatedCode (context : Context) (text : String) : Except Fault Code :=
  (compile (context.pattern.name ++ "?") text).map .whole

/-- Defines a subroutine whose body is a text, in a pattern that is called like this one with the
name of the subroutine behind. -/
def defineGenerated (context : Context) (workspace : Workspace) (name : String)
    (parameters : List SubroutineParameter) (text : String) : Except Fault Workspace :=
  (compile (context.pattern.name ++ ":" ++ name) text).map fun pattern =>
    { workspace with
      subroutines := workspace.subroutines.define ⟨name, parameters, .whole pattern⟩ }

/-- Evaluates a text, and prints its value unless it is a statement. -/
def settleArithmetic (context : Context) (workspace : Workspace) (isStatement : Bool)
    (position : Pattern.Position) (text : String) : Except Fault Workspace :=
  match Arithmetic.evaluate text workspace.valuation with
  | (.error fault, _) =>
      .error (context.fault position (.failed (.arithmetic (Text.trim text) fault)))
  | (.ok value, valuation) =>
      let workspace := { workspace with valuation := valuation }
      .ok (if isStatement then workspace else workspace.writeNumber value)

end Context

end SeededText.Machine
