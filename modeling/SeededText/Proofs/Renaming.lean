import Mathlib.Logic.Function.Basic
import SeededText.Machine.Construct
import SeededText.Machine.Operation
import SeededText.Machine.Settlement

/-!
Contract: patterns under other names.

A pattern is renamed by a text in front of its name, and with it the patterns that it makes, since
their names begin with its own. What code works on holds patterns in many places; renaming it
renames all of them. Two patterns get one name only if they had one before.

Owns: renaming everything that holds patterns, results that a renaming carries to each other.
Does not own: that code does the same under another name (`SeededText.Proofs.RenamedReading`,
`SeededText.Proofs.RenamedOperations`, `SeededText.Proofs.RenamedEvaluation`).
-/

namespace SeededText

open Pattern

/-! ### Tables -/

namespace Table

variable {κ κ' α β : Type}

/-- Changes all keys and all values. -/
def map (onKey : κ → κ') (onValue : α → β) (table : Table κ α) : Table κ' β :=
  ⟨table.entries.map (Prod.map onKey onValue)⟩

@[simp] theorem map_empty (onKey : κ → κ') (onValue : α → β) :
    (empty : Table κ α).map onKey onValue = empty := rfl

section Injective

variable [DecidableEq κ] [DecidableEq κ'] {onKey : κ → κ'} (onValue : α → β)

theorem find?_map (injective : Function.Injective onKey) (table : Table κ α) (key : κ) :
    (table.map onKey onValue).find? (onKey key) = (table.find? key).map onValue := by
  obtain ⟨entries⟩ := table
  show findIn (onKey key) (entries.map _) = (findIn key entries).map onValue
  induction entries with
  | nil => rfl
  | cons entry entries inductionHypothesis =>
      simp only [List.map_cons, Prod.map, findIn, injective.eq_iff]
      split
      · rfl
      · exact inductionHypothesis

theorem insert_map (injective : Function.Injective onKey) (table : Table κ α) (key : κ)
    (value : α) :
    (table.map onKey onValue).insert (onKey key) (onValue value) =
      (table.insert key value).map onKey onValue := by
  obtain ⟨entries⟩ := table
  refine congrArg Table.mk ?_
  show insertIn _ _ (entries.map _) = (insertIn key value entries).map _
  induction entries with
  | nil => rfl
  | cons entry entries inductionHypothesis =>
      simp only [List.map_cons, Prod.map, insertIn, injective.eq_iff]
      split
      · rfl
      · exact congrArg _ inductionHypothesis

end Injective

end Table

/-! ### Renaming -/

section Renaming

variable (front : String)

def Pattern.renamed (pattern : Pattern) : Pattern :=
  { pattern with name := front ++ pattern.name }

def Code.renamed (code : Code) : Code :=
  { code with pattern := code.pattern.renamed front }

namespace Machine

def Argument.renamed : Argument → Argument
  | .value text => .value text
  | .code body => .code (body.renamed front)

def PlannedArgument.renamed (planned : PlannedArgument) : PlannedArgument :=
  { planned with code := planned.code.renamed front }

def Subroutine.renamed (subroutine : Subroutine) : Subroutine :=
  { subroutine with body := subroutine.body.renamed front }

def BlockAttributes.renamed (attributes : BlockAttributes) : BlockAttributes :=
  { attributes with
    separator? := attributes.separator?.map (Code.renamed front)
    before? := attributes.before?.map (Code.renamed front)
    after? := attributes.after?.map (Code.renamed front) }

def Repeater.renamed (repeater : Repeater) : Repeater :=
  { repeater with
    pattern := repeater.pattern.renamed front
    separator? := repeater.separator?.map (Code.renamed front)
    before? := repeater.before?.map (Code.renamed front)
    after? := repeater.after?.map (Code.renamed front) }

/-- The key of a query with the name of its pattern renamed. -/
def renamedKey (key : String × String) : String × String :=
  (front ++ key.1, key.2)

def Memory.renamed (memory : Memory) : Memory :=
  { memory with
    subroutines := memory.subroutines.map id (Subroutine.renamed front)
    localQueries := memory.localQueries.map (renamedKey front) id
    attributes := memory.attributes.renamed front }

def Workspace.renamed (workspace : Workspace) : Workspace :=
  ⟨workspace.toMemory.renamed front, workspace.sink⟩

/-- The arguments of a subroutine by their names. -/
def renamedBindings (bindings : Table String Argument) : Table String Argument :=
  bindings.map id (Argument.renamed front)

def Scope.renamed (scope : Scope) : Scope :=
  { scope with
    bindings? := scope.bindings?.map (renamedBindings front)
    repeater? := scope.repeater?.map (Repeater.renamed front) }

def Context.renamed (context : Context) : Context :=
  { context with
    pattern := context.pattern.renamed front
    scope := context.scope.renamed front }

def Construct.renamed : Construct → Construct
  | .nothing => .nothing
  | .block repeater => .block (repeater.renamed front)
  | .tag operation position planned =>
      .tag operation position (planned.map (PlannedArgument.renamed front))
  | .call subroutine position planned =>
      .call (subroutine.renamed front) position (planned.map (PlannedArgument.renamed front))
  | .replacer regex input replacement =>
      .replacer regex (input.renamed front) (replacement.renamed front)
  | .generated source => .generated (source.renamed front)
  | .arithmetic isStatement position source =>
      .arithmetic isStatement position (source.renamed front)
  | .definition name parameters source => .definition name parameters (source.renamed front)

def Reading.renamed (reading : Reading) : Reading :=
  (Workspace.renamed front reading.1, Construct.renamed front reading.2)

def Request.renamed : Request → Request
  | .nothing => .nothing
  | .run code => .run (code.renamed front)
  | .attempt trial fallback blankIsEmpty =>
      .attempt (trial.renamed front) (fallback.renamed front) blankIsEmpty
  | .compare comparison body => .compare comparison (body.renamed front)
  | .leaveBlock => .leaveBlock

def Outcome.renamed (outcome : Outcome) : Outcome :=
  { outcome with
    workspace := outcome.workspace.renamed front
    request := outcome.request.renamed front }

def Invocation.renamed (invocation : Invocation) : Invocation :=
  { invocation with
    context := invocation.context.renamed front
    arguments := invocation.arguments.map (Argument.renamed front) }

def Fault.renamed (fault : Fault) : Fault :=
  { fault with pattern := front ++ fault.pattern }

theorem renamedKey_injective : Function.Injective (renamedKey front) := by
  rintro ⟨pattern, query⟩ ⟨pattern', query'⟩ same
  simp only [renamedKey, Prod.mk.injEq] at same
  obtain ⟨names, rfl⟩ := same
  rw [String.append_right_inj] at names
  rw [names]

@[simp] theorem BlockAttributes.renamed_standard :
    BlockAttributes.standard.renamed front = .standard := rfl

@[simp] theorem Scope.renamed_outermost : Scope.outermost.renamed front = .outermost := rfl

/-- Without subroutines, nothing at the start of a run holds a pattern. -/
theorem Workspace.renamed_fresh {engine : Engine} (bare : engine.subroutines = .empty)
    (seed : UInt64) : (Workspace.fresh engine seed).renamed front = .fresh engine seed := by
  simp [Workspace.fresh, Memory.fresh, Workspace.renamed, Memory.renamed, bare]

end Machine

end Renaming

/-! ### Results -/

namespace Machine

/-- The second result is the first after a renaming: its value is the changed one, or its fault lies
in the renamed pattern. -/
inductive Carries {α β : Type} (front : String) (change : α → β) :
    Except Fault α → Except Fault β → Prop where
  | ok (value : α) : Carries front change (.ok value) (.ok (change value))
  | error (fault : Fault) : Carries front change (.error fault) (.error (fault.renamed front))

namespace Carries

variable {α β γ δ : Type} {front : String} {between : α → β} {change : γ → δ}
  {first : Except Fault α} {second : Except Fault β}

theorem bind {next : α → Except Fault γ} {next' : β → Except Fault δ}
    (carries : Carries front between first second)
    (all : ∀ value, Carries front change (next value) (next' (between value))) :
    Carries front change (first >>= next) (second >>= next') := by
  cases carries with
  | ok value => exact all value
  | error fault => exact .error fault

theorem map {onFirst : α → γ} {onSecond : β → δ} (carries : Carries front between first second)
    (all : ∀ value, onSecond (between value) = change (onFirst value)) :
    Carries front change (first.map onFirst) (second.map onSecond) := by
  cases carries with
  | ok value =>
      show Carries front change (.ok _) (.ok _)
      rw [all value]
      exact .ok _
  | error fault => exact .error fault

/-- Steps over a list that carry a state along carry it along to the end. -/
theorem foldlM {σ : Type} {step : σ → α → Except Fault σ} {step' : σ → β → Except Fault σ}
    (each : ∀ state item, Carries front id (step state item) (step' state (between item)))
    (items : List α) (state : σ) :
    Carries front id (items.foldlM step state) ((items.map between).foldlM step' state) := by
  induction items generalizing state with
  | nil => exact .ok state
  | cons item items inductionHypothesis =>
      exact (each state item).bind inductionHypothesis

/-- Items that hold no pattern. -/
theorem foldlM_plain {σ : Type} {step step' : σ → α → Except Fault σ}
    (each : ∀ state item, Carries front id (step state item) (step' state item))
    (items : List α) (state : σ) :
    Carries front id (items.foldlM step state) (items.foldlM step' state) := by
  have folded : Carries front id (items.foldlM step state)
      ((items.map id).foldlM step' state) := foldlM each items state
  rwa [List.map_id] at folded

end Carries

end Machine

end SeededText
