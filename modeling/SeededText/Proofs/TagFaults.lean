import SeededText.Machine.Operation
import SeededText.Proofs.ReadingFaults

/-!
Contract: the faults of tags.

A tag that fails names the pattern it stands in and the place of its call. It misses code only where
it takes code.

Owns: which arguments tags take as code, the faults of all operations.
Does not own: that the code is there (`SeededText.Proofs.PassedArguments`).
-/

namespace SeededText.Machine

open Pattern

/-- Indices of the arguments, `count` in all, that an operation takes as code. -/
def TagOperation.codeIndices (count : Nat) : TagOperation → List Nat
  | .setSeparator | .setBefore | .setAfter | .whenTurn _ | .otherwise => [0]
  | .alternative _ => [0, 1]
  | .whenFlag _ | .whenCompared => [1]
  | .compareTexts => [2]
  | .whenNth => [count - 1]
  | _ => []

/-- A fault that arises from a call. Code is missed only at one of the indices. -/
structure Fault.ArisesFrom (invocation : Invocation) (indices : List Nat) (fault : Fault) :
    Prop where
  named : fault.pattern = invocation.context.pattern.name
  position : fault.position = invocation.position
  cause : fault.cause = .misused .expectedCode →
    ∃ index ∈ indices, invocation.arguments[index]?.bind Argument.code? = none

section Folding

variable {α β : Type} {property : Fault → Prop}

theorem fails_foldlM {next : β → α → Except Fault β} (all : ∀ before value,
    Fails property (next before value)) (values : List α) (initial : β) :
    Fails property (values.foldlM next initial) := by
  induction values generalizing initial with
  | nil => exact fails_pure _
  | cons value values inductionHypothesis =>
      rw [List.foldlM_cons]
      exact fails_bind (all initial value) fun later _ => inductionHypothesis later

end Folding

namespace Invocation

variable {α : Type} {invocation : Invocation} {indices : List Nat}

/-- The result of a tag fails at its call, if it fails. -/
abbrev FailsAt (invocation : Invocation) (indices : List Nat) (result : Except Fault α) : Prop :=
  Fails (·.ArisesFrom invocation indices) result

theorem fails_fault {cause : Cause} (other : cause ≠ .misused .expectedCode) :
    invocation.FailsAt indices
      (.error (invocation.context.fault invocation.position cause) : Except Fault α) :=
  (fails_error _).mpr ⟨rfl, rfl, fun same => absurd same other⟩

theorem fails_refuse {misuse : Misuse} (other : misuse ≠ .expectedCode := by simp) :
    invocation.FailsAt indices (invocation.refuse misuse : Except Fault α) :=
  fails_fault (by simpa using other)

theorem fails_require {value? : Option α} {misuse : Misuse}
    (other : misuse ≠ .expectedCode := by simp) :
    invocation.FailsAt indices (invocation.require value? misuse) := by
  cases value? with
  | none => exact fails_refuse other
  | some value => exact fails_ok value

theorem fails_code {index : Nat} (taken : index ∈ indices) :
    invocation.FailsAt indices (invocation.code index) := by
  unfold code
  split
  · exact fails_ok _
  · next missing =>
      exact (fails_error _).mpr ⟨rfl, rfl, fun _ => ⟨index, taken, missing⟩⟩

theorem fails_name (what text : String) :
    invocation.FailsAt indices (invocation.name what text) := by
  unfold name
  dsimp only
  split
  · exact fails_ok _
  · exact fails_refuse

theorem fails_count (what text : String) :
    invocation.FailsAt indices (invocation.count what text) := by
  unfold count
  refine fails_bind fails_require fun count _ => ?_
  split
  · exact fails_refuse
  · exact fails_pure _

theorem fails_integer (text : String) : invocation.FailsAt indices (invocation.integer text) :=
  fails_require

theorem fails_repeater (tag : String) : invocation.FailsAt indices (invocation.repeater tag) :=
  fails_require

theorem fails_marker (workspace : Workspace) (index : Nat) :
    invocation.FailsAt indices (invocation.marker workspace index) :=
  fails_require

theorem fails_repetition : invocation.FailsAt indices invocation.repetition := by
  unfold repetition
  dsimp only
  split
  · exact fails_pure _
  · exact fails_bind (fails_count _ _) fun _ _ => fails_pure _

theorem fails_chance : invocation.FailsAt indices invocation.chance :=
  fails_require

/-- A tag fails only at its call, and for code that it takes only if that is not there. -/
theorem fails_perform (invocation : Invocation) (workspace : Workspace)
    (operation : TagOperation) :
    invocation.FailsAt (operation.codeIndices invocation.arguments.length)
      (invocation.perform workspace operation) := by
  cases operation with
  | setFlags defined =>
      refine fails_bind (fails_foldlM (fun flags text => ?_) _ _) fun _ _ => fails_pure _
      split
      · exact fails_pure _
      · exact fails_bind (fails_name _ _) fun _ _ => fails_pure _
  | whenCompared =>
      refine fails_bind fails_require fun comparison _ =>
        fails_bind (fails_foldlM (fun holds flag => ?_) _ _) fun _ _ =>
          fails_bind (fails_code (by simp [TagOperation.codeIndices])) fun _ _ => fails_pure _
      exact fails_bind fails_require fun _ _ => fails_pure _
  | _ =>
      simp only [perform, randomNumber, synchronize, controlSynchronizer, reseedSynchronizer,
        whenTurn, whenNth, alternative, matchedText, capturedGroup, argument, setNumberFormat,
        setCapitalization, inferCapitalization, openChannel, closeChannel, placeTarget,
        changeTarget, setMarker, distance, randomCharacters, whenFlag, otherwise, compareTexts,
        leaveBlock, callHook, TagOperation.codeIndices]
      -- Only what is written as a bind is taken for one.
      repeat' first | (with_reducible refine fails_bind ?_ fun value _ => ?_) | split
      all_goals with_reducible first
        | exact fails_ok _
        | exact fails_pure _
        | exact fails_refuse
        | exact fails_name _ _
        | exact fails_count _ _
        | exact fails_integer _
        | exact fails_repeater _
        | exact fails_marker _ _
        | exact fails_repetition
        | exact fails_chance
        | exact fails_code (by simp)
        | exact fails_require
        | exact fails_fault (by simp)

end Invocation

end SeededText.Machine
