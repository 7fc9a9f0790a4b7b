import SeededText.Machine.Operation

/-!
Contract: which tags ask for trials and for leaving a block.

Only alternatives ask for a trial, and they do nothing else. Only `break` asks to leave a block, and
only inside one. Other tags ask for code to run, if for anything.

Owns: what is known of a tag from what it asks for.
Does not own: granting it (`SeededText.Machine.Task`).
-/

namespace SeededText.Machine

/-- What holds of a result, if there is one. -/
def Yields {α : Type} (property : α → Prop) (result : Except Fault α) : Prop :=
  ∀ value, result = .ok value → property value

section Yielding

variable {α β : Type} {property : β → Prop}

@[simp] theorem yields_ok (value : β) : Yields property (.ok value) ↔ property value := by
  simp [Yields]

@[simp] theorem yields_pure (value : β) : Yields property (pure value) ↔ property value :=
  yields_ok value

@[simp] theorem yields_error (fault : Fault) : Yields property (.error fault) := nofun

theorem yields_bind {first : Except Fault α} {next : α → Except Fault β}
    (all : ∀ value, Yields property (next value)) : Yields property (first >>= next) := by
  cases first with
  | error fault => exact yields_error fault
  | ok value => exact all value

/-- What is known of the first result may be used for the second. -/
theorem yields_bind_of {known : α → Prop} {first : Except Fault α} {next : α → Except Fault β}
    (before : Yields known first) (all : ∀ value, known value → Yields property (next value)) :
    Yields property (first >>= next) := by
  cases first with
  | error fault => exact yields_error fault
  | ok value => exact all value (before value rfl)

end Yielding

/-- The request is neither for a trial nor for leaving a block. -/
def Request.isPlain : Request → Bool
  | .attempt _ _ _ | .leaveBlock => false
  | _ => true

/-- What is asked for is neither a trial nor leaving a block. -/
def Outcome.Plain (outcome : Outcome) : Prop :=
  outcome.request.isPlain = true

namespace Invocation

variable (invocation : Invocation) (workspace : Workspace)

@[simp] theorem yields_refuse (property : Outcome → Prop) (misuse : Misuse) :
    Yields property (invocation.refuse misuse) :=
  yields_error (invocation.context.fault invocation.position (.misused misuse))

/-- A value that is there. -/
theorem yields_require {α : Type} (value? : Option α) (misuse : Misuse) :
    Yields (fun value => value? = some value) (invocation.require value? misuse) := by
  intro value found
  cases value? with
  | none => cases found
  | some present =>
      cases found
      rfl

@[simp] theorem plain_stay : (invocation.stay workspace).Plain := rfl

@[simp] theorem plain_write (text : String) : (invocation.write workspace text).Plain := rfl

@[simp] theorem plain_writeInteger (number : Int) :
    (invocation.writeInteger workspace number).Plain := rfl

@[simp] theorem plain_onSink (change : Output.Sink → Output.Sink) :
    (invocation.onSink workspace change).Plain := rfl

@[simp] theorem plain_compare (comparison : Comparison) (body : Code) :
    (invocation.ask workspace (.compare comparison body)).Plain := rfl

@[simp] theorem plain_runIf (condition : Bool) (code : Code) :
    (invocation.runIf workspace condition code).Plain := by
  cases condition <;> rfl

@[simp] theorem plain_runIf_else (condition : Bool) (code : Code) (elseArmed : Bool) :
    ({ invocation.runIf workspace condition code with elseArmed := elseArmed }).Plain := by
  cases condition <;> rfl

/-- Only alternatives ask for a trial, and only `break` asks to leave a block. -/
theorem plain_perform {operation : TagOperation} (noBreak : operation ≠ .leaveBlock)
    (noTrial : ∀ blankIsEmpty, operation ≠ .alternative blankIsEmpty) :
    Yields Outcome.Plain (invocation.perform workspace operation) := by
  cases operation with
  | leaveBlock => exact absurd rfl noBreak
  | alternative blankIsEmpty => exact absurd rfl (noTrial blankIsEmpty)
  | _ =>
      simp only [perform, randomNumber, synchronize, controlSynchronizer, reseedSynchronizer,
        whenTurn, whenNth, matchedText, capturedGroup, argument, setNumberFormat,
        setCapitalization, inferCapitalization, openChannel, closeChannel, placeTarget,
        changeTarget, setMarker, distance, randomCharacters, setFlags, whenFlag, otherwise,
        compareTexts, whenCompared, callHook]
      repeat' first | refine yields_bind fun value => ?_ | split
      all_goals simp

section Asking

variable {operation : TagOperation} {outcome : Outcome}

theorem yields_alternative (blankIsEmpty : Bool) :
    Yields (fun outcome => outcome.workspace = workspace ∧ outcome.request ≠ .leaveBlock)
      (invocation.perform workspace (.alternative blankIsEmpty)) := by
  refine yields_bind fun trial => yields_bind fun fallback => ?_
  rw [yields_pure]
  exact ⟨rfl, nofun⟩

theorem yields_leaveBlock :
    Yields (fun outcome => invocation.context.scope.repeater? ≠ none ∧
        outcome.request = .leaveBlock)
      (invocation.perform workspace .leaveBlock) := by
  show Yields _ (invocation.leaveBlock workspace)
  unfold leaveBlock repeater require
  split
  · next inBlock =>
      rw [inBlock]
      exact (yields_pure _).mpr ⟨nofun, rfl⟩
  · exact yields_error _

/-- A tag that asks for a trial has changed nothing. -/
theorem workspace_of_attempt {trial fallback : Code} {blankIsEmpty : Bool}
    (performed : invocation.perform workspace operation = .ok outcome)
    (asks : outcome.request = .attempt trial fallback blankIsEmpty) :
    outcome.workspace = workspace := by
  by_cases alternates : ∃ blankIsEmpty, operation = .alternative blankIsEmpty
  · obtain ⟨blankIsEmpty, rfl⟩ := alternates
    exact (invocation.yields_alternative workspace blankIsEmpty outcome performed).1
  · by_cases breaks : operation = .leaveBlock
    · subst breaks
      have leaves := (invocation.yields_leaveBlock workspace outcome performed).2
      rw [asks] at leaves
      cases leaves
    · have plain := invocation.plain_perform workspace breaks
        (fun blank same => alternates ⟨blank, same⟩) outcome performed
      rw [Outcome.Plain, asks] at plain
      cases plain

/-- A tag that asks to leave a block is inside one. -/
theorem inBlock_of_leaveBlock (performed : invocation.perform workspace operation = .ok outcome)
    (asks : outcome.request = .leaveBlock) : invocation.context.scope.repeater? ≠ none := by
  by_cases breaks : operation = .leaveBlock
  · subst breaks
    exact (invocation.yields_leaveBlock workspace outcome performed).1
  · by_cases alternates : ∃ blankIsEmpty, operation = .alternative blankIsEmpty
    · obtain ⟨blankIsEmpty, rfl⟩ := alternates
      exact absurd asks (invocation.yields_alternative workspace blankIsEmpty outcome performed).2
    · have plain := invocation.plain_perform workspace breaks
        (fun blank same => alternates ⟨blank, same⟩) outcome performed
      rw [Outcome.Plain, asks] at plain
      cases plain

end Asking

end Invocation

end SeededText.Machine
