import SeededText.Proofs.RenamedReading

/-!
Contract: the tags of a renamed pattern.

A tag sees the pattern that it stands in only by its source, which a renaming keeps, and by the
faults that name it.

Owns: each operation under another name.
Does not own: reading constructs (`SeededText.Proofs.RenamedReading`), evaluation
(`SeededText.Proofs.RenamedEvaluation`).
-/

namespace SeededText.Machine

open Pattern Output

variable (front : String)

/-! ### Arguments -/

@[simp] theorem Argument.textOr_renamed (absent : String) (argument : Argument) :
    (argument.renamed front).textOr absent = argument.textOr absent := by
  cases argument <;> rfl

theorem Argument.code?_renamed (argument : Argument) :
    (argument.renamed front).code? = argument.code?.map (Code.renamed front) := by
  cases argument <;> rfl

theorem Subroutine.bind_renamed (subroutine : Subroutine) (arguments : List Argument) :
    (subroutine.renamed front).bind (arguments.map (Argument.renamed front)) =
      renamedBindings front (subroutine.bind arguments) := by
  have folds (entries : List (SubroutineParameter × Argument)) (bindings : Table String Argument) :
      (entries.map (Prod.map id (Argument.renamed front))).foldl
          (fun bindings entry => bindings.insert entry.1.name entry.2)
          (renamedBindings front bindings) =
        renamedBindings front (entries.foldl
          (fun bindings entry => bindings.insert entry.1.name entry.2) bindings) := by
    induction entries generalizing bindings with
    | nil => rfl
    | cons entry entries inductionHypothesis =>
        have inserted := Table.insert_map (Argument.renamed front) Function.injective_id bindings
          entry.1.name entry.2
        rw [List.map_cons, List.foldl_cons, List.foldl_cons, ← inductionHypothesis]
        exact congrArg (fun bindings => List.foldl _ bindings _) inserted
  rw [bind, show (subroutine.renamed front).parameters = subroutine.parameters from rfl,
    List.zip_map_right]
  exact folds _ .empty

namespace Invocation

variable (invocation : Invocation)

@[simp] theorem text_renamed (index : Nat) :
    (invocation.renamed front).text index = invocation.text index := by
  simp only [text, renamed, List.getElem?_map, Option.map_map]
  congr 2
  funext argument
  exact argument.textOr_renamed front invocation.absent

@[simp] theorem texts_renamed : (invocation.renamed front).texts = invocation.texts := by
  simp [texts, renamed]

@[simp] theorem trimmedText_renamed (index : Nat) :
    (invocation.renamed front).trimmedText index = invocation.trimmedText index := by
  simp only [trimmedText, text_renamed]

@[simp] theorem length_renamed :
    (invocation.renamed front).arguments.length = invocation.arguments.length :=
  List.length_map _

theorem carries_code (index : Nat) :
    Carries front (Code.renamed front) (invocation.code index)
      ((invocation.renamed front).code index) := by
  have found : ((invocation.renamed front).arguments[index]?.bind Argument.code?) =
      (invocation.arguments[index]?.bind Argument.code?).map (Code.renamed front) := by
    simp only [renamed, List.getElem?_map, Option.bind_map, Option.map_bind]
    congr 1
    funext argument
    exact argument.code?_renamed front
  simp only [code, found]
  cases invocation.arguments[index]?.bind Argument.code? with
  | none => exact .error _
  | some body => exact .ok body

theorem carries_require {α β : Type} (change : α → β) (value? : Option α) (misuse : Misuse) :
    Carries front change (invocation.require value? misuse)
      ((invocation.renamed front).require (value?.map change) misuse) := by
  cases value? with
  | none => exact .error _
  | some value => exact .ok value

/-- A value that holds no pattern. -/
theorem carries_require_plain {α : Type} (value? : Option α) (misuse : Misuse) :
    Carries front id (invocation.require value? misuse)
      ((invocation.renamed front).require value? misuse) := by
  cases value? with
  | none => exact .error _
  | some value => exact .ok value

theorem carries_name (what text : String) :
    Carries front id (invocation.name what text) ((invocation.renamed front).name what text) := by
  simp only [name]
  split
  · exact .ok _
  · exact .error _

theorem carries_count (what text : String) :
    Carries front id (invocation.count what text) ((invocation.renamed front).count what text) := by
  refine (invocation.carries_require_plain front _ _).bind fun count => ?_
  by_cases excessive : invocation.context.engine.settings.maxRepetitions < count
  · simp only [renamed, Context.engine_renamed, id, excessive, if_true]
    exact .error _
  · simp only [renamed, Context.engine_renamed, id, excessive, if_false]
    exact .ok _

theorem carries_integer (text : String) :
    Carries front id (invocation.integer text) ((invocation.renamed front).integer text) :=
  invocation.carries_require_plain front _ _

theorem carries_repeater (tag : String) :
    Carries front (Repeater.renamed front) (invocation.repeater tag)
      ((invocation.renamed front).repeater tag) :=
  invocation.carries_require front (Repeater.renamed front) _ _

theorem carries_repetition :
    Carries front id invocation.repetition (invocation.renamed front).repetition := by
  simp only [repetition, trimmedText_renamed]
  split
  · exact .ok _
  · exact (invocation.carries_count front _ _).bind fun _ => .ok _

theorem carries_chance : Carries front id invocation.chance (invocation.renamed front).chance := by
  simp only [chance, text_renamed]
  exact invocation.carries_require_plain front _ _

/-! ### Outcomes -/

section Outcomes

variable (workspace : Workspace)

theorem carries_ask (request : Request) :
    Carries front (Outcome.renamed front) (.ok (invocation.ask workspace request))
      (.ok ((invocation.renamed front).ask (workspace.renamed front) (request.renamed front))) :=
  .ok (invocation.ask workspace request)

theorem carries_stay :
    Carries front (Outcome.renamed front) (.ok (invocation.stay workspace))
      (.ok ((invocation.renamed front).stay (workspace.renamed front))) :=
  .ok (invocation.stay workspace)

theorem carries_write (text : String) :
    Carries front (Outcome.renamed front) (.ok (invocation.write workspace text))
      (.ok ((invocation.renamed front).write (workspace.renamed front) text)) := by
  rw [write, write, Workspace.write_renamed]
  exact invocation.carries_stay front _

theorem carries_writeInteger (number : Int) :
    Carries front (Outcome.renamed front) (.ok (invocation.writeInteger workspace number))
      (.ok ((invocation.renamed front).writeInteger (workspace.renamed front) number)) :=
  invocation.carries_write front workspace _

theorem carries_onSink (change : Sink → Sink) :
    Carries front (Outcome.renamed front) (.ok (invocation.onSink workspace change))
      (.ok ((invocation.renamed front).onSink (workspace.renamed front) change)) :=
  invocation.carries_stay front (workspace.onSink change)

theorem runIf_renamed (condition : Bool) (body : Code) :
    (invocation.renamed front).runIf (workspace.renamed front) condition (body.renamed front) =
      (invocation.runIf workspace condition body).renamed front := by
  cases condition <;> rfl

theorem carries_runIf (condition : Bool) (body : Code) :
    Carries front (Outcome.renamed front) (.ok (invocation.runIf workspace condition body))
      (.ok ((invocation.renamed front).runIf (workspace.renamed front) condition
        (body.renamed front))) := by
  rw [runIf_renamed]
  exact .ok _

theorem carries_runIf_else (condition : Bool) (body : Code) (elseArmed : Bool) :
    Carries front (Outcome.renamed front)
      (.ok { invocation.runIf workspace condition body with elseArmed := elseArmed })
      (.ok { (invocation.renamed front).runIf (workspace.renamed front) condition
        (body.renamed front) with elseArmed := elseArmed }) := by
  rw [runIf_renamed]
  exact .ok { invocation.runIf workspace condition body with elseArmed := elseArmed }

end Outcomes

/-! ### Operations -/

section Operations

variable (workspace : Workspace)

/-- Two ways to do one thing in a pattern and in the renamed pattern. -/
abbrev Performs (first second : Except Fault Outcome) : Prop :=
  Carries front (Outcome.renamed front) first second

theorem carries_attributes (attributes : BlockAttributes) :
    Performs front (.ok (invocation.stay { workspace with attributes := attributes }))
      (.ok ((invocation.renamed front).stay
        { workspace.renamed front with attributes := attributes.renamed front })) :=
  invocation.carries_stay front { workspace with attributes := attributes }

/-- Code as an attribute of the next block. -/
theorem performs_place {place place' : Code → BlockAttributes}
    (same : ∀ body : Code, place' (body.renamed front) = (place body).renamed front) :
    Performs front
      (invocation.code 0 >>= fun body =>
        .ok (invocation.stay { workspace with attributes := place body }))
      ((invocation.renamed front).code 0 >>= fun body =>
        .ok ((invocation.renamed front).stay
          { workspace.renamed front with attributes := place' body })) := by
  refine (invocation.carries_code front 0).bind fun body => ?_
  rw [same]
  exact invocation.carries_attributes front workspace (place body)

theorem performs_synchronize :
    Performs front (invocation.synchronize workspace)
      ((invocation.renamed front).synchronize (workspace.renamed front)) := by
  simp only [synchronize, text_renamed, trimmedText_renamed]
  refine (invocation.carries_name front _ _).bind fun name => ?_
  refine (invocation.carries_require_plain front _ _).bind fun kind => ?_
  exact invocation.carries_stay front
    { workspace with synchronizers := workspace.synchronizers.activate name kind }

theorem performs_controlSynchronizer (action : SynchronizerAction) :
    Performs front (invocation.controlSynchronizer workspace action)
      ((invocation.renamed front).controlSynchronizer (workspace.renamed front) action) := by
  simp only [controlSynchronizer, trimmedText_renamed]
  refine (invocation.carries_require_plain front _ _).bind fun synchronizers => ?_
  exact invocation.carries_stay front { workspace with synchronizers := synchronizers }

theorem performs_reseedSynchronizer :
    Performs front (invocation.reseedSynchronizer workspace)
      ((invocation.renamed front).reseedSynchronizer (workspace.renamed front)) := by
  simp only [reseedSynchronizer, text_renamed, trimmedText_renamed]
  refine (invocation.carries_require_plain front _ _).bind fun synchronizers => ?_
  exact invocation.carries_stay front { workspace with synchronizers := synchronizers }

theorem performs_whenTurn (test : TurnTest) :
    Performs front (invocation.whenTurn workspace test)
      ((invocation.renamed front).whenTurn (workspace.renamed front) test) := by
  have same (repeater : Repeater) : test.holds (repeater.renamed front) = test.holds repeater := by
    cases test <;> rfl
  refine (invocation.carries_repeater front _).bind fun repeater => ?_
  refine (invocation.carries_code front _).bind fun body => ?_
  rw [same]
  exact invocation.carries_runIf front workspace _ body

theorem performs_whenNth :
    Performs front (invocation.whenNth workspace)
      ((invocation.renamed front).whenNth (workspace.renamed front)) := by
  simp only [whenNth, text_renamed, length_renamed]
  refine (invocation.carries_count front _ _).bind fun interval => ?_
  simp only [id]
  split
  · exact .error _
  · split
    · refine (invocation.carries_count front _ _).bind fun offset => ?_
      refine (invocation.carries_repeater front _).bind fun repeater => ?_
      refine (invocation.carries_code front _).bind fun body => ?_
      exact invocation.carries_runIf front workspace (repeater.isNth offset interval) body
    · refine (invocation.carries_repeater front _).bind fun repeater => ?_
      refine (invocation.carries_code front _).bind fun body => ?_
      exact invocation.carries_runIf front workspace (repeater.isNth 0 interval) body

theorem performs_turnNumber (number : TurnNumber) :
    Performs front (invocation.perform workspace (.turnNumber number))
      ((invocation.renamed front).perform (workspace.renamed front) (.turnNumber number)) := by
  have same (repeater : Repeater) : number.of (repeater.renamed front) = number.of repeater := by
    cases number <;> rfl
  refine (invocation.carries_repeater front _).bind fun repeater => ?_
  rw [same]
  exact invocation.carries_writeInteger front workspace _

theorem performs_leaveBlock :
    Performs front (invocation.leaveBlock workspace)
      ((invocation.renamed front).leaveBlock (workspace.renamed front)) :=
  (invocation.carries_repeater front _).bind fun _ =>
    invocation.carries_ask front workspace .leaveBlock

theorem performs_alternative (blankIsEmpty : Bool) :
    Performs front (invocation.alternative workspace blankIsEmpty)
      ((invocation.renamed front).alternative (workspace.renamed front) blankIsEmpty) :=
  (invocation.carries_code front 0).bind fun trial =>
    (invocation.carries_code front 1).bind fun fallback =>
      invocation.carries_ask front workspace (.attempt trial fallback blankIsEmpty)

theorem performs_matchedText :
    Performs front (invocation.matchedText workspace)
      ((invocation.renamed front).matchedText (workspace.renamed front)) :=
  (invocation.carries_require_plain front invocation.context.scope.found? _).bind fun _ =>
    invocation.carries_write front workspace _

theorem performs_capturedGroup :
    Performs front (invocation.capturedGroup workspace)
      ((invocation.renamed front).capturedGroup (workspace.renamed front)) := by
  simp only [capturedGroup, trimmedText_renamed]
  refine (invocation.carries_require_plain front invocation.context.scope.found? _).bind
    fun found => ?_
  split <;>
    exact (invocation.carries_require_plain front _ _).bind fun _ =>
      invocation.carries_write front workspace _

theorem performs_argument :
    Performs front (invocation.argument workspace)
      ((invocation.renamed front).argument (workspace.renamed front)) := by
  simp only [argument, trimmedText_renamed]
  refine (invocation.carries_require front (renamedBindings front)
    invocation.context.scope.bindings? _).bind fun bindings => ?_
  have found := Table.find?_map (Argument.renamed front) Function.injective_id bindings
    (invocation.trimmedText 0)
  rw [show (renamedBindings front bindings).find? (invocation.trimmedText 0) = _ from found]
  refine (invocation.carries_require front (Argument.renamed front) _ _).bind fun argument => ?_
  cases argument with
  | value text => exact invocation.carries_write front workspace text
  | code body => exact invocation.carries_runIf front workspace true body

theorem performs_setNumberFormat :
    Performs front (invocation.setNumberFormat workspace)
      ((invocation.renamed front).setNumberFormat (workspace.renamed front)) := by
  simp only [setNumberFormat, text_renamed, trimmedText_renamed]
  exact (invocation.carries_require_plain front _ _).bind fun format =>
    invocation.carries_stay front { workspace with numberFormat := format }

theorem performs_setCapitalization :
    Performs front (invocation.setCapitalization workspace)
      ((invocation.renamed front).setCapitalization (workspace.renamed front)) := by
  simp only [setCapitalization, text_renamed, trimmedText_renamed]
  exact (invocation.carries_require_plain front _ _).bind fun mode =>
    invocation.carries_onSink front workspace (·.setCapitalization mode)

theorem performs_inferCapitalization :
    Performs front (.ok (invocation.inferCapitalization workspace))
      (.ok ((invocation.renamed front).inferCapitalization (workspace.renamed front))) := by
  simp only [inferCapitalization, text_renamed]
  split
  · exact invocation.carries_onSink front workspace _
  · exact invocation.carries_stay front workspace

theorem performs_openChannel :
    Performs front (invocation.openChannel workspace)
      ((invocation.renamed front).openChannel (workspace.renamed front)) := by
  simp only [openChannel, text_renamed, trimmedText_renamed]
  exact (invocation.carries_name front _ _).bind fun name =>
    (invocation.carries_require_plain front _ _).bind fun visibility =>
      invocation.carries_onSink front workspace (·.push name visibility)

theorem performs_closeChannel :
    Performs front (.ok (invocation.closeChannel workspace))
      (.ok ((invocation.renamed front).closeChannel (workspace.renamed front))) := by
  simp only [closeChannel, trimmedText_renamed]
  exact invocation.carries_onSink front workspace _

theorem performs_placeTarget :
    Performs front (invocation.placeTarget workspace)
      ((invocation.renamed front).placeTarget (workspace.renamed front)) := by
  simp only [placeTarget, text_renamed]
  exact (invocation.carries_name front _ _).bind fun name =>
    invocation.carries_onSink front
      { workspace with targets := workspace.targets.insertIfNew name "" } (·.placeTarget name)

theorem performs_changeTarget (change : String → String) :
    Performs front (invocation.changeTarget workspace change)
      ((invocation.renamed front).changeTarget (workspace.renamed front) change) := by
  simp only [changeTarget, text_renamed]
  exact (invocation.carries_name front _ _).bind fun name =>
    invocation.carries_stay front
      { workspace with
        targets := workspace.targets.insert name (change (workspace.targets.findD name "")) }

theorem performs_setMarker :
    Performs front (invocation.setMarker workspace)
      ((invocation.renamed front).setMarker (workspace.renamed front)) := by
  simp only [setMarker, text_renamed]
  exact (invocation.carries_name front _ _).bind fun name =>
    invocation.carries_stay front
      { workspace with markers := workspace.markers.insert name workspace.sink.position }

theorem carries_marker (index : Nat) :
    Carries front id (invocation.marker workspace index)
      ((invocation.renamed front).marker (workspace.renamed front) index) := by
  simp only [marker, trimmedText_renamed]
  exact invocation.carries_require_plain front _ _

theorem performs_distance :
    Performs front (invocation.distance workspace)
      ((invocation.renamed front).distance (workspace.renamed front)) :=
  (invocation.carries_marker front workspace 0).bind fun _ =>
    (invocation.carries_marker front workspace 1).bind fun _ =>
      invocation.carries_writeInteger front workspace _

theorem performs_randomNumber :
    Performs front (invocation.randomNumber workspace)
      ((invocation.renamed front).randomNumber (workspace.renamed front)) := by
  simp only [randomNumber, text_renamed]
  refine (invocation.carries_integer front _).bind fun first => ?_
  refine (invocation.carries_integer front _).bind fun second => ?_
  exact invocation.carries_writeInteger front
    { workspace with
      generator := (workspace.generator.between (min first second) (max first second)).2 } _

theorem performs_randomCharacters :
    Performs front (invocation.randomCharacters workspace)
      ((invocation.renamed front).randomCharacters (workspace.renamed front)) := by
  simp only [randomCharacters, text_renamed, length_renamed, Workspace.generator_renamed]
  generalize expandRanges (Text.trimmed (invocation.text 0).toList) = pool
  have drawn (draw : String × Random.Generator) :=
    invocation.carries_write front { workspace with generator := draw.2 } draw.1
  split
  · exact .error _
  · split
    · exact (invocation.carries_count front _ _).bind fun count => drawn _
    · exact drawn _

theorem performs_setFlags (defined : Bool) :
    Performs front (invocation.setFlags workspace defined)
      ((invocation.renamed front).setFlags (workspace.renamed front) defined) := by
  simp only [setFlags, texts_renamed]
  refine (Carries.foldlM_plain (fun flags text => ?_) invocation.texts workspace.flags).bind
    fun flags => invocation.carries_stay front { workspace with flags := flags }
  split
  · exact .ok _
  · exact (invocation.carries_name front _ _).bind fun _ => .ok _

theorem performs_whenFlag (defined : Bool) :
    Performs front (invocation.whenFlag workspace defined)
      ((invocation.renamed front).whenFlag (workspace.renamed front) defined) := by
  simp only [whenFlag, text_renamed]
  exact (invocation.carries_name front _ _).bind fun name =>
    (invocation.carries_code front 1).bind fun body =>
      invocation.carries_runIf_else front workspace
        (workspace.flags.contains name == defined) body _

theorem performs_otherwise :
    Performs front (invocation.otherwise workspace)
      ((invocation.renamed front).otherwise (workspace.renamed front)) :=
  (invocation.carries_code front 0).bind fun body =>
    invocation.carries_runIf_else front workspace invocation.context.elseArmed body false

theorem performs_compareTexts :
    Performs front (invocation.compareTexts workspace)
      ((invocation.renamed front).compareTexts (workspace.renamed front)) := by
  simp only [compareTexts, text_renamed]
  exact (invocation.carries_code front 2).bind fun body =>
    invocation.carries_ask front workspace (.compare _ body)

theorem performs_whenCompared :
    Performs front (invocation.whenCompared workspace)
      ((invocation.renamed front).whenCompared (workspace.renamed front)) := by
  simp only [whenCompared, text_renamed]
  refine (invocation.carries_require_plain front invocation.context.scope.comparison? _).bind
    fun comparison => ?_
  refine (Carries.foldlM_plain (fun holds flag => ?_) _ false).bind fun holds => ?_
  · exact (invocation.carries_require_plain front _ _).bind fun _ => .ok _
  · exact (invocation.carries_code front 1).bind fun body =>
      invocation.carries_runIf front workspace holds body

theorem performs_callHook :
    Performs front (invocation.callHook workspace)
      ((invocation.renamed front).callHook (workspace.renamed front)) := by
  simp only [callHook, trimmedText_renamed, texts_renamed]
  refine (invocation.carries_require_plain front
    (invocation.context.engine.hooks.find? (invocation.trimmedText 0)) _).bind fun hook => ?_
  simp only [id]
  split
  · exact invocation.carries_write front workspace _
  · exact .error _

/-- Every operation does the same in a renamed pattern. -/
theorem performs_perform (operation : TagOperation) :
    Performs front (invocation.perform workspace operation)
      ((invocation.renamed front).perform (workspace.renamed front) operation) := by
  cases operation with
  | setRepetition =>
      exact (invocation.carries_repetition front).bind fun repetition =>
        invocation.carries_attributes front workspace
          { workspace.attributes with repetition := repetition }
  | setSeparator => exact invocation.performs_place front workspace fun _ => rfl
  | setBefore => exact invocation.performs_place front workspace fun _ => rfl
  | setAfter => exact invocation.performs_place front workspace fun _ => rfl
  | setChance =>
      exact (invocation.carries_chance front).bind fun chance =>
        invocation.carries_attributes front workspace
          { workspace.attributes with chance? := some chance }
  | randomNumber => exact invocation.performs_randomNumber front workspace
  | synchronize => exact invocation.performs_synchronize front workspace
  | desynchronize =>
      exact invocation.carries_stay front
        { workspace with synchronizers := workspace.synchronizers.deactivate }
  | control action => exact invocation.performs_controlSynchronizer front workspace action
  | reseed => exact invocation.performs_reseedSynchronizer front workspace
  | whenTurn test => exact invocation.performs_whenTurn front workspace test
  | whenNth => exact invocation.performs_whenNth front workspace
  | turnNumber number => exact invocation.performs_turnNumber front workspace number
  | alternative blankIsEmpty => exact invocation.performs_alternative front workspace blankIsEmpty
  | matchedText => exact invocation.performs_matchedText front workspace
  | capturedGroup => exact invocation.performs_capturedGroup front workspace
  | argument => exact invocation.performs_argument front workspace
  | setNumberFormat => exact invocation.performs_setNumberFormat front workspace
  | setCapitalization => exact invocation.performs_setCapitalization front workspace
  | inferCapitalization => exact invocation.performs_inferCapitalization front workspace
  | openChannel => exact invocation.performs_openChannel front workspace
  | closeChannel => exact invocation.performs_closeChannel front workspace
  | placeTarget => exact invocation.performs_placeTarget front workspace
  | appendTarget =>
      simp only [perform, text_renamed]
      exact invocation.performs_changeTarget front workspace _
  | replaceTarget =>
      simp only [perform, text_renamed]
      exact invocation.performs_changeTarget front workspace _
  | clearTarget => exact invocation.performs_changeTarget front workspace fun _ => ""
  | setMarker => exact invocation.performs_setMarker front workspace
  | distance => exact invocation.performs_distance front workspace
  | textLength =>
      simp only [perform, text_renamed]
      exact invocation.carries_writeInteger front workspace _
  | randomCharacters => exact invocation.performs_randomCharacters front workspace
  | setFlags defined => exact invocation.performs_setFlags front workspace defined
  | whenFlag defined => exact invocation.performs_whenFlag front workspace defined
  | otherwise => exact invocation.performs_otherwise front workspace
  | compareTexts => exact invocation.performs_compareTexts front workspace
  | whenCompared => exact invocation.performs_whenCompared front workspace
  | leaveBlock => exact invocation.performs_leaveBlock front workspace
  | callHook => exact invocation.performs_callHook front workspace
  | ownSource => exact invocation.carries_write front workspace _

end Operations

end Invocation

end SeededText.Machine
