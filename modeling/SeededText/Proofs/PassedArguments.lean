import SeededText.Proofs.ArgumentPlans
import SeededText.Proofs.StepFaults

/-!
Contract: tags and subroutines get the arguments that they take.

Owns: the parameter lists of operations, arguments that fit them, what runs pass on.
Does not own: how arguments come about (`SeededText.Proofs.ArgumentPlans`).
-/

namespace SeededText.Machine

open Pattern

/-! ### Parameters -/

/-- The parameter lists under which an operation is called. -/
def TagOperation.parameterLists : TagOperation → List (List Parameter)
  | .desynchronize | .turnNumber _ | .matchedText | .leaveBlock | .ownSource => [[]]
  | .setSeparator | .setBefore | .setAfter | .whenTurn _ | .otherwise => [[.code]]
  | .alternative _ => [[.code, .code]]
  | .whenNth => [[.value, .code], [.value, .value, .code]]
  | .whenFlag _ | .whenCompared => [[.value, .code]]
  | .compareTexts => [[.value, .value, .code]]
  | .randomCharacters => [[.value], [.value, .value]]
  | .randomNumber | .synchronize | .reseed | .openChannel | .appendTarget | .replaceTarget
  | .distance => [[.value, .value]]
  | .setFlags _ => [[.values]]
  | .callHook => [[.value, .values]]
  | _ => [[.value]]

/-- Arguments as a list of parameters takes them. -/
inductive Passed : List Parameter → List Argument → Prop
  | none : Passed [] []
  | value (text : String) {parameters : List Parameter} {arguments : List Argument}
      (others : Passed parameters arguments) :
      Passed (.value :: parameters) (.value text :: arguments)
  | code (code : Code) {parameters : List Parameter} {arguments : List Argument}
      (others : Passed parameters arguments) :
      Passed (.code :: parameters) (.code code :: arguments)
  | values (texts : List String) : Passed [.values] (texts.map .value)

section Resolving

variable {name : String} {count : Nat} {signature : Signature} {signatures : List Signature}

theorem mem_of_foldl_moreDemanding {best? : Option Signature}
    (found : signatures.foldl moreDemanding best? = some signature) :
    signature ∈ signatures ∨ best? = some signature := by
  induction signatures generalizing best? with
  | nil => exact .inr found
  | cons first signatures inductionHypothesis =>
      rcases inductionHypothesis found with later | chosen
      · exact .inl (List.mem_cons_of_mem _ later)
      · unfold moreDemanding at chosen
        grind

/-- The signature of a call is one of its tag, and takes as many arguments as there are. -/
theorem exists_of_resolveTag (resolved : resolveTag name count = .ok signature) :
    (∃ signatures, signatures? name = some signatures ∧ signature ∈ signatures) ∧
      (signature.fitsExactly count ∨ signature.fitsVariadic count) := by
  unfold resolveTag at resolved
  split at resolved
  · cases resolved
  · next signatures known =>
      split at resolved
      · next found =>
          cases resolved
          have fits : signature.fitsExactly count := by simpa using List.find?_some found
          exact ⟨⟨signatures, known, List.mem_of_find?_eq_some found⟩, .inl fits⟩
      · split at resolved
        · next found =>
            cases resolved
            have chosen := (mem_of_foldl_moreDemanding found).resolve_right nofun
            exact ⟨⟨signatures, known, (List.mem_filter.mp chosen).1⟩,
              .inr (List.mem_filter.mp chosen).2⟩
        · cases resolved

theorem parameters_mem_parameterLists (known : signatures? name = some signatures)
    (member : signature ∈ signatures) :
    signature.parameters ∈ signature.operation.parameterLists := by
  unfold signatures? at known
  dsimp only at known
  split at known
  all_goals cases known
  all_goals
    simp only [List.mem_cons, List.not_mem_nil, or_false] at member
    rcases member with rfl | rfl
    all_goals decide

end Resolving

/-- Any number of values is taken only at the end. -/
theorem values_notMem_dropLast {operation : TagOperation} {parameters : List Parameter}
    (listed : parameters ∈ operation.parameterLists) : .values ∉ parameters.dropLast := by
  cases operation <;>
    simp only [TagOperation.parameterLists, List.mem_cons, List.not_mem_nil, or_false] at listed
  all_goals
    rcases listed with rfl | rfl
    all_goals decide

/-! ### Arguments that fit -/

section Fitting

variable {codes : List Code} {parameters : List Parameter} {arguments : List Argument}

theorem exists_values_of_fits (noCode : .code ∉ parameters)
    (fits : List.Forall₂ Argument.Fits (ArgumentPlan.ofParameters codes parameters) arguments) :
    ∃ texts : List String, arguments = texts.map .value := by
  induction codes generalizing parameters arguments with
  | nil =>
      cases fits
      exact ⟨[], rfl⟩
  | cons code codes inductionHypothesis =>
      have value : parameters.head? ≠ some .code := fun head => noCode (List.mem_of_mem_head? head)
      rw [ArgumentPlan.ofParameters, decide_eq_false value] at fits
      obtain ⟨argument, others, first, behind, rfl⟩ := List.forall₂_cons_left_iff.mp fits
      obtain ⟨texts, rfl⟩ :=
        inductionHypothesis (fun member => noCode (List.mem_of_mem_tail member)) behind
      cases first with
      | verbatim => exact ⟨code.text :: texts, rfl⟩
      | evaluated text => exact ⟨text :: texts, rfl⟩

theorem passed_cons {parameter : Parameter} {code : Code} {argument : Argument}
    (single : parameter ≠ .values)
    (first : argument.Fits ⟨code, decide ((parameter :: parameters).head? = some .code)⟩)
    (others : Passed parameters arguments) :
    Passed (parameter :: parameters) (argument :: arguments) := by
  cases parameter with
  | value => cases first <;> exact .value _ others
  | code =>
      cases first
      exact .code _ others
  | values => exact absurd rfl single

/-- What fits the arguments of a call fits its parameters, if there are as many as these take. -/
theorem passed_of_fits (early : .values ∉ parameters.dropLast)
    (counts : if parameters.getLast? = some .values then parameters.length - 1 ≤ codes.length
      else parameters.length = codes.length)
    (fits : List.Forall₂ Argument.Fits (ArgumentPlan.ofParameters codes parameters) arguments) :
    Passed parameters arguments := by
  induction parameters generalizing codes arguments with
  | nil =>
      obtain rfl : codes = [] := by simpa [eq_comm] using counts
      cases fits
      exact .none
  | cons parameter parameters inductionHypothesis =>
      cases parameters with
      | nil =>
          by_cases all : parameter = .values
          · subst all
            obtain ⟨texts, rfl⟩ := exists_values_of_fits (by decide) fits
            exact .values texts
          · have one : codes.length = 1 := by simpa [all, eq_comm] using counts
            obtain ⟨code, rfl⟩ := List.length_eq_one_iff.mp one
            obtain ⟨argument, others, first, behind, rfl⟩ := List.forall₂_cons_left_iff.mp fits
            cases behind
            exact passed_cons all first .none
      | cons next later =>
          have single : parameter ≠ .values := fun same => early (same ▸ List.mem_cons_self)
          rw [List.getLast?_cons_cons, List.length_cons] at counts
          cases codes with
          | nil => split at counts <;> simp at counts
          | cons code codes =>
              obtain ⟨argument, others, first, behind, rfl⟩ := List.forall₂_cons_left_iff.mp fits
              refine passed_cons single first (inductionHypothesis ?_ ?_ behind)
              · exact fun member => early (List.mem_cons_of_mem _ member)
              · simpa using counts

/-- The arguments of a call that is resolved are those that its operation takes. -/
theorem passed_of_resolveTag {name : String} {signature : Signature}
    (resolved : resolveTag name codes.length = .ok signature)
    (fits : List.Forall₂ Argument.Fits (ArgumentPlan.ofParameters codes signature.parameters)
      arguments) :
    signature.parameters ∈ signature.operation.parameterLists ∧
      Passed signature.parameters arguments := by
  obtain ⟨⟨signatures, known, member⟩, counts⟩ := exists_of_resolveTag resolved
  have listed := parameters_mem_parameterLists known member
  refine ⟨listed, passed_of_fits (values_notMem_dropLast listed) ?_ fits⟩
  simp only [Signature.fitsExactly, Signature.fitsVariadic, Signature.leastArguments,
    Signature.isVariadic] at counts
  by_cases variadic : signature.parameters.getLast? = some .values <;> simpa [variadic] using counts

end Fitting

/-! ### Operations -/

namespace Invocation

variable {operation : TagOperation} {parameters : List Parameter} {arguments : List Argument}

/-- Operations take code where code is passed. -/
theorem code_of_passed (listed : parameters ∈ operation.parameterLists)
    (passed : Passed parameters arguments) :
    ∀ index ∈ operation.codeIndices arguments.length,
      arguments[index]?.bind Argument.code? ≠ none := by
  cases operation <;>
    simp only [TagOperation.parameterLists, List.mem_cons, List.not_mem_nil, or_false] at listed
  all_goals
    rcases listed with rfl | rfl
    all_goals
      repeat cases ‹Passed (_ :: _) _›
      try cases ‹Passed [] _›
      simp [TagOperation.codeIndices, Argument.code?]

/-- Operations read texts where values are passed. -/
theorem perform_withAbsent (context : Context) (position : Position) (workspace : Workspace)
    (absent : String) (listed : parameters ∈ operation.parameterLists)
    (passed : Passed parameters arguments) :
    (withAbsent context position arguments absent).perform workspace operation =
      (mk context position arguments).perform workspace operation := by
  have texts (values : List String) (absent : String) :
      (values.map Argument.value).map (Argument.textOr absent) = values := by
    simp [Argument.textOr, Function.comp_def]
  cases operation <;>
    simp only [TagOperation.parameterLists, List.mem_cons, List.not_mem_nil, or_false] at listed
  all_goals
    rcases listed with rfl | rfl
    all_goals
      repeat cases ‹Passed (_ :: _) _›
      try cases ‹Passed [] _›
      simp only [mk, perform, randomNumber, synchronize, controlSynchronizer, reseedSynchronizer,
        whenTurn, whenNth, alternative, matchedText, capturedGroup, argument, setNumberFormat,
        setCapitalization, inferCapitalization, openChannel, closeChannel, placeTarget,
        changeTarget, setMarker, distance, randomCharacters, setFlags, whenFlag, otherwise,
        compareTexts, whenCompared, leaveBlock, callHook, repetition, chance, trimmedText, text,
        Invocation.texts, Argument.textOr, marker, name, count, integer, repeater, require, refuse,
        code, runIf, write, writeInteger, onSink, stay, ask, List.length_cons, List.length_nil,
        List.getElem?_cons_zero, List.getElem?_cons_succ, Option.map_some, Option.getD_some,
        List.map_cons, texts, List.tail_cons, Nat.reduceAdd, Nat.reduceEqDiff, reduceIte] <;> rfl

end Invocation

/-! ### Runs -/

/-- The activation on top has all arguments of a tag, which it carries out next. -/
inductive Configuration.Performs : Configuration → Pattern → TagCall → List Argument → Prop
  | intro {store settled : Store} {top : Activation} {beneath : List Activation} {call : TagCall}
      {tasks : List Task} {arguments : List Argument} (first : top.tasks = .callTag call :: tasks)
      (passed : store.settlePlan call.plan = (settled, arguments, none)) :
      Performs ⟨store, top :: beneath⟩ top.pattern call arguments

/-- The activation on top has all arguments of a subroutine, whose body it enters next. -/
inductive Configuration.EntersBody :
    Configuration → Pattern → SubroutineCall → List Argument → Prop
  | intro {store settled : Store} {top : Activation} {beneath : List Activation}
      {call : SubroutineCall} {tasks : List Task} {arguments : List Argument}
      (first : top.tasks = .callSubroutine call :: tasks)
      (passed : store.settlePlan call.plan = (settled, arguments, none)) :
      EntersBody ⟨store, top :: beneath⟩ top.pattern call arguments

def Task.plan? : Task → Option ArgumentPlan
  | .callTag call => some call.plan
  | .callSubroutine call => some call.plan
  | _ => none

def Task.operation? : Task → Option TagOperation
  | .callTag call => some call.operation
  | _ => none

def Task.subroutine? : Task → Option Subroutine
  | .callSubroutine call => some call.subroutine
  | _ => none

namespace Configuration

/-- The task that the activation on top goes on with, if it is a call that has all its
arguments. -/
def passed? (configuration : Configuration) : Option (Activation × Task × List Argument) := do
  let top ← configuration.stack.head?
  let task ← top.tasks.head?
  let plan ← task.plan?
  match (configuration.store.settlePlan plan).2 with
  | (arguments, none) => some (top, task, arguments)
  | (_, some _) => none

theorem exists_of_passed? {configuration : Configuration} {top : Activation} {task : Task}
    {arguments : List Argument} (found : configuration.passed? = some (top, task, arguments)) :
    ∃ store beneath tasks plan settled, configuration = ⟨store, top :: beneath⟩ ∧
      top.tasks = task :: tasks ∧ task.plan? = some plan ∧
        store.settlePlan plan = (settled, arguments, none) := by
  obtain ⟨store, stack⟩ := configuration
  simp only [passed?, Option.bind_eq_bind, Option.bind_eq_some_iff] at found
  obtain ⟨first, head, next, tasks, plan, planned, found⟩ := found
  split at found
  · next arguments settled =>
      cases found
      obtain ⟨beneath, rfl⟩ := List.head?_eq_some_iff.mp head
      obtain ⟨later, waiting⟩ := List.head?_eq_some_iff.mp tasks
      exact ⟨store, beneath, later, plan, _, rfl, waiting, planned, Prod.ext rfl settled⟩
  · cases found

theorem performs_of_passed? {configuration : Configuration} {top : Activation} {call : TagCall}
    {arguments : List Argument}
    (found : configuration.passed? = some (top, .callTag call, arguments)) :
    configuration.Performs top.pattern call arguments := by
  obtain ⟨store, beneath, tasks, plan, settled, rfl, first, planned, passed⟩ :=
    exists_of_passed? found
  cases planned
  exact ⟨first, passed⟩

theorem entersBody_of_passed? {configuration : Configuration} {top : Activation}
    {call : SubroutineCall} {arguments : List Argument}
    (found : configuration.passed? = some (top, .callSubroutine call, arguments)) :
    configuration.EntersBody top.pattern call arguments := by
  obtain ⟨store, beneath, tasks, plan, settled, rfl, first, planned, passed⟩ :=
    exists_of_passed? found
  cases planned
  exact ⟨first, passed⟩

end Configuration

/-- A call of a tag with one argument for each that is written, in order: code exactly where the
signature takes code. Then nothing is read in place of an argument that is code or not there. -/
structure TagCall.IsPassed (pattern : Pattern) (call : TagCall) (arguments : List Argument)
    (codes : List Code) (signature : Signature) : Prop where
  written : IsTagCall pattern call.position codes signature
  operation : call.operation = signature.operation
  fits : List.Forall₂ Argument.Fits (ArgumentPlan.ofParameters codes signature.parameters) arguments
  kinds : ∀ index : Nat, arguments[index]?.map Argument.isCode =
    codes[index]?.map fun _ => decide (signature.parameters[index]? = some Parameter.code)
  reads : ∀ (context : Context) (workspace : Workspace) (absent : String),
    (Invocation.withAbsent context call.position arguments absent).perform workspace
        call.operation =
      (Invocation.mk context call.position arguments).perform workspace call.operation

/-- A call of a subroutine with one argument for each parameter. The name of each parameter is bound
to the argument of the last parameter of that name, which is code exactly if that parameter takes
code. -/
structure SubroutineCall.IsPassed (pattern : Pattern) (call : SubroutineCall)
    (arguments : List Argument) (codes : List Code) : Prop where
  written : IsSubroutineCall pattern call.position codes call.subroutine
  fits : List.Forall₂ Argument.Fits (call.subroutine.plan codes) arguments
  bound : ∀ parameter ∈ call.subroutine.parameters, ∃ before last behind argument,
    call.subroutine.parameters = before ++ last :: behind ∧ last.name = parameter.name ∧
      (∀ later ∈ behind, later.name ≠ parameter.name) ∧
        arguments[before.length]? = some argument ∧ argument.isCode = last.isCode ∧
          (call.subroutine.bind arguments).find? parameter.name = some argument

/-- What holds of the calls under way, of those that are carried out next, and of the next fault. -/
structure Configuration.PassesArguments (engine : Engine) (configuration : Configuration) :
    Prop where
  tagPlans : ∀ activation ∈ configuration.stack, ∀ call, .callTag call ∈ activation.tasks →
    ∃ codes signature, IsTagCall activation.pattern call.position codes signature ∧
      call.operation = signature.operation ∧
        call.plan.CarriesOut (ArgumentPlan.ofParameters codes signature.parameters) ∧
          call.plan.done.length + call.plan.isAwaiting.toNat + call.plan.waiting.length =
            codes.length
  subroutinePlans : ∀ activation ∈ configuration.stack, ∀ call,
    .callSubroutine call ∈ activation.tasks →
      ∃ codes, IsSubroutineCall activation.pattern call.position codes call.subroutine ∧
        call.plan.CarriesOut (call.subroutine.plan codes) ∧
          call.plan.done.length + call.plan.isAwaiting.toNat + call.plan.waiting.length =
            codes.length
  tags : ∀ pattern call arguments, configuration.Performs pattern call arguments →
    ∃ codes signature, call.IsPassed pattern arguments codes signature
  subroutines : ∀ pattern call arguments, configuration.EntersBody pattern call arguments →
    ∃ codes, call.IsPassed pattern arguments codes
  faults : ∀ fault, configuration.Ends engine (some fault) → fault.cause ≠ .misused .expectedCode

theorem exists_last_of_name {parameters : List SubroutineParameter}
    {parameter : SubroutineParameter} (member : parameter ∈ parameters) :
    ∃ before last behind, parameters = before ++ last :: behind ∧ last.name = parameter.name ∧
      ∀ later ∈ behind, later.name ≠ parameter.name := by
  induction parameters generalizing parameter with
  | nil => cases member
  | cons first parameters inductionHypothesis =>
      by_cases later : ∃ other ∈ parameters, other.name = parameter.name
      · obtain ⟨other, inside, same⟩ := later
        obtain ⟨before, last, behind, rfl, named, behindOther⟩ := inductionHypothesis inside
        rw [same] at named behindOther
        exact ⟨first :: before, last, behind, rfl, named, behindOther⟩
      · refine ⟨[], first, parameters, rfl, ?_, fun other inside same =>
          later ⟨other, inside, same⟩⟩
        rcases List.mem_cons.mp member with rfl | inside
        · rfl
        · exact absurd ⟨parameter, inside, rfl⟩ later

section Calls

variable {pattern : Pattern} {store settled : Store} {arguments : List Argument}

theorem TagCall.exists_isPassed {call : TagCall}
    (standsIn : (Task.callTag call).StandsIn pattern)
    (passed : store.settlePlan call.plan = (settled, arguments, none)) :
    ∃ codes signature, call.IsPassed pattern arguments codes signature := by
  obtain ⟨codes, signature, written, operation, carries⟩ := standsIn
  have settles := carries.settlePlan store
  rw [passed] at settles
  obtain ⟨fits⟩ := settles
  obtain ⟨name, -, resolved⟩ := id written
  obtain ⟨listed, takes⟩ := passed_of_resolveTag resolved fits
  refine ⟨codes, signature, written, operation, fits, fun index => ?_,
    fun context workspace absent => ?_⟩
  · rw [Argument.isCode_of_fits fits, ArgumentPlan.getElem?_ofParameters, Option.map_map]
    rfl
  · rw [operation]
    exact Invocation.perform_withAbsent context call.position workspace absent listed takes

theorem SubroutineCall.exists_isPassed {call : SubroutineCall}
    (standsIn : (Task.callSubroutine call).StandsIn pattern)
    (passed : store.settlePlan call.plan = (settled, arguments, none)) :
    ∃ codes, call.IsPassed pattern arguments codes := by
  obtain ⟨codes, written, carries⟩ := standsIn
  have settles := carries.settlePlan store
  rw [passed] at settles
  obtain ⟨fits⟩ := settles
  refine ⟨codes, written, fits, fun parameter member => ?_⟩
  obtain ⟨before, last, behind, parts, named, others⟩ := exists_last_of_name member
  have inside : before.length < arguments.length := by
    rw [← fits.length_eq, Subroutine.length_plan written.parameters, ← written.parameters, parts]
    simp
  have argument := List.getElem?_eq_getElem inside
  have kind := Argument.isCode_of_fits fits before.length
  refine ⟨before, last, behind, _, parts, named, others, argument, ?_, ?_⟩
  · rw [argument, Subroutine.isDeferred_plan parts written.parameters] at kind
    exact Option.some.inj kind
  · rw [← named] at others ⊢
    exact Subroutine.find?_bind parts others argument

variable {bare engine : Engine} {prelude : List PreludePattern} {seed : UInt64}
  {configuration : Configuration}

/-- Throughout a run, calls pass on the arguments that are written, as tags and subroutines take
them, and code that a tag takes is never missed. -/
theorem Configuration.Reachable.passesArguments (plain : bare.subroutines = .empty)
    (made : bare.withPrelude prelude = .ok engine)
    (reachable : Reachable engine pattern seed configuration) :
    configuration.PassesArguments engine := by
  have keyed : engine.subroutines.Keyed :=
    subroutines_withPrelude Subroutines.kept_keyed (plain ▸ Subroutines.keyed_empty) made
  have standsIn := Reachable.tasks Task.inherited_standsIn Subroutines.kept_keyed keyed reachable
  constructor
  case tagPlans =>
    intro activation member call task
    obtain ⟨codes, signature, written, operation, plan⟩ := standsIn activation member _ task
    refine ⟨codes, signature, written, operation, plan, ?_⟩
    rw [plan.length, ArgumentPlan.length_ofParameters]
  case subroutinePlans =>
    intro activation member call task
    obtain ⟨codes, written, plan⟩ := standsIn activation member _ task
    refine ⟨codes, written, plan, ?_⟩
    rw [plan.length, Subroutine.length_plan written.parameters]
  case tags =>
    rintro _ call arguments ⟨first, passed⟩
    exact TagCall.exists_isPassed (standsIn _ List.mem_cons_self _ (by simp [first])) passed
  case subroutines =>
    rintro _ call arguments ⟨first, passed⟩
    exact SubroutineCall.exists_isPassed (standsIn _ List.mem_cons_self _ (by simp [first])) passed
  case faults =>
    rintro fault (_ | @⟨store, top, beneath, _, failed⟩)
    cases failsWith_of_step failed with
    | resume task tasks first failed =>
        have standsIn := standsIn top List.mem_cons_self task (by simp [first])
        cases failed with
        | @callTag call settled arguments _ passed failed =>
            intro missed
            obtain ⟨codes, signature, passes⟩ := TagCall.exists_isPassed standsIn passed
            obtain ⟨name, -, resolved⟩ := passes.written
            obtain ⟨listed, takes⟩ := passed_of_resolveTag resolved passes.fits
            have fails := Invocation.fails_perform _ _ _ fault failed
            obtain ⟨index, taken, absent⟩ := fails.cause missed
            rw [passes.operation] at taken
            exact Invocation.code_of_passed listed takes index taken absent
        | runGenerated broken | defineGenerated broken =>
            obtain ⟨located, -, rfl⟩ := exists_of_compile broken
            nofun
        | settleArithmetic => nofun
    | stop token next failed =>
        exact (Context.fails_constructStop (Code.read_of_tokenAt? next).2 fault failed).cause
    | read token stop next failed =>
        exact (Context.fails_readConstruct (Code.read_of_tokenAt? next).2 fault failed).cause
    | overflow progress activation makes blamed same =>
        subst same
        nofun

end Calls

/-! ### A comparison -/

namespace Comparing

open SeededText.Machine.Configuration

/-- Its first argument has to be run, its second does not, and its third is passed on. -/
def pattern : Pattern :=
  (Pattern.compile "comparison" "[cmp:[len:abc];3;y]").toOption.getD default

/-- After five steps the comparison has all its arguments. -/
theorem exists_performs : ∃ (configuration : Configuration) (call : TagCall)
    (arguments : List Argument), Reachable .standard pattern 0 configuration ∧
      configuration.Performs pattern call arguments ∧ call.operation = .compareTexts ∧
        arguments.map Argument.isCode = [false, false, true] := by
  have observed : ((after .standard 5 (start .standard pattern 0)).bind passed?).map
      (fun (top, task, arguments) =>
        (top.pattern, task.operation?, arguments.map Argument.isCode)) =
      some (pattern, some .compareTexts, [false, false, true]) := by decide +kernel
  obtain ⟨⟨top, task, arguments⟩, found, seen⟩ := Option.map_eq_some_iff.mp observed
  obtain ⟨configuration, steps, passed⟩ := Option.bind_eq_some_iff.mp found
  simp only [Prod.mk.injEq] at seen
  obtain ⟨own, operation, kinds⟩ := seen
  cases task with
  | callTag call =>
      refine ⟨configuration, call, arguments, reaches_of_after steps, ?_,
        Option.some.inj operation, kinds⟩
      exact own ▸ performs_of_passed? passed
  | _ => cases operation

theorem passesArguments_comparison : ∃ (configuration : Configuration) (call : TagCall)
    (arguments : List Argument), configuration.Performs pattern call arguments ∧
      call.operation = .compareTexts ∧ arguments.map Argument.isCode = [false, false, true] ∧
        configuration.PassesArguments .standard := by
  obtain ⟨configuration, call, arguments, reachable, performs, operation, kinds⟩ := exists_performs
  have made : Engine.standard.withPrelude [] = .ok .standard := rfl
  exact ⟨configuration, call, arguments, performs, operation, kinds,
    Reachable.passesArguments rfl made reachable⟩

end Comparing

/-! ### Two parameters of one name -/

namespace SharedName

open SeededText.Machine.Configuration

/-- The subroutine takes code and a value under one name. -/
def pattern : Pattern :=
  (Pattern.compile "shared name" "[$[f:@a;a]:[arg:a]][$f:x;y]").toOption.getD default

/-- When the body is entered, the parameter that takes code is bound to a value. -/
theorem bound_to_value : ∃ (configuration : Configuration) (call : SubroutineCall)
    (arguments : List Argument), Reachable .standard pattern 0 configuration ∧
      configuration.EntersBody pattern call arguments ∧
        ¬ ∀ parameter ∈ call.subroutine.parameters, ∃ argument,
          (call.subroutine.bind arguments).find? parameter.name = some argument ∧
            argument.isCode = parameter.isCode := by
  have observed : ((after .standard 2 (start .standard pattern 0)).bind passed?).map
      (fun (top, task, arguments) =>
        (top.pattern, task.subroutine?.map fun subroutine =>
          (subroutine.parameters, (subroutine.bind arguments).find? "a"))) =
      some (pattern, some ([⟨"a", true⟩, ⟨"a", false⟩], some (.value "y"))) := by decide +kernel
  obtain ⟨⟨top, task, arguments⟩, found, seen⟩ := Option.map_eq_some_iff.mp observed
  obtain ⟨configuration, steps, passed⟩ := Option.bind_eq_some_iff.mp found
  simp only [Prod.mk.injEq] at seen
  obtain ⟨own, seen⟩ := seen
  cases task with
  | callSubroutine call =>
      obtain ⟨parameters, bound⟩ := Prod.mk.inj (Option.some.inj seen)
      refine ⟨configuration, call, arguments, reaches_of_after steps,
        own ▸ entersBody_of_passed? passed, fun all => ?_⟩
      obtain ⟨argument, same, kind⟩ := all ⟨"a", true⟩ (by simp [parameters])
      rw [bound] at same
      cases same
      cases kind
  | _ => cases seen

end SharedName

end SeededText.Machine
