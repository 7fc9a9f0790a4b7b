import SeededText.Proofs.Realization
import SeededText.Proofs.Requests

/-!
Contract: how the steps of a run carry out tags, calls, texts and replacers.

Each construct is a task of its activation, or several in turn, with code entered between them. What
the tasks hold between two pieces of code is what the evaluation of the construct passes on.

Owns: what tags ask for, arguments, calls, texts that are made by code, replacers.
Does not own: blocks (`SeededText.Proofs.Blocks`), entering and leaving code
(`SeededText.Proofs.Realization`).
-/

namespace SeededText.Machine

open Output SeededText.Machine.Configuration

/-- The activation with nothing to be done before it reads on. -/
def Activation.idle (activation : Activation) (elseArmed : Bool) : Activation :=
  { activation with tasks := [], elseArmed := elseArmed }

/-- The activation with a task. -/
def Activation.busy (activation : Activation) (task : Task) : Activation :=
  { activation with tasks := [task] }

theorem Seat.idle {engine : Engine} {store : Store} {top : Activation} {beneath : List Activation}
    (seat : Seat engine store top beneath) (elseArmed : Bool) :
    Seat engine store (top.idle elseArmed) beneath :=
  seat.renew ⟨rfl, rfl, rfl, rfl⟩

theorem Seat.busy {engine : Engine} {store : Store} {top : Activation} {beneath : List Activation}
    (seat : Seat engine store top beneath) (task : Task) :
    Seat engine store (top.busy task) beneath :=
  seat.renew ⟨rfl, rfl, rfl, rfl⟩

section Constructs

variable {engine : Engine} {evaluate : Evaluator} {store held : Store} {top : Activation}
  {beneath : List Activation} {configuration : Configuration} {progress : Progress}
  {elseArmed : Bool} {task : Task} {fault : Fault} {workspace : Workspace}

/-- What has been written so far belongs to the frame. -/
theorem Frame.within_absorb (beneath : List Activation) (store : Store) (sink : Nat)
    (workspace : Workspace) :
    Within id ⟨beneath, store.absorb sink workspace, sink⟩ ⟨beneath, store, sink⟩ where
  stack := List.suffix_refl _
  memory _ := rfl
  sinks later index _ :=
    congrArg (fun store : Store => store.sinks[index]?) (store.absorb_absorb sink workspace later)

/-- A store in which nothing was changed shows the workspace that it gives. -/
theorem Frame.shows_workspace (beneath : List Activation) (sink : Nat)
    (memory : held.toMemory = store.toMemory) (sinks : held.sinks = store.sinks) :
    Shows ⟨beneath, store, sink⟩ (store.workspace sink) held where
  memory := memory
  sinks index _ := by rw [store.absorb_workspace, sinks]

/-- An evaluation behind what has been written so far. -/
theorem Realizes.behind {α : Type} {finish : α → Workspace → Configuration → Prop}
    {evaluation : Evaluation α} {stack : List Activation} {sink : Nat}
    (realizes : Realizes engine ⟨stack, store.absorb sink workspace, sink⟩ finish configuration
      (evaluation ((store.absorb sink workspace).workspace sink)))
    (inside : sink < store.sinks.size) :
    Realizes engine ⟨stack, store, sink⟩ finish configuration (evaluation workspace) := by
  rw [Store.workspace_absorb inside] at realizes
  exact realizes.of_within (Frame.within_absorb stack store sink workspace)
    ⟨rfl, rfl, List.suffix_refl _, List.suffix_refl _, List.suffix_refl _, List.suffix_refl _⟩

/-- A task that fails ends the run. -/
theorem Realizes.of_resume_error {α : Type} {frame : Frame}
    {finish : α → Workspace → Configuration → Prop} (tasks : top.tasks = [task])
    (resumed : (top.context engine held).resume held top.sink task = .error fault)
    (shows : frame.Shows workspace held) :
    Realizes engine frame finish ⟨held, top :: beneath⟩
      (some (workspace, .error (.failed fault))) := by
  refine .fails .refl (.failed ?_) shows
  rw [step_of_task tasks, resumed]
  rfl

/-! ### What tags ask for -/

/-- Code in whose scope something is added, which is dropped at its end. -/
theorem Sound.dropping (sound : Sound engine (beneath.length + 1) evaluate)
    (seat : Seat engine progress.store top beneath)
    (proceeds : Proceeds engine configuration top beneath progress)
    {code : Code} {completion : Completion}
    (move : progress.move = .enter [⟨code, false, some completion⟩])
    (noTask : progress.task? = none)
    (drops : ∀ (context : Context) (workspace : Workspace),
      context.complete (progress.store.absorb top.sink workspace) top.sink completion =
        context.stay (store.absorb top.sink workspace))
    (keeps : store.Keeps progress.store) (sinks : progress.store.sinks = store.sinks) :
    Realizes engine ⟨beneath, store, top.sink⟩
      (fun _ workspace reached =>
        reached = ⟨store.absorb top.sink workspace, top.idle progress.elseArmed :: beneath⟩)
      configuration
      (evaluate progress.store.scope code (progress.store.workspace top.sink)) := by
  have within : Frame.Within id ⟨beneath, progress.store, top.sink⟩ ⟨beneath, store, top.sink⟩ := by
    refine ⟨List.suffix_refl _, fun _ => rfl, fun workspace index _ => ?_⟩
    simp only [Store.absorb, sinks, id]
  refine ((sound.shared seat proceeds move rfl).of_within within keeps).further ?_
  rintro ⟨⟩ workspace reached ⟨later, rfl, ended, continues⟩
  have idle : (progress.renew top).tasks = [] := by
    simp [Progress.renew, noTask]
  have left := proceeds_leave engine (progress.store.absorb top.sink workspace) beneath ended
    continues.completion? idle
  rw [release_of_shared continues.ownsSink] at left
  exact ⟨_, (left.of_eq (drops _ workspace)).stays rfl, rfl⟩

theorem Sound.grant (sound : Sound engine (beneath.length + 1) evaluate)
    (seat : Seat engine store top beneath) {request : Request}
    (inBlock : request = .leaveBlock → store.repeaters ≠ [])
    (proceeds : Proceeds engine configuration top beneath
      ⟨(store.grant request).1, (store.grant request).2, elseArmed, none⟩) :
    Realizes engine ⟨beneath, store, top.sink⟩
      (fun _ workspace reached =>
        reached = ⟨store.absorb top.sink workspace, top.idle elseArmed :: beneath⟩)
      configuration
      (evaluate.request store.scope request (store.workspace top.sink)) := by
  cases request with
  | nothing =>
      refine .finishes (proceeds.stays rfl) ?_
      rw [store.absorb_workspace]
      rfl
  | run code => exact sound.run seat proceeds rfl
  | attempt trial fallback blankIsEmpty =>
      refine (sound.apart seat proceeds rfl rfl).bind ?_
      rintro sink workspace reached ⟨later, rfl, ended, continues⟩
      have idle : (top.idle elseArmed).tasks = [] := rfl
      have left := proceeds_leave engine ((store.absorb top.sink workspace).addSink sink) beneath
        ended continues.completion? idle
      rw [release_addSink continues.ownsSink] at left
      have text : ((store.absorb top.sink workspace).addResult sink).resultText =
          workspace.textOf sink := rfl
      rw [Evaluation.bind_of_ok rfl]
      split
      · next nothing =>
          have enters : Proceeds engine _ (top.idle elseArmed) beneath
              ⟨store.absorb top.sink workspace, .enter [.shared fallback], elseArmed, none⟩ :=
            left.of_eq (if_pos (text ▸ nothing))
          have run := sound.run ((seat.absorb top.sink workspace).idle elseArmed) enters rfl
          simp only [Activation.idle, Store.absorb_absorb] at run
          exact run.behind seat.inside
      · next something =>
          have stays := left.of_eq (if_neg (text ▸ something))
          refine .finishes (stays.stays rfl) ?_
          show Configuration.mk ((store.absorb top.sink workspace).absorb top.sink
            (((store.absorb top.sink workspace).workspace top.sink).onSink sink.mergeInto)) _ = _
          rw [Store.workspace_absorb seat.inside, Store.absorb_absorb]
          rfl
  | compare comparison body =>
      refine sound.dropping (seat.of_sinks rfl) proceeds rfl rfl ?_ ?_ rfl
      · exact fun _ _ => rfl
      · exact ⟨rfl, rfl, List.suffix_cons _ _, List.suffix_refl _, List.suffix_refl _,
          List.suffix_refl _⟩
  | leaveBlock =>
      have reaches : Reaches engine configuration
          (leaveBlock ⟨store, [top.idle elseArmed] ++ beneath⟩) := proceeds.leavesBlock rfl
      exact .leaves reaches (inBlock rfl) seat.size (.refl store)
        (Frame.shows_workspace beneath top.sink rfl rfl)

/-! ### Arguments -/

/-- The task of an activation holds a plan, which settles to the given arguments and store. -/
def Configuration.Settles (configuration : Configuration) (top : Activation)
    (beneath : List Activation) (task : ArgumentPlan → Task) (store : Store)
    (settled : List Argument × Option (Code × List PlannedArgument)) : Prop :=
  ∃ held plan, configuration = ⟨held, top.busy (task plan) :: beneath⟩ ∧
    held.settlePlan plan = (store, settled)

/-- A task that gathers the arguments of a plan one after the other. -/
def GathersArguments (task : ArgumentPlan → Task) : Prop :=
  ∀ (context : Context) (held : Store) (sink : Nat) (plan : ArgumentPlan) (store : Store)
    (done : List Argument) (code : Code) (waiting : List PlannedArgument),
    held.settlePlan plan = (store, done, some (code, waiting)) →
    context.resume held sink (task plan) =
      .ok (context.gather store code (task ⟨waiting, done, true⟩))

/-- The arguments of a call, behind those that are done. -/
theorem Sound.arguments (sound : Sound engine (beneath.length + 1) evaluate)
    {task : ArgumentPlan → Task} (gathers : GathersArguments task)
    (planned : List PlannedArgument) (done : List Argument)
    (seat : Seat engine store top beneath)
    (settles : configuration.Settles top beneath task store (ArgumentPlan.settle done planned)) :
    Realizes engine ⟨beneath, store, top.sink⟩
      (fun arguments workspace reached =>
        reached.Settles top beneath task (store.absorb top.sink workspace)
          (done ++ arguments, none))
      configuration
      (evaluate.arguments store.scope planned (store.workspace top.sink)) := by
  induction planned generalizing configuration store done with
  | nil =>
      refine .finishes .refl ?_
      rw [store.absorb_workspace, List.append_nil]
      exact settles
  | cons planned waiting inductionHypothesis =>
      -- However the first argument is done, the same task holds the rest of the plan.
      have rest (first : Argument) {store : Store} {configuration : Configuration}
          (seat : Seat engine store top beneath)
          (settles : configuration.Settles top beneath task store
            (ArgumentPlan.settle (done ++ [first]) waiting)) :
          Realizes engine ⟨beneath, store, top.sink⟩
            (fun arguments workspace reached =>
              reached.Settles top beneath task (store.absorb top.sink workspace)
                (done ++ arguments, none))
            configuration
            ((do return first :: (← evaluate.arguments store.scope waiting) :
              Evaluation (List Argument)) (store.workspace top.sink)) := by
        refine (inductionHypothesis (done ++ [first]) seat settles).bind ?_
        intro arguments workspace reached settles
        refine .finishes .refl ?_
        rw [List.append_assoc] at settles
        exact settles
      rw [Evaluator.arguments, Evaluator.argument]
      rw [ArgumentPlan.settle] at settles
      by_cases deferred : planned.isDeferred
      · rw [if_pos deferred] at settles ⊢
        exact rest (.code planned.code) seat settles
      · rw [if_neg deferred] at settles ⊢
        by_cases verbatim : planned.code.isVerbatim
        · rw [if_pos verbatim] at settles
          have text := sound.verbatim seat.height store.scope (store.workspace top.sink) verbatim
          rw [Evaluation.bind_of_ok (Evaluation.bind_of_ok text)]
          exact rest (.value planned.code.text) seat settles
        · rw [if_neg verbatim] at settles
          obtain ⟨held, plan, rfl, settled⟩ := settles
          have proceeds : Proceeds engine ⟨held, top.busy (task plan) :: beneath⟩ top beneath
              ⟨store, .enter [.apart planned.code], top.elseArmed,
                some (task ⟨waiting, done, true⟩)⟩ :=
            .of_resume rfl (gathers _ _ _ _ _ _ _ _ settled)
          rw [Evaluation.bind_assoc]
          refine (sound.gather seat proceeds rfl).bind ?_
          rintro _ workspace reached ⟨result, rfl, rfl⟩
          have settles : Settles ⟨(store.absorb top.sink workspace).addResult result,
              top.busy (task ⟨waiting, done, true⟩) :: beneath⟩ top beneath task
              (store.absorb top.sink workspace)
              (ArgumentPlan.settle (done ++ [.value (workspace.textOf result)]) waiting) :=
            ⟨_, _, rfl, rfl⟩
          have others := rest _ (seat.absorb top.sink workspace) settles
          simp only [Store.absorb_absorb] at others
          exact others.behind seat.inside

/-! ### Calls -/

theorem gathersArguments_callTag (operation : TagOperation) (position : Pattern.Position) :
    GathersArguments fun plan => .callTag ⟨operation, position, plan⟩ := by
  intro context held sink plan store done code waiting settled
  simp only [Context.resume, Context.resumeTag, settled]

theorem gathersArguments_callSubroutine (subroutine : Subroutine) (position : Pattern.Position) :
    GathersArguments fun plan => .callSubroutine ⟨subroutine, position, plan⟩ := by
  intro context held sink plan store done code waiting settled
  simp only [Context.resume, Context.resumeSubroutine, settled]

/-- Settling a plan takes a result at most. -/
theorem Store.settlePlan_fst (store : Store) (plan : ArgumentPlan) :
    (store.settlePlan plan).1.toMemory = store.toMemory ∧
      (store.settlePlan plan).1.sinks = store.sinks ∧
      (store.settlePlan plan).1.scope = store.scope := by
  rw [store.settlePlan_eq plan]
  exact ⟨rfl, rfl, rfl⟩

/-- A construct leaves a task. -/
theorem Configuration.Proceeds.settles (task : ArgumentPlan → Task)
    {planned : List PlannedArgument}
    (proceeds : Proceeds engine configuration top beneath
      ⟨store, .enter [], top.elseArmed, some (task (.start planned))⟩) :
    ∃ reached, Reaches engine configuration reached ∧
      reached.Settles top beneath task store (ArgumentPlan.settle [] planned) :=
  ⟨_, proceeds.stays rfl, store, .start planned, rfl, rfl⟩

/-- An activation has done its construct and may read on. -/
def Resumes (store : Store) (top : Activation) (beneath : List Activation) (elseArmed : Bool)
    (workspace : Workspace) (reached : Configuration) : Prop :=
  reached = ⟨store.absorb top.sink workspace, top.idle elseArmed :: beneath⟩

theorem Sound.tag (sound : Sound engine (beneath.length + 1) evaluate)
    (seat : Seat engine store top beneath) {operation : TagOperation}
    {position : Pattern.Position} {planned : List PlannedArgument}
    (proceeds : Proceeds engine configuration top beneath
      ⟨store, .enter [], top.elseArmed, some (.callTag ⟨operation, position, .start planned⟩)⟩) :
    Realizes engine ⟨beneath, store, top.sink⟩ (Resumes store top beneath) configuration
      (evaluate.construct (top.context engine store) (.tag operation position planned)
        (store.workspace top.sink)) := by
  obtain ⟨start, reaches, settles⟩ :=
    proceeds.settles fun plan => .callTag ⟨operation, position, plan⟩
  refine .of_reaches reaches ?_
  refine (sound.arguments (gathersArguments_callTag operation position) planned [] seat
    settles).bind ?_
  rintro arguments workspace reached ⟨held, plan, rfl, settled⟩
  obtain ⟨memory, sinks, scope⟩ := held.settlePlan_fst plan
  rw [settled] at memory sinks scope
  have context : (top.busy (.callTag ⟨operation, position, plan⟩)).context engine held =
      top.context engine store := by
    simp only [Activation.context, ← scope]
    rfl
  have known := Store.workspace_absorb seat.inside workspace
  have resumed : ((top.busy (.callTag ⟨operation, position, plan⟩)).context engine held).resume held
      top.sink (.callTag ⟨operation, position, plan⟩) =
      ((Invocation.mk (top.context engine store) position arguments).perform workspace
        operation).map ((store.absorb top.sink workspace).follow top.sink) := by
    simp only [Context.resume, Context.resumeTag, settled, context, known, List.nil_append]
  cases performed : (Invocation.mk (top.context engine store) position arguments).perform workspace
      operation with
  | error fault =>
      rw [performed] at resumed
      have shows : Frame.Shows ⟨beneath, store, top.sink⟩ workspace held :=
        ⟨memory.symm, fun index _ => by rw [← sinks]⟩
      rw [Evaluation.bind_of_error (Evaluation.act_of_error (by rw [performed]; rfl))]
      exact .of_resume_error rfl resumed shows
  | ok outcome =>
      rw [performed] at resumed
      have proceeds : Proceeds engine
          ⟨held, top.busy (.callTag ⟨operation, position, plan⟩) :: beneath⟩ top beneath
          ((store.absorb top.sink workspace).follow top.sink outcome) := .of_resume rfl resumed
      simp only [Store.follow, Store.absorb_absorb] at proceeds
      have inBlock (leaves : outcome.request = .leaveBlock) :
          (store.absorb top.sink outcome.workspace).repeaters ≠ [] := by
        have some := Invocation.inBlock_of_leaveBlock _ _ performed leaves
        intro none
        exact some (congrArg List.head? none)
      have granted := sound.grant (seat.absorb top.sink outcome.workspace) inBlock proceeds
      simp only [Store.absorb_absorb] at granted
      rw [Evaluation.bind_of_ok (Evaluation.act_of_ok (by rw [performed]; rfl))]
      exact (granted.behind seat.inside).returns

theorem Sound.call (sound : Sound engine (beneath.length + 1) evaluate)
    (seat : Seat engine store top beneath) {subroutine : Subroutine}
    {position : Pattern.Position} {planned : List PlannedArgument}
    (proceeds : Proceeds engine configuration top beneath
      ⟨store, .enter [], top.elseArmed,
        some (.callSubroutine ⟨subroutine, position, .start planned⟩)⟩) :
    Realizes engine ⟨beneath, store, top.sink⟩ (Resumes store top beneath) configuration
      (evaluate.construct (top.context engine store) (.call subroutine position planned)
        (store.workspace top.sink)) := by
  obtain ⟨start, reaches, settles⟩ :=
    proceeds.settles fun plan => .callSubroutine ⟨subroutine, position, plan⟩
  refine .of_reaches reaches ?_
  refine (sound.arguments (gathersArguments_callSubroutine subroutine position) planned [] seat
    settles).bind ?_
  rintro arguments workspace reached ⟨held, plan, rfl, settled⟩
  let bindings := subroutine.bind arguments
  let behind := store.absorb top.sink workspace
  have proceeds : Proceeds engine
      ⟨held, top.busy (.callSubroutine ⟨subroutine, position, plan⟩) :: beneath⟩ top beneath
      ⟨{ behind with bindings := bindings :: behind.bindings },
        .enter [⟨subroutine.body, false, some .dropBindings⟩], top.elseArmed, none⟩ := by
    refine .of_resume rfl ?_
    simp only [Context.resume, Context.resumeSubroutine, settled, List.nil_append]
    rfl
  have seat' : Seat engine behind top beneath := seat.absorb top.sink workspace
  have run : Realizes engine ⟨beneath, behind, top.sink⟩ _ _ _ :=
    sound.dropping (seat'.of_sinks rfl) proceeds rfl rfl (fun _ _ => rfl)
      ⟨rfl, rfl, List.suffix_refl _, List.suffix_cons _ _, List.suffix_refl _, List.suffix_refl _⟩
      rfl
  simp only [behind, Store.absorb_absorb] at run
  exact (Realizes.behind run seat.inside).returns

/-! ### Texts -/

theorem Sound.generated (sound : Sound engine (beneath.length + 1) evaluate)
    (seat : Seat engine store top beneath) {source : Code}
    (proceeds : Proceeds engine configuration top beneath
      ⟨store, .enter [.apart source], top.elseArmed, some .runGenerated⟩) :
    Realizes engine ⟨beneath, store, top.sink⟩ (Resumes store top beneath) configuration
      (evaluate.construct (top.context engine store) (.generated source)
        (store.workspace top.sink)) := by
  refine (sound.gather seat proceeds rfl).bind ?_
  rintro _ workspace reached ⟨result, rfl, rfl⟩
  let held := (store.absorb top.sink workspace).addResult result
  have resumed : ((top.busy .runGenerated).context engine held).resume held top.sink .runGenerated =
      ((top.context engine store).generatedCode (workspace.textOf result)).map fun code =>
        (top.context engine store).enter (store.absorb top.sink workspace) (.shared code) := rfl
  cases generated : (top.context engine store).generatedCode (workspace.textOf result) with
  | error fault =>
      rw [generated] at resumed
      rw [Evaluation.bind_of_error (Evaluation.act_of_error rfl)]
      exact .of_resume_error rfl resumed ⟨rfl, fun _ _ => rfl⟩
  | ok code =>
      rw [generated] at resumed
      rw [Evaluation.bind_of_ok (Evaluation.act_of_ok rfl)]
      have enters : Proceeds engine ⟨held, top.busy .runGenerated :: beneath⟩ top beneath
          ((top.context engine store).enter (store.absorb top.sink workspace) (.shared code)) :=
        .of_resume rfl resumed
      have run := sound.run (seat.absorb top.sink workspace) enters rfl
      simp only [Context.enter, Store.absorb_absorb] at run
      exact (run.behind seat.inside).returns

/-- A text that is used up without running code. -/
theorem Sound.consumed (sound : Sound engine (beneath.length + 1) evaluate)
    (seat : Seat engine store top beneath) {source : Code}
    (action : Workspace → String → Except Fault Workspace)
    (resumes : ∀ held, ((top.busy task).context engine held).resume held top.sink task =
      (action (held.workspace top.sink) held.resultText).map fun workspace =>
        (top.context engine store).stay (held.dropResult.absorb top.sink workspace))
    (proceeds : Proceeds engine configuration top beneath
      ⟨store, .enter [.apart source], top.elseArmed, some task⟩) :
    Realizes engine ⟨beneath, store, top.sink⟩ (Resumes store top beneath) configuration
      ((do
        let text ← (evaluate store.scope source).text
        Evaluation.act fun workspace => do return (← action workspace text, ())
        return top.elseArmed : Evaluation Bool) (store.workspace top.sink)) := by
  refine (sound.gather seat proceeds rfl).bind ?_
  rintro _ workspace reached ⟨result, rfl, rfl⟩
  let held := (store.absorb top.sink workspace).addResult result
  have known : held.workspace top.sink = workspace := Store.workspace_absorb seat.inside workspace
  have resumed := resumes held
  rw [known] at resumed
  cases acted : action workspace (workspace.textOf result) with
  | error fault =>
      have resumed : _ = Except.error fault :=
        resumed.trans (congrArg (Except.map _) acted)
      rw [Evaluation.bind_of_error (Evaluation.act_of_error (by rw [acted]; rfl))]
      exact .of_resume_error rfl resumed ⟨rfl, fun _ _ => rfl⟩
  | ok made =>
      have proceeds : Proceeds engine ⟨held, top.busy task :: beneath⟩ top beneath
          ((top.context engine store).stay (held.dropResult.absorb top.sink made)) :=
        .of_resume rfl (resumed.trans (congrArg (Except.map _) acted))
      rw [Evaluation.bind_of_ok (Evaluation.act_of_ok (by rw [acted]; rfl))]
      refine .finishes (proceeds.stays rfl) ?_
      show Configuration.mk ((store.absorb top.sink workspace).absorb top.sink made) _ = _
      rw [Store.absorb_absorb]
      rfl

/-! ### Replacers -/

/-- A replacer looks at nothing around it. -/
theorem Context.replaceNext_congr {first second : Context} {sink : Nat}
    (same : first.elseArmed = second.elseArmed) (replacement : Replacement) :
    first.replaceNext store sink replacement = second.replaceNext store sink replacement := by
  simp only [replaceNext, stay, gather, same]

/-- The replacements of the matches that are left. -/
theorem Sound.replacements (sound : Sound engine (beneath.length + 1) evaluate)
    {context : Context} (same : context.elseArmed = top.elseArmed) (replacement : Replacement)
    (seat : Seat engine store top beneath)
    (proceeds : Proceeds engine configuration top beneath
      (context.replaceNext store top.sink replacement)) :
    Realizes engine ⟨beneath, store, top.sink⟩
      (fun replaced workspace reached => Proceeds engine reached top beneath
        (context.replaceNext (store.absorb top.sink workspace) top.sink
          { replacement with unread := [], buffer := replacement.buffer ++ replaced }))
      configuration
      (evaluate.replacements store.scope replacement.code replacement.unread
        (store.workspace top.sink)) := by
  obtain ⟨code, unread, tail, buffer⟩ := replacement
  induction unread generalizing configuration store buffer with
  | nil =>
      refine .finishes .refl ?_
      rw [store.absorb_workspace, String.append_empty]
      exact proceeds
  | cons first unread inductionHypothesis =>
      obtain ⟨before, found⟩ := first
      let next : Replacement := ⟨code, unread, tail, buffer ++ before⟩
      have gathers : Proceeds engine configuration top beneath
          ⟨{ store with matchStack := found :: store.matchStack }, .enter [.apart code],
            top.elseArmed, some (.replaceMatches next)⟩ := by
        rw [← same]
        exact proceeds
      have seat' : Seat engine { store with matchStack := found :: store.matchStack } top beneath :=
        seat.of_sinks rfl
      have within : Frame.Within id
          ⟨beneath, { store with matchStack := found :: store.matchStack }, top.sink⟩
          ⟨beneath, store, top.sink⟩ := ⟨List.suffix_refl _, fun _ => rfl, fun _ _ _ => rfl⟩
      have keeps : store.Keeps { store with matchStack := found :: store.matchStack } :=
        ⟨rfl, rfl, List.suffix_refl _, List.suffix_refl _, List.suffix_cons _ _,
          List.suffix_refl _⟩
      refine ((sound.gather seat' gathers rfl).of_within within keeps).bind ?_
      rintro _ workspace reached ⟨result, rfl, rfl⟩
      let text := workspace.textOf result
      have proceeds : Proceeds engine
          ⟨(Store.absorb { store with matchStack := found :: store.matchStack } top.sink
            workspace).addResult result, top.busy (.replaceMatches next) :: beneath⟩ top beneath
          (context.replaceNext (store.absorb top.sink workspace) top.sink
            ⟨code, unread, tail, buffer ++ before ++ text⟩) :=
        (Proceeds.of_resume rfl rfl).of_eq (Context.replaceNext_congr same.symm _)
      have others := inductionHypothesis (seat.absorb top.sink workspace)
        (buffer ++ before ++ text) proceeds
      simp only [Store.absorb_absorb] at others
      refine (others.behind seat.inside).bind ?_
      intro replaced workspace reached proceeds
      refine .finishes .refl ?_
      rw [String.append_assoc, String.append_assoc] at proceeds
      rw [String.append_assoc]
      exact proceeds

theorem Sound.replacer (sound : Sound engine (beneath.length + 1) evaluate)
    (seat : Seat engine store top beneath) {regex : Regex} {input code : Code}
    (proceeds : Proceeds engine configuration top beneath
      ⟨store, .enter [.apart input], top.elseArmed, some (.findMatches regex code)⟩) :
    Realizes engine ⟨beneath, store, top.sink⟩ (Resumes store top beneath) configuration
      (evaluate.construct (top.context engine store) (.replacer regex input code)
        (store.workspace top.sink)) := by
  refine (sound.gather seat proceeds rfl).bind ?_
  rintro _ workspace reached ⟨result, rfl, rfl⟩
  let text := workspace.textOf result
  have proceeds : Proceeds engine
      ⟨(store.absorb top.sink workspace).addResult result,
        top.busy (.findMatches regex code) :: beneath⟩ top beneath
      ((top.context engine store).replaceNext (store.absorb top.sink workspace) top.sink
        (.start regex code text)) := .of_resume rfl rfl
  have replaced := sound.replacements rfl _ (seat.absorb top.sink workspace) proceeds
  simp only [Store.absorb_absorb] at replaced
  refine (replaced.behind seat.inside).bind ?_
  intro made workspace reached proceeds
  refine .finishes (proceeds.stays rfl) ?_
  have tail : (Replacement.start regex code text).buffer ++ made = made := String.empty_append
  show Configuration.mk ((store.absorb top.sink workspace).absorb top.sink
    (((store.absorb top.sink workspace).workspace top.sink).write
      ((Replacement.start regex code text).buffer ++ made ++ _))) _ = _
  rw [tail, Store.workspace_absorb seat.inside, Store.absorb_absorb]
  rfl

end Constructs

end SeededText.Machine
