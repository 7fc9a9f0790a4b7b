import SeededText.Proofs.Evaluation
import SeededText.Proofs.Sinks

/-!
Contract: how the steps of a run carry evaluations out.

An evaluation is realized from a configuration if the steps from there lead to what it gives: to a
configuration that takes its place at its end, to one that leaves the innermost block, or to the
step that fails. A run that needs a higher stack than the settings allow realizes anything.

Owns: realizing, sequences of evaluations, code that is entered and left again.
Does not own: constructs (`SeededText.Proofs.Constructs`, `SeededText.Proofs.Blocks`).
-/

namespace SeededText.Machine

open Output SeededText.Machine.Configuration

/-! ### Realizing -/

/-- The run fails because the stack is as high as the settings allow. -/
def Configuration.Overflows (engine : Engine) (configuration : Configuration) : Prop :=
  ∃ last fault, Reaches engine configuration last ∧ last.Ends engine (some fault) ∧
    fault.cause = .misused .stackOverflow

/-- What blocks, comparisons, arguments, matches and results there are stays, perhaps under more. -/
structure Store.Keeps (earlier later : Store) : Prop where
  repeaters : later.repeaters = earlier.repeaters
  bases : later.bases = earlier.bases
  comparisons : earlier.comparisons <:+ later.comparisons
  bindings : earlier.bindings <:+ later.bindings
  matchStack : earlier.matchStack <:+ later.matchStack
  results : earlier.results <:+ later.results

namespace Store.Keeps

theorem refl (store : Store) : store.Keeps store :=
  ⟨rfl, rfl, List.suffix_refl _, List.suffix_refl _, List.suffix_refl _, List.suffix_refl _⟩

theorem trans {earlier store later : Store} (first : earlier.Keeps store)
    (second : store.Keeps later) : earlier.Keeps later where
  repeaters := second.repeaters.trans first.repeaters
  bases := second.bases.trans first.bases
  comparisons := first.comparisons.trans second.comparisons
  bindings := first.bindings.trans second.bindings
  matchStack := first.matchStack.trans second.matchStack
  results := first.results.trans second.results

end Store.Keeps

/-- Where an evaluation takes place: the activations that it leaves alone, the store when it began,
and the sink that it writes to. -/
structure Frame where
  stack : List Activation
  store : Store
  sink : Nat

/-- A store holds the memory of a workspace and its sink, and the other sinks of the activations
that are left alone are as they were. -/
structure Frame.Shows (frame : Frame) (workspace : Workspace) (reached : Store) : Prop where
  memory : reached.toMemory = workspace.toMemory
  sinks : ∀ index ≤ frame.stack.countP Activation.ownsSink,
    reached.sinks[index]? = (frame.store.absorb frame.sink workspace).sinks[index]?

/-- Steps from a configuration lead to what an evaluation gives. What belongs to its end is told by
`finish`. -/
inductive Realizes {α : Type} (engine : Engine) (frame : Frame)
    (finish : α → Workspace → Configuration → Prop) (configuration : Configuration) :
    Option (Workspace × Except Exit α) → Prop where
  | overflows {result : Option (Workspace × Except Exit α)}
      (overflows : Overflows engine configuration) :
      Realizes engine frame finish configuration result
  | finishes {value : α} {workspace : Workspace} {reached : Configuration}
      (reaches : Reaches engine configuration reached) (finished : finish value workspace reached) :
      Realizes engine frame finish configuration (some (workspace, .ok value))
  | leaves {workspace : Workspace} {above : List Activation} {left : Store}
      (reaches : Reaches engine configuration (leaveBlock ⟨left, above ++ frame.stack⟩))
      (inBlock : left.repeaters ≠ [])
      (size : left.sinks.size = (above ++ frame.stack).countP Activation.ownsSink + 1)
      (keeps : frame.store.Keeps left) (shows : frame.Shows workspace left) :
      Realizes engine frame finish configuration (some (workspace, .error .leftBlock))
  | fails {workspace : Workspace} {fault : Fault} {last : Configuration}
      (reaches : Reaches engine configuration last) (ends : last.Ends engine (some fault))
      (shows : frame.Shows workspace last.store) :
      Realizes engine frame finish configuration (some (workspace, .error (.failed fault)))

section Realizing

variable {α β : Type} {engine : Engine} {frame inner outer : Frame}
  {configuration reached : Configuration} {workspace : Workspace}
  {middle finish : α → Workspace → Configuration → Prop}

theorem Configuration.Overflows.of_reaches (reaches : Reaches engine configuration reached)
    (overflows : Overflows engine reached) : Overflows engine configuration := by
  obtain ⟨last, fault, rest, ends, cause⟩ := overflows
  exact ⟨last, fault, reaches.trans rest, ends, cause⟩

/-- An evaluation takes place within another one, which gives its workspace back changed by
`restore`. -/
structure Frame.Within (restore : Workspace → Workspace) (inner outer : Frame) : Prop where
  stack : outer.stack <:+ inner.stack
  memory : ∀ workspace, (restore workspace).toMemory = workspace.toMemory
  sinks : ∀ workspace, ∀ index ≤ outer.stack.countP Activation.ownsSink,
    (inner.store.absorb inner.sink workspace).sinks[index]? =
      (outer.store.absorb outer.sink (restore workspace)).sinks[index]?

theorem Frame.Shows.of_within {restore : Workspace → Workspace} {store : Store}
    (within : Within restore inner outer) (shows : inner.Shows workspace store) :
    outer.Shows (restore workspace) store where
  memory := shows.memory.trans (within.memory workspace).symm
  sinks index lower := by
    rw [shows.sinks index (Nat.le_trans lower within.stack.sublist.countP_le)]
    exact within.sinks workspace index lower

namespace Realizes

/-- Steps before an evaluation lead to it. -/
theorem of_reaches {result : Option (Workspace × Except Exit α)}
    (reaches : Reaches engine configuration reached)
    (realizes : Realizes engine frame finish reached result) :
    Realizes engine frame finish configuration result := by
  cases realizes with
  | overflows overflows => exact .overflows (overflows.of_reaches reaches)
  | finishes rest finished => exact .finishes (reaches.trans rest) finished
  | leaves rest inBlock size keeps shows =>
      exact .leaves (reaches.trans rest) inBlock size keeps shows
  | fails rest ends shows => exact .fails (reaches.trans rest) ends shows

/-- Steps behind the end of an evaluation belong to it. -/
theorem further {result : Option (Workspace × Except Exit α)}
    (realizes : Realizes engine frame middle configuration result)
    (further : ∀ value workspace reached, middle value workspace reached →
      ∃ last, Reaches engine reached last ∧ finish value workspace last) :
    Realizes engine frame finish configuration result := by
  cases realizes with
  | overflows overflows => exact .overflows overflows
  | finishes reaches finished =>
      obtain ⟨last, rest, finished⟩ := further _ _ _ finished
      exact .finishes (reaches.trans rest) finished
  | leaves reaches inBlock size keeps shows => exact .leaves reaches inBlock size keeps shows
  | fails reaches ends shows => exact .fails reaches ends shows

/-- One evaluation after the other. -/
theorem bind {finish : β → Workspace → Configuration → Prop} {first : Evaluation α}
    {next : α → Evaluation β}
    (realizes : Realizes engine frame middle configuration (first workspace))
    (goesOn : ∀ value workspace reached, middle value workspace reached →
      Realizes engine frame finish reached (next value workspace)) :
    Realizes engine frame finish configuration ((first >>= next) workspace) := by
  show Realizes engine frame finish configuration (Evaluation.bind first next workspace)
  unfold Evaluation.bind
  generalize first workspace = result at realizes
  cases realizes with
  | overflows overflows => exact .overflows overflows
  | finishes reaches finished => exact (goesOn _ _ _ finished).of_reaches reaches
  | leaves reaches inBlock size keeps shows => exact .leaves reaches inBlock size keeps shows
  | fails reaches ends shows => exact .fails reaches ends shows

/-- A value that is given behind an evaluation. -/
theorem returns {finish : β → Workspace → Configuration → Prop} {first : Evaluation Unit}
    {value : β}
    (realizes : Realizes engine frame (fun _ => finish value) configuration (first workspace)) :
    Realizes engine frame finish configuration
      ((do first; return value : Evaluation β) workspace) :=
  realizes.bind fun _ _ _ finished => .finishes .refl finished

/-- An evaluation that belongs to a larger one leaves a block or fails as that one does. -/
theorem of_within {result : Option (Workspace × Except Exit α)}
    (realizes : Realizes engine inner finish configuration result) (within : inner.Within id outer)
    (kept : outer.store.Keeps inner.store) :
    Realizes engine outer finish configuration result := by
  cases realizes with
  | overflows overflows => exact .overflows overflows
  | finishes reaches finished => exact .finishes reaches finished
  | leaves reaches inBlock size keeps shows =>
      obtain ⟨between, same⟩ := within.stack
      rw [← same, ← List.append_assoc] at reaches size
      exact .leaves reaches inBlock size (kept.trans keeps) (shows.of_within within)
  | fails reaches ends shows => exact .fails reaches ends (shows.of_within within)

/-- Code that is evaluated into a sink of its own gives that sink. -/
theorem apart {finish : Sink → Workspace → Configuration → Prop} {evaluation : Evaluation Unit}
    {middle : Unit → Workspace → Configuration → Prop}
    (realizes : Realizes engine inner middle configuration
      (evaluation { workspace with sink := .fresh }))
    (within : inner.Within (fun made => { made with sink := workspace.sink }) outer)
    (kept : outer.store.Keeps inner.store)
    (finished : ∀ made reached, middle () made reached →
      finish made.sink { made with sink := workspace.sink } reached) :
    Realizes engine outer finish configuration (evaluation.apart workspace) := by
  unfold Evaluation.apart
  generalize evaluation { workspace with sink := .fresh } = result at realizes
  cases realizes with
  | overflows overflows => exact .overflows overflows
  | finishes reaches done => exact .finishes reaches (finished _ _ done)
  | leaves reaches inBlock size keeps shows =>
      obtain ⟨between, same⟩ := within.stack
      rw [← same, ← List.append_assoc] at reaches size
      exact .leaves reaches inBlock size (kept.trans keeps) (shows.of_within within)
  | fails reaches ends shows => exact .fails reaches ends (shows.of_within within)

/-- A block goes on behind its code, or is left by it. -/
theorem untilLeft {middle finish : Unit → Workspace → Configuration → Prop}
    {first next : Evaluation Unit}
    (realizes : Realizes engine inner middle configuration (first workspace))
    (within : inner.Within id outer)
    (goesOn : ∀ workspace reached, middle () workspace reached →
      Realizes engine outer finish reached (next.untilLeft workspace))
    (leavesBlock : ∀ workspace above left,
      left.sinks.size = (above ++ inner.stack).countP Activation.ownsSink + 1 →
      inner.store.Keeps left → inner.Shows workspace left →
      ∃ last, Reaches engine (leaveBlock ⟨left, above ++ inner.stack⟩) last ∧
        finish () workspace last) :
    Realizes engine outer finish configuration
      ((do first; next : Evaluation Unit).untilLeft workspace) := by
  unfold Evaluation.untilLeft
  generalize evaluated : first workspace = result at realizes
  cases realizes with
  | overflows overflows => exact .overflows overflows
  | finishes reaches finished =>
      rw [Evaluation.bind_of_ok evaluated]
      exact (goesOn _ _ finished).of_reaches reaches
  | leaves reaches inBlock size keeps shows =>
      rw [Evaluation.bind_of_error evaluated]
      obtain ⟨last, rest, finished⟩ := leavesBlock _ _ _ size keeps shows
      exact .finishes (reaches.trans rest) finished
  | fails reaches ends shows =>
      rw [Evaluation.bind_of_error evaluated]
      exact .fails reaches ends (shows.of_within within)

end Realizes

end Realizing

/-! ### The next step -/

/-- The activation when it has made progress. -/
def Progress.renew (progress : Progress) (top : Activation) : Activation :=
  { top with tasks := progress.task?.toList, elseArmed := progress.elseArmed }

/-- The next step of a configuration makes the given progress for an activation. -/
def Configuration.Proceeds (engine : Engine) (configuration : Configuration) (top : Activation)
    (beneath : List Activation) (progress : Progress) : Prop :=
  ∃ store first rest, configuration = ⟨store, first :: rest⟩ ∧
    step engine store first rest =
      settle engine { top with tasks := progress.task?.toList } beneath progress

/-- The sinks of a store and the height of a stack suit the activation on top. -/
structure Seat (engine : Engine) (store : Store) (top : Activation) (beneath : List Activation) :
    Prop where
  size : store.sinks.size = (top :: beneath).countP Activation.ownsSink + 1
  sink : top.sink + 1 = store.sinks.size
  height : beneath.length < heightLimit engine

section Proceeding

variable {engine : Engine} {store : Store} {top later : Activation} {beneath : List Activation}
  {configuration reached : Configuration} {progress : Progress} {entry : Entry} {task : Task}

theorem Configuration.steps_of_step
    (stepped : step engine store top beneath = .ok reached) :
    Reaches engine ⟨store, top :: beneath⟩ reached :=
  .single ⟨stepped⟩

/-- Code is refused only because the stack is too high. -/
theorem Configuration.cause_of_enter {fault : Fault}
    (refused : enter engine entry configuration = .error fault) :
    fault.cause = .misused .stackOverflow := by
  obtain ⟨store, stack⟩ := configuration
  cases stack with
  | nil => cases refused
  | cons top beneath =>
      simp only [enter] at refused
      split at refused
      · cases refused
        rfl
      · cases refused

theorem Configuration.cause_of_enterAll {entries : List Entry} {fault : Fault}
    (refused : enterAll engine entries configuration = .error fault) :
    fault.cause = .misused .stackOverflow := by
  induction entries generalizing configuration with
  | nil => cases refused
  | cons entry entries inductionHypothesis =>
      simp only [enterAll] at refused
      cases entered : configuration.enter engine entry with
      | error other =>
          rw [entered] at refused
          cases refused
          exact cause_of_enter entered
      | ok higher =>
          rw [entered] at refused
          exact inductionHypothesis refused

namespace Configuration.Proceeds

theorem of_resume (tasks : top.tasks = [task])
    (resumed : (top.context engine store).resume store top.sink task = .ok progress) :
    Proceeds engine ⟨store, top :: beneath⟩ top beneath progress := by
  refine ⟨store, top, beneath, rfl, ?_⟩
  rw [step_of_task tasks, resumed]
  rfl

theorem of_eq {other : Progress} (proceeds : Proceeds engine configuration top beneath progress)
    (same : progress = other) : Proceeds engine configuration top beneath other :=
  same ▸ proceeds

theorem stays (proceeds : Proceeds engine configuration top beneath progress)
    (move : progress.move = .enter []) :
    Reaches engine configuration ⟨progress.store, progress.renew top :: beneath⟩ := by
  obtain ⟨store, first, rest, rfl, stepped⟩ := proceeds
  rw [settle, move] at stepped
  exact steps_of_step stepped

theorem leavesBlock (proceeds : Proceeds engine configuration top beneath progress)
    (move : progress.move = .leaveBlock) :
    Reaches engine configuration (leaveBlock ⟨progress.store, progress.renew top :: beneath⟩) := by
  obtain ⟨store, first, rest, rfl, stepped⟩ := proceeds
  rw [settle, move] at stepped
  exact steps_of_step stepped

/-- Code is entered, if the stack is not too high. -/
theorem enters {entries : List Entry}
    (proceeds : Proceeds engine configuration top beneath progress)
    (move : progress.move = .enter entries) :
    Overflows engine configuration ∨ ∃ reached, Reaches engine configuration reached ∧
      enterAll engine entries ⟨progress.store, progress.renew top :: beneath⟩ = .ok reached := by
  obtain ⟨store, first, rest, rfl, stepped⟩ := proceeds
  rw [settle, move] at stepped
  have stepped : step engine store first rest =
    enterAll engine entries ⟨progress.store, progress.renew top :: beneath⟩ := stepped
  cases entered : enterAll engine entries ⟨progress.store, progress.renew top :: beneath⟩ with
  | ok reached =>
      exact .inr ⟨reached, steps_of_step (stepped.trans entered), rfl⟩
  | error fault =>
      exact .inl ⟨_, fault, .refl, .failed (stepped.trans entered), cause_of_enterAll entered⟩

end Configuration.Proceeds

end Proceeding

/-! ### Code that is entered -/

namespace Seat

variable {engine : Engine} {store : Store} {top later : Activation} {beneath : List Activation}

theorem absorb (seat : Seat engine store top beneath) (sink : Nat) (workspace : Workspace) :
    Seat engine (store.absorb sink workspace) top beneath where
  size := by simp [Store.absorb, seat.size]
  sink := by simp [Store.absorb, seat.sink]
  height := seat.height

/-- What an activation has to do makes no difference. -/
theorem renew (seat : Seat engine store top beneath) (continues : later.Continues top) :
    Seat engine store later beneath where
  size := by
    rw [seat.size, List.countP_cons, List.countP_cons, continues.ownsSink]
  sink := continues.sink ▸ seat.sink
  height := seat.height

/-- Only the sinks of the store matter. -/
theorem of_sinks {other : Store} (seat : Seat engine store top beneath)
    (same : other.sinks = store.sinks) : Seat engine other top beneath :=
  ⟨same ▸ seat.size, same ▸ seat.sink, seat.height⟩

theorem inside (seat : Seat engine store top beneath) : top.sink < store.sinks.size :=
  seat.sink ▸ Nat.lt_succ_self top.sink

/-- Code that may be entered has its seat. -/
theorem enter (seat : Seat engine store top beneath) (entry : Entry)
    (room : beneath.length + 1 < engine.settings.maxStackDepth) :
    Seat engine (store.provide entry top.sink).1 (.enter entry (store.provide entry top.sink).2)
      (top :: beneath) := by
  have size := seat.size
  have sink := seat.sink
  have height : (top :: beneath).length < heightLimit engine := by
    simp only [heightLimit, List.length_cons]
    omega
  cases owns : entry.ownsSink with
  | false =>
      refine ⟨?_, ?_, height⟩
      · simpa [Store.provide, owns, List.countP_cons] using size
      · simpa [Store.provide, owns, Activation.enter] using sink
  | true =>
      refine ⟨?_, ?_, height⟩
      · simpa [Store.provide, owns, List.countP_cons] using size
      · simp [Store.provide, owns, Activation.enter]

end Seat

/-- Code has come to its end. -/
def AtEnd (store : Store) (top : Activation) (beneath : List Activation) (_ : Unit)
    (workspace : Workspace) (reached : Configuration) : Prop :=
  ∃ later, reached = ⟨store.absorb top.sink workspace, later :: beneath⟩ ∧ later.IsAtEnd ∧
    later.Continues top

/-- The run carries out what an evaluator says of code that is entered on top of at least `height`
activations. -/
structure Sound (engine : Engine) (height : Nat) (evaluate : Evaluator) : Prop where
  realizes {store : Store} {entry : Entry} {sink : Nat} {beneath : List Activation}
    (seat : Seat engine store (.enter entry sink) beneath) (high : height ≤ beneath.length) :
    Realizes engine ⟨beneath, store, sink⟩ (AtEnd store (.enter entry sink) beneath)
      ⟨store, .enter entry sink :: beneath⟩
      (evaluate store.scope entry.code (store.workspace sink))
  /-- Code that prints its tokens as they stand gives its text. -/
  verbatim (low : height ≤ heightLimit engine) (scope : Scope) {code : Code} (workspace : Workspace)
    (isVerbatim : code.isVerbatim) :
    (evaluate scope code).text workspace = some (workspace, .ok code.text)

section Entering

variable {engine : Engine} {evaluate : Evaluator} {top later below : Activation} {store : Store}
  {beneath others : List Activation} {configuration : Configuration} {progress : Progress}
  {entry : Entry} {code : Code}

theorem Progress.renew_continues (progress : Progress) (top : Activation) :
    (progress.renew top).Continues top :=
  ⟨rfl, rfl, rfl, rfl⟩

theorem Sound.enter (sound : Sound engine (beneath.length + 1) evaluate)
    (seat : Seat engine progress.store top beneath)
    (proceeds : Proceeds engine configuration top beneath progress)
    (move : progress.move = .enter [entry]) :
    let (store, sink) := progress.store.provide entry top.sink
    Realizes engine ⟨progress.renew top :: beneath, store, sink⟩
      (AtEnd store (.enter entry sink) (progress.renew top :: beneath)) configuration
      (evaluate store.scope entry.code (store.workspace sink)) := by
  rcases proceeds.enters move with overflows | ⟨reached, reaches, entered⟩
  · exact .overflows overflows
  · rw [enterAll_singleton] at entered
    obtain ⟨room, rfl⟩ := enter_ok entered
    have seat := (seat.renew (progress.renew_continues top)).enter entry room
    exact (sound.realizes seat (Nat.le_refl _)).of_reaches reaches

/-- Code that writes where the activation beneath does. -/
theorem Sound.shared (sound : Sound engine (beneath.length + 1) evaluate)
    (seat : Seat engine progress.store top beneath)
    (proceeds : Proceeds engine configuration top beneath progress)
    (move : progress.move = .enter [entry]) (shares : entry.ownsSink = false) :
    Realizes engine ⟨beneath, progress.store, top.sink⟩
      (AtEnd progress.store (.enter entry top.sink) (progress.renew top :: beneath)) configuration
      (evaluate progress.store.scope entry.code (progress.store.workspace top.sink)) := by
  have entered := sound.enter seat proceeds move
  simp only [Store.provide, shares, Bool.false_eq_true, if_false] at entered
  exact entered.of_within ⟨List.suffix_cons _ _, fun _ => rfl, fun _ _ _ => rfl⟩ (.refl _)

/-- The store with a sink of an activation on top of those that are there. -/
def Store.addSink (store : Store) (sink : Sink) : Store :=
  { store with sinks := store.sinks.push sink }

theorem Store.keeps_addSink (store : Store) (sink : Sink) : store.Keeps (store.addSink sink) :=
  ⟨rfl, rfl, List.suffix_refl _, List.suffix_refl _, List.suffix_refl _, List.suffix_refl _⟩

/-- Code that writes elsewhere leaves all sinks as they are. -/
theorem Store.sinks_absorb_same (store : Store) (sink : Nat) (workspace : Workspace) :
    (store.absorb sink { workspace with sink := store.sinkAt sink }).sinks = store.sinks := by
  have same := congrArg Store.sinks (store.absorb_workspace sink)
  exact same

theorem Store.absorb_addSink (store : Store) (sink : Nat) (made : Workspace) :
    (store.addSink .fresh).absorb store.sinks.size made =
      (store.absorb sink { made with sink := store.sinkAt sink }).addSink made.sink := by
  have sinks : (store.sinks.push .fresh).setIfInBounds store.sinks.size made.sink =
      store.sinks.push made.sink := by
    simp [Array.setIfInBounds, Array.set_push]
  rw [addSink.eq_def (store.absorb _ _), sinks_absorb_same, ← sinks]
  rfl

/-- Code that writes to a sink of its own. -/
theorem Sound.apart (sound : Sound engine (beneath.length + 1) evaluate)
    (seat : Seat engine progress.store top beneath)
    (proceeds : Proceeds engine configuration top beneath progress)
    (move : progress.move = .enter [entry]) (owns : entry.ownsSink = true) :
    Realizes engine ⟨beneath, progress.store, top.sink⟩
      (fun sink workspace reached => ∃ later,
        reached = ⟨(progress.store.absorb top.sink workspace).addSink sink,
          later :: progress.renew top :: beneath⟩ ∧ later.IsAtEnd ∧
        later.Continues (.enter entry progress.store.sinks.size)) configuration
      ((evaluate progress.store.scope entry.code).apart (progress.store.workspace top.sink)) := by
  have entered := sound.enter seat proceeds move
  simp only [Store.provide, owns, if_true] at entered
  have fresh : (Store.workspace { progress.store with sinks := progress.store.sinks.push .fresh }
      progress.store.sinks.size) = { progress.store.workspace top.sink with sink := .fresh } := by
    simp [Store.workspace, Store.sinkAt]
  rw [fresh] at entered
  refine entered.apart ⟨List.suffix_cons _ _, fun _ => rfl, ?_⟩ (Store.keeps_addSink _ _) ?_
  · intro workspace index (lower : index ≤ beneath.countP Activation.ownsSink)
    have size := seat.size
    rw [List.countP_cons] at size
    have below : index < progress.store.sinks.size := by omega
    rw [Store.sinks_absorb_of_ne _ _ _ (Nat.ne_of_lt below)]
    show (progress.store.sinks.push .fresh)[index]? =
      (progress.store.absorb top.sink
        { workspace with sink := progress.store.sinkAt top.sink }).sinks[index]?
    rw [Store.sinks_absorb_same, Array.getElem?_push_lt below, Array.getElem?_eq_getElem]
  · rintro made reached ⟨later, rfl, ended, continues⟩
    exact ⟨later, congrArg (Configuration.mk · _) (Store.absorb_addSink _ top.sink made), ended,
      continues⟩

/-! ### Code that is left -/

/-- The store with the output of an activation on top of the results. -/
def Store.addResult (store : Store) (result : Sink) : Store :=
  { store with results := result :: store.results }

theorem Configuration.release_of_shared (shares : top.ownsSink = false) :
    release store top = store := by
  simp [release, shares]

theorem Configuration.release_addSink (owns : top.ownsSink = true) (sink : Sink) :
    release (store.addSink sink) top = store.addResult sink := by
  simp [release, owns, Store.addSink, Store.addResult, Store.sinkAt]

/-- Code behind which nothing is to be done is left in one step. -/
theorem Configuration.steps_leave (engine : Engine) (store : Store) (beneath : List Activation)
    (ended : top.IsAtEnd) (plain : top.completion? = none) :
    Steps engine ⟨store, top :: beneath⟩ ⟨release store top, beneath⟩ := by
  constructor
  rw [step_of_end ended.1 ended.2]
  simp only [leave, plain]

theorem Configuration.reaches_leave (engine : Engine) (store : Store) (beneath : List Activation)
    (ended : top.IsAtEnd) (plain : top.completion? = none) :
    Reaches engine ⟨store, top :: beneath⟩ ⟨release store top, beneath⟩ :=
  .single (steps_leave engine store beneath ended plain)

/-- Code that writes where the activation beneath does is left without a trace. -/
theorem Configuration.steps_leave_shared {sink : Nat} (ended : later.IsAtEnd)
    (continues : later.Continues (.enter (.shared code) sink)) :
    Steps engine ⟨store, later :: beneath⟩ ⟨store, beneath⟩ := by
  have left := steps_leave engine store beneath ended continues.completion?
  rw [release_of_shared continues.ownsSink] at left
  exact left

theorem Configuration.reaches_leave_shared {sink : Nat} (ended : later.IsAtEnd)
    (continues : later.Continues (.enter (.shared code) sink)) :
    Reaches engine ⟨store, later :: beneath⟩ ⟨store, beneath⟩ :=
  .single (steps_leave_shared ended continues)

/-- What is done behind an activation is progress of the one beneath it. -/
theorem Configuration.proceeds_leave (engine : Engine) (store : Store) (others : List Activation)
    {completion : Completion} (ended : top.IsAtEnd)
    (completes : top.completion? = some completion) (idle : below.tasks = []) :
    Proceeds engine ⟨store, top :: below :: others⟩ below others
      ((below.context engine (release store top)).complete (release store top) below.sink
        completion) := by
  refine ⟨store, top, below :: others, rfl, ?_⟩
  have noTask : ((below.context engine (release store top)).complete (release store top) below.sink
      completion).task? = none := by
    cases completion with
    | dropComparison | dropBindings => rfl
    | settleTrial fallback blankIsEmpty =>
        simp only [Context.complete]
        split <;> rfl
  rw [step_of_end ended.1 ended.2, noTask, Option.toList_none, ← idle]
  simp only [leave, completes]

/-- Code that writes where the activation beneath does, up to its end. -/
theorem Sound.run (sound : Sound engine (beneath.length + 1) evaluate)
    (seat : Seat engine progress.store top beneath)
    (proceeds : Proceeds engine configuration top beneath progress)
    (move : progress.move = .enter [.shared code]) :
    Realizes engine ⟨beneath, progress.store, top.sink⟩
      (fun _ workspace reached =>
        reached = ⟨progress.store.absorb top.sink workspace, progress.renew top :: beneath⟩)
      configuration
      (evaluate progress.store.scope code (progress.store.workspace top.sink)) := by
  refine (sound.shared seat proceeds move rfl).further ?_
  rintro ⟨⟩ workspace reached ⟨later, rfl, ended, continues⟩
  exact ⟨_, reaches_leave_shared ended continues, rfl⟩

/-- Code whose text is needed, up to its end. -/
theorem Sound.gather (sound : Sound engine (beneath.length + 1) evaluate)
    (seat : Seat engine progress.store top beneath)
    (proceeds : Proceeds engine configuration top beneath progress)
    (move : progress.move = .enter [.apart code]) :
    Realizes engine ⟨beneath, progress.store, top.sink⟩
      (fun text workspace reached => ∃ result, text = workspace.textOf result ∧
        reached = ⟨(progress.store.absorb top.sink workspace).addResult result,
          progress.renew top :: beneath⟩)
      configuration
      ((evaluate progress.store.scope code).text (progress.store.workspace top.sink)) := by
  refine (sound.apart seat proceeds move rfl).bind ?_
  rintro sink workspace reached ⟨later, rfl, ended, continues⟩
  have left := reaches_leave engine ((progress.store.absorb top.sink workspace).addSink sink)
    (progress.renew top :: beneath) ended continues.completion?
  rw [release_addSink continues.ownsSink] at left
  exact .finishes left ⟨sink, rfl, rfl⟩

end Entering

end SeededText.Machine
