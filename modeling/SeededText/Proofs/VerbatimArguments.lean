import SeededText.Proofs.Iteration
import SeededText.Proofs.Verbatim

/-!
Contract: a value that needs no evaluation is what its evaluation would give.

A call takes the text of verbatim code without entering the code. Were the code entered instead,
with a sink of its own and the call waiting for its text, each step would add the value of one token
to that sink and do nothing else. So at the end the call has the same text, and everything but the
result that it takes up is as if the code had not been entered.

Owns: the steps of verbatim code, the arguments before a value, evaluating a value that need not be.
Does not own: the evaluation of verbatim code (`SeededText.Proofs.Verbatim`), plans of arguments
(`SeededText.Proofs.ArgumentPlans`).
-/

namespace SeededText.Machine

open Output SeededText.Machine.Configuration

/-! ### The steps of verbatim code -/

section Running

variable {engine : Engine} {store : Store} {top : Activation} {beneath : List Activation}

/-- A verbatim token is read in one step, which writes its value. -/
theorem Configuration.steps_of_isVerbatim {token : Pattern.Token} (idle : top.tasks = [])
    (next : top.nextToken? = some token) (verbatim : token.kind.isVerbatim = true) :
    Steps engine ⟨store, top :: beneath⟩
      ⟨store.absorb top.sink ⟨store.toMemory, (store.sinkAt top.sink).write token.value⟩,
        { top with cursor := top.cursor + 1 } :: beneath⟩ := by
  have written : (store.workspace top.sink).write token.value =
      ⟨store.toMemory, (store.sinkAt top.sink).write token.value⟩ :=
    Workspace.write_eq _ _
  have reading : (top.context engine store).readConstruct (store.workspace top.sink) top.cursor
      (top.cursor + 1) token =
      .ok (⟨store.toMemory, (store.sinkAt top.sink).write token.value⟩, .nothing) := by
    rw [Context.readConstruct_of_isVerbatim verbatim, written]
  apply Steps.of_read idle next (Context.constructStop_of_isVerbatim verbatim) reading
  rw [idle]
  rfl

/-- Verbatim code runs to its end, and all that changes is that its text has been written to its
sink. -/
theorem Configuration.exists_reaches_of_isVerbatim (engine : Engine) (store : Store)
    (top : Activation) (beneath : List Activation) {text : String} (idle : top.tasks = [])
    (verbatim : ∀ index token, top.cursor ≤ index → top.code.tokenAt? index = some token →
      token.kind.isVerbatim = true)
    (inside : top.sink < store.sinks.size)
    (holds : (store.sinkAt top.sink).Holds store.targets text) :
    ∃ later written,
      Reaches engine ⟨store, top :: beneath⟩
        ⟨store.absorb top.sink ⟨store.toMemory, written⟩, later :: beneath⟩ ∧
      later.IsAtEnd ∧ later.Continues top ∧
      written.Holds store.targets
        (text ++ top.code.pattern.spanText ⟨top.cursor, top.code.span.stop⟩) := by
  -- The recursion is on the tokens that are left; what the sink holds grows by one value a step.
  cases next : top.nextToken? with
  | none =>
      have ended := Code.ended_of_tokenAt? next
      have unchanged : store.absorb top.sink ⟨store.toMemory, store.sinkAt top.sink⟩ = store :=
        store.absorb_workspace top.sink
      refine ⟨top, store.sinkAt top.sink, ?_, ⟨idle, next⟩, ⟨rfl, rfl, rfl, rfl⟩, ?_⟩
      · rw [unchanged]
      · rw [Pattern.spanText_of_end ended, String.append_empty]
        exact holds
  | some token =>
      obtain ⟨unread, found⟩ := Code.read_of_tokenAt? next
      let behind : Activation := { top with cursor := top.cursor + 1 }
      let read : Workspace := ⟨store.toMemory, (store.sinkAt top.sink).write token.value⟩
      have plain := verbatim top.cursor token (Nat.le_refl _) next
      have others (index : Nat) (token : Pattern.Token) (higher : behind.cursor ≤ index) :=
        verbatim index token (Nat.le_of_succ_le higher)
      have workspace : (store.absorb top.sink read).workspace top.sink = read :=
        Store.workspace_absorb inside read
      have sink : (store.absorb top.sink read).sinkAt top.sink = read.sink :=
        congrArg Workspace.sink workspace
      have present : behind.sink < (store.absorb top.sink read).sinks.size := by
        simpa [Store.absorb] using inside
      have held : ((store.absorb top.sink read).sinkAt behind.sink).Holds
          (store.absorb top.sink read).targets (text ++ token.value) := by
        rw [sink]
        exact holds.write token.value
      obtain ⟨later, written, reaches, atEnd, continues, whole⟩ :=
        exists_reaches_of_isVerbatim engine (store.absorb top.sink read) behind beneath idle others
          present held
      refine ⟨later, written, ?_, atEnd, continues.trans ⟨rfl, rfl, rfl, rfl⟩, ?_⟩
      · rw [Store.absorb_absorb] at reaches
        exact .head (steps_of_isVerbatim idle next plain) reaches
      · rw [Pattern.spanText_of_token unread found, ← String.append_assoc]
        exact whole
termination_by top.code.span.stop - top.cursor

end Running

/-! ### Values of a call -/

/-- What a call holds besides the plan of its arguments. -/
inductive Call where
  | tag (operation : TagOperation) (position : Pattern.Position)
  | subroutine (callee : Subroutine) (position : Pattern.Position)

/-- The call as a task, with a plan of its arguments. -/
def Call.task : Call → ArgumentPlan → Task
  | .tag operation position, plan => .callTag ⟨operation, position, plan⟩
  | .subroutine callee position, plan => .callSubroutine ⟨callee, position, plan⟩

/-- The argument that comes of a planned one without evaluation, if there is one. -/
def PlannedArgument.ready? (planned : PlannedArgument) : Option Argument :=
  if planned.isDeferred then some (.code planned.code)
  else if planned.code.isVerbatim then some (.value planned.code.text)
  else none

/-- The store and the arguments that are done, once a call has taken up the text that its plan waits
for. -/
def Store.received (store : Store) (plan : ArgumentPlan) : Store × List Argument :=
  if plan.isAwaiting then (store.dropResult, (plan.receive store.resultText).done)
  else (store, plan.done)

/-- A call that goes on comes to the value of some code: in `held` all arguments before it are done,
and others wait behind it. -/
def Store.ComesTo (store : Store) (plan : ArgumentPlan) (held : Store) (done : List Argument)
    (code : Code) (waiting : List PlannedArgument) : Prop :=
  ∃ front arguments, plan.waiting = front ++ ⟨code, false⟩ :: waiting ∧
    front.map PlannedArgument.ready? = arguments.map some ∧
    (store.received plan).1 = held ∧ (store.received plan).2 ++ arguments = done

/-- The activation as it waits for the value of some code. -/
def Activation.awaiting (top : Activation) (call : Call) (done : List Argument)
    (waiting : List PlannedArgument) : Activation :=
  top.busy (call.task ⟨waiting, done, true⟩)

/-- Evaluating the value of some code, and taking the text of the code instead, come to the same. -/
structure Configuration.EvaluatesAlike (engine : Engine) (store : Store) (top : Activation)
    (beneath : List Activation) (call : Call) (plan : ArgumentPlan) (held : Store)
    (done : List Argument) (code : Code) (waiting : List PlannedArgument) (result : Sink) :
    Prop where
  /-- As it is, the call takes the text, and goes on with the arguments behind. -/
  takes : store.settlePlan plan =
    (held, ArgumentPlan.settle (done ++ [.value code.text]) waiting)
  /-- The code may be entered with a sink of its own, while the call waits. -/
  enters : settle engine (top.awaiting call done waiting) beneath
      ((top.context engine store).gather held code (call.task ⟨waiting, done, true⟩)) =
    .ok ⟨held.addSink .fresh,
      .enter (.apart code) held.sinks.size :: top.awaiting call done waiting :: beneath⟩
  /-- It runs to its end. Then there is no change but in that sink. -/
  runs : ∃ later,
    Reaches engine
      ⟨held.addSink .fresh,
        .enter (.apart code) held.sinks.size :: top.awaiting call done waiting :: beneath⟩
      ⟨held.addSink result, later :: top.awaiting call done waiting :: beneath⟩ ∧
    later.IsAtEnd ∧
    Steps engine ⟨held.addSink result, later :: top.awaiting call done waiting :: beneath⟩
      ⟨held.addResult result, top.awaiting call done waiting :: beneath⟩
  text : result.mainText held.targets = code.text
  /-- The call takes the text up: it has the same arguments in the same store, and its next step is
  the one that it would have taken at once. -/
  claims : (held.addResult result).settlePlan ⟨waiting, done, true⟩ = store.settlePlan plan
  goesOn : step engine (held.addResult result) (top.awaiting call done waiting) beneath =
    step engine store top beneath

section Evaluating

variable {engine : Engine} {store held : Store} {top : Activation} {beneath : List Activation}
  {call : Call} {plan : ArgumentPlan} {done : List Argument} {code : Code}
  {waiting : List PlannedArgument}

/-- Arguments that need no evaluation are done one after the other. -/
theorem ArgumentPlan.settle_append {front rest : List PlannedArgument} {arguments : List Argument}
    (ready : front.map PlannedArgument.ready? = arguments.map some) (done : List Argument) :
    settle done (front ++ rest) = settle (done ++ arguments) rest := by
  induction front generalizing arguments done with
  | nil =>
      obtain rfl : arguments = [] := List.map_eq_nil_iff.mp ready.symm
      rw [List.nil_append, List.append_nil]
  | cons planned front inductionHypothesis =>
      obtain _ | ⟨first, arguments⟩ := arguments
      · cases ready
      · rw [List.map_cons, List.map_cons, List.cons.injEq] at ready
        obtain ⟨found, ready⟩ := ready
        have settled : settle done (planned :: (front ++ rest)) =
            settle (done ++ [first]) (front ++ rest) := by
          rw [settle]
          unfold PlannedArgument.ready? at found
          split at found
          · next deferred =>
              cases found
              rw [if_pos deferred]
          · next evaluated =>
              split at found
              · next verbatim =>
                  cases found
                  rw [if_neg evaluated, if_pos verbatim]
              · cases found
        rw [List.cons_append, settled, inductionHypothesis ready, List.append_assoc,
          List.singleton_append]

theorem Store.settlePlan_eq_settle (store : Store) (plan : ArgumentPlan) :
    store.settlePlan plan =
      ((store.received plan).1, ArgumentPlan.settle (store.received plan).2 plan.waiting) := by
  unfold settlePlan received
  split <;> rfl

/-- The value of verbatim code is its text. -/
theorem Store.ComesTo.settlePlan (comes : store.ComesTo plan held done code waiting)
    (verbatim : code.isVerbatim = true) :
    store.settlePlan plan = (held, ArgumentPlan.settle (done ++ [.value code.text]) waiting) := by
  obtain ⟨front, arguments, parts, ready, rfl, rfl⟩ := comes
  rw [store.settlePlan_eq_settle, parts, ArgumentPlan.settle_append ready, ArgumentPlan.settle]
  simp only [verbatim, Bool.false_eq_true, if_false, if_true]

/-- What a call does next depends on its plan only through the store and the arguments that this
settles to. -/
theorem Configuration.step_congr {other : Store} {otherPlan : ArgumentPlan}
    (tasks : top.tasks = [call.task plan]) (scope : other.scope = store.scope)
    (settled : other.settlePlan otherPlan = store.settlePlan plan) :
    step engine other (top.busy (call.task otherPlan)) beneath =
      step engine store top beneath := by
  have context : (top.busy (call.task otherPlan)).context engine other =
      top.context engine store := by
    simp only [Activation.context, scope]
    rfl
  have resumed : (top.context engine store).resume other top.sink (call.task otherPlan) =
      (top.context engine store).resume store top.sink (call.task plan) := by
    cases call <;>
      simp only [Call.task, Context.resume, Context.resumeTag, Context.resumeSubroutine, settled]
  have busy : (top.busy (call.task otherPlan)).tasks = [call.task otherPlan] := rfl
  rw [step_of_task tasks, step_of_task busy, context]
  show ((top.context engine store).resume other top.sink (call.task otherPlan) >>= _) = _
  rw [resumed]
  rfl

/-- Verbatim code that is entered with a sink of its own comes to its end with its text in that
sink. -/
theorem Configuration.exists_reaches_apart (engine : Engine) (store : Store) (code : Code)
    (stack : List Activation) (verbatim : code.isVerbatim = true) :
    ∃ later written,
      Reaches engine ⟨store.addSink .fresh, .enter (.apart code) store.sinks.size :: stack⟩
        ⟨store.addSink written, later :: stack⟩ ∧
      later.IsAtEnd ∧ later.Continues (.enter (.apart code) store.sinks.size) ∧
      written.mainText store.targets = code.text := by
  let child : Activation := .enter (.apart code) store.sinks.size
  have tokens (index : Nat) (token : Pattern.Token) (higher : child.cursor ≤ index)
      (found : child.code.tokenAt? index = some token) : token.kind.isVerbatim = true :=
    Code.isVerbatim_of_tokenAt? verbatim higher found
  have inside : child.sink < (store.addSink .fresh).sinks.size := by
    simp [child, Store.addSink, Activation.enter]
  have fresh : ((store.addSink .fresh).sinkAt child.sink).Holds (store.addSink .fresh).targets
      "" := by
    have sink : (store.addSink .fresh).sinkAt child.sink = .fresh := by
      simp [child, Store.addSink, Store.sinkAt, Activation.enter]
    rw [sink]
    exact .fresh _
  obtain ⟨later, written, reaches, atEnd, continues, holds⟩ :=
    exists_reaches_of_isVerbatim engine (store.addSink .fresh) child stack rfl tokens inside fresh
  have ended : (store.addSink .fresh).absorb child.sink ⟨store.toMemory, written⟩ =
      store.addSink written := by
    simp [child, Store.addSink, Store.absorb, Activation.enter, Array.setIfInBounds,
      Array.set_push]
  refine ⟨later, written, ?_, atEnd, continues, ?_⟩
  · rw [← ended]
    exact reaches
  · rw [String.empty_append] at holds
    exact holds.mainText

/-- A call that comes to a value of verbatim code may as well evaluate the code, as long as the
stack has room for it. -/
theorem Configuration.evaluatesAlike_of_isVerbatim (tasks : top.tasks = [call.task plan])
    (comes : store.ComesTo plan held done code waiting) (verbatim : code.isVerbatim = true)
    (room : beneath.length + 1 < engine.settings.maxStackDepth) :
    ∃ result, EvaluatesAlike engine store top beneath call plan held done code waiting result := by
  have takes := comes.settlePlan verbatim
  obtain ⟨later, result, reaches, atEnd, continues, text⟩ :=
    exists_reaches_apart engine held code (top.awaiting call done waiting :: beneath) verbatim
  have left : Steps engine ⟨held.addSink result, later :: top.awaiting call done waiting :: beneath⟩
      ⟨held.addResult result, top.awaiting call done waiting :: beneath⟩ := by
    have steps := steps_leave engine (held.addSink result)
      (top.awaiting call done waiting :: beneath) atEnd continues.completion?
    rw [release_addSink continues.ownsSink] at steps
    exact steps
  have claims :
      (held.addResult result).settlePlan ⟨waiting, done, true⟩ = store.settlePlan plan := by
    have received : (held.addResult result).received ⟨waiting, done, true⟩ =
        (held, done ++ [.value (result.mainText held.targets)]) := rfl
    rw [takes, Store.settlePlan_eq_settle, received, text]
  have scope : (held.addResult result).scope = store.scope := by
    have same := (store.settlePlan_fst plan).2.2
    rw [takes] at same
    exact same
  refine ⟨result, takes, ?_, ⟨later, reaches, atEnd, left⟩, text, claims, ?_⟩
  · have low : ¬ engine.settings.maxStackDepth ≤ beneath.length + 1 := Nat.not_le.mpr room
    simp only [settle, shift, Context.gather, enterAll_singleton, enter, if_neg low]
    rfl
  · exact step_congr tasks scope claims

end Evaluating

/-! ### A value behind one that has been evaluated -/

namespace LaterValue

open SeededText.Machine.Configuration

/-- The first argument of the comparison has to be run, the second is verbatim, and the third is
passed on. -/
def pattern : Pattern :=
  (Pattern.compile "comparison" "[cmp:[len:abc];3 4;y]").toOption.getD default

def code : Code := ⟨pattern, 9, 12⟩

def waiting : List PlannedArgument := [⟨⟨pattern, 13, 14⟩, true⟩]

/-- The call of a tag with which the only activation goes on. -/
def called? : Configuration → Option (Store × Activation × TagCall)
  | ⟨store, [top]⟩ =>
      match top.tasks with
      | [.callTag call] => some (store, top, call)
      | _ => none
  | _ => none

theorem of_called? {configuration : Configuration} {store : Store} {top : Activation}
    {call : TagCall} (found : called? configuration = some (store, top, call)) :
    configuration = ⟨store, [top]⟩ ∧ top.tasks = [.callTag call] := by
  unfold called? at found
  split at found
  · split at found
    · next tasks =>
        cases found
        exact ⟨rfl, tasks⟩
    · cases found
  · cases found

/-- After five steps the comparison takes up the length, and comes to its second argument. -/
theorem exists_comesTo : ∃ (store : Store) (top : Activation) (call : Call) (plan : ArgumentPlan),
    Reachable .standard pattern 0 ⟨store, [top]⟩ ∧ top.tasks = [call.task plan] ∧
      plan.isAwaiting = true ∧
      store.ComesTo plan store.dropResult [.value store.resultText] code waiting := by
  have observed : ((after .standard 5 (start .standard pattern 0)).bind called?).map
      (fun (_, _, call) => (call.operation, call.plan)) =
      some (.compareTexts, ⟨⟨code, false⟩ :: waiting, [], true⟩) := by decide +kernel
  obtain ⟨⟨store, top, call⟩, found, seen⟩ := Option.map_eq_some_iff.mp observed
  obtain ⟨configuration, steps, called⟩ := Option.bind_eq_some_iff.mp found
  obtain ⟨rfl, tasks⟩ := of_called? called
  obtain ⟨operation, position, plan⟩ := call
  obtain ⟨rfl, rfl⟩ := Prod.mk.inj seen
  exact ⟨store, top, .tag .compareTexts position, _, reaches_of_after steps, tasks, rfl,
    [], [], rfl, rfl, rfl, rfl⟩

theorem evaluatesAlike_code : ∃ (store : Store) (top : Activation) (call : Call)
    (plan : ArgumentPlan) (result : Sink),
    Reachable .standard pattern 0 ⟨store, [top]⟩ ∧ top.tasks = [call.task plan] ∧
      store.ComesTo plan store.dropResult [.value store.resultText] code waiting ∧
      code.isVerbatim = true ∧ 0 + 1 < Engine.standard.settings.maxStackDepth ∧
      EvaluatesAlike .standard store top [] call plan store.dropResult [.value store.resultText]
        code waiting result ∧
      result.mainText store.targets = "3 4" := by
  obtain ⟨store, top, call, plan, reachable, tasks, -, comes⟩ := exists_comesTo
  have verbatim : code.isVerbatim = true := by decide +kernel
  have room : 0 + 1 < Engine.standard.settings.maxStackDepth := by decide
  have text : code.text = "3 4" := by decide +kernel
  obtain ⟨result, alike⟩ : ∃ result, EvaluatesAlike .standard store top [] call plan
      store.dropResult [.value store.resultText] code waiting result :=
    evaluatesAlike_of_isVerbatim tasks comes verbatim room
  exact ⟨store, top, call, plan, result, reachable, tasks, comes, verbatim, room, alike,
    alike.text.trans text⟩

end LaterValue

end SeededText.Machine
