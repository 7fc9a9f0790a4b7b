import SeededText.Proofs.BrokenLexemes
import SeededText.Proofs.CodeOrigins
import SeededText.Proofs.StepFaults

/-!
Contract: where the faults of runs are placed.

A run that fails names a pattern that has been running, and points at one of its tokens. If a text
does not compile, be it the source or a text that code has made, the fault is placed where the
escape or the literal starts that cannot be read.

Owns: texts that a run compiles, the faults of runs and preludes.
Does not own: the faults of reading (`SeededText.Proofs.ReadingFaults`), of tags
(`SeededText.Proofs.TagFaults`) and of steps (`SeededText.Proofs.StepFaults`).
-/

namespace SeededText

open Pattern Machine Machine.Configuration

namespace Machine

/-- A text that is compiled next, and the name that its pattern gets: code that code has made, or
the body of a subroutine. -/
inductive Configuration.Compiles : Configuration → String → String → Prop
  | code {store : Store} {top : Activation} {beneath : List Activation} {tasks : List Task}
      (first : top.tasks = .runGenerated :: tasks) :
      Compiles ⟨store, top :: beneath⟩ (top.pattern.name ++ "?") store.resultText
  | body {store : Store} {top : Activation} {beneath : List Activation} {tasks : List Task}
      {name : String} {parameters : List SubroutineParameter}
      (first : top.tasks = .defineGenerated name parameters :: tasks) :
      Compiles ⟨store, top :: beneath⟩ (top.pattern.name ++ ":" ++ name) store.resultText

/-- The fault of a text that does not lex, at the place where its broken lexeme starts. -/
def Fault.IsBreakOf (name text : String) (fault : Fault) : Prop :=
  ∃ located, BreaksAt text located ∧
    fault = ⟨name, located.position, .malformed (.lexeme located.problem)⟩

/-- A fault that points at code of the run of a source. -/
inductive Fault.PointsAtCode (engine : Engine) (name source : String) (seed : UInt64)
    (fault : Fault) : Prop
  /-- The source does not lex. -/
  | source (broken : fault.IsBreakOf name source)
  /-- A text that code has made does not lex. -/
  | generated {pattern : Pattern} {configuration : Configuration} {label text : String}
      (compiled : compile name source = .ok pattern)
      (reachable : Reachable engine pattern seed configuration)
      (compiles : configuration.Compiles label text) (broken : fault.IsBreakOf label text)
  /-- A token of a pattern that has been running, or the start of it if it has none. -/
  | running {pattern running : Pattern} (compiled : compile name source = .ok pattern)
      (ran : HasRun engine pattern seed running) (isCompiled : running.IsCompiled)
      (named : fault.pattern = running.name) (place : running.IsPlace fault.position)

theorem Fault.isBreakOf_of_compile {name text : String} {fault : Fault}
    (broken : compile name text = .error fault) : fault.IsBreakOf name text := by
  obtain ⟨located, unread, same⟩ := exists_of_compile broken
  unfold Pattern.compile at unread
  exact ⟨located, breaksAt_of_tokenize (map_eq_error.mp unread), same⟩

section Runs

variable {engine : Engine} {name source : String} {pattern running : Pattern} {seed : UInt64}
  {store : Store} {top : Activation} {beneath : List Activation} {fault : Fault}

theorem HasRun.isCompiled (compiled : pattern.IsCompiled)
    (known : ∀ code ∈ engine.subroutines.codes, code.pattern.IsCompiled)
    (ran : HasRun engine pattern seed running) : running.IsCompiled := by
  obtain ⟨configuration, reachable, activation, member, rfl⟩ := ran
  exact Reachable.isCompiled compiled known reachable _ (code_mem_codes member)

/-- A step that fails points at code. -/
theorem Configuration.Reachable.pointsAtCode (keyed : engine.subroutines.Keyed)
    (known : ∀ code ∈ engine.subroutines.codes, code.pattern.IsCompiled)
    (compiled : compile name source = .ok pattern)
    (reachable : Reachable engine pattern seed ⟨store, top :: beneath⟩)
    (failed : step engine store top beneath = .error fault) :
    fault.PointsAtCode engine name source seed := by
  have runs {running : Pattern} (ran : HasRun engine pattern seed running)
      (named : fault.pattern = running.name) (place : running.IsPlace fault.position) :
      fault.PointsAtCode engine name source seed :=
    .running compiled ran (ran.isCompiled (isCompiled_of_compile compiled) known) named place
  have here : HasRun engine pattern seed top.pattern :=
    ⟨_, reachable, top, List.mem_cons_self, rfl⟩
  cases failsWith_of_step failed with
  | resume task tasks first failed =>
      have standsIn := Reachable.tasks Task.inherited_standsIn Subroutines.kept_keyed keyed
        reachable top List.mem_cons_self task (by simp [first])
      cases failed with
      | callTag passed failed =>
          obtain ⟨codes, signature, ⟨name, written, -⟩, -⟩ := standsIn
          have arises := Invocation.fails_perform _ _ _ fault failed
          exact runs here arises.named (arises.position ▸ written.place)
      | runGenerated broken =>
          exact .generated compiled reachable (.code first) (Fault.isBreakOf_of_compile broken)
      | defineGenerated broken =>
          exact .generated compiled reachable (.body first) (Fault.isBreakOf_of_compile broken)
      | settleArithmetic text problem => exact runs here rfl standsIn
  | stop token next failed =>
      have arises := Context.fails_constructStop (Code.read_of_tokenAt? next).2 fault failed
      exact runs here arises.named arises.place
  | read token stop next failed =>
      have arises := Context.fails_readConstruct (Code.read_of_tokenAt? next).2 fault failed
      exact runs here arises.named arises.place
  | overflow progress activation makes blamed same =>
      subst same
      exact runs (makes.hasRun keyed reachable blamed) rfl (isPlace_positionAt _ _)

end Runs

end Machine

/-! ### Preludes and runs -/

section Failures

variable {bare engine : Engine} {prelude : List PreludePattern} {name source : String}
  {seed : UInt64} {fault : Fault} {failure : Failure}

theorem Engine.pointsAtCode_of_runSource (plain : bare.subroutines = .empty)
    (made : bare.withPrelude prelude = .ok engine)
    (failed : engine.runSource name source seed = .error failure) :
    failure.fault.PointsAtCode engine name source seed := by
  have keyed : engine.subroutines.Keyed :=
    subroutines_withPrelude Subroutines.kept_keyed (plain ▸ Subroutines.keyed_empty) made
  have known := isCompiled_withPrelude plain made
  unfold Engine.runSource at failed
  split at failed
  · next broken =>
      cases failed
      exact .source (Fault.isBreakOf_of_compile broken)
  · next pattern compiled =>
      obtain ⟨last, fault?, reachable, ends, same⟩ := exists_run_eq engine pattern seed
      rw [Engine.run, same] at failed
      cases ends with
      | finished => cases failed
      | failed stepFailed =>
          cases failed
          exact Reachable.pointsAtCode keyed known compiled reachable stepFailed

/-- A prelude fails with the run of one of its patterns, on the engine that those before it made. -/
theorem Engine.exists_failure_of_withPrelude (failed : engine.withPrelude prelude = .error fault) :
    ∃ (before : List PreludePattern) (entry : PreludePattern) (behind : List PreludePattern)
      (made : Engine) (failure : Failure), prelude = before ++ entry :: behind ∧
        engine.withPrelude before = .ok made ∧
          made.runSource entry.name entry.source 0 = .error failure ∧ failure.fault = fault := by
  induction prelude generalizing engine with
  | nil => cases failed
  | cons entry entries inductionHypothesis =>
      rcases bind_eq_error.mp failed with broken | ⟨pattern, compiled, failed⟩
      · refine ⟨[], entry, entries, engine, ⟨fault, []⟩, rfl, rfl, ?_, rfl⟩
        rw [runSource, broken]
      rcases bind_eq_error.mp failed with unlearned | ⟨next, learned, failed⟩
      · unfold learn at unlearned
        split at unlearned
        · cases unlearned
        · next store _ ran =>
            cases unlearned
            refine ⟨[], entry, entries, engine, ⟨fault, store.output⟩, rfl, rfl, ?_, rfl⟩
            simp only [runSource, compiled, run, ran]
      · obtain ⟨before, failing, behind, made, failure, rfl, front, rest⟩ :=
          inductionHypothesis failed
        refine ⟨entry :: before, failing, behind, made, failure, rfl, ?_, rest⟩
        exact bind_eq_ok.mpr ⟨pattern, compiled, bind_eq_ok.mpr ⟨next, learned, front⟩⟩

/-- Every run that fails points at code, those of a prelude among them. -/
theorem Engine.failures_point_at_code (plain : bare.subroutines = .empty) :
    (∀ (prelude : List PreludePattern) (engine : Engine) (name source : String) (seed : UInt64)
      (failure : Failure), bare.withPrelude prelude = .ok engine →
        engine.runSource name source seed = .error failure →
          failure.fault.PointsAtCode engine name source seed) ∧
    ∀ (prelude : List PreludePattern) (fault : Fault), bare.withPrelude prelude = .error fault →
      ∃ (before : List PreludePattern) (entry : PreludePattern) (behind : List PreludePattern)
        (engine : Engine), prelude = before ++ entry :: behind ∧
          bare.withPrelude before = .ok engine ∧
            fault.PointsAtCode engine entry.name entry.source 0 := by
  constructor
  · intro prelude engine name source seed failure made failed
    exact pointsAtCode_of_runSource plain made failed
  · intro prelude fault failed
    obtain ⟨before, entry, behind, engine, failure, parts, made, broken, rfl⟩ :=
      exists_failure_of_withPrelude failed
    exact ⟨before, entry, behind, engine, parts, made, pointsAtCode_of_runSource plain made broken⟩

end Failures

/-! ### Text that is no code -/

namespace Unreadable

/-- The code prints a quote, and the text that it makes is to run. -/
def source : String := "[?\\\"]"

def pattern : Pattern :=
  (Pattern.compile "main" source).toOption.getD default

/-- The fault is that of the text, which is a string without an end. -/
def failure : Failure :=
  ⟨⟨"main?", .start, .malformed (.lexeme .unterminatedConstant)⟩, [⟨"main", .shared, ""⟩]⟩

theorem runSource_eq : Engine.standard.runSource "main" source 0 = .error failure := by
  have compiled : (Machine.compile "main" source).toOption = some pattern := by decide +kernel
  have observed : (after .standard 3 (start .standard pattern 0)).bind (outcome? .standard) =
      some (.error failure) := by decide +kernel
  exact runSource_of_after compiled observed

theorem failure_points_at_code : failure.fault.pattern = "main?" ∧
    Engine.standard.runSource "main" source 0 = .error failure ∧
      failure.fault.PointsAtCode .standard "main" source 0 := by
  have made : Engine.standard.withPrelude [] = .ok .standard := rfl
  exact ⟨rfl, runSource_eq,
    (Engine.failures_point_at_code rfl).1 [] .standard _ _ _ _ made runSource_eq⟩

end Unreadable

end SeededText
