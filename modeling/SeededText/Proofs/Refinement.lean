import SeededText.Proofs.Blocks
import SeededText.Proofs.Isolation
import SeededText.Proofs.Verbatim

/-!
Contract: a run gives what the evaluation of its pattern gives.

Owns: how the steps of a run carry out code, evaluators with enough depth, whole runs.
Does not own: single constructs (`SeededText.Proofs.Constructs`, `SeededText.Proofs.Blocks`).
-/

namespace SeededText.Machine

open Output SeededText.Machine.Configuration

section Codes

variable {engine : Engine} {evaluate : Evaluator} {store : Store} {top : Activation}
  {beneath : List Activation} {configuration : Configuration} {workspace : Workspace}

theorem Sound.construct (sound : Sound engine (beneath.length + 1) evaluate)
    (seat : Seat engine store top beneath) (construct : Construct)
    (proceeds : Proceeds engine configuration top beneath
      ((top.context engine store).begin store beneath.length construct)) :
    Realizes engine ⟨beneath, store, top.sink⟩ (Resumes store top beneath) configuration
      (evaluate.construct (top.context engine store) construct (store.workspace top.sink)) := by
  cases construct with
  | nothing =>
      refine .finishes (proceeds.stays rfl) ?_
      rw [Resumes, store.absorb_workspace]
      rfl
  | block repeater => exact sound.block seat proceeds
  | tag operation position planned => exact sound.tag seat proceeds
  | call subroutine position planned => exact sound.call seat proceeds
  | replacer regex input replacement => exact sound.replacer seat proceeds
  | generated source => exact sound.generated seat proceeds
  | arithmetic isStatement position source =>
      exact sound.consumed seat
        (fun workspace text =>
          (top.context engine store).settleArithmetic workspace isStatement position text)
        (fun _ => rfl) proceeds
  | definition name parameters source =>
      exact sound.consumed seat
        (fun workspace text =>
          (top.context engine store).defineGenerated workspace name parameters text)
        (fun _ => rfl) proceeds

/-- The end of code that goes on somewhere is the end of the code before. -/
theorem AtEnd.behind {later : Activation} {reached : Configuration} {made : Workspace}
    (ended : AtEnd (store.absorb top.sink workspace) later beneath () made reached)
    (continues : later.Continues top) : AtEnd store top beneath () made reached := by
  obtain ⟨last, rfl, atEnd, same⟩ := ended
  refine ⟨last, ?_, atEnd, same.trans continues⟩
  rw [continues.sink, Store.absorb_absorb]

/-- Code from the next token of an activation on. -/
theorem Sound.codeFrom (sound : Sound engine (beneath.length + 1) evaluate) {store : Store}
    {top : Activation} (seat : Seat engine store top beneath) (idle : top.tasks = []) :
    Realizes engine ⟨beneath, store, top.sink⟩ (AtEnd store top beneath) ⟨store, top :: beneath⟩
      (Evaluator.codeFrom engine evaluate store.scope top.code top.cursor top.elseArmed
        (store.workspace top.sink)) := by
  -- The recursion is on the tokens that are left; behind a construct the activation is idle again.
  cases next : top.nextToken? with
  | none =>
      rw [Evaluator.codeFrom_of_end next]
      refine .finishes .refl ⟨top, ?_, ⟨idle, next⟩, ⟨rfl, rfl, rfl, rfl⟩⟩
      rw [store.absorb_workspace]
  | some token =>
      have unchanged : Frame.Shows ⟨beneath, store, top.sink⟩ (store.workspace top.sink) store :=
        Frame.shows_workspace beneath top.sink rfl rfl
      cases stopped : (top.context engine store).constructStop top.cursor token with
      | error fault =>
          rw [Evaluator.codeFrom_of_fault next stopped]
          exact .fails .refl (.failed (step_of_unstopped idle next stopped)) unchanged
      | ok behind =>
          cases reading : (top.context engine store).readConstruct (store.workspace top.sink)
              top.cursor behind token with
          | error fault =>
              rw [Evaluator.codeFrom_of_unread next stopped reading]
              exact .fails .refl (.failed (step_of_unread idle next stopped reading)) unchanged
          | ok read =>
              obtain ⟨workspace, construct⟩ := read
              let ahead : Activation := { top with cursor := behind }
              have proceeds : Proceeds engine ⟨store, top :: beneath⟩ ahead beneath
                  ((ahead.context engine (store.absorb top.sink workspace)).begin
                    (store.absorb top.sink workspace) beneath.length construct) :=
                ⟨store, top, beneath, rfl, step_of_read idle next stopped reading⟩
              have seat' : Seat engine (store.absorb top.sink workspace) ahead beneath :=
                (seat.absorb top.sink workspace).renew ⟨rfl, rfl, rfl, rfl⟩
              have done := sound.construct seat' construct proceeds
              rw [Evaluator.codeFrom_of_read next stopped reading]
              refine (done.behind seat.inside).bind ?_
              intro elseArmed workspace reached resumes
              have resumed : reached =
                  ⟨store.absorb top.sink workspace, ahead.idle elseArmed :: beneath⟩ := by
                rw [resumes, Store.absorb_absorb]
              have seat' : Seat engine (store.absorb top.sink workspace) (ahead.idle elseArmed)
                  beneath := (seat.absorb top.sink workspace).renew ⟨rfl, rfl, rfl, rfl⟩
              have others := (sound.codeFrom seat' rfl).further fun _ _ _ ended =>
                ⟨_, .refl, ended.behind ⟨rfl, rfl, rfl, rfl⟩⟩
              rw [resumed]
              exact others.behind seat.inside
termination_by top.code.span.stop - top.cursor
decreasing_by
  have unread : top.cursor < top.code.span.stop := Code.lt_stop_of_tokenAt? ‹_›
  have ahead := Context.lt_of_constructStop ‹_›
  simp only [Activation.idle]
  omega

end Codes

/-- An evaluator with enough depth is carried out. -/
theorem sound_nested {engine : Engine} {height depth : Nat}
    (deep : heightLimit engine < height + depth) :
    Sound engine height (Evaluator.nested engine depth) := by
  induction depth generalizing height with
  | zero =>
      -- Where depth has run out, the stack is too high for anything to have a seat.
      refine ⟨fun seat high => ?_, fun low => ?_⟩
      · have := seat.height
        omega
      · omega
  | succ depth inductionHypothesis =>
      refine ⟨fun seat high => ?_, fun low scope code workspace verbatim => ?_⟩
      · exact (inductionHypothesis (by omega)).codeFrom seat rfl
      · exact Evaluator.text_of_isVerbatim engine depth scope workspace verbatim

/-! ### Runs -/

section Runs

variable {engine : Engine} {pattern : Pattern} {seed : UInt64}

theorem Seat.start (engine : Engine) (pattern : Pattern) (seed : UInt64) :
    Seat engine (.fresh engine seed) (.enter (.shared (.whole pattern)) 0) [] where
  size := rfl
  sink := rfl
  height := Nat.lt_of_lt_of_le Nat.one_pos (Nat.le_max_left 1 engine.settings.maxStackDepth)

/-- The outcome of a run is that of any configuration that it reaches and that has no next step. -/
theorem run_of_reaches {last : Configuration} {fault? : Option Fault}
    (reaches : Reachable engine pattern seed last) (ends : last.Ends engine fault?) :
    run engine pattern seed = (last.store, fault?) :=
  runStack_of_reaches (.start engine pattern seed) reaches ends

/-- Unless the stack gets too high, the evaluation of a pattern gives the memory, the sink and the
fault of its run. -/
theorem evaluate_eq {depth : Nat} (deep : heightLimit engine < depth)
    (fits : ∀ fault, (run engine pattern seed).2 = some fault →
      fault.cause ≠ .misused .stackOverflow) :
    evaluate engine depth pattern seed =
      some ((run engine pattern seed).1.workspace 0, endingOf (run engine pattern seed).2) := by
  have sound : Sound engine 0 (Evaluator.nested engine depth) := sound_nested (by omega)
  have realizes : Realizes engine ⟨[], .fresh engine seed, 0⟩
      (AtEnd (.fresh engine seed) (.enter (.shared (.whole pattern)) 0) [])
      (.start engine pattern seed) (evaluate engine depth pattern seed) :=
    sound.realizes (Seat.start engine pattern seed) (Nat.le_refl 0)
  generalize evaluate engine depth pattern seed = result at realizes
  cases realizes with
  | overflows overflows =>
      obtain ⟨last, fault, reaches, ends, cause⟩ := overflows
      have outcome := run_of_reaches reaches ends
      exact absurd cause (fits fault (congrArg Prod.snd outcome))
  | @finishes _ workspace _ reaches finished =>
      obtain ⟨later, rfl, ended, continues⟩ := finished
      rw [run_of_reaches (reaches.trans (reaches_leave_shared ended continues)) .finished]
      rfl
  | leaves reaches inBlock size keeps shows =>
      -- A run starts outside all blocks.
      exact absurd keeps.repeaters inBlock
  | @fails workspace fault last reaches ends shows =>
      have sink : last.store.sinkAt 0 = workspace.sink := by
        rw [Store.sinkAt, Array.getD_eq_getD_getElem?, shows.sinks 0 (Nat.zero_le _)]
        rfl
      rw [run_of_reaches reaches ends, Store.workspace, shows.memory, sink]
      rfl

theorem run_eq_report (engine : Engine) (pattern : Pattern) (seed : UInt64) :
    engine.run pattern seed =
      reportOf (run engine pattern seed).1.output (run engine pattern seed).2 := by
  rw [Engine.run]
  split <;> next outcome =>
    rw [outcome]
    rfl

theorem evaluate_eq_of_fits {depth : Nat} (deep : heightLimit engine < depth)
    (fits : ∀ failure, engine.run pattern seed = .error failure →
      failure.fault.cause ≠ .misused .stackOverflow) :
    evaluate engine depth pattern seed =
      some ((run engine pattern seed).1.workspace 0, endingOf (run engine pattern seed).2) := by
  refine evaluate_eq deep fun fault failed => fits ⟨fault, (run engine pattern seed).1.output⟩ ?_
  rw [run_eq_report, failed]
  rfl

/-- A run refines the evaluation of its pattern. Unless the stack gets too high, both have the same
output or the same fault with the same output before it. Both also leave the same memory, and with it
the generators at the same places of their streams: the same words were drawn in the same order. -/
theorem run_refines_evaluate {depth : Nat} (deep : heightLimit engine < depth)
    (fits : ∀ failure, engine.run pattern seed = .error failure →
      failure.fault.cause ≠ .misused .stackOverflow) :
    evaluateReport engine depth pattern seed = some (engine.run pattern seed) ∧
      evaluate engine depth pattern seed =
        some ((run engine pattern seed).1.workspace 0, endingOf (run engine pattern seed).2) := by
  have evaluated := evaluate_eq_of_fits deep fits
  refine ⟨?_, evaluated⟩
  rw [evaluateReport, evaluated, run_eq_report]
  cases (run engine pattern seed).2 <;> rfl

end Runs

/-! ### The run of an empty trial -/

namespace Configuration.EmptyTrial

/-- The store behind the fallback. -/
def written : Store :=
  (Store.fresh .standard 0).absorb 0 ((Workspace.fresh .standard 0).write "x")

theorem steps_written : Steps .standard fallenBack
    ⟨written, [{ Activation.enter (.shared fallback) 0 with cursor := 5 }, read]⟩ := ⟨rfl⟩

theorem run_pattern : run .standard pattern 0 = (written, none) := by
  have reaches : Reaches .standard (.start .standard pattern 0) ⟨written, []⟩ :=
    .head steps_called <| .head steps_started <| .head steps_fallenBack <| .head steps_written <|
      (reaches_leave .standard written [read] ⟨rfl, rfl⟩ rfl).trans
        (reaches_leave .standard written [] ⟨rfl, rfl⟩ rfl)
  exact run_of_reaches reaches .finished

theorem evaluateReport_pattern :
    heightLimit .standard < 4097 ∧
      (∀ failure, Engine.standard.run pattern 0 = .error failure →
        failure.fault.cause ≠ .misused .stackOverflow) ∧
      evaluateReport .standard 4097 pattern 0 = some (.ok [⟨mainChannel, .shared, "x"⟩]) := by
  have deep : heightLimit .standard < 4097 := by decide
  have output : Engine.standard.run pattern 0 = .ok [⟨mainChannel, .shared, "x"⟩] := by
    rw [Engine.run, run_pattern]
    rfl
  have fits (failure : Failure) (failed : Engine.standard.run pattern 0 = .error failure) :
      failure.fault.cause ≠ .misused .stackOverflow := by
    rw [output] at failed
    cases failed
  refine ⟨deep, fits, ?_⟩
  rw [(run_refines_evaluate deep fits).1, output]

end Configuration.EmptyTrial
end SeededText.Machine
