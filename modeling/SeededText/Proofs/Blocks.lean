import SeededText.Proofs.Constructs

/-!
Contract: how the steps of a run carry out blocks.

The pieces of a turn lie on the stack above the activation of their block, all at once. `break` cuts
the stack down to that activation, and brings the store back to what it was when the block was
entered, apart from what has been written.

Owns: the pieces of a turn, leaving a block, the turns.
Does not own: other constructs (`SeededText.Proofs.Constructs`).
-/

namespace SeededText.Machine

open SeededText.Machine.Configuration

section Blocks

variable {engine : Engine} {evaluate : Evaluator} {store : Store} {top : Activation}
  {beneath : List Activation} {configuration : Configuration} {workspace : Workspace}

/-- Activations at the start of pieces of code that write to one sink. -/
def entered (codes : List Code) (sink : Nat) : List Activation :=
  codes.map fun code => .enter (.shared code) sink

theorem countP_entered (codes : List Code) (sink : Nat) :
    (entered codes sink).countP Activation.ownsSink = 0 := by
  simp [entered, List.countP_eq_zero, Activation.enter, Entry.shared]

/-- Pieces of code lie on the stack with the last of them on top. -/
theorem Configuration.enterAll_shared {codes : List Code} {reached : Configuration}
    (height : beneath.length < heightLimit engine)
    (succeeds : enterAll engine (codes.map .shared) ⟨store, top :: beneath⟩ = .ok reached) :
    reached = ⟨store, entered codes.reverse top.sink ++ top :: beneath⟩ ∧
      reached.stack.length ≤ heightLimit engine := by
  induction codes generalizing top beneath with
  | nil =>
      cases succeeds
      exact ⟨rfl, height⟩
  | cons code codes inductionHypothesis =>
      obtain ⟨higher, first, succeeds⟩ := bind_eq_ok.mp succeeds
      obtain ⟨room, rfl⟩ := enter_ok first
      have higher : (top :: beneath).length < heightLimit engine := by
        simp only [heightLimit, List.length_cons]
        omega
      obtain ⟨rfl, limited⟩ := inductionHypothesis higher succeeds
      refine ⟨?_, limited⟩
      rw [List.reverse_cons, entered, entered, List.map_append, List.append_assoc]
      rfl

theorem Sound.pieces (sound : Sound engine (beneath.length + 1) evaluate) (codes : List Code)
    (seat : Seat engine store top beneath)
    (height : (entered codes top.sink ++ top :: beneath).length ≤ heightLimit engine) :
    Realizes engine ⟨top :: beneath, store, top.sink⟩
      (fun _ workspace reached => reached = ⟨store.absorb top.sink workspace, top :: beneath⟩)
      ⟨store, entered codes top.sink ++ top :: beneath⟩
      (evaluate.pieces store.scope codes (store.workspace top.sink)) := by
  induction codes generalizing store with
  | nil =>
      refine .finishes .refl ?_
      rw [store.absorb_workspace]
      rfl
  | cons code codes inductionHypothesis =>
      have lower : (entered codes top.sink ++ top :: beneath).length < heightLimit engine := height
      have seat' : Seat engine store (.enter (.shared code) top.sink)
          (entered codes top.sink ++ top :: beneath) := by
        refine ⟨?_, seat.sink, lower⟩
        rw [List.countP_cons, List.countP_append, countP_entered, Nat.zero_add]
        exact seat.size
      have within : Frame.Within id ⟨entered codes top.sink ++ top :: beneath, store, top.sink⟩
          ⟨top :: beneath, store, top.sink⟩ :=
        ⟨List.suffix_append _ _, fun _ => rfl, fun _ _ _ => rfl⟩
      have high : beneath.length + 1 ≤ (entered codes top.sink ++ top :: beneath).length := by
        simp
      refine ((sound.realizes seat' high).of_within within (.refl store)).bind ?_
      rintro ⟨⟩ workspace reached ⟨later, rfl, ended, continues⟩
      have others := inductionHypothesis (seat.absorb top.sink workspace) (Nat.le_of_lt lower)
      simp only [Store.absorb_absorb] at others
      exact (others.of_reaches (reaches_leave_shared ended continues)).behind seat.inside

/-- The store inside a block whose activation has the index `depth`. -/
def Store.inBlock (store : Store) (depth : Nat) (repeater : Repeater) : Store :=
  { store with
    repeaters := repeater :: store.repeaters
    bases := ⟨depth, store.heights⟩ :: store.bases }

theorem Store.lowest_of_suffix {α : Type} {stack higher : List α} (suffix : stack <:+ higher) :
    lowest stack.length higher = stack := by
  obtain ⟨above, rfl⟩ := suffix
  simp [lowest]

/-- Leaving a block brings back everything from before but what its code has made. -/
theorem Configuration.leaveBlock_inBlock {repeater : Repeater} {left : Store}
    {above : List Activation} (seat : Seat engine store top beneath)
    (keeps : (store.inBlock beneath.length repeater).Keeps left)
    (size : left.sinks.size = (above ++ top :: beneath).countP Activation.ownsSink + 1)
    (shows : Frame.Shows ⟨top :: beneath, store.inBlock beneath.length repeater, top.sink⟩ workspace
      left) :
    leaveBlock ⟨left, above ++ top :: beneath⟩ =
      ⟨(store.absorb top.sink workspace).inBlock beneath.length repeater.finish,
        top :: beneath⟩ := by
  have repeaters : left.repeaters = repeater :: store.repeaters := keeps.repeaters
  have bases : left.bases = ⟨beneath.length, store.heights⟩ :: store.bases := keeps.bases
  have sinks : left.sinks.take (left.sinks.size - above.countP Activation.ownsSink) =
      (store.absorb top.sink workspace).sinks := by
    have whole := seat.size
    have same : (store.absorb top.sink workspace).sinks.size = store.sinks.size := by
      simp [Store.absorb]
    rw [List.countP_append] at size
    apply Array.ext_getElem?
    intro index
    rw [Array.take_eq_extract, Array.getElem?_extract, Nat.zero_add]
    split
    · next inside =>
        exact shows.sinks index (show index ≤ (top :: beneath).countP Activation.ownsSink by omega)
    · next outside => exact (Array.getElem?_eq_none (by omega)).symm
  have comparisons : Store.lowest store.comparisons.length left.comparisons = store.comparisons :=
    Store.lowest_of_suffix keeps.comparisons
  have bindings : Store.lowest store.bindings.length left.bindings = store.bindings :=
    Store.lowest_of_suffix keeps.bindings
  have matchStack : Store.lowest store.matchStack.length left.matchStack = store.matchStack :=
    Store.lowest_of_suffix keeps.matchStack
  have results : Store.lowest store.results.length left.results = store.results :=
    Store.lowest_of_suffix keeps.results
  have excess : (above ++ top :: beneath).length - (beneath.length + 1) = above.length := by simp
  have dropped : (above ++ top :: beneath).take above.length = above := by simp
  have kept : (above ++ top :: beneath).drop above.length = top :: beneath := by simp
  simp only [leaveBlock, unwindTo, repeaters, bases, Store.cutTo, Store.heights, comparisons,
    bindings, matchStack, results, excess, dropped, kept, sinks, shows.memory]
  rfl

/-- A block without more turns is done. -/
theorem Configuration.steps_outOfBlock {repeater : Repeater}
    (noTurn : repeater.advance.1 = false) :
    Steps engine ⟨store.inBlock beneath.length repeater, top.busy .takeTurn :: beneath⟩
      ⟨store, top.idle top.elseArmed :: beneath⟩ := by
  have turn : repeater.advance = (false, repeater.advance.2) := Prod.ext noTurn rfl
  have tasks : (top.busy .takeTurn).tasks = [.takeTurn] := rfl
  constructor
  rw [step_of_task tasks]
  simp only [Context.resume, Context.takeTurn, Store.inBlock]
  rw [turn]
  rfl

theorem Configuration.reaches_outOfBlock {repeater : Repeater}
    (noTurn : repeater.advance.1 = false) :
    Reaches engine ⟨store.inBlock beneath.length repeater, top.busy .takeTurn :: beneath⟩
      ⟨store, top.idle top.elseArmed :: beneath⟩ :=
  .single (steps_outOfBlock noTurn)

theorem Sound.turns (sound : Sound engine (beneath.length + 1) evaluate) {store : Store}
    (seat : Seat engine store top beneath) (repeater : Repeater) :
    Realizes engine ⟨beneath, store, top.sink⟩
      (fun _ workspace reached =>
        reached = ⟨store.absorb top.sink workspace, top.idle top.elseArmed :: beneath⟩)
      ⟨store.inBlock beneath.length repeater, top.busy .takeTurn :: beneath⟩
      ((evaluate.turns store.scope repeater).untilLeft (store.workspace top.sink)) := by
  rw [Evaluator.turns]
  split
  · next finished turn =>
      refine .finishes (reaches_outOfBlock (by rw [turn])) ?_
      rw [store.absorb_workspace]
  · next advanced turn =>
      let choice := ((store.workspace top.sink).chooseItem advanced).1
      let chosen := ((store.workspace top.sink).chooseItem advanced).2
      let base := top.busy .takeTurn
      have enters : Proceeds engine ⟨store.inBlock beneath.length repeater, base :: beneath⟩ top
          beneath ⟨(store.absorb top.sink chosen).inBlock beneath.length advanced,
            .enter ((advanced.pieces choice).reverse.map .shared), top.elseArmed,
            some .takeTurn⟩ := by
        refine .of_resume rfl ?_
        simp only [Context.resume, Context.takeTurn, Store.inBlock, turn]
        rfl
      rcases enters.enters rfl with overflows | ⟨reached, reaches, succeeds⟩
      · exact .overflows overflows
      · obtain ⟨rfl, limited⟩ := enterAll_shared seat.height succeeds
        rw [List.reverse_reverse] at reaches limited
        have seat' : Seat engine ((store.absorb top.sink chosen).inBlock beneath.length advanced)
            base beneath := ((seat.absorb top.sink chosen).busy .takeTurn).of_sinks rfl
        have pieces := sound.pieces (advanced.pieces choice) seat' limited
        have known : ((store.absorb top.sink chosen).inBlock beneath.length advanced).workspace
            base.sink = chosen := Store.workspace_absorb seat.inside chosen
        rw [known] at pieces
        have within : Frame.Within id
            ⟨base :: beneath, (store.absorb top.sink chosen).inBlock beneath.length advanced,
              base.sink⟩ ⟨beneath, store, top.sink⟩ := by
          refine ⟨List.suffix_cons _ _, fun _ => rfl, ?_⟩
          exact (Frame.within_absorb beneath store top.sink chosen).sinks
        have chose : Evaluator.chooseItem advanced (store.workspace top.sink) =
            some (chosen, .ok choice) := rfl
        rw [Evaluation.untilLeft_of_ok chose]
        refine .of_reaches reaches (pieces.untilLeft within ?_ ?_)
        · -- The pieces came to their end, and the next turn follows.
          rintro workspace reached rfl
          have others := sound.turns (seat.absorb top.sink workspace) advanced
          have same : ((store.absorb top.sink chosen).inBlock beneath.length advanced).absorb
              base.sink workspace = (store.absorb top.sink workspace).inBlock beneath.length
                advanced :=
            congrArg (fun store => Store.inBlock store beneath.length advanced)
              (store.absorb_absorb top.sink chosen workspace)
          simp only [Store.absorb_absorb] at others
          rw [same]
          exact others.behind seat.inside
        · -- A piece left the block, whose repeater is then finished.
          intro workspace above left size keeps shows
          have seat' : Seat engine (store.absorb top.sink chosen) base beneath :=
            (seat.absorb top.sink chosen).busy .takeTurn
          rw [leaveBlock_inBlock seat' keeps size shows]
          refine ⟨_, reaches_outOfBlock rfl, ?_⟩
          show Configuration.mk ((store.absorb top.sink chosen).absorb top.sink workspace) _ = _
          rw [Store.absorb_absorb]
termination_by repeater.remaining
decreasing_by exact Repeater.remaining_advance ‹_›

theorem Sound.block (sound : Sound engine (beneath.length + 1) evaluate)
    (seat : Seat engine store top beneath) {repeater : Repeater}
    (proceeds : Proceeds engine configuration top beneath
      ⟨store.inBlock beneath.length repeater, .enter [], top.elseArmed, some .takeTurn⟩) :
    Realizes engine ⟨beneath, store, top.sink⟩ (Resumes store top beneath) configuration
      (evaluate.construct (top.context engine store) (.block repeater)
        (store.workspace top.sink)) := by
  exact .of_reaches (proceeds.stays rfl) (sound.turns seat repeater).returns

end Blocks

end SeededText.Machine
