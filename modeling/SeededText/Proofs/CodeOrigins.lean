import SeededText.Proofs.ArgumentPlans
import SeededText.Proofs.Containment
import SeededText.Proofs.OpenBlocks

/-!
Contract: the patterns that code of a run belongs to.

All patterns are compiled from their sources: the pattern of the run, those that define the
subroutines of the engine, and those that are made on the way. A block runs its items, and around
them code that tags have set; all of it belongs to patterns that were running when the block was
read or the tag was carried out.

Owns: that patterns are compiled, the code of blocks and where it comes from, that whatever is
blamed for a stack that is too high has been running.
Does not own: what code parts of a configuration hold (`SeededText.Proofs.CodeRanges`).
-/

namespace SeededText.Machine

open Pattern

variable {engine next bare : Engine} {prelude : List PreludePattern} {pattern : Pattern}
  {seed : UInt64} {store : Store} {top : Activation} {beneath : List Activation}
  {progress : Progress} {configuration reached : Configuration}

/-! ### Compiled patterns -/

/-- All code belongs to compiled patterns. -/
def Configuration.IsCompiled (configuration : Configuration) : Prop :=
  ∀ code ∈ configuration.codes, code.pattern.IsCompiled

namespace Configuration

theorem codes_of_settle (settled : settle engine top beneath progress = .ok reached) :
    reached.codes ⊆ progress.codes ++ (top :: beneath).flatMap Activation.codes := by
  obtain ⟨stored, origin⟩ := origin_of_settle settled
  intro code member
  rcases List.mem_append.mp member with inStore | inStack
  · exact List.mem_append_left _ (List.mem_append_left _ (stored inStore))
  · obtain ⟨activation, inside, held⟩ := List.mem_flatMap.mp inStack
    rcases origin activation inside with ⟨entry, entered, sink, rfl⟩ | present
    · have given : code ∈ entry.codes := by
        simpa [Activation.codes, Entry.codes, Activation.enter] using held
      refine List.mem_append_left _ (List.mem_append_right _ (List.mem_append_left _ ?_))
      exact List.mem_flatMap.mpr ⟨entry, entered, given⟩
    · refine List.mem_append_right _ ?_
      rcases List.mem_cons.mp present with rfl | lower
      · exact List.mem_flatMap.mpr ⟨top, List.mem_cons_self, held⟩
      · exact List.mem_flatMap.mpr ⟨activation, List.mem_cons_of_mem _ lower, held⟩

theorem code_mem_codes (member : top ∈ configuration.stack) : top.code ∈ configuration.codes :=
  List.mem_append_right _ (List.mem_flatMap.mpr ⟨top, member, List.mem_cons_self⟩)

/-- A step makes code only of patterns that are there, or that it compiles. -/
theorem Makes.isCompiled (makes : Makes engine configuration progress)
    (compiled : configuration.IsCompiled) : ∀ code ∈ progress.codes, code.pattern.IsCompiled := by
  cases makes with
  | @resumed store top beneath task tasks _ first resumed =>
      obtain ⟨patterns, made, codes⟩ := Context.codes_resume rfl resumed
      intro code member
      rcases List.mem_append.mp (codes member) with kept | new
      · exact compiled code (List.mem_append_left _ kept)
      · rcases List.mem_append.mp new with held | whole
        · refine compiled code (List.mem_append_right _ (List.mem_flatMap.mpr
            ⟨top, List.mem_cons_self, ?_⟩))
          simp [Activation.codes, first, held]
        · obtain ⟨pattern, present, rfl⟩ := List.mem_map.mp whole
          exact made pattern present
  | @read store top beneath token stop workspace construct idle next stopped reading =>
      have own := compiled top.code (code_mem_codes List.mem_cons_self)
      obtain ⟨⟨pieces, -, same⟩, constructCodes, ⟨spans, -, changed⟩⟩ :=
        Context.isCut_readConstruct stopped reading
      have stored : ∀ code ∈ (store.workspace top.sink).codes, code.pattern.IsCompiled :=
        fun code member => compiled code
          (List.mem_append_left _ (List.mem_append_left _ member))
      have cut (spans : List Span) :
          ∀ code ∈ spans.map (Code.mk top.pattern), code.pattern.IsCompiled :=
        List.forall_mem_map.mpr fun _ _ => own
      intro code member
      rcases List.mem_append.mp (Context.codes_begin _ _ _ _ member) with kept | new
      · rcases List.mem_append.mp kept with memory | other
        · exact (List.mem_append.mp (changed memory)).elim (stored code) (cut spans code)
        · exact compiled code (List.mem_append_left _ (List.mem_append_right _ other))
      · exact (List.mem_append.mp (constructCodes new)).elim (stored code)
          (same ▸ cut pieces code)
  | @completed store top below others completion idle ended completes =>
      intro code member
      rcases List.mem_append.mp (Context.codes_complete _ _ _ _ member) with kept | new
      · exact compiled code (List.mem_append_left _ (codes_release store top ▸ kept))
      · refine compiled code (List.mem_append_right _ (List.mem_flatMap.mpr
          ⟨top, List.mem_cons_self, ?_⟩))
        simp [Activation.codes, completes, new]

/-- How a step comes about: something is made and settled on what goes on of the stack, or the
activation on top is dropped. -/
inductive ComesAbout (engine : Engine) : Configuration → Configuration → Prop where
  | makes {configuration reached : Configuration} {progress : Progress} {renewed : Activation}
      {others : List Activation} (makes : Makes engine configuration progress)
      (goesOn : (renewed :: others).flatMap Activation.codes ⊆
        configuration.codes ++ progress.codes)
      (settled : settle engine renewed others progress = .ok reached) :
      ComesAbout engine configuration reached
  | drops (store : Store) (top : Activation) (beneath : List Activation) :
      ComesAbout engine ⟨store, top :: beneath⟩ ⟨release store top, beneath⟩

/-- An activation goes on with its own code, and with the code of the task that it is left with. -/
theorem codes_renewed (cursor : Nat) :
    ({ top with cursor := cursor, tasks := progress.task?.toList } :: beneath).flatMap
        Activation.codes ⊆
      Configuration.codes ⟨store, top :: beneath⟩ ++ progress.codes := by
  intro code member
  simp only [List.flatMap_cons, Activation.codes, Configuration.codes, Progress.codes,
    List.mem_append, List.mem_cons] at member ⊢
  tauto

theorem Steps.comesAbout (steps : Steps engine configuration reached)
    (wellStacked : WellStacked engine configuration) : ComesAbout engine configuration reached := by
  obtain @⟨store, top, beneath, _, stepped⟩ := steps
  cases stepped_of_step (wellStacked.ordered.tasks top List.mem_cons_self) stepped with
  | resume task progress tasks resumed settled =>
      exact .makes (.resumed tasks resumed) (codes_renewed top.cursor) settled
  | read token stop workspace construct idle next stopped reading settled =>
      exact .makes (.read idle next stopped reading) (codes_renewed stop) settled
  | leave idle ended left =>
      unfold leave at left
      split at left
      · next completion below others completes =>
          refine .makes (.completed idle ended completes) (fun code member => ?_) left
          exact List.mem_append_left _ (List.mem_append_right _ (List.mem_append_right _ member))
      · cases left
        exact .drops _ _ _

theorem Steps.isCompiled (steps : Steps engine configuration reached)
    (wellStacked : WellStacked engine configuration) (compiled : configuration.IsCompiled) :
    reached.IsCompiled := by
  intro code member
  cases steps.comesAbout wellStacked with
  | @makes _ _ progress _ _ makes goesOn settled =>
      have made := makes.isCompiled compiled
      rcases List.mem_append.mp (codes_of_settle settled member) with new | kept
      · exact made code new
      · exact (List.mem_append.mp (goesOn kept)).elim (compiled code) (made code)
  | drops store top beneath =>
      refine compiled code ?_
      rcases List.mem_append.mp member with stored | lower
      · exact List.mem_append_left _ (codes_release store top ▸ stored)
      · exact List.mem_append_right _ (List.mem_append_right _ lower)

theorem Reachable.isCompiled (compiled : pattern.IsCompiled)
    (known : ∀ code ∈ engine.subroutines.codes, code.pattern.IsCompiled)
    (reachable : Reachable engine pattern seed configuration) : configuration.IsCompiled := by
  induction reachable with
  | refl =>
      intro code member
      rcases List.mem_append.mp member with stored | active
      · refine known code ?_
        simpa [start, Store.codes, Store.fresh, Memory.codes, Memory.fresh, BlockAttributes.codes,
          BlockAttributes.standard] using stored
      · have same : code = .whole pattern := by
          simpa [start, Activation.codes, Activation.enter, Entry.shared] using active
        exact same ▸ compiled
  | tail before steps inductionHypothesis =>
      exact steps.isCompiled (Reachable.wellStacked before) inductionHypothesis

end Configuration

/-- The subroutines of a prelude belong to compiled patterns. -/
theorem isCompiled_withPrelude (plain : bare.subroutines = .empty)
    (made : bare.withPrelude prelude = .ok engine) :
    ∀ code ∈ engine.subroutines.codes, code.pattern.IsCompiled := by
  refine subroutines_of_withPrelude (∀ code ∈ ·.codes, code.pattern.IsCompiled) ?_
    (by simp [plain, Subroutines.codes]) made
  intro engine entry pattern configuration compiled known reachable code member
  refine Configuration.Reachable.isCompiled (isCompiled_of_compile compiled) known reachable code ?_
  exact List.mem_append_left _ (List.mem_append_left _ (List.mem_append_left _ member))

/-! ### Code of blocks -/

/-- Code that is set for the next block, and code of the blocks that are open. -/
def Store.blockCodes (store : Store) : List Code :=
  store.attributes.codes ++ store.repeaters.flatMap Repeater.codes

namespace Context

variable {context : Context} {sink depth : Nat}

theorem blockCodes_takeTurn (context : Context) (store : Store) (sink : Nat) :
    (context.takeTurn store sink).store.repeaters.flatMap Repeater.codes ⊆
        store.repeaters.flatMap Repeater.codes ∧
      (context.takeTurn store sink).move.codes ⊆ store.repeaters.flatMap Repeater.codes := by
  unfold takeTurn
  split
  · exact ⟨List.Subset.refl _, List.nil_subset _⟩
  · next repeater outer repeaters =>
      rw [repeaters, List.flatMap_cons]
      split
      · next advanced turn =>
          have kept := codes_advance turn
          constructor
          · show (advanced :: outer).flatMap Repeater.codes ⊆ _
            rw [List.flatMap_cons, kept]
            exact List.Subset.refl _
          · rw [Move.codes, Move.entries, codes_shared, ← kept]
            exact List.subset_append_of_subset_left _ fun code member =>
              codes_pieces _ _ (List.mem_reverse.mp member)
      · exact ⟨List.subset_append_right _ _, List.nil_subset _⟩

/-- Only a task that takes turns changes the blocks that are open. -/
theorem repeaters_of_resume {task : Task} (noTurn : task.takesTurn = false)
    (resumed : context.resume store sink task = .ok progress) :
    progress.store.repeaters = store.repeaters := by
  have lowers := (lowers_resume (by simp [noTurn]) resumed).keeps
  have plain : progress.task?.toList.any Task.takesTurn = false := by
    rw [Bool.eq_false_iff]
    intro taking
    obtain ⟨rfl, -⟩ := takeTurn_of_resume resumed (Configuration.takeTurn_of_any taking)
    cases noTurn
  rw [outerOf, outerOf, plain] at lowers
  simpa only [List.any_cons, noTurn, List.any_nil, Bool.or_self, Bool.false_eq_true, if_false]
    using lowers

/-- Tasks add nothing to the blocks that are open. -/
theorem repeaters_resume {task : Task} (resumed : context.resume store sink task = .ok progress) :
    progress.store.repeaters.flatMap Repeater.codes ⊆ store.repeaters.flatMap Repeater.codes := by
  cases turn : task.takesTurn with
  | true =>
      obtain rfl : task = .takeTurn := by
        cases task <;> first | rfl | cases turn
      cases resumed
      exact (blockCodes_takeTurn _ _ _).1
  | false =>
      rw [repeaters_of_resume turn resumed]
      exact List.Subset.refl _

/-- Where more than one piece of code is entered, it is code of the innermost block. -/
theorem entries_resume {task : Task} (resumed : context.resume store sink task = .ok progress) :
    ∀ entry ∈ progress.move.entries.dropLast,
      entry.code ∈ store.repeaters.flatMap Repeater.codes := by
  cases task with
  | takeTurn =>
      cases resumed
      intro entry member
      refine (blockCodes_takeTurn context store sink).2 (List.mem_flatMap.mpr
        ⟨entry, List.dropLast_subset _ member, List.mem_cons_self⟩)
  | callTag call =>
      unfold resume resumeTag at resumed
      dsimp only at resumed
      split at resumed
      · cases resumed
        nofun
      · obtain ⟨outcome, -, rfl⟩ := map_eq_ok.mp resumed
        unfold Store.follow
        cases outcome.request <;> nofun
  | callSubroutine call =>
      cases resumed
      unfold resumeSubroutine
      split <;> nofun
  | findMatches regex code | replaceMatches replacement =>
      cases resumed
      unfold replaceNext
      split <;> nofun
  | runGenerated | settleArithmetic isStatement position | defineGenerated name parameters =>
      obtain ⟨_, -, rfl⟩ := map_eq_ok.mp resumed
      nofun

/-- What a construct adds to the blocks that are open is its own code and what was set for it. -/
theorem blockCodes_begin {workspace changed : Workspace} {index stop : Nat} {token : Token}
    {construct : Construct}
    (reading : context.readConstruct workspace index stop token = .ok (changed, construct)) :
    ∀ code ∈ (context.begin store depth construct).store.repeaters.flatMap Repeater.codes,
      code ∈ store.repeaters.flatMap Repeater.codes ++ workspace.attributes.codes ∨
        code.pattern = context.pattern := by
  intro code member
  cases construct with
  | block repeater =>
      obtain ⟨-, rfl⟩ := block_of_readConstruct reading
      simp only [begin, leaveTask, List.flatMap_cons, List.mem_append] at member ⊢
      rcases member with own | outer
      · rcases List.mem_append.mp own with item | set
        · obtain ⟨span, -, rfl⟩ := List.mem_map.mp item
          exact .inr rfl
        · exact .inl (.inr set)
      · exact .inl (.inl outer)
  | _ => exact .inl (List.mem_append_left _ member)

theorem entries_begin (context : Context) (store : Store) (depth : Nat) (construct : Construct) :
    (context.begin store depth construct).move.entries.dropLast = [] := by
  cases construct <;> rfl

theorem entries_complete (context : Context) (store : Store) (sink : Nat)
    (completion : Completion) :
    (context.complete store sink completion).move.entries.dropLast = [] := by
  rcases Configuration.move_complete context store sink completion with none | ⟨fallback, -, one⟩
  · rw [none]
    rfl
  · rw [one]
    rfl

end Context

namespace Configuration

/-- A step adds code only of patterns that are running. -/
theorem Makes.blockCodes (makes : Makes engine configuration progress)
    (standsIn : ∀ activation ∈ configuration.stack, ∀ task ∈ activation.tasks,
      task.StandsIn activation.pattern) :
    ∀ code ∈ progress.store.blockCodes,
      code ∈ configuration.store.blockCodes ∨ configuration.IsRunning code.pattern := by
  intro code member
  cases makes with
  | @resumed store top beneath task tasks _ first resumed =>
      rcases List.mem_append.mp member with set | turn
      · have attributes := (Context.handsOn_resume resumed).attributes
        rcases List.mem_append.mp (attributes set) with kept | handed
        · exact .inl (List.mem_append_left _ kept)
        · cases task with
          | callTag call =>
              have stands := standsIn top List.mem_cons_self (.callTag call) (by simp [first])
              obtain ⟨codes, signature, ⟨name, written, -⟩, -, carries⟩ := stands
              have own := carries.codes handed
              rw [codes_ofParameters] at own
              exact .inr ⟨top, List.mem_cons_self, (written.pattern code own).symm⟩
          | _ => cases handed
      · exact .inl (List.mem_append_right _ (Context.repeaters_resume resumed turn))
  | @read store top beneath token stop workspace construct idle next stopped reading =>
      rcases List.mem_append.mp member with set | turn
      · rw [Context.toMemory_begin] at set
        have kept := (Context.handsOn_readConstruct _ _ _ _ _ _ reading).attributes set
        rw [List.append_nil] at kept
        exact .inl (List.mem_append_left _ kept)
      · rcases Context.blockCodes_begin reading code turn with kept | own
        · refine .inl ?_
          rcases List.mem_append.mp kept with outer | set
          · exact List.mem_append_right _ outer
          · exact List.mem_append_left _ set
        · exact .inr ⟨top, List.mem_cons_self, own.symm⟩
  | @completed store top below others completion idle ended completes =>
      refine .inl ?_
      unfold Store.blockCodes at member
      rw [Context.toMemory_complete, repeaters_complete, memory_release,
        repeaters_release] at member
      exact member

theorem Makes.entries (makes : Makes engine configuration progress) :
    ∀ entry ∈ progress.move.entries.dropLast, entry.code ∈ configuration.store.blockCodes := by
  intro entry member
  cases makes with
  | resumed first resumed =>
      exact List.mem_append_right _ (Context.entries_resume resumed entry member)
  | read idle next stopped reading =>
      rw [Context.entries_begin] at member
      cases member
  | completed idle ended completes =>
      rw [Context.entries_complete] at member
      cases member

theorem repeaters_leaveBlock (configuration : Configuration) :
    configuration.leaveBlock.store.repeaters.flatMap Repeater.codes =
      configuration.store.repeaters.flatMap Repeater.codes := by
  unfold leaveBlock
  dsimp only
  split
  · rfl
  · next some _ =>
      rw [some]
      rfl
  · next some _ =>
      rw [some]
      rfl

theorem blockCodes_settle (settled : settle engine top beneath progress = .ok reached) :
    reached.store.blockCodes = progress.store.blockCodes := by
  have memory := memory_settle settled
  unfold Store.blockCodes
  rw [memory]
  unfold settle at settled
  cases move : progress.move with
  | enter entries =>
      rw [move] at settled
      have same := congrArg Surroundings.repeaters (surroundings_enterAll settled)
      exact congrArg (_ ++ List.flatMap Repeater.codes ·) same
  | leaveBlock =>
      rw [move] at settled
      cases settled
      rw [repeaters_leaveBlock]

theorem Steps.blockCodes (steps : Steps engine configuration reached)
    (wellStacked : WellStacked engine configuration)
    (standsIn : ∀ activation ∈ configuration.stack, ∀ task ∈ activation.tasks,
      task.StandsIn activation.pattern) :
    ∀ code ∈ reached.store.blockCodes,
      code ∈ configuration.store.blockCodes ∨ configuration.IsRunning code.pattern := by
  cases steps.comesAbout wellStacked with
  | makes makes goesOn settled =>
      rw [blockCodes_settle settled]
      exact makes.blockCodes standsIn
  | drops store top beneath =>
      unfold Store.blockCodes
      rw [memory_release, repeaters_release]
      exact fun _ => .inl

/-- The code of blocks belongs to patterns that have been running. -/
theorem Reachable.blockCodes (keyed : engine.subroutines.Keyed)
    (reachable : Reachable engine pattern seed configuration) :
    ∀ code ∈ configuration.store.blockCodes, HasRun engine pattern seed code.pattern := by
  induction reachable with
  | refl => nofun
  | tail before steps inductionHypothesis =>
      have standsIn := Reachable.tasks Task.inherited_standsIn Subroutines.kept_keyed keyed before
      intro code member
      have origin := steps.blockCodes (Reachable.wellStacked before) standsIn code member
      rcases origin with held | running
      · exact inductionHypothesis code held
      · exact ⟨_, before, running⟩

/-- Whatever is to be blamed for a stack that is too high has been running. -/
theorem Makes.hasRun {activation : Activation} (keyed : engine.subroutines.Keyed)
    (reachable : Reachable engine pattern seed configuration)
    (makes : Makes engine configuration progress)
    (blamed : configuration.IsRunning activation.pattern ∨
      activation.IsEntered progress.move.entries.dropLast) :
    HasRun engine pattern seed activation.pattern := by
  rcases blamed with running | ⟨entry, member, sink, rfl⟩
  · exact ⟨configuration, reachable, running⟩
  · exact Reachable.blockCodes keyed reachable entry.code (makes.entries entry member)

end Configuration

end SeededText.Machine
