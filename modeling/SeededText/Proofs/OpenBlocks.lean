import SeededText.Proofs.Blocks
import SeededText.Proofs.Brackets
import SeededText.Proofs.Isolation

/-!
Contract: an open block keeps what was there when it was entered.

From the step that enters a block until the block is left, its activation waits on the stack for
turns. Meanwhile the stacks of the store grow and shrink, but what was on them when the block was
entered stays at the bottom, and the sinks below that of the block do not change.

Owns: the step that enters a block, what a step may do to the stacks that code sees, the history of
every activation that takes turns.
Does not own: leaving a block (`SeededText.Proofs.Breaks`).
-/

namespace SeededText.Machine

open SeededText.Machine.Configuration

/-! ### The stacks that code sees -/

/-- One of two stacks is the bottom of the other. -/
def Nested {α : Type} (first second : List α) : Prop :=
  first <:+ second ∨ second <:+ first

section Nesting

variable {α : Type} {bottom first second : List α}

theorem Nested.of_eq (same : second = first) : Nested first second :=
  .inl (same ▸ List.suffix_refl _)

theorem Nested.drop (count : Nat) (stack : List α) : Nested (stack.drop count) stack :=
  .inl (List.drop_suffix _ _)

theorem Nested.of_suffix {whole : List α} (one : first <:+ whole) (other : second <:+ whole) :
    Nested first second :=
  List.suffix_or_suffix_of_suffix one other

/-- The bottom of one is the bottom of the other, if that is high enough. -/
theorem Nested.suffix (nested : Nested first second) (beneath : bottom <:+ first)
    (high : bottom.length ≤ second.length) : bottom <:+ second := by
  cases nested with
  | inl grown => exact beneath.trans grown
  | inr cut => exact List.suffix_of_suffix_length_le beneath cut high

/-- What lies at the bottom of a stack still does without the entries on top, if the rest is high
enough. -/
theorem suffix_drop {count : Nat} (beneath : bottom <:+ first)
    (high : bottom.length + count ≤ first.length) : bottom <:+ first.drop count :=
  List.suffix_of_suffix_length_le beneath (List.drop_suffix _ _) (by
    rw [List.length_drop]
    omega)

theorem suffix_of_cons {top entry : α} {beneath : List α}
    (suffix : (entry :: bottom) <:+ top :: beneath) : bottom <:+ beneath := by
  rcases List.suffix_cons_iff.mp suffix with same | within
  · exact (List.cons.inj same).2 ▸ List.suffix_refl _
  · exact (List.suffix_cons _ _).trans within

end Nesting

/-- The stacks of which code sees the tops. -/
structure Surroundings where
  comparisons : List Comparison
  bindings : List (Table String Argument)
  matchStack : List MatchData
  repeaters : List Repeater

def Store.surroundings (store : Store) : Surroundings :=
  ⟨store.comparisons, store.bindings, store.matchStack, store.repeaters⟩

namespace Surroundings

/-- What a step may do: a stack grows or is cut, but the match of a replacement that goes on is
dropped before, and the repeater on top may change as well. -/
structure Moves (isReplacing : Bool) (before after : Surroundings) : Prop where
  comparisons : Nested before.comparisons after.comparisons
  bindings : Nested before.bindings after.bindings
  matchStack : Nested (before.matchStack.drop isReplacing.toNat) after.matchStack
  repeaters : before.repeaters.tail <:+ after.repeaters

theorem Moves.of_eq (isReplacing : Bool) {before after : Surroundings} (same : after = before) :
    Moves isReplacing before after := by
  subst same
  exact ⟨.of_eq rfl, .of_eq rfl, .drop _ _, List.tail_suffix _⟩

/-- All stacks lie at the bottom of those of others. -/
structure Beneath (lower upper : Surroundings) : Prop where
  comparisons : lower.comparisons <:+ upper.comparisons
  bindings : lower.bindings <:+ upper.bindings
  matchStack : lower.matchStack <:+ upper.matchStack
  repeaters : lower.repeaters <:+ upper.repeaters

/-- What lies at the bottom stays there, if no stack becomes too low for it. -/
theorem Beneath.moves {isReplacing : Bool} {lower before after : Surroundings}
    (beneath : lower.Beneath before) (moves : before.Moves isReplacing after)
    (comparisons : lower.comparisons.length ≤ after.comparisons.length)
    (bindings : lower.bindings.length ≤ after.bindings.length)
    (unmatched : lower.matchStack.length + isReplacing.toNat ≤ before.matchStack.length)
    (matchStack : lower.matchStack.length ≤ after.matchStack.length)
    (repeaters : lower.repeaters.length + 1 ≤ before.repeaters.length) : lower.Beneath after where
  comparisons := moves.comparisons.suffix beneath.comparisons comparisons
  bindings := moves.bindings.suffix beneath.bindings bindings
  matchStack := moves.matchStack.suffix (suffix_drop beneath.matchStack unmatched) matchStack
  repeaters := by
    have tail := suffix_drop beneath.repeaters repeaters
    rw [List.drop_one] at tail
    exact tail.trans moves.repeaters

end Surroundings

/-! ### What steps do to them -/

section Handling

variable {context : Context} {store : Store} {sink depth : Nat} {progress : Progress}

/-- Progress moves the stacks, but leaves it to the leaving of a block to cut them. -/
structure Progress.Moves (isReplacing : Bool) (before : Surroundings) (progress : Progress) :
    Prop where
  moves : before.Moves isReplacing progress.store.surroundings
  leaves : progress.move = .leaveBlock → progress.store.surroundings = before

theorem Progress.Moves.of_eq {isReplacing : Bool} {before : Surroundings}
    (same : progress.store.surroundings = before) : progress.Moves isReplacing before :=
  ⟨.of_eq isReplacing same, fun _ => same⟩

namespace Context

theorem surroundings_settlePlan (store : Store) (plan : ArgumentPlan) :
    (store.settlePlan plan).1.surroundings = store.surroundings :=
  (congrArg Store.surroundings (store.settlePlan_eq plan)).trans rfl

theorem moves_takeTurn (isReplacing : Bool) :
    (context.takeTurn store sink).Moves isReplacing store.surroundings := by
  unfold takeTurn
  split
  · exact .of_eq rfl
  · next repeater outer some =>
      have tail : store.surroundings.repeaters.tail = outer := congrArg List.tail some
      split
      · exact ⟨⟨.of_eq rfl, .of_eq rfl, .drop _ _, tail ▸ List.suffix_cons _ _⟩, nofun⟩
      · exact ⟨⟨.of_eq rfl, .of_eq rfl, .drop _ _, tail ▸ List.suffix_refl _⟩, nofun⟩

/-- A tag puts at most a comparison on top. -/
theorem moves_grant (isReplacing : Bool) (store : Store) (request : Request)
    (elseArmed : Bool) :
    Progress.Moves isReplacing store.surroundings
      ⟨(store.grant request).1, (store.grant request).2, elseArmed, none⟩ := by
  cases request with
  | compare comparison body =>
      exact ⟨⟨.inl (List.suffix_cons _ _), .of_eq rfl, .drop _ _,
        List.tail_suffix _⟩, nofun⟩
  | nothing | run code | attempt trial fallback blankIsEmpty | leaveBlock => exact .of_eq rfl

theorem moves_resumeTag (isReplacing : Bool) {call : TagCall}
    (resumed : context.resumeTag store sink call = .ok progress) :
    progress.Moves isReplacing store.surroundings := by
  rw [← surroundings_settlePlan store call.plan]
  unfold resumeTag at resumed
  split at resumed
  · next settled =>
      cases resumed
      rw [settled]
      exact .of_eq rfl
  · next settledStore done settled =>
      obtain ⟨outcome, performed, rfl⟩ := map_eq_ok.mp resumed
      rw [settled]
      exact moves_grant isReplacing (settledStore.absorb sink outcome.workspace) outcome.request
        outcome.elseArmed

theorem moves_resumeSubroutine (isReplacing : Bool) (call : SubroutineCall) :
    (context.resumeSubroutine store call).Moves isReplacing store.surroundings := by
  rw [← surroundings_settlePlan store call.plan]
  unfold resumeSubroutine
  split
  · next settled =>
      rw [settled]
      exact .of_eq rfl
  · next settled =>
      rw [settled]
      exact ⟨⟨.of_eq rfl, .inl (List.suffix_cons _ _), .drop _ _,
        List.tail_suffix _⟩, nofun⟩

/-- The match that comes next is put on the stack, from which the one before has been dropped. -/
theorem moves_replaceNext {isReplacing : Bool} {before : Surroundings} (replacement : Replacement)
    (dropped : store.surroundings =
      { before with matchStack := before.matchStack.drop isReplacing.toNat }) :
    (context.replaceNext store sink replacement).Moves isReplacing before := by
  simp only [Store.surroundings, Surroundings.mk.injEq] at dropped
  obtain ⟨comparisons, bindings, matchStack, repeaters⟩ := dropped
  have tail : before.repeaters.tail <:+ store.repeaters := repeaters ▸ List.tail_suffix _
  unfold replaceNext
  split
  · exact ⟨⟨.of_eq comparisons, .of_eq bindings, .of_eq matchStack, tail⟩, nofun⟩
  · exact ⟨⟨.of_eq comparisons, .of_eq bindings, .inl (matchStack ▸ List.suffix_cons _ _), tail⟩,
      nofun⟩

theorem moves_resume {task : Task} (resumed : context.resume store sink task = .ok progress) :
    progress.Moves task.isReplacing store.surroundings := by
  cases task with
  | takeTurn =>
      cases resumed
      exact moves_takeTurn _
  | callTag call => exact moves_resumeTag _ resumed
  | callSubroutine call =>
      cases resumed
      exact moves_resumeSubroutine _ call
  | findMatches regex code =>
      cases resumed
      exact moves_replaceNext _ rfl
  | replaceMatches replacement =>
      cases resumed
      refine moves_replaceNext _ ?_
      simp [Store.surroundings, Store.dropResult, Task.isReplacing]
  | runGenerated =>
      obtain ⟨code, -, rfl⟩ := map_eq_ok.mp resumed
      exact .of_eq rfl
  | settleArithmetic isStatement position =>
      obtain ⟨workspace, -, rfl⟩ := map_eq_ok.mp resumed
      exact .of_eq rfl
  | defineGenerated name parameters =>
      obtain ⟨workspace, -, rfl⟩ := map_eq_ok.mp resumed
      exact .of_eq rfl

theorem moves_begin (isReplacing : Bool) (construct : Construct) :
    (context.begin store depth construct).Moves isReplacing store.surroundings := by
  cases construct with
  | block repeater =>
      refine ⟨⟨.of_eq rfl, .of_eq rfl, .drop _ _, ?_⟩, nofun⟩
      exact (List.tail_suffix _).trans (List.suffix_cons _ _)
  | nothing | tag | call | replacer | generated | arithmetic | definition => exact .of_eq rfl

theorem moves_complete (isReplacing : Bool) (context : Context) (store : Store) (sink : Nat)
    (completion : Completion) :
    (context.complete store sink completion).Moves isReplacing store.surroundings := by
  cases completion with
  | dropComparison =>
      exact ⟨⟨.inr (List.tail_suffix _), .of_eq rfl, .drop _ _,
        List.tail_suffix _⟩, nofun⟩
  | dropBindings =>
      exact ⟨⟨.of_eq rfl, .inr (List.tail_suffix _), .drop _ _,
        List.tail_suffix _⟩, nofun⟩
  | settleTrial fallback blankIsEmpty =>
      unfold complete
      dsimp only
      split <;> exact .of_eq rfl

end Context

end Handling

section Stepping

variable {engine : Engine} {store : Store} {top : Activation} {beneath : List Activation}
  {progress : Progress} {reached : Configuration}

namespace Configuration

theorem surroundings_release (store : Store) (top : Activation) :
    (release store top).surroundings = store.surroundings := by
  unfold release
  split <;> rfl

theorem surroundings_enterAll {entries : List Entry}
    (entered : enterAll engine entries ⟨store, top :: beneath⟩ = .ok reached) :
    reached.store.surroundings = store.surroundings := by
  induction entries generalizing store top beneath with
  | nil =>
      cases entered
      rfl
  | cons entry entries inductionHypothesis =>
      obtain ⟨higher, first, entered⟩ := bind_eq_ok.mp entered
      obtain ⟨-, rfl⟩ := enter_ok first
      rw [inductionHypothesis entered, Store.provide]
      split <;> rfl

/-- Leaving a block cuts the stacks, the repeaters apart. -/
theorem moves_leaveBlock (isReplacing : Bool) (configuration : Configuration) :
    configuration.store.surroundings.Moves isReplacing
      configuration.leaveBlock.store.surroundings := by
  obtain ⟨store, stack⟩ := configuration
  unfold leaveBlock
  dsimp only
  split
  · exact .of_eq _ rfl
  · next repeater outer some none =>
      have tail : store.surroundings.repeaters.tail = outer := congrArg List.tail some
      exact ⟨.of_eq rfl, .of_eq rfl, .drop _ _, tail ▸ List.suffix_cons _ _⟩
  · next repeater outer base bases some _ =>
      have tail : store.surroundings.repeaters.tail = outer := congrArg List.tail some
      exact ⟨.inr (List.drop_suffix _ _), .inr (List.drop_suffix _ _),
        .of_suffix (List.drop_suffix _ _) (List.drop_suffix _ _), tail ▸ List.suffix_cons _ _⟩

theorem moves_settle {isReplacing : Bool} {before : Surroundings}
    (moves : progress.Moves isReplacing before)
    (settled : settle engine top beneath progress = .ok reached) :
    before.Moves isReplacing reached.store.surroundings := by
  unfold settle at settled
  cases move : progress.move with
  | enter entries =>
      rw [move] at settled
      rw [surroundings_enterAll settled]
      exact moves.moves
  | leaveBlock =>
      rw [move] at settled
      cases settled
      rw [← moves.leaves move]
      exact moves_leaveBlock isReplacing
        ⟨progress.store, { top with elseArmed := progress.elseArmed } :: beneath⟩

theorem moves_leave (isReplacing : Bool)
    (left : leave engine store top beneath = .ok reached) :
    store.surroundings.Moves isReplacing reached.store.surroundings := by
  rw [← surroundings_release store top]
  unfold leave at left
  split at left
  · exact moves_settle (Context.moves_complete isReplacing _ _ _ _) left
  · cases left
    exact .of_eq _ rfl

theorem moves_step (short : top.tasks.length ≤ 1)
    (stepped : step engine store top beneath = .ok reached) :
    store.surroundings.Moves top.isReplacing reached.store.surroundings := by
  cases stepped_of_step short stepped with
  | resume task progress tasks resumed settled =>
      have same : top.isReplacing = task.isReplacing := by
        simp [Activation.isReplacing, tasks]
      rw [same]
      exact moves_settle (Context.moves_resume resumed) settled
  | leave idle ended left => exact moves_leave _ left
  | read token stop workspace construct idle next stopped reading settled =>
      show (store.absorb top.sink workspace).surroundings.Moves _ _
      exact moves_settle (Context.moves_begin _ construct) settled

end Configuration

end Stepping

/-! ### Entering a block -/

namespace Activation

/-- The activation behind the bracket that closes at `close`. -/
def behind (activation : Activation) (close : Nat) : Activation :=
  { activation with cursor := close + 1 }

/-- The activation while the turns of its block are taken, whose brace closes at `close`. -/
def turning (activation : Activation) (close : Nat) : Activation :=
  (activation.behind close).busy .takeTurn

end Activation

/-- A step in which `opener`, on top of `lower`, enters the block whose brace closes at `close`. -/
structure Configuration.EntersBlock (engine : Engine) (opener : Activation)
    (lower : List Activation) (close : Nat) (outside inside : Configuration) : Prop where
  steps : Steps engine outside inside
  stack : outside.stack = opener :: lower
  idle : opener.tasks = []
  opens : ∃ token, opener.nextToken? = some token ∧ token.kind = .opens .brace
  closes : opener.pattern.scopeClose opener.cursor = .ok close
  brace : opener.pattern.kindAt? close = some (.closes .brace)
  entered : inside.stack = opener.turning close :: lower
  /-- Apart from memory and sink, only the block has come to the store. -/
  store : ∃ workspace, inside.store =
    (outside.store.absorb opener.sink workspace).inBlock lower.length
      (.ofBlock opener.pattern (opener.pattern.itemsBetween opener.cursor close)
        outside.store.attributes)

/-- Steps throughout which a block stays on the stack. -/
abbrev Configuration.StaysOpen (engine : Engine) (block : List Activation) :
    Configuration → Configuration → Prop :=
  Relation.ReflTransGen fun before after => Steps engine before after ∧ block <:+ after.stack

section Entering

variable {engine : Engine} {context : Context} {store : Store} {top base : Activation}
  {beneath above stack lower : List Activation} {progress : Progress} {reached : Configuration}

/-- What has been read is no block. -/
def Reading.NoBlock (reading : Reading) : Prop :=
  ∀ repeater, reading.2 ≠ .block repeater

namespace Context

variable {position : Pattern.Position} {token : Pattern.Token} {index close stop : Nat}
  {workspace changed : Workspace} {repeater : Repeater}

/-- No tag is a block. -/
theorem yields_readTag :
    Yields Reading.NoBlock (context.readTag workspace token index close) := by
  simp only [readTag, replace, readSubroutine, callSubroutine, defineSubroutine, callTag, refuse,
    reject]
  repeat' first | refine yields_bind fun value => ?_ | split
  all_goals simp [Reading.NoBlock]

theorem yields_writeEntry (query : Vocabulary.Query) :
    Yields Reading.NoBlock (context.writeEntry workspace position query) := by
  simp only [writeEntry, refuse]
  repeat' split
  all_goals simp [Reading.NoBlock]

theorem yields_readQuery :
    Yields Reading.NoBlock (context.readQuery workspace token index close) := by
  simp only [readQuery, refuse, reject]
  repeat' first | exact yields_writeEntry _ | split
  all_goals simp [Reading.NoBlock]

theorem yields_readEscape :
    Yields Reading.NoBlock (context.readEscape workspace token) := by
  simp only [readEscape, refuse, reject]
  repeat' split
  all_goals simp [Reading.NoBlock]

theorem repeater_of_readBlock {items : Array Pattern.Span}
    (reading : context.readBlock workspace items = (changed, .block repeater)) :
    repeater = .ofBlock context.pattern items workspace.attributes := by
  simp only [readBlock] at reading
  split at reading
  · cases reading
  · cases chance : workspace.attributes.chance? <;>
      · simp only [chance] at reading
        split at reading
        · cases reading
        · cases reading
          rfl

/-- Only a block is read as one. -/
theorem block_of_readConstruct
    (reading : context.readConstruct workspace index stop token = .ok (changed, .block repeater)) :
    token.kind = .opens .brace ∧
      repeater = .ofBlock context.pattern (context.pattern.itemsBetween index (stop - 1))
        workspace.attributes := by
  have elsewhere {result : Except Fault Reading} (yields : Yields Reading.NoBlock result)
      (read : result = .ok (changed, .block repeater)) : False :=
    yields _ read repeater rfl
  simp only [readConstruct] at reading
  split at reading
  · next brace => exact ⟨brace, repeater_of_readBlock (Except.ok.inj reading)⟩
  · exact (elsewhere yields_readTag reading).elim
  · cases reading
  · exact (elsewhere yields_readQuery reading).elim
  · cases reading
  · exact (elsewhere yields_readEscape reading).elim
  · cases reading
  · cases reading

/-! Only a task that takes turns goes on taking turns, and only a block leaves such a task. -/

theorem takeTurn_of_resume {task : Task} {sink : Nat}
    (resumed : context.resume store sink task = .ok progress)
    (taking : progress.task? = some .takeTurn) :
    task = .takeTurn ∧ progress.elseArmed = context.elseArmed := by
  cases task with
  | takeTurn =>
      cases resumed
      refine ⟨rfl, ?_⟩
      unfold takeTurn
      split
      · rfl
      · split <;> rfl
  | callTag call =>
      simp only [resume, resumeTag] at resumed
      split at resumed
      · cases resumed
        cases taking
      · obtain ⟨outcome, -, rfl⟩ := map_eq_ok.mp resumed
        cases taking
  | callSubroutine call =>
      cases resumed
      unfold resumeSubroutine at taking
      split at taking <;> cases taking
  | findMatches regex code | replaceMatches replacement =>
      cases resumed
      unfold replaceNext at taking
      split at taking <;> cases taking
  | runGenerated =>
      obtain ⟨code, -, rfl⟩ := map_eq_ok.mp resumed
      cases taking
  | settleArithmetic isStatement position =>
      obtain ⟨workspace, -, rfl⟩ := map_eq_ok.mp resumed
      cases taking
  | defineGenerated name parameters =>
      obtain ⟨workspace, -, rfl⟩ := map_eq_ok.mp resumed
      cases taking

theorem block_of_begin {depth : Nat} {construct : Construct}
    (taking : (context.begin store depth construct).task? = some .takeTurn) :
    ∃ repeater, construct = .block repeater := by
  cases construct with
  | block repeater => exact ⟨repeater, rfl⟩
  | nothing | tag | call | replacer | generated | arithmetic | definition => cases taking

theorem elseArmed_complete (context : Context) (store : Store) (sink : Nat)
    (completion : Completion) :
    (context.complete store sink completion).elseArmed = context.elseArmed := by
  cases completion with
  | dropComparison | dropBindings => rfl
  | settleTrial fallback blankIsEmpty =>
      unfold complete
      dsimp only
      split <;> rfl

end Context

namespace Configuration

theorem takeTurn_of_any {task? : Option Task} (taking : task?.toList.any Task.takesTurn = true) :
    task? = some .takeTurn := by
  rw [any_toList, Option.any_eq_true] at taking
  obtain ⟨task, rfl, turn⟩ := taking
  cases task with
  | takeTurn => rfl
  | _ => cases turn

/-- Under activations that take no turns lie those that do. -/
theorem suffix_of_idle (idle : ∀ activation ∈ above, activation.takesTurns = false)
    (taking : base.takesTurns = true) (present : (base :: lower) <:+ above ++ stack) :
    (base :: lower) <:+ stack := by
  induction above with
  | nil => exact present
  | cons first above inductionHypothesis =>
      rcases List.suffix_cons_iff.mp present with same | within
      · obtain ⟨rfl, -⟩ := List.cons.inj same
        rw [idle base List.mem_cons_self] at taking
        cases taking
      · exact inductionHypothesis
          (fun activation member => idle activation (List.mem_cons_of_mem first member)) within

/-- A scope that a brace opens is closed by a brace. -/
theorem brace_of_scopeClose {token : Pattern.Token} {close : Nat}
    (next : top.nextToken? = some token) (brace : token.kind = .opens .brace)
    (closes : top.pattern.scopeClose top.cursor = .ok close) :
    top.pattern.kindAt? close = some (.closes .brace) := by
  obtain ⟨bracket, opens, -, closer⟩ := Pattern.enclosed_of_scopeClose closes
  have read := Pattern.kindAt?_of_getElem? (Code.read_of_tokenAt? next).2
  obtain rfl : Pattern.Bracket.brace = bracket :=
    Pattern.TokenKind.opens.inj (brace.symm.trans (Option.some.inj (read.symm.trans opens)))
  exact closer

/-- However the stack changes, what takes turns then lies where it lay. -/
theorem suffix_of_settle (settled : settle engine top beneath progress = .ok reached)
    (taking : base.takesTurns = true) (present : (base :: lower) <:+ reached.stack) :
    (base :: lower) <:+ { top with elseArmed := progress.elseArmed } :: beneath := by
  unfold settle at settled
  cases move : progress.move with
  | enter entries =>
      rw [move] at settled
      obtain ⟨above, stack, idle, -⟩ := stack_enterAll settled
      exact suffix_of_idle idle taking (stack ▸ present)
  | leaveBlock =>
      rw [move] at settled
      cases settled
      exact present.trans (leaveBlock_suffix _)

theorem suffix_of_leave (left : leave engine store top beneath = .ok reached)
    (taking : base.takesTurns = true) (present : (base :: lower) <:+ reached.stack) :
    (base :: lower) <:+ beneath := by
  unfold leave at left
  split at left
  · next completion below others completes =>
      have settled := suffix_of_settle left taking present
      rw [Context.elseArmed_complete] at settled
      exact settled
  · cases left
    exact present

/-- What takes turns after a step did so before, or has been entered by the step. -/
theorem suffix_or_entersBlock (short : top.tasks.length ≤ 1)
    (stepped : step engine store top beneath = .ok reached)
    (taking : base.takesTurns = true) (present : (base :: lower) <:+ reached.stack) :
    (base :: lower) <:+ top :: beneath ∨
      ∃ close, EntersBlock engine top beneath close ⟨store, top :: beneath⟩ reached ∧
        base = top.turning close ∧ lower = beneath := by
  cases stepped_of_step short stepped with
  | resume task progress tasks resumed settled =>
      left
      rcases List.suffix_cons_iff.mp (suffix_of_settle settled taking present) with same | within
      · -- The activation on top goes on taking turns, so it is the same as before.
        obtain ⟨rfl, rfl⟩ := List.cons.inj same
        obtain ⟨rfl, armed⟩ := Context.takeTurn_of_resume resumed (takeTurn_of_any taking)
        have armed : progress.elseArmed = top.elseArmed := armed
        have waiting : progress.task?.toList = top.tasks :=
          (congrArg Option.toList (takeTurn_of_any taking)).trans tasks.symm
        have same : { top with
            tasks := progress.task?.toList, elseArmed := progress.elseArmed } = top := by
          calc
            _ = { top with tasks := top.tasks, elseArmed := top.elseArmed } := by
              rw [waiting, armed]
            _ = top := rfl
        exact same.symm ▸ List.suffix_refl _
      · exact within.trans (List.suffix_cons _ _)
  | leave idle ended left =>
      exact .inl ((suffix_of_leave left taking present).trans (List.suffix_cons _ _))
  | read token stop workspace construct idle next stopped reading settled =>
      rcases List.suffix_cons_iff.mp (suffix_of_settle settled taking present) with same | within
      · obtain ⟨rfl, rfl⟩ := List.cons.inj same
        right
        obtain ⟨repeater, rfl⟩ := Context.block_of_begin (takeTurn_of_any taking)
        obtain ⟨brace, rfl⟩ := Context.block_of_readConstruct reading
        obtain ⟨close, closes, rfl⟩ := Context.close_of_constructStop brace stopped
        refine ⟨close, ⟨⟨stepped⟩, rfl, idle, ⟨token, next, brace⟩, closes,
          brace_of_scopeClose next brace closes, ?_, workspace, ?_⟩, rfl, rfl⟩
        · cases settled
          rfl
        · cases settled
          rfl
      · exact .inl (within.trans (List.suffix_cons _ _))

end Configuration

end Entering

/-! ### While a block is open -/

section Heights

variable {engine : Engine} {configuration : Configuration} {opener : Activation}
  {block lower : List Activation}

/-- The stacks of a run are at least as high as some of its activations need. -/
theorem WellStacked.heights_le (wellStacked : WellStacked engine configuration)
    (present : block <:+ configuration.stack) :
    (heightsOf block).comparisons ≤ configuration.store.comparisons.length ∧
      (heightsOf block).bindings ≤ configuration.store.bindings.length ∧
      (heightsOf block).matchStack ≤ configuration.store.matchStack.length ∧
      block.countP Activation.takesTurns ≤ configuration.store.repeaters.length := by
  have disciplined := wellStacked.disciplined
  rw [disciplined.comparisons, disciplined.bindings, disciplined.matchStack, disciplined.repeaters]
  exact ⟨present.sublist.countP_le, present.sublist.countP_le, present.sublist.countP_le,
    present.sublist.countP_le⟩

/-- No result waits for an activation that reads on. -/
theorem WellStacked.results_eq_nil (wellStacked : WellStacked engine configuration)
    (stack : configuration.stack = opener :: lower) (idle : opener.tasks = []) :
    configuration.store.results = [] := by
  apply List.eq_nil_of_length_eq_zero
  rw [wellStacked.results, stack]
  simp [awaited, Activation.awaitsResult, idle]

/-- An activation that enters a block needs no more than before, but for one repeater. -/
theorem WellStacked.heights_turning (wellStacked : WellStacked engine configuration)
    (stack : configuration.stack = opener :: lower) (idle : opener.tasks = []) (close : Nat) :
    heightsOf (opener.turning close :: lower) = configuration.store.heights ∧
      (opener.turning close :: lower).countP Activation.takesTurns =
        configuration.store.repeaters.length + 1 := by
  have disciplined := wellStacked.disciplined
  have results := congrArg List.length (wellStacked.results_eq_nil stack idle)
  have drops (completion : Completion) :
      (opener.turning close).drops completion = opener.drops completion := rfl
  have matched : (opener.turning close).isReplacing = opener.isReplacing := by
    have none : opener.isReplacing = false := by simp [Activation.isReplacing, idle]
    rw [none]
    rfl
  have taking : (opener.turning close).takesTurns = true := rfl
  have resting : opener.takesTurns = false := by simp [Activation.takesTurns, idle]
  constructor
  · simp only [heightsOf, Store.heights, disciplined.comparisons, disciplined.bindings,
      disciplined.matchStack, results, List.length_nil, stack, List.countP_cons, drops, matched]
  · rw [disciplined.repeaters, stack, countP_cons_eq_toNat_add, countP_cons_eq_toNat_add, taking,
      resting, Bool.toNat_true, Bool.toNat_false]
    omega

end Heights

/-- The block that `opener` has entered from `outside` is open, and what was there is still
there. -/
structure Configuration.Retains (outside : Configuration) (opener : Activation)
    (lower : List Activation) (close : Nat) (configuration : Configuration) : Prop where
  stack : (opener.turning close :: lower) <:+ configuration.stack
  surroundings : outside.store.surroundings.Beneath configuration.store.surroundings
  sinks : ∀ index < opener.sink, configuration.store.sinks[index]? = outside.store.sinks[index]?

section Retaining

variable {engine : Engine} {pattern : Pattern} {seed : UInt64} {opener base : Activation}
  {lower : List Activation} {close : Nat} {outside inside configuration reached : Configuration}

namespace Configuration

theorem EntersBlock.retains (enters : EntersBlock engine opener lower close outside inside) :
    Retains outside opener lower close inside := by
  obtain ⟨workspace, store⟩ := enters.store
  refine ⟨enters.entered ▸ List.suffix_refl _, ?_, ?_⟩
  · rw [store]
    exact ⟨List.suffix_refl _, List.suffix_refl _, List.suffix_refl _, List.suffix_cons _ _⟩
  · intro index below
    rw [store]
    exact outside.store.sinks_absorb_of_ne _ workspace (Nat.ne_of_lt below)

/-- Without the match of a replacement that goes on, there are still those from before the block. -/
theorem Retains.unmatched {store : Store} {top : Activation} {beneath : List Activation}
    (outsideStacked : WellStacked engine outside) (outsideStack : outside.stack = opener :: lower)
    (idle : opener.tasks = []) (wellStacked : WellStacked engine ⟨store, top :: beneath⟩)
    (retains : Retains outside opener lower close ⟨store, top :: beneath⟩) :
    outside.store.matchStack.length + top.isReplacing.toNat ≤ store.matchStack.length := by
  have waiting : opener.isReplacing = false := by simp [Activation.isReplacing, idle]
  have fewer := (suffix_of_cons retains.stack).sublist.countP_le (p := Activation.isReplacing)
  rw [outsideStacked.disciplined.matchStack, wellStacked.disciplined.matchStack, outsideStack,
    countP_cons_eq_toNat_add, countP_cons_eq_toNat_add, waiting, Bool.toNat_false]
  omega

/-- A step that does not leave the block does not finish its activation. -/
theorem Retains.stepsWith {store : Store} {top : Activation} {beneath : List Activation}
    (retains : Retains outside opener lower close ⟨store, top :: beneath⟩)
    (stepped : step engine store top beneath = .ok reached)
    (present : (opener.turning close :: lower) <:+ reached.stack) :
    StepsWith engine lower.length ⟨store, top :: beneath⟩ reached := by
  refine .intro stepped ?_ present.length_le
  rintro same ⟨noTask, -⟩
  have whole := retains.stack.eq_of_length (by simp [same])
  rw [← (List.cons.inj whole).1] at noTask
  cases noTask

/-- A step that does not leave the block retains what was there when it was entered. -/
theorem Retains.step (outsideStacked : WellStacked engine outside)
    (outsideStack : outside.stack = opener :: lower) (idle : opener.tasks = [])
    (wellStacked : WellStacked engine configuration)
    (retains : Retains outside opener lower close configuration)
    (steps : Steps engine configuration reached)
    (present : (opener.turning close :: lower) <:+ reached.stack) :
    Retains outside opener lower close reached := by
  have reachedStacked := steps.wellStacked wellStacked
  obtain @⟨store, top, beneath, reached, stepped⟩ := steps
  refine ⟨present, ?_, ?_⟩
  · obtain ⟨heights, turns⟩ := outsideStacked.heights_turning outsideStack idle close
    obtain ⟨comparisons, bindings, matchStack, -⟩ := reachedStacked.heights_le present
    obtain ⟨-, -, -, repeaters⟩ := wellStacked.heights_le retains.stack
    rw [heights] at comparisons bindings matchStack
    rw [turns] at repeaters
    exact retains.surroundings.moves
      (moves_step (wellStacked.ordered.tasks top List.mem_cons_self) stepped) comparisons bindings
      (retains.unmatched outsideStacked outsideStack idle wellStacked) matchStack repeaters
  · obtain ⟨above, whole⟩ := retains.stack
    have covers : Covers (opener.turning close) lower outside.store.sinks
        ⟨store, top :: beneath⟩ :=
      ⟨⟨above, _, whole.symm, ⟨rfl, rfl, rfl, rfl⟩⟩, retains.sinks⟩
    exact (covers.stepsWith wellStacked (retains.stepsWith stepped present)).sinks

/-- Each activation that takes turns has entered a block, which has been open ever since. -/
theorem exists_entersBlock (reachable : Reachable engine pattern seed configuration)
    (taking : base.takesTurns = true) (present : (base :: lower) <:+ configuration.stack) :
    ∃ outside inside opener close, base = opener.turning close ∧
      Reachable engine pattern seed outside ∧
      EntersBlock engine opener lower close outside inside ∧
      StaysOpen engine (base :: lower) inside configuration ∧
      Retains outside opener lower close configuration := by
  induction reachable with
  | refl =>
      -- The first activation of a run takes no turns.
      have idle : ∀ activation ∈ [Activation.enter (.shared (.whole pattern)) 0],
          activation.takesTurns = false := by simp [Activation.takesTurns]
      have none : (base :: lower) <:+ [] := suffix_of_idle idle taking present
      exact (List.cons_ne_nil _ _ (List.suffix_nil.mp none)).elim
  | @tail before configuration reachable steps inductionHypothesis =>
      have wellStacked := Reachable.wellStacked reachable
      obtain @⟨store, top, beneath, configuration, stepped⟩ := steps
      rcases suffix_or_entersBlock (wellStacked.ordered.tasks top List.mem_cons_self) stepped taking
        present with earlier | ⟨close, enters, rfl, rfl⟩
      · obtain ⟨outside, inside, opener, close, rfl, outsideReachable, enters, stays, retains⟩ :=
          inductionHypothesis earlier
        refine ⟨outside, inside, opener, close, rfl, outsideReachable, enters,
          stays.tail ⟨⟨stepped⟩, present⟩, ?_⟩
        exact retains.step (Reachable.wellStacked outsideReachable) enters.stack enters.idle
          wellStacked ⟨stepped⟩ present
      · exact ⟨_, configuration, top, close, rfl, reachable, enters, .refl, enters.retains⟩

end Configuration

end Retaining

end SeededText.Machine
