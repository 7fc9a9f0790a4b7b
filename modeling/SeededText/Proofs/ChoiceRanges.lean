import SeededText.Proofs.CodeOrigins
import SeededText.Proofs.Iteration

/-!
Contract: choices are in range, and each turn of a block takes an item.

One synchronizer serves blocks of different sizes while it is pinned, stepped or partly dealt. The
deck that it deals from has the size that is asked for, whatever it was made for before, so the
place that it is read at is inside; a choice that it repeats is repeated only below that size. A
block that is entered has items, and so has something to take in each of its turns, whoever chooses.

Owns: reading decks without a value for what lies outside, uses with lengths of their own, that open
blocks have items, the turn that comes next.
Does not own: that decks are in order (`SeededText.Proofs.Dealing`), what else a turn does
(`SeededText.Proofs.Iteration`).
-/

namespace SeededText

namespace Choice

/-! ### Choices that may be missing -/

namespace Synchronizer

variable {synchronizer : Synchronizer} {length : Nat}

/-- The choice at a place of the deck, if the place is inside. -/
def dealAt? (synchronizer : Synchronizer) (place : Nat) : Option (Nat × Synchronizer) :=
  synchronizer.deck[place]?.map fun choice =>
    (choice, { synchronizer with counter := synchronizer.counter + 1 })

/-- The next choice, if there is one: no choice is below zero, and a deck is read at the place that
the counter says. -/
def advance? (synchronizer : Synchronizer) (length : Nat) : Option (Nat × Synchronizer) :=
  if length = 0 then none
  else
    let dealt := synchronizer.withDeck length
    match synchronizer.kind with
    | .locked | .ordered | .reverse => some (synchronizer.advance length)
    | .deck => dealt.dealAt? dealt.counter
    | .cyclicDeck => dealt.dealAt? (dealt.counter % length)

/-- The synchronizer behind `count` choices, if they are there. -/
def advanceBy? (length : Nat) : Nat → Synchronizer → Option Synchronizer
  | 0, synchronizer => some synchronizer
  | count + 1, synchronizer =>
      (synchronizer.advance? length).bind fun advanced => advanceBy? length count advanced.2

/-- What `next` gives, if all choices on the way are there. -/
def next? (synchronizer : Synchronizer) (length : Nat) : Option (Nat × Synchronizer) :=
  if length = 0 then some (0, synchronizer)
  else
    match synchronizer.repeated? length with
    | some last => some (last, synchronizer)
    | none => do
        let stepped ←
          advanceBy? length synchronizer.pendingSteps { synchronizer with pendingSteps := 0 }
        let (choice, advanced) ← stepped.advance? length
        return (choice, { advanced with last? := some choice, lastLength? := some length })

/-- What `step` gives, if the choice that it skips is there. -/
def step? (synchronizer : Synchronizer) : Option Synchronizer :=
  match synchronizer.lastLength? with
  | some length =>
      (synchronizer.advance? length).map fun (choice, advanced) =>
        { advanced with last? := some choice }
  | none => some { synchronizer with pendingSteps := synchronizer.pendingSteps + 1 }

end Synchronizer

/-- What a use gives, if all choices on the way are there. -/
def Use.perform? (length : Nat) (synchronizer : Synchronizer) :
    Use → Option (Option Nat × Synchronizer)
  | .next => (synchronizer.next? length).map fun (choice, advanced) => (some choice, advanced)
  | .step => synchronizer.step?.map fun advanced => (none, advanced)
  | use => some (use.perform length synchronizer)

namespace Synchronizer

variable {synchronizer : Synchronizer} {length : Nat}

/-- The synchronizer behind uses, each with a length of its own for its choice. -/
def behind (synchronizer : Synchronizer) (uses : List (Nat × Use)) : Synchronizer :=
  uses.foldl (fun used request => (request.2.perform request.1 used).2) synchronizer

/-- Whatever comes next, no choice on the way is missing, and what is chosen is below the length
that is asked for. -/
structure ChoosesInRange (synchronizer : Synchronizer) : Prop where
  reads : ∀ length (use : Use),
    use.perform? length synchronizer = some (use.perform length synchronizer)
  below : ∀ length, 0 < length → (synchronizer.next length).1 < length

/-! ### No choice is missing -/

/-- The deck is in order, and the length of the last request had choices below it. -/
structure Ready (synchronizer : Synchronizer) : Prop where
  dealt : synchronizer.Dealt
  lastLength : ∀ length ∈ synchronizer.lastLength?, 0 < length

/-- A deck that has been dealt out is shuffled before it is dealt from again. -/
theorem counter_withDeck_lt (kind : synchronizer.kind = .deck) (positive : 0 < length) :
    (synchronizer.withDeck length).counter < length := by
  unfold withDeck
  cases needs : synchronizer.needsDeck length with
  | true => exact positive
  | false =>
      simp only [needsDeck, kind, Bool.or_eq_false_iff, bne_eq_false_iff_eq,
        decide_eq_false_iff_not, Nat.not_le] at needs
      exact needs.1 ▸ needs.2

/-- Inside of the deck, reading it at a place is reading it there. -/
theorem dealAt?_eq {place : Nat} (inside : place < synchronizer.deck.size) :
    synchronizer.dealAt? place = some (synchronizer.deck.getD place 0,
      { synchronizer with counter := synchronizer.counter + 1 }) := by
  simp [dealAt?, inside]

/-- The place that a choice is dealt from is inside. -/
theorem advance?_eq (synchronizer : Synchronizer) (positive : 0 < length) :
    synchronizer.advance? length = some (synchronizer.advance length) := by
  have some : length ≠ 0 := Nat.ne_of_gt positive
  cases kind : synchronizer.kind with
  | locked | ordered | reverse => simp only [advance?, kind, if_neg some]
  | deck =>
      have size := synchronizer.size_withDeck (.inl kind) length
      have inside := counter_withDeck_lt kind positive
      simp only [advance?, kind, if_neg some, advance_of_shuffles (.inl kind),
        Nat.mod_eq_of_lt inside]
      exact dealAt?_eq (size.symm ▸ inside)
  | cyclicDeck =>
      have size := synchronizer.size_withDeck (.inr kind) length
      simp only [advance?, kind, if_neg some, advance_of_shuffles (.inr kind)]
      exact dealAt?_eq (size.symm ▸ Nat.mod_lt _ positive)

theorem advanceBy?_eq (positive : 0 < length) (count : Nat) (synchronizer : Synchronizer) :
    advanceBy? length count synchronizer = some (advanceBy length count synchronizer) := by
  induction count generalizing synchronizer with
  | zero => rfl
  | succ count inductionHypothesis =>
      rw [advanceBy?, synchronizer.advance?_eq positive]
      exact inductionHypothesis _

theorem next?_eq (synchronizer : Synchronizer) (length : Nat) :
    synchronizer.next? length = some (synchronizer.next length) := by
  by_cases none : length = 0
  · simp only [next?, next, if_pos none]
  · have positive := Nat.pos_of_ne_zero none
    rw [next?, if_neg none]
    cases repeats : synchronizer.repeated? length with
    | some last => rw [next_of_repeated repeats]
    | none =>
        rw [next_of_new positive repeats]
        simp only [advanceBy?_eq positive, advance?_eq _ positive, Option.bind_eq_bind,
          Option.bind_some]
        rfl

theorem step?_eq (lastLength : ∀ length ∈ synchronizer.lastLength?, 0 < length) :
    synchronizer.step? = some synchronizer.step := by
  unfold step? step
  cases last : synchronizer.lastLength? with
  | none => rfl
  | some length => simp only [advance?_eq synchronizer (lastLength length last), Option.map_some]

theorem lastLength_next (synchronizer : Synchronizer) (length : Nat) :
    (synchronizer.next length).2.lastLength? = synchronizer.lastLength? ∨
      0 < length ∧ (synchronizer.next length).2.lastLength? = some length := by
  by_cases none : length = 0
  · simp only [next, if_pos none, true_or]
  · have positive := Nat.pos_of_ne_zero none
    cases repeats : synchronizer.repeated? length with
    | some last => exact .inl (by rw [next_of_repeated repeats])
    | none => exact .inr ⟨positive, by rw [next_of_new positive repeats]⟩

theorem lastLength_step (synchronizer : Synchronizer) :
    synchronizer.step.lastLength? = synchronizer.lastLength? := by
  unfold step
  split
  · exact (synchronizer.askedAlike_advance _).lastLength
  · rfl

/-- Synchronizers are always ready. -/
theorem kept_ready : Kept Ready where
  fresh kind seed := ⟨dealt_fresh kind seed, nofun⟩
  perform synchronizer length use ready := by
    refine ⟨kept_dealt.perform synchronizer length use ready.dealt, ?_⟩
    cases use with
    | next =>
        rcases synchronizer.lastLength_next length with same | ⟨positive, new⟩
        · exact same ▸ ready.lastLength
        · rintro _ member
          obtain rfl := Option.some.inj (new.symm.trans member)
          exact positive
    | step => exact synchronizer.lastLength_step ▸ ready.lastLength
    | pin | unpin => exact ready.lastLength
    | reset | reseed => exact nofun

theorem Ready.choosesInRange (ready : synchronizer.Ready) : synchronizer.ChoosesInRange where
  reads length use := by
    cases use with
    | next =>
        rw [Use.perform?, next?_eq]
        rfl
    | step =>
        rw [Use.perform?, step?_eq ready.lastLength]
        rfl
    | pin | unpin | reset | reseed => rfl
  below length := (ready.dealt.next length).2

theorem Kept.behind {property : Synchronizer → Prop} (kept : Kept property)
    (holds : property synchronizer) (uses : List (Nat × Use)) :
    property (synchronizer.behind uses) := by
  induction uses generalizing synchronizer with
  | nil => exact holds
  | cons request uses inductionHypothesis =>
      exact inductionHypothesis (kept.perform synchronizer request.1 request.2 holds)

/-- It was made, and then nothing was done to it but to use it. -/
def IsUsed (synchronizer : Synchronizer) : Prop :=
  ∃ kind seed uses, synchronizer = (fresh kind seed).behind uses

theorem kept_isUsed : Kept IsUsed where
  fresh kind seed := ⟨kind, seed, [], rfl⟩
  perform := by
    rintro _ length use ⟨kind, seed, uses, rfl⟩
    refine ⟨kind, seed, uses ++ [(length, use)], ?_⟩
    rw [behind, behind, List.foldl_append]
    rfl

end Synchronizer

end Choice

namespace Machine

open Choice SeededText.Machine.Configuration

/-! ### Blocks have items -/

/-- All open blocks have items. -/
def Store.Stocked (store : Store) : Prop :=
  ∀ repeater ∈ store.repeaters, 0 < repeater.items.size

theorem Repeater.items_advance {repeater advanced : Repeater} {turns : Bool}
    (turn : repeater.advance = (turns, advanced)) : advanced.items = repeater.items := by
  unfold advance at turn
  split at turn
  · cases turn
    rfl
  · split at turn <;> cases turn <;> rfl

section Stocking

variable {engine : Engine} {pattern : Pattern} {seed : UInt64} {context : Context} {store : Store}
  {top : Activation} {beneath : List Activation} {progress : Progress}
  {configuration reached : Configuration} {sink depth : Nat}

/-- A block without items is not entered. -/
theorem Context.items_of_readConstruct {workspace changed : Workspace} {index stop : Nat}
    {token : Pattern.Token} {repeater : Repeater}
    (reading : context.readConstruct workspace index stop token = .ok (changed, .block repeater)) :
    0 < repeater.items.size := by
  obtain ⟨brace, rfl⟩ := block_of_readConstruct reading
  let items := context.pattern.itemsBetween index (stop - 1)
  have read : context.readBlock workspace items =
      (changed, .block (.ofBlock context.pattern items workspace.attributes)) := by
    simpa [readConstruct, brace] using reading
  obtain ⟨generator, ⟨-, skipped⟩ | ⟨enters, -⟩⟩ := context.readBlock_cases workspace items
  · rw [skipped] at read
    cases read
  · exact Nat.pos_of_ne_zero fun none => enters (.inl none)

namespace Store.Stocked

theorem of_repeaters {other : Store} (stocked : store.Stocked)
    (same : other.repeaters = store.repeaters) : other.Stocked :=
  fun repeater member => stocked repeater (same ▸ member)

theorem takeTurn (stocked : store.Stocked) : (context.takeTurn store sink).store.Stocked := by
  unfold Context.takeTurn
  split
  · exact stocked
  · next repeater outer repeaters =>
      have all : ∀ block ∈ repeater :: outer, 0 < block.items.size := repeaters ▸ stocked
      obtain ⟨first, others⟩ := List.forall_mem_cons.mp all
      split
      · next advanced turn =>
          exact List.forall_mem_cons.mpr ⟨Repeater.items_advance turn ▸ first, others⟩
      · exact others

theorem resume {task : Task} (stocked : store.Stocked)
    (resumed : context.resume store sink task = .ok progress) : progress.store.Stocked := by
  cases turn : task.takesTurn with
  | true =>
      obtain rfl : task = .takeTurn := by
        cases task <;> first | rfl | cases turn
      cases resumed
      exact stocked.takeTurn
  | false => exact stocked.of_repeaters (Context.repeaters_of_resume turn resumed)

theorem begin {workspace changed : Workspace} {index stop : Nat} {token : Pattern.Token}
    {construct : Construct} (stocked : store.Stocked)
    (reading : context.readConstruct workspace index stop token = .ok (changed, construct)) :
    (context.begin store depth construct).store.Stocked := by
  cases construct with
  | block repeater =>
      exact List.forall_mem_cons.mpr ⟨Context.items_of_readConstruct reading, stocked⟩
  | _ => exact stocked

theorem leaveBlock (stocked : configuration.store.Stocked) :
    configuration.leaveBlock.store.Stocked := by
  unfold Configuration.leaveBlock
  dsimp only
  split
  · exact stocked
  · next repeater outer repeaters _ =>
      have all : ∀ block ∈ repeater :: outer, 0 < block.items.size := repeaters ▸ stocked
      exact List.forall_mem_cons.mpr (List.forall_mem_cons.mp all)
  · next repeater outer base bases repeaters _ =>
      have all : ∀ block ∈ repeater :: outer, 0 < block.items.size := repeaters ▸ stocked
      exact List.forall_mem_cons.mpr (List.forall_mem_cons.mp all)

theorem settle (stocked : progress.store.Stocked)
    (settled : Configuration.settle engine top beneath progress = .ok reached) :
    reached.store.Stocked := by
  unfold Configuration.settle at settled
  cases move : progress.move with
  | enter entries =>
      rw [move] at settled
      exact stocked.of_repeaters (congrArg Surroundings.repeaters (surroundings_enterAll settled))
  | leaveBlock =>
      rw [move] at settled
      cases settled
      exact leaveBlock stocked

end Store.Stocked

theorem Configuration.Steps.stocked (steps : Steps engine configuration reached)
    (wellStacked : WellStacked engine configuration) (stocked : configuration.store.Stocked) :
    reached.store.Stocked := by
  cases steps.comesAbout wellStacked with
  | makes makes goesOn settled =>
      refine Store.Stocked.settle ?_ settled
      cases makes with
      | resumed first resumed => exact stocked.resume resumed
      | read idle next stopped reading => exact Store.Stocked.begin stocked reading
      | completed idle ended completes =>
          refine stocked.of_repeaters ?_
          rw [repeaters_complete, repeaters_release]
  | drops store top beneath => exact stocked.of_repeaters (repeaters_release store top)

/-- Throughout a run all open blocks have items. -/
theorem Configuration.Reachable.stocked (reachable : Reachable engine pattern seed configuration) :
    configuration.store.Stocked := by
  induction reachable with
  | refl => nofun
  | tail before steps inductionHypothesis =>
      exact steps.stocked (Reachable.wellStacked before) inductionHypothesis

end Stocking

/-! ### Each turn takes an item -/

namespace Configuration

/-- When the turn comes next for the activation on top of `beneath`, the item that is chosen is
there, and if the stack has room for the pieces of the turn, it is among those that run next. -/
structure TakesItem (engine : Engine) (store : Store) (top : Activation)
    (beneath : List Activation) (turn : Repeater) : Prop where
  below : ((store.workspace top.sink).chooseItem turn).1 < turn.items.size
  item : ∃ item, turn.item? ((store.workspace top.sink).chooseItem turn).1 = some item ∧
    (beneath.length + (turn.sequence turn.index item).length < engine.settings.maxStackDepth →
      ∃ reached, step engine store top beneath = .ok reached ∧
        reached.stack = entered (turn.sequence turn.index item) top.sink ++ top :: beneath)

/-- All synchronizers have only been used, and where a block is at a turn, an item is taken, be it
the one in order or chosen by a synchronizer or by chance. -/
structure FindsItems (engine : Engine) (configuration : Configuration) : Prop where
  synchronizers : configuration.store.synchronizers.All Synchronizer.IsUsed
  turns : ∀ top beneath, configuration.stack = top :: beneath → .takeTurn ∈ top.tasks →
    ∃ repeater outer, configuration.store.repeaters = repeater :: outer ∧
      ∀ turn, repeater.advance = (true, turn) →
        TakesItem engine configuration.store top beneath turn

section Taking

variable {engine : Engine} {pattern : Pattern} {seed : UInt64} {store : Store} {top : Activation}
  {beneath : List Activation} {repeater turn : Repeater} {outer : List Repeater}
  {configuration : Configuration}

/-- Code is entered as long as there is room for it. -/
theorem exists_enterAll {entries : List Entry}
    (room : beneath.length + entries.length < engine.settings.maxStackDepth) :
    ∃ reached, enterAll engine entries ⟨store, top :: beneath⟩ = .ok reached := by
  induction entries generalizing store top beneath with
  | nil => exact ⟨_, rfl⟩
  | cons entry entries inductionHypothesis =>
      rw [List.length_cons] at room
      have low : ¬ engine.settings.maxStackDepth ≤ beneath.length + 1 := by omega
      have higher : (top :: beneath).length + entries.length < engine.settings.maxStackDepth := by
        rw [List.length_cons]
        omega
      simp only [enterAll, enter, if_neg low]
      exact inductionHypothesis higher

theorem takesItem_of_stocked (wellStacked : WellStacked engine ⟨store, top :: beneath⟩)
    (stocked : store.Stocked) (dealt : store.synchronizers.Dealt) (tasks : top.tasks = [.takeTurn])
    (repeaters : store.repeaters = repeater :: outer) (turns : repeater.advance = (true, turn)) :
    TakesItem engine store top beneath turn := by
  have some : 0 < turn.items.size :=
    Repeater.items_advance turns ▸ stocked repeater (repeaters ▸ List.mem_cons_self)
  have below := (store.workspace top.sink).chooseItem_lt dealt some
  obtain ⟨item, found⟩ :
      ∃ item, turn.item? ((store.workspace top.sink).chooseItem turn).1 = .some item := by
    simp [Repeater.item?, below]
  refine ⟨below, item, found, fun room => ?_⟩
  obtain ⟨reached, stepped⟩ : ∃ reached, step engine store top beneath = .ok reached := by
    rw [step_of_turn tasks repeaters turns rfl found]
    refine exists_enterAll ?_
    rwa [List.length_map, List.length_reverse]
  have started := started_eq tasks wellStacked.height repeaters turns rfl found stepped
  exact ⟨reached, stepped, congrArg Configuration.stack started⟩

theorem Reachable.findsItems (reachable : Reachable engine pattern seed configuration) :
    configuration.FindsItems engine where
  synchronizers := Reachable.kept Synchronizer.kept_isUsed reachable
  turns := by
    intro top beneath stack present
    have wellStacked := Reachable.wellStacked reachable
    have stocked := Reachable.stocked reachable
    have dealt := Reachable.dealt reachable
    obtain ⟨store, _⟩ := configuration
    obtain rfl : _ = top :: beneath := stack
    have taking : top.takesTurns = true := List.any_eq_true.mpr ⟨_, present, rfl⟩
    have tasks := Activation.tasks_of_takesTurns taking
      (wellStacked.ordered.tasks top List.mem_cons_self)
    have length : store.repeaters.length = (top :: beneath).countP Activation.takesTurns :=
      wellStacked.disciplined.repeaters
    rw [List.countP_cons_of_pos taking] at length
    obtain ⟨repeater, outer, repeaters⟩ := List.exists_cons_of_length_eq_add_one length
    exact ⟨repeater, outer, repeaters, fun turn turns =>
      takesItem_of_stocked wellStacked stocked dealt tasks repeaters turns⟩

end Taking

end Configuration

/-- Choices are in range. Whatever a synchronizer was used for, and with whatever lengths, it never
reads past its deck, and chooses below the length that is asked for; so each turn of a block in a
run takes an item that is there. -/
theorem choices_in_range (kind : SynchronizerKind) (streamSeed : UInt64)
    (uses : List (Nat × Use)) {engine : Engine} {pattern : Pattern} {seed : UInt64}
    {configuration : Configuration} (reachable : Reachable engine pattern seed configuration) :
    ((Synchronizer.fresh kind streamSeed).behind uses).ChoosesInRange ∧
      configuration.FindsItems engine :=
  ⟨((Synchronizer.kept_ready.behind (Synchronizer.kept_ready.fresh _ _) uses)).choosesInRange,
    Reachable.findsItems reachable⟩

/-- A deck that meets three lengths, and the first turn of the block of two items. -/
theorem TwoItems.takesItem_first :
    Reachable .standard pattern 0 (awaiting (.fresh .standard 0) 0) ∧
      ((Synchronizer.fresh .deck 7).behind
        [(3, .next), (3, .pin), (5, .step), (2, .next)]).ChoosesInRange ∧
      TakesItem .standard (awaiting (.fresh .standard 0) 0).store (opener.turning 14) []
        (repeater.turn 0) := by
  have reachable : Reachable .standard pattern 0 (awaiting (.fresh .standard 0) 0) :=
    reachable_outside.tail steps_awaiting
  obtain ⟨inRange, findsItems⟩ :=
    choices_in_range .deck 7 [(3, .next), (3, .pin), (5, .step), (2, .next)] reachable
  obtain ⟨_, _, repeaters, takes⟩ := findsItems.turns _ _ rfl List.mem_cons_self
  obtain ⟨rfl, -⟩ := List.cons.inj repeaters
  exact ⟨reachable, inRange, takes _ rfl⟩

end Machine

end SeededText
