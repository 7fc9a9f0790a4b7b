import SeededText.Proofs.Pieces

/-!
Contract: code whose text is waited for runs to its end, and leaves nothing behind but its text.

An activation that needs a text enters code with a sink of its own and waits. While that code runs,
other code is entered above it and done with, and replacers in it put their matches on the stack of
matches and take them off again. What lies on that stack for the activation that waits and for those
beneath it stays at the bottom. So whenever no replacer above is at a match of its own, code sees
the match that was on top when the code was entered.

Owns: the matches beneath code under way, the match that code sees, running code up to its text.
Does not own: running code to its end (`SeededText.Proofs.Pieces`), what is done with the text.
-/

namespace SeededText.Machine

open Output SeededText.Machine.Configuration

/-! ### The matches beneath code under way -/

namespace Configuration

/-- Activations lie on others, and the given matches lie beneath those of replacers that are at a
match among the activations above. -/
def InMatch (block : List Activation) (found : List MatchData) (configuration : Configuration) :
    Prop :=
  ∃ above nested, configuration.stack = above ++ block ∧
    configuration.store.matchStack = nested ++ found ∧
    nested.length = above.countP Activation.isReplacing

/-- No activation above is at a match of its own. -/
def IsDirectlyAtMatch (block : List Activation) (configuration : Configuration) : Prop :=
  ∃ above, configuration.stack = above ++ block ∧
    ∀ activation ∈ above, activation.isReplacing = false

/-- Steps that neither finish nor drop the activation at an index, with the given matches at the
bottom all the time. -/
abbrev ReachesInMatch (engine : Engine) (block : List Activation) (found : List MatchData) :
    Configuration → Configuration → Prop :=
  Relation.ReflTransGen fun before after =>
    StepsWith engine block.length before after ∧ after.InMatch block found

/-- From `before`, where code has been entered above the activations of `block`, to `after`, where
it has been left, the code makes a text: what its sink shows at its end, which becomes the result on
top. Nothing else has changed for what lies beneath, neither the sinks nor the matches. -/
structure MakesText (engine : Engine) (block : List Activation) (sinks : Array Sink)
    (found : List MatchData) (code : Code) (text : String) (before after : Configuration) :
    Prop where
  starts : before.stack = .enter (.apart code) sinks.size :: block
  begins : before.InMatch block found
  runs : ∃ ended later, ReachesInMatch engine block found before ended ∧
    ended.stack = later :: block ∧ later.Continues (.enter (.apart code) sinks.size) ∧
    later.IsAtEnd ∧ text = (ended.store.sinkAt sinks.size).mainText ended.store.targets ∧
    Steps engine ended after
  stack : after.stack = block
  text : after.store.resultText = text
  sinks : after.store.sinks = sinks
  found : after.store.matchStack = found

end Configuration

section Matching

variable {engine : Engine} {store : Store} {top : Activation}
  {beneath above block : List Activation} {found outer : List MatchData} {matched : MatchData}
  {configuration before reached ended : Configuration}

/-- If matches lie at the bottom that are as many as the block needs, then those above them belong
to activations above it. -/
theorem WellStacked.inMatch (wellStacked : WellStacked engine configuration)
    (stack : configuration.stack = above ++ block)
    (held : block.countP Activation.isReplacing = found.length)
    (bottom : found <:+ configuration.store.matchStack) : configuration.InMatch block found := by
  obtain ⟨nested, whole⟩ := bottom
  refine ⟨above, nested, stack, whole.symm, ?_⟩
  have length := wellStacked.disciplined.matchStack
  rw [stack, List.countP_append, ← whole, List.length_append] at length
  omega

namespace Configuration.InMatch

/-- The matches are just the given ones, if no activation above is at a match. -/
theorem matchStack_eq (inMatch : configuration.InMatch block found)
    (direct : configuration.IsDirectlyAtMatch block) : configuration.store.matchStack = found := by
  obtain ⟨above, nested, stack, whole, length⟩ := inMatch
  obtain ⟨others, stack', resting⟩ := direct
  obtain rfl : above = others := List.append_cancel_right (stack.symm.trans stack')
  have none : above.countP Activation.isReplacing = 0 := by
    simpa [List.countP_eq_zero] using resting
  obtain rfl : nested = [] := List.eq_nil_of_length_eq_zero (length.trans none)
  exact whole

/-- Code sees the match on top of the given ones. -/
theorem found?_scope (inMatch : configuration.InMatch block (matched :: outer))
    (direct : configuration.IsDirectlyAtMatch block) :
    configuration.store.scope.found? = some matched := by
  show configuration.store.matchStack.head? = some matched
  rw [inMatch.matchStack_eq direct]
  rfl

theorem present (inMatch : configuration.InMatch block found) : block <:+ configuration.stack := by
  obtain ⟨above, -, stack, -⟩ := inMatch
  exact ⟨above, stack.symm⟩

/-- A step above the block drops at most matches of activations above it. -/
theorem step (wellStacked : WellStacked engine ⟨store, top :: beneath⟩)
    (held : block.countP Activation.isReplacing = found.length)
    (inMatch : InMatch block found ⟨store, top :: beneath⟩) (higher : block <:+ beneath)
    (stepped : Configuration.step engine store top beneath = .ok reached)
    (present : block <:+ reached.stack) : reached.InMatch block found := by
  have reachedStacked := wellStacked.step stepped
  have short := wellStacked.ordered.tasks top List.mem_cons_self
  have bottom : found <:+ store.matchStack := by
    obtain ⟨-, nested, -, whole, -⟩ := inMatch
    exact ⟨nested, whole.symm⟩
  have moves : Nested (store.matchStack.drop top.isReplacing.toNat) reached.store.matchStack :=
    (moves_step short stepped).matchStack
  have unmatched : found.length + top.isReplacing.toNat ≤ store.matchStack.length := by
    have fewer := higher.sublist.countP_le (p := Activation.isReplacing)
    rw [wellStacked.disciplined.matchStack, countP_cons_eq_toNat_add]
    omega
  have high : found.length ≤ reached.store.matchStack.length := by
    rw [← held]
    exact (reachedStacked.heights_le present).2.2.1
  obtain ⟨others, onBlock⟩ := present
  apply reachedStacked.inMatch onBlock.symm held
  exact moves.suffix (suffix_drop bottom unmatched) high

end Configuration.InMatch

/-- A path above the block keeps the matches at the bottom all the time. -/
theorem Configuration.reachesInMatch {repeaters : List Repeater}
    (wellStacked : WellStacked engine before)
    (held : block.countP Activation.isReplacing = found.length)
    (inMatch : before.InMatch block found) (higher : block.length < before.stack.length)
    (path : ReachesInTurn engine block repeaters block.length before ended) :
    ReachesInMatch engine block found before ended ∧ ended.InMatch block found := by
  suffices ReachesInMatch engine block found before ended ∧ ended.InMatch block found ∧
      WellStacked engine ended ∧ block.length < ended.stack.length from ⟨this.1, this.2.1⟩
  induction path with
  | refl => exact ⟨.refl, inMatch, wellStacked, higher⟩
  | @tail middle last _ next inductionHypothesis =>
      obtain ⟨stepsWith, above, -, stack, -⟩ := next
      obtain ⟨reaches, inMatch, wellStacked, higher⟩ := inductionHypothesis
      have steps := stepsWith
      obtain @⟨store, top, beneath, last, stepped, unfinished, kept⟩ := steps
      have present : block <:+ beneath := by
        apply List.suffix_of_suffix_length_le inMatch.present (List.suffix_cons top beneath)
        exact Nat.le_of_lt_succ higher
      have inMatch' := inMatch.step wellStacked held present stepped ⟨above, stack.symm⟩
      exact ⟨reaches.tail ⟨stepsWith, inMatch'⟩, inMatch', wellStacked.step stepped, kept⟩

end Matching

/-! ### Running code up to its text -/

section Running

variable {engine : Engine} {store : Store} {block : List Activation} {sinks : Array Sink}
  {found : List MatchData} {code : Code} {text : String} {before after : Configuration}

/-- Code that makes a text is above the block all the time until it is left. -/
theorem Configuration.MakesText.staysOpen
    (makes : MakesText engine block sinks found code text before after) :
    StaysOpen engine block before after := by
  obtain ⟨ended, later, path, -, -, -, -, leaves⟩ := makes.runs
  have opens : StaysOpen engine block before ended := by
    apply Relation.ReflTransGen.mono _ _ _ path
    rintro first second ⟨⟨stepped, -, -⟩, inMatch⟩
    exact ⟨⟨stepped⟩, inMatch.present⟩
  exact opens.tail ⟨leaves, makes.stack ▸ List.suffix_refl _⟩

theorem pop_eq {α : Type} {larger smaller : Array α} (size : larger.size = smaller.size + 1)
    (same : ∀ index < smaller.size, larger[index]? = smaller[index]?) : larger.pop = smaller := by
  apply Array.ext_getElem?
  intro index
  rw [Array.getElem?_pop, size, Nat.add_sub_cancel]
  by_cases inside : index < smaller.size
  · rw [if_pos inside, same index inside]
  · rw [if_neg inside, Array.getElem?_eq_none (Nat.le_of_not_lt inside)]

/-- Beneath an activation with a sink of its own there are the other sinks. -/
theorem WellStacked.pop_sinks {later : Activation}
    (wellStacked : WellStacked engine ⟨store, later :: block⟩) (owns : later.ownsSink = true)
    (size : sinks.size = 1 + block.countP Activation.ownsSink)
    (same : ∀ index < sinks.size, store.sinks[index]? = sinks[index]?) :
    store.sinks.pop = sinks := by
  have total : store.sinks.size = 1 + (later :: block).countP Activation.ownsSink :=
    wellStacked.disciplined.sinks
  rw [List.countP_cons_of_pos owns] at total
  exact pop_eq (by omega) same

/-- When code with a sink of its own has come to its end, it is left for its text. -/
theorem Configuration.makesText_of_isAtEnd {later : Activation}
    (starts : before.stack = .enter (.apart code) sinks.size :: block)
    (begins : before.InMatch block found)
    (path : ReachesInMatch engine block found before ⟨store, later :: block⟩)
    (ends : InMatch block found ⟨store, later :: block⟩)
    (continues : later.Continues (.enter (.apart code) sinks.size)) (atEnd : later.IsAtEnd)
    (rest : store.sinks.pop = sinks) :
    MakesText engine block sinks found code
      ((store.sinkAt (store.sinks.size - 1)).mainText store.targets) before
      ⟨release store later, block⟩ := by
  have leaves : Steps engine ⟨store, later :: block⟩ ⟨release store later, block⟩ :=
    steps_leave engine store block atEnd continues.completion?
  have released : release store later = { store with
      sinks := store.sinks.pop
      results := store.sinkAt (store.sinks.size - 1) :: store.results } := by
    have owns : later.ownsSink = true := continues.ownsSink
    rw [release, if_pos owns]
  have direct : IsDirectlyAtMatch block ⟨store, later :: block⟩ := by
    refine ⟨[later], rfl, ?_⟩
    intro activation member
    obtain rfl := List.mem_singleton.mp member
    simp [Activation.isReplacing, atEnd.1]
  have matchStack : store.matchStack = found := ends.matchStack_eq direct
  have last : sinks.size = store.sinks.size - 1 := rest ▸ Array.size_pop
  rw [released] at leaves ⊢
  exact {
    starts := starts
    begins := begins
    runs := ⟨_, later, path, rfl, continues, atEnd, last ▸ rfl, leaves⟩
    stack := rfl
    text := rfl
    sinks := rest
    found := matchStack }

/-- A step above the block is no step from the end of what lies directly on it. -/
theorem Configuration.StepsWith.not_isAtEnd {later : Activation}
    (steps : StepsWith engine block.length before after) (stack : before.stack = later :: block) :
    ¬ later.IsAtEnd := by
  cases steps with
  | intro _ unfinished _ =>
      obtain ⟨rfl, rfl⟩ := List.cons.inj stack
      exact unfinished rfl

/-- There is one text that code makes. -/
theorem Configuration.MakesText.unique {other : String} {otherAfter : Configuration}
    (first : MakesText engine block sinks found code text before after)
    (second : MakesText engine block sinks found code other before otherAfter) :
    text = other ∧ after = otherAfter := by
  obtain ⟨ended, later, path, stack, -, atEnd, made, leaves⟩ := first.runs
  obtain ⟨otherEnded, otherLater, otherPath, otherStack, -, otherAtEnd, otherMade, otherLeaves⟩ :=
    second.runs
  have deterministic : Relator.RightUnique fun before after =>
      StepsWith engine block.length before after ∧ after.InMatch block found := by
    rintro _ _ _ ⟨⟨stepped, -, -⟩, -⟩ ⟨⟨otherStepped, -, -⟩, -⟩
    exact Except.ok.inj (stepped.symm.trans otherStepped)
  -- Neither path goes on behind the end of the code, so they have the same end.
  have same : ended = otherEnded := by
    rcases path.total_of_right_unique deterministic otherPath with further | further
    · rcases further.cases_head with same | ⟨_, ⟨steps, -⟩, -⟩
      · exact same
      · exact absurd atEnd (steps.not_isAtEnd stack)
    · rcases further.cases_head with same | ⟨_, ⟨steps, -⟩, -⟩
      · exact same.symm
      · exact absurd otherAtEnd (steps.not_isAtEnd otherStack)
  subst same
  exact ⟨made.trans otherMade.symm, leaves.deterministic otherLeaves⟩

/-- Code that is entered with a sink of its own makes a text, if nothing in it fails or breaks out
of it. -/
theorem Configuration.exists_makesText (wellStacked : WellStacked engine before)
    (starts : before.stack = .enter (.apart code) sinks.size :: block)
    (opens : before.store.sinks = sinks.push .fresh)
    (beneath : before.store.matchStack = found) (runs : RunsThrough engine block before) :
    ∃ text after, MakesText engine block sinks found code text before after := by
  let child : Activation := .enter (.apart code) sinks.size
  have disciplined := wellStacked.disciplined
  have held : block.countP Activation.isReplacing = found.length := by
    rw [← beneath, disciplined.matchStack, starts]
    rfl
  have turns : block.countP Activation.takesTurns = before.store.repeaters.length := by
    rw [disciplined.repeaters, starts]
    rfl
  have size : sinks.size = 1 + block.countP Activation.ownsSink := by
    have own : child.ownsSink = true := rfl
    have total : before.store.sinks.size = 1 + before.stack.countP Activation.ownsSink :=
      disciplined.sinks
    have counted : before.stack.countP Activation.ownsSink =
        block.countP Activation.ownsSink + 1 := by
      rw [starts]
      exact List.countP_cons_of_pos own
    rw [opens, Array.size_push, counted] at total
    omega
  have onBlock : before.stack = [child] ++ block := starts
  have begins : before.InMatch block found :=
    wellStacked.inMatch onBlock held (beneath ▸ List.suffix_refl _)
  -- Nothing else waits between the code and the block.
  have alone : ∀ activation ∈ ([] : List Activation), activation.takesTurns = false := nofun
  have onTop : before.stack = [] ++ child :: ([] ++ block) := starts
  have during : During engine block before.store.repeaters before before :=
    ⟨wellStacked, .refl, wellStacked.inTurn onBlock turns (List.suffix_refl _)⟩
  obtain ⟨⟨store, _⟩, later, path, rfl, continues, atEnd, passed⟩ :=
    during.exists_atEnd runs turns alone onTop ⟨rfl, rfl, rfl, rfl⟩
  have higher : block.length < before.stack.length := by
    rw [starts]
    exact Nat.lt_succ_self _
  obtain ⟨inMatch, ends⟩ := reachesInMatch wellStacked held begins higher path
  have covers : Covers child block before.store.sinks ⟨store, later :: block⟩ := by
    have first : Covers child block before.store.sinks before :=
      ⟨⟨[], child, starts, ⟨rfl, rfl, rfl, rfl⟩⟩, fun _ _ => rfl⟩
    have kept : ReachesWith engine block.length before ⟨store, later :: block⟩ :=
      Relation.ReflTransGen.mono (fun _ _ steps => steps.1) _ _ path
    exact (first.reachesWith wellStacked kept).2
  have rest : store.sinks.pop = sinks := by
    apply passed.wellStacked.pop_sinks continues.ownsSink size
    intro index below
    rw [covers.sinks index below, opens, Array.getElem?_push_lt below,
      Array.getElem?_eq_getElem below]
  exact ⟨_, _, makesText_of_isAtEnd starts begins inMatch ends continues atEnd rest⟩

end Running

end SeededText.Machine
