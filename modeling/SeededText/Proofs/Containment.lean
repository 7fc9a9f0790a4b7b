import SeededText.Proofs.CodeRanges
import SeededText.Proofs.StackDiscipline

/-!
Contract: code stays within its range.

Ranges of code are cut out of matched brackets or are whole patterns, so a bracket that is opened in
one closes in it. Reading never goes past the end of the range, and what is read belongs to nothing
else.

Owns: the code that constructs cut out, the invariant of a run that ranges of code contain their
scopes, its consequences.
Does not own: what code parts of a configuration hold (`SeededText.Proofs.CodeRanges`), nesting of
brackets (`SeededText.Proofs.Brackets`).
-/

namespace SeededText.Machine

open Pattern

/-! ### What constructs cut out -/

/-- The code that a construct has cut out of its own tokens, in order. -/
def Construct.pieces : Construct → List Code
  | .nothing => []
  | .block repeater => repeater.items.toList.map (Code.mk repeater.pattern)
  | .tag _ _ planned | .call _ _ planned => planned.map PlannedArgument.code
  | .replacer _ input replacement => [input, replacement]
  | .generated source | .arithmetic _ _ source | .definition _ _ source => [source]

/-- What has been read holds code that was there before and code that is cut out of a pattern
between two indices. -/
structure Reading.IsCut (pattern : Pattern) (start stop : Nat) (workspace : Workspace)
    (reading : Reading) : Prop where
  pieces : ∃ spans, Cuts pattern start stop spans ∧
    reading.2.pieces = spans.map (Code.mk pattern)
  construct : reading.2.codes ⊆ workspace.codes ++ reading.2.pieces
  workspace : ∃ spans, Cuts pattern start stop spans ∧
    reading.1.codes ⊆ workspace.codes ++ spans.map (Code.mk pattern)

namespace Reading.IsCut

variable {pattern : Pattern} {start stop : Nat} {workspace changed : Workspace}

/-- Reading that changes the workspace, but not its code. -/
theorem of_pieces {construct : Construct} {spans : List Span}
    (kept : changed.codes ⊆ workspace.codes) (cuts : Cuts pattern start stop spans)
    (pieces : construct.pieces = spans.map (Code.mk pattern))
    (codes : construct.codes ⊆ workspace.codes ++ construct.pieces) :
    IsCut pattern start stop workspace (changed, construct) where
  pieces := ⟨spans, cuts, pieces⟩
  construct := codes
  workspace := ⟨[], .nil, List.subset_append_of_subset_left _ kept⟩

/-- Reading that leaves nothing to be done. -/
theorem nothing (kept : changed.codes ⊆ workspace.codes) :
    IsCut pattern start stop workspace (changed, .nothing) :=
  of_pieces kept .nil rfl (List.nil_subset _)

/-- Reading that leaves code to be run. -/
theorem source {construct : Construct} {first last : Nat} (balanced : Balanced pattern first last)
    (inside : start ≤ first ∧ last ≤ stop) (pieces : construct.pieces = [⟨pattern, first, last⟩])
    (codes : construct.codes = construct.pieces) :
    IsCut pattern start stop workspace (workspace, construct) :=
  of_pieces (List.Subset.refl _) (.single balanced inside) pieces
    (codes ▸ List.subset_append_right _ _)

theorem mono {wideStart : Nat} {reading : Reading}
    (cut : reading.IsCut pattern start stop workspace) (before : wideStart ≤ start) :
    reading.IsCut pattern wideStart stop workspace := by
  obtain ⟨⟨pieces, piecesCut, same⟩, construct, ⟨spans, cuts, changed⟩⟩ := cut
  exact ⟨⟨pieces, piecesCut.mono before (Nat.le_refl _), same⟩, construct,
    ⟨spans, cuts.mono before (Nat.le_refl _), changed⟩⟩

end Reading.IsCut

namespace Context

variable {context : Context} {workspace : Workspace} {index start stop close : Nat}
  {reading : Reading}

theorem checkScope_eq_ok {α : Type} {result : Except (Located ScopeProblem) α} {value : α}
    (checked : context.checkScope result = .ok value) : result = .ok value := by
  cases result with
  | error problem => cases checked
  | ok present =>
      cases checked
      rfl

theorem cuts_argumentSpans {name : String} {spans : List Span}
    (balanced : Balanced context.pattern index stop)
    (read : context.argumentSpans index stop name = .ok spans) :
    Cuts context.pattern index stop spans := by
  obtain ⟨skipped, left⟩ := balanced.skipBlanks
  simp only [argumentSpans] at read
  split at read
  · next inside =>
      split at read
      · cases read
        exact .nil
      · next token found =>
          have here := kindAt?_of_getElem? found
          have arguments (noBracket : token.kind.isBracket = false) :
              Cuts context.pattern index stop (context.pattern.splitTrimmed
                ⟨context.pattern.skipBlanks index stop + 1, stop⟩ .semicolon) :=
            (cuts_splitTrimmed (left.tail inside here noBracket)).mono
              (Nat.le_succ_of_le skipped) (Nat.le_refl _)
          split at read
          · next colon =>
              cases read
              exact arguments (by rw [colon]; rfl)
          · next semicolon =>
              cases read
              exact arguments (by rw [semicolon]; rfl)
          · cases read
  · cases read
    exact .nil

section Reading

variable {position : Pattern.Position} {token : Token}

theorem isCut_readBlock (workspace : Workspace)
    (body : Balanced context.pattern (index + 1) close) :
    (context.readBlock workspace (context.pattern.itemsBetween index close)).IsCut
      context.pattern (index + 1) close workspace := by
  have used : ({ workspace with attributes := .standard }).codes ⊆ workspace.codes :=
    append_subset_append_right _ (List.nil_subset _)
  have block (changed : Workspace) (kept : changed.codes ⊆ workspace.codes) :
      Reading.IsCut context.pattern (index + 1) close workspace
        (changed, .block (.ofBlock context.pattern (context.pattern.itemsBetween index close)
          workspace.attributes)) := by
    refine .of_pieces kept (cuts_itemsBetween body) rfl ?_
    refine List.append_subset.mpr ⟨List.subset_append_right _ _, ?_⟩
    exact List.subset_append_of_subset_left _ (List.subset_append_right _ _)
  simp only [readBlock]
  split
  · exact .nothing used
  · cases workspace.attributes.chance? <;> dsimp only <;> split
    · exact .nothing used
    · exact block _ used
    · exact .nothing used
    · exact block _ used

theorem isCut_callTag
    (body : Balanced context.pattern (index + 1) close)
    (read : context.callTag workspace position index token close = .ok reading) :
    reading.IsCut context.pattern (index + 1) close workspace := by
  unfold callTag at read
  split at read
  · obtain ⟨spans, arguments, read⟩ := bind_eq_ok.mp read
    split at read
    · cases read
    · cases read
    · cases read
      refine .of_pieces (List.Subset.refl _) (cuts_argumentSpans body arguments) ?_
        (List.subset_append_right _ _)
      exact codes_ofParameters _ _
  · cases read

theorem isCut_replace
    (body : Balanced context.pattern (index + 1) close)
    (read : context.replace workspace position index token close = .ok reading) :
    reading.IsCut context.pattern (index + 1) close workspace := by
  unfold replace at read
  dsimp only at read
  split at read
  · obtain ⟨regex, -, read⟩ := bind_eq_ok.mp read
    obtain ⟨spans, arguments, read⟩ := bind_eq_ok.mp read
    split at read
    · cases read
      exact .of_pieces (List.Subset.refl _) (cuts_argumentSpans body arguments) rfl
        (List.subset_append_right _ _)
    · cases read
  · cases read

theorem isCut_callSubroutine
    (body : Balanced context.pattern (index + 1) close)
    (read : context.callSubroutine workspace position index token close = .ok reading) :
    reading.IsCut context.pattern (index + 1) close workspace := by
  unfold callSubroutine at read
  obtain ⟨spans, arguments, read⟩ := bind_eq_ok.mp read
  split at read
  · cases read
  · next subroutine known =>
      cases read
      have cuts := cuts_argumentSpans body arguments
      refine .of_pieces (List.Subset.refl _)
        (cuts.sublist (List.take_sublist subroutine.parameters.length _)) ?_ ?_
      · rw [List.map_take]
        exact codes_plan _ _
      · refine List.cons_subset.mpr ⟨List.mem_append_left _ ?_, List.subset_append_right _ _⟩
        exact List.mem_append_left _
          (List.mem_map.mpr ⟨_, Table.mem_entries_of_find? known, rfl⟩)

theorem isCut_defineSubroutine {isGenerated : Bool}
    (body : Balanced context.pattern index close) (inside : index < close)
    (read : context.defineSubroutine workspace index close isGenerated = .ok reading) :
    reading.IsCut context.pattern index close workspace := by
  unfold defineSubroutine at read
  obtain ⟨signatureClose, scope, read⟩ := bind_eq_ok.mp read
  obtain ⟨⟨name, parameters⟩, -, read⟩ := bind_eq_ok.mp read
  have scope := checkScope_eq_ok scope
  obtain ⟨bracket, opens, signature, closes⟩ := enclosed_of_scopeClose scope
  obtain ⟨before, behind⟩ := body.behind_scope inside opens signature closes
  have bounds := signature.bounds
  obtain ⟨skipped, left⟩ := behind.skipBlanks
  dsimp only at read
  split at read
  · next colon =>
      obtain ⟨inside, colon⟩ := colon
      have trimmed := (left.tail inside colon rfl).trimSpan
      dsimp only at trimmed
      have within : index ≤ (context.pattern.trimSpan
          ⟨context.pattern.skipBlanks (signatureClose + 1) close + 1, close⟩).start ∧
          (context.pattern.trimSpan
            ⟨context.pattern.skipBlanks (signatureClose + 1) close + 1, close⟩).stop ≤ close := by
        omega
      split at read
      · cases read
        exact .source trimmed.2.2 within rfl rfl
      · cases read
        exact ⟨⟨[], .nil, rfl⟩, List.nil_subset _,
          ⟨_, .single trimmed.2.2 within, Workspace.codes_define _ _⟩⟩
  · cases read

theorem isCut_readSubroutine
    (body : Balanced context.pattern index close)
    (read : context.readSubroutine workspace position index close = .ok reading) :
    reading.IsCut context.pattern index close workspace := by
  unfold readSubroutine at read
  split at read
  · cases read
  · next token found =>
      split at found
      · next inside =>
          have here := kindAt?_of_getElem? found
          split at read
          · next name =>
              rw [name] at here
              exact (isCut_callSubroutine (body.tail inside here rfl) read).mono (Nat.le_succ _)
          · by_cases question : token.kind = .question
            · simp only [question, if_true] at here read
              split at read
              · next signature =>
                  exact (isCut_defineSubroutine (body.tail inside here rfl) signature.1 read).mono
                    (Nat.le_succ _)
              · cases read
            · simp only [question, if_false] at read
              split at read
              · next signature => exact isCut_defineSubroutine body signature.1 read
              · cases read
      · cases found

theorem isCut_readTag
    (body : Balanced context.pattern (index + 1) close)
    (read : context.readTag workspace token index close = .ok reading) :
    reading.IsCut context.pattern (index + 1) close workspace := by
  simp only [readTag] at read
  obtain ⟨skipped, left⟩ := body.skipBlanks
  split at read
  · cases read
  · next found =>
      split at found
      · next inside =>
          have here := kindAt?_of_getElem? found
          have rest (noBracket) := left.tail inside here noBracket
          split at read
          · next question =>
              cases read
              have trimmed := (rest (question ▸ rfl)).trimSpan
              dsimp only at trimmed
              exact .source trimmed.2.2 (by omega) rfl rfl
          · next regex =>
              exact (isCut_replace (rest (regex ▸ rfl)) read).mono (by omega)
          · next dollar =>
              exact (isCut_readSubroutine (rest (dollar ▸ rfl)) read).mono (by omega)
          · next name =>
              exact (isCut_callTag (rest (name ▸ rfl)) read).mono (by omega)
          · cases read
      · cases found

theorem isCut_readArithmetic (workspace : Workspace) (opener : Token)
    (body : Balanced context.pattern (index + 1) close) :
    Reading.IsCut context.pattern (index + 1) close workspace
      (workspace, context.readArithmetic opener index close) := by
  obtain ⟨skipped, left⟩ := body.skipBlanks
  simp only [readArithmetic]
  refine .source ?_ ?_ rfl rfl
  · split
    · next statement =>
        obtain ⟨inside, sign⟩ := of_decide_eq_true statement
        exact left.tail inside sign rfl
    · exact left
  · split <;> omega

theorem codes_writeEntry {query : Vocabulary.Query}
    (read : context.writeEntry workspace position query = .ok reading) :
    ∃ changed : Workspace, reading = (changed, .nothing) ∧ changed.codes = workspace.codes := by
  unfold writeEntry at read
  split at read
  · cases read
  · split at read
    · cases read
      exact ⟨_, rfl, Workspace.codes_write _ _⟩
    · cases read
    · cases read

theorem codes_readQuery (read : context.readQuery workspace token index close = .ok reading) :
    ∃ changed : Workspace, reading = (changed, .nothing) ∧ changed.codes = workspace.codes := by
  simp only [readQuery] at read
  split at read
  · cases read
  · split at read
    · exact codes_writeEntry read
    · cases read
      split <;> exact ⟨_, rfl, rfl⟩
    · split at read
      · exact codes_writeEntry read
      · cases read

theorem codes_readEscape (read : context.readEscape workspace token = .ok reading) :
    ∃ changed : Workspace, reading = (changed, .nothing) ∧ changed.codes = workspace.codes := by
  simp only [readEscape] at read
  split at read
  · cases read
  · split at read
    · cases read
    · split at read
      · cases read
      · cases read
        exact ⟨_, rfl, Workspace.codes_write _ _⟩

/-- What is read holds code that was there before and code cut out between the brackets of the
construct. -/
theorem isCut_readConstruct
    (stopped : context.constructStop index token = .ok stop)
    (read : context.readConstruct workspace index stop token = .ok reading) :
    reading.IsCut context.pattern (index + 1) (stop - 1) workspace := by
  have written (text : String) : Reading.IsCut context.pattern (index + 1) (stop - 1) workspace
      (workspace.write text, .nothing) :=
    .nothing (Workspace.codes_write workspace text ▸ List.Subset.refl _)
  have nested {bracket : Bracket} (opens : token.kind = .opens bracket) :
      Balanced context.pattern (index + 1) (stop - 1) := by
    obtain ⟨close, scope, rfl⟩ := close_of_constructStop opens stopped
    obtain ⟨-, -, body, -⟩ := enclosed_of_scopeClose scope
    exact body
  simp only [readConstruct] at read
  split at read
  · next opens =>
      cases read
      exact isCut_readBlock _ (nested opens)
  · next opens => exact isCut_readTag (nested opens) read
  · next opens =>
      cases read
      exact isCut_readArithmetic _ _ (nested opens)
  · next opens =>
      obtain ⟨changed, rfl, same⟩ := codes_readQuery read
      exact .nothing (same ▸ List.Subset.refl _)
  · cases read
  · obtain ⟨changed, rfl, same⟩ := codes_readEscape read
    exact .nothing (same ▸ List.Subset.refl _)
  · cases read
    exact written _
  · cases read
    exact written _

end Reading

end Context

/-! ### The invariant -/

/-- An activation that reads its own range: no scope opened in what is left of it leaves it, and the
same holds of all code that it holds. -/
structure Activation.IsContained (activation : Activation) : Prop where
  started : activation.code.span.start ≤ activation.cursor
  rest : SelfContained activation.pattern activation.cursor activation.code.span.stop
  codes : ∀ code ∈ activation.codes, code.IsSelfContained

/-- The invariant of a run. -/
structure Configuration.IsContained (configuration : Configuration) : Prop where
  store : ∀ code ∈ configuration.store.codes, code.IsSelfContained
  stack : ∀ activation ∈ configuration.stack, activation.IsContained

/-- What the activation on top makes of its next step before the stack changes. -/
inductive Configuration.Makes (engine : Engine) : Configuration → Progress → Prop where
  | resumed {store : Store} {top : Activation} {beneath : List Activation} {task : Task}
      {tasks : List Task} {progress : Progress} (first : top.tasks = task :: tasks)
      (resumed : (top.context engine store).resume store top.sink task = .ok progress) :
      Makes engine ⟨store, top :: beneath⟩ progress
  | read {store : Store} {top : Activation} {beneath : List Activation} {token : Token}
      {stop : Nat} {workspace : Workspace} {construct : Construct} (idle : top.tasks = [])
      (next : top.nextToken? = some token)
      (stopped : (top.context engine store).constructStop top.cursor token = .ok stop)
      (reading : (top.context engine store).readConstruct (store.workspace top.sink) top.cursor stop
        token = .ok (workspace, construct)) :
      Makes engine ⟨store, top :: beneath⟩
        ((top.context engine store).begin (store.absorb top.sink workspace) beneath.length
          construct)
  | completed {store : Store} {top below : Activation} {others : List Activation}
      {completion : Completion} (idle : top.tasks = []) (ended : top.nextToken? = none)
      (completes : top.completion? = some completion) :
      Makes engine ⟨store, top :: below :: others⟩
        ((below.context engine (release store top)).complete (release store top) below.sink
          completion)

section Invariant

variable {engine : Engine} {store : Store} {top renewed : Activation} {beneath : List Activation}
  {progress : Progress} {configuration reached : Configuration}

theorem Configuration.codes_release (store : Store) (top : Activation) :
    (release store top).codes = store.codes := by
  unfold release
  split <;> rfl

/-- Code that is entered has its whole range before it. -/
theorem Activation.isContained_enter {entry : Entry} (sink : Nat)
    (held : ∀ code ∈ entry.codes, code.IsSelfContained) : (enter entry sink).IsContained where
  started := Nat.le_refl _
  rest := held entry.code List.mem_cons_self
  codes code member := held code (by simpa [Activation.codes, Entry.codes, enter] using member)

/-- An activation may read on within its range and leave other tasks. -/
theorem Activation.IsContained.renew (contained : top.IsContained) {cursor : Nat}
    {tasks : List Task} (elseArmed : Bool) (behind : top.cursor ≤ cursor)
    (rest : SelfContained top.pattern cursor top.code.span.stop)
    (held : ∀ code ∈ tasks.flatMap Task.codes, code.IsSelfContained) :
    ({ top with cursor := cursor, tasks := tasks, elseArmed := elseArmed }).IsContained where
  started := Nat.le_trans contained.started behind
  rest := rest
  codes code member := by
    simp only [Activation.codes, List.mem_cons, List.mem_append] at member
    rcases member with own | completion | task
    · exact contained.codes code (List.mem_cons.mpr (.inl own))
    · exact contained.codes code (List.mem_cons_of_mem _ (List.mem_append_left _ completion))
    · exact held code task

theorem Reading.IsCut.isSelfContained {pattern : Pattern} {start stop : Nat} {workspace : Workspace}
    {reading : Reading} (cut : reading.IsCut pattern start stop workspace)
    (held : ∀ code ∈ workspace.codes, code.IsSelfContained) :
    (∀ code ∈ reading.1.codes, code.IsSelfContained) ∧
      ∀ code ∈ reading.2.codes, code.IsSelfContained := by
  obtain ⟨⟨pieces, piecesCut, same⟩, construct, ⟨spans, cuts, changed⟩⟩ := cut
  have isCut {spans : List Span} (cuts : Cuts pattern start stop spans) :
      ∀ code ∈ spans.map (Code.mk pattern), code.IsSelfContained := by
    rw [List.forall_mem_map]
    exact fun span member => .balanced (cuts.balanced span member)
  refine ⟨fun code member => ?_, fun code member => ?_⟩
  · exact (List.mem_append.mp (changed member)).elim (held code) (isCut cuts code)
  · exact (List.mem_append.mp (construct member)).elim (held code)
      (same ▸ isCut piecesCut code)

/-- Whatever a step makes holds only code that contains its scopes. -/
theorem Configuration.Makes.isSelfContained (makes : Makes engine configuration progress)
    (contained : configuration.IsContained) :
    ∀ code ∈ progress.codes, code.IsSelfContained := by
  cases makes with
  | @resumed store top beneath task _ _ first resumed =>
      obtain ⟨patterns, -, made⟩ := Context.codes_resume rfl resumed
      intro code member
      rcases List.mem_append.mp (made member) with kept | new
      · exact contained.store code kept
      · rcases List.mem_append.mp new with held | whole
        · refine (contained.stack top List.mem_cons_self).codes code ?_
          simp [Activation.codes, first, held]
        · obtain ⟨pattern, -, rfl⟩ := List.mem_map.mp whole
          exact Code.isSelfContained_whole pattern
  | @read store top _ token _ workspace construct idle next stopped reading =>
      have cut := Context.isCut_readConstruct stopped reading
      have memory := fun code member =>
        contained.store code (List.mem_append_left _ member)
      obtain ⟨workspaceHolds, constructHolds⟩ := cut.isSelfContained memory
      intro code member
      rcases List.mem_append.mp (Context.codes_begin _ _ _ _ member) with kept | new
      · rcases List.mem_append.mp kept with changed | same
        · exact workspaceHolds code changed
        · exact contained.store code (List.mem_append_right _ same)
      · exact constructHolds code new
  | @completed store top below others completion idle ended completes =>
      intro code member
      rcases List.mem_append.mp (Context.codes_complete _ _ _ _ member) with kept | new
      · exact contained.store code (codes_release store top ▸ kept)
      · refine (contained.stack top List.mem_cons_self).codes code ?_
        simp [Activation.codes, completes, new]

/-- A change of the stack keeps the invariant. -/
theorem Configuration.isContained_settle
    (settled : settle engine top beneath progress = .ok reached)
    (made : ∀ code ∈ progress.codes, code.IsSelfContained)
    (stack : ∀ activation ∈ top :: beneath, activation.IsContained) : reached.IsContained := by
  obtain ⟨codes, origin⟩ := origin_of_settle settled
  refine ⟨fun code member => made code (List.mem_append_left _ (codes member)), ?_⟩
  intro activation member
  rcases origin activation member with ⟨entry, inside, sink, rfl⟩ | present
  · refine Activation.isContained_enter sink fun code held => made code ?_
    exact List.mem_append_right _
      (List.mem_append_left _ (List.mem_flatMap.mpr ⟨entry, inside, held⟩))
  · rcases List.mem_cons.mp present with same | lower
    · have contained := stack top List.mem_cons_self
      rw [same]
      refine contained.renew _ (Nat.le_refl _) contained.rest fun code held => ?_
      exact contained.codes code (List.mem_cons_of_mem _ (List.mem_append_right _ held))
    · exact stack activation (List.mem_cons_of_mem _ lower)

/-- Behind a construct the range goes on, and it still contains its scopes. -/
theorem Activation.IsContained.behind {token : Token} {stop : Nat} (contained : top.IsContained)
    (next : top.nextToken? = some token)
    (stopped : (top.context engine store).constructStop top.cursor token = .ok stop) :
    stop ≤ top.code.span.stop ∧ SelfContained top.pattern stop top.code.span.stop := by
  obtain ⟨inside, found⟩ := Code.read_of_tokenAt? next
  have here := kindAt?_of_getElem? found
  unfold Context.constructStop at stopped
  split at stopped
  · obtain ⟨close, scope, same⟩ := bind_eq_ok.mp stopped
    cases same
    exact contained.rest.behind_scope inside (Context.checkScope_eq_ok scope)
  · next noOpener =>
      cases stopped
      exact ⟨inside, contained.rest.tail inside here noOpener⟩

/-- Every step keeps the invariant. -/
theorem Configuration.Steps.isContained (steps : Steps engine configuration reached)
    (wellStacked : WellStacked engine configuration) (contained : configuration.IsContained) :
    reached.IsContained := by
  obtain @⟨store, top, beneath, _, stepped⟩ := steps
  have topContained := contained.stack top List.mem_cons_self
  have lower : ∀ activation ∈ beneath, activation.IsContained := fun activation member =>
    contained.stack activation (List.mem_cons_of_mem _ member)
  -- What a step leaves with the activation on top is code that it has made.
  have left {progress : Progress} (made : ∀ code ∈ progress.codes, code.IsSelfContained) :
      ∀ code ∈ progress.task?.toList.flatMap Task.codes, code.IsSelfContained := fun code member =>
    made code (List.mem_append_right _ (List.mem_append_right _ member))
  cases stepped_of_step (wellStacked.ordered.tasks top List.mem_cons_self) stepped with
  | resume task progress tasks resumed settled =>
      have made := (Makes.resumed tasks resumed).isSelfContained contained
      refine isContained_settle settled made (List.forall_mem_cons.mpr ⟨?_, lower⟩)
      exact topContained.renew _ (Nat.le_refl _) topContained.rest (left made)
  | read token stop workspace construct idle next stopped reading settled =>
      have made := (Makes.read idle next stopped reading).isSelfContained contained
      have behind := topContained.behind next stopped
      refine isContained_settle settled made (List.forall_mem_cons.mpr ⟨?_, lower⟩)
      exact topContained.renew _ (Nat.le_of_lt (Context.lt_of_constructStop stopped)) behind.2
        (left made)
  | leave idle ended departed =>
      have released : ∀ code ∈ (release store top).codes, code.IsSelfContained :=
        codes_release store top ▸ contained.store
      simp only [leave] at departed
      split at departed
      · next completion below others completes =>
          have makes : Makes engine ⟨store, top :: below :: others⟩ _ :=
            .completed idle ended completes
          exact isContained_settle departed (makes.isSelfContained contained) lower
      · cases departed
        exact ⟨released, lower⟩

/-- Every run keeps the invariant. -/
theorem Configuration.Reaches.isContained (reaches : Reaches engine configuration reached)
    (wellStacked : WellStacked engine configuration) (contained : configuration.IsContained) :
    reached.IsContained := by
  induction reaches with
  | refl => exact contained
  | tail before step inductionHypothesis =>
      exact step.isContained (Reaches.wellStacked before wellStacked) inductionHypothesis

end Invariant

/-! ### Runs -/

section Runs

variable {engine next : Engine} {pattern : Pattern} {seed : UInt64}
  {configuration : Configuration}

theorem Configuration.isContained_start (engine : Engine) (pattern : Pattern) (seed : UInt64)
    (held : ∀ code ∈ engine.subroutines.codes, code.IsSelfContained) :
    (start engine pattern seed).IsContained where
  store := by
    simpa [start, Store.codes, Store.fresh, Memory.codes, Memory.fresh, BlockAttributes.codes,
      BlockAttributes.standard] using held
  stack := by
    refine List.forall_mem_singleton.mpr (Activation.isContained_enter 0 ?_)
    exact List.forall_mem_singleton.mpr (Code.isSelfContained_whole pattern)

/-- Subroutines that a prelude defines contain their scopes. -/
theorem isSelfContained_withPrelude {prelude : List PreludePattern}
    (held : ∀ code ∈ engine.subroutines.codes, code.IsSelfContained)
    (made : engine.withPrelude prelude = .ok next) :
    ∀ code ∈ next.subroutines.codes, code.IsSelfContained := by
  refine subroutines_of_withPrelude (∀ code ∈ ·.codes, code.IsSelfContained) ?_ held made
  intro engine entry pattern configuration compiled held reachable
  have contained := Configuration.Reaches.isContained reachable (.start engine pattern 0)
    (Configuration.isContained_start engine pattern 0 held)
  exact fun code member =>
    contained.store code (List.mem_append_left _ (List.mem_append_left _ member))

/-- Reading stays within the range of its code, and all code that a run makes is a range of
tokens that its pattern has. -/
structure Configuration.Contained (engine : Engine) (configuration : Configuration) : Prop where
  cursors : ∀ activation ∈ configuration.stack,
    activation.code.span.start ≤ activation.cursor ∧
      activation.cursor ≤ activation.code.span.stop ∧
      activation.code.span.stop ≤ activation.pattern.length
  /-- Without a token to read it is at the end of its range. -/
  ends : ∀ activation ∈ configuration.stack, activation.nextToken? = none →
    activation.cursor = activation.code.span.stop
  /-- The token that is read next is one of the range. -/
  tokens : ∀ activation ∈ configuration.stack, ∀ token, activation.nextToken? = some token →
    activation.code.span.start ≤ activation.cursor ∧
      activation.cursor < activation.code.span.stop ∧
      activation.pattern.tokens[activation.cursor]? = some token
  /-- The scope that it opens closes in the range. -/
  closers : ∀ activation ∈ configuration.stack, ∀ token close,
    activation.nextToken? = some token →
    activation.pattern.scopeClose activation.cursor = .ok close →
      activation.cursor < close ∧ close < activation.code.span.stop
  /-- The cursor moves on, but not past the end of the range. -/
  stops : ∀ activation ∈ configuration.stack, ∀ token stop,
    activation.nextToken? = some token →
    (activation.context engine configuration.store).constructStop activation.cursor token =
      .ok stop →
      activation.cursor < stop ∧ stop ≤ activation.code.span.stop
  /-- What a construct cuts out lies between its brackets, and no piece touches another. -/
  pieces : ∀ activation ∈ configuration.stack, ∀ token stop workspace changed construct,
    (activation.context engine configuration.store).constructStop activation.cursor token =
      .ok stop →
    (activation.context engine configuration.store).readConstruct workspace activation.cursor stop
      token = .ok (changed, construct) →
      (∀ piece ∈ construct.pieces, piece.pattern = activation.pattern ∧
        activation.cursor < piece.span.start ∧ piece.span.stop < stop) ∧
      construct.pieces.Pairwise fun first second => first.span.stop < second.span.start
  /-- So does the code that a construct stores, such as the body of a subroutine that it defines. -/
  stored : ∀ activation ∈ configuration.stack, ∀ token stop workspace changed construct,
    (activation.context engine configuration.store).constructStop activation.cursor token =
      .ok stop →
    (activation.context engine configuration.store).readConstruct workspace activation.cursor stop
      token = .ok (changed, construct) →
      ∀ code ∈ changed.codes, code ∈ workspace.codes ∨ code.pattern = activation.pattern ∧
        activation.cursor < code.span.start ∧ code.span.stop < stop
  codes : ∀ code ∈ configuration.codes,
    code.span.start ≤ code.span.stop ∧ code.span.stop ≤ code.pattern.length
  /-- The same holds of code for which there is no room on the stack. -/
  made : ∀ progress, Makes engine configuration progress → ∀ code ∈ progress.codes,
    code.span.start ≤ code.span.stop ∧ code.span.stop ≤ code.pattern.length

theorem Configuration.IsContained.contained (isContained : configuration.IsContained) :
    configuration.Contained engine where
  cursors activation member := by
    have contained := isContained.stack activation member
    exact ⟨contained.started, contained.rest.bounds⟩
  ends activation member ended := by
    have bounds := (isContained.stack activation member).rest.bounds
    refine Nat.le_antisymm bounds.1 (Nat.not_lt.mp fun before => ?_)
    rw [Activation.nextToken?, Code.tokenAt?, if_pos before] at ended
    have outside : activation.pattern.length ≤ activation.cursor :=
      Array.getElem?_eq_none_iff.mp ended
    omega
  tokens activation member token next :=
    ⟨(isContained.stack activation member).started, Code.read_of_tokenAt? next⟩
  closers activation member token close next scope := by
    obtain ⟨inside, -⟩ := Code.read_of_tokenAt? next
    exact ⟨(scopeClose_bounds scope).1,
      ((isContained.stack activation member).rest.behind_scope inside scope).1⟩
  stops activation member token stop next stopped :=
    ⟨Context.lt_of_constructStop stopped,
      ((isContained.stack activation member).behind next stopped).1⟩
  pieces activation _ token stop workspace changed construct stopped reading := by
    obtain ⟨spans, cuts, same⟩ := (Context.isCut_readConstruct stopped reading).pieces
    have moved := Context.lt_of_constructStop stopped
    dsimp only at same
    rw [same, List.forall_mem_map, List.pairwise_map]
    refine ⟨fun span member => ⟨rfl, ?_⟩, cuts.apart⟩
    have inside := cuts.inside span member
    dsimp only
    omega
  stored activation _ token stop workspace changed construct stopped reading := by
    intro code member
    obtain ⟨spans, cuts, added⟩ := (Context.isCut_readConstruct stopped reading).workspace
    have moved := Context.lt_of_constructStop stopped
    rcases List.mem_append.mp (added member) with before | new
    · exact .inl before
    · obtain ⟨span, cut, rfl⟩ := List.mem_map.mp new
      have inside := cuts.inside span cut
      refine .inr ⟨rfl, ?_⟩
      dsimp only
      omega
  codes code member := by
    rcases List.mem_append.mp member with stored | active
    · exact (isContained.store code stored).bounds
    · obtain ⟨activation, inside, held⟩ := List.mem_flatMap.mp active
      exact ((isContained.stack activation inside).codes code held).bounds
  made progress makes code member := (makes.isSelfContained isContained code member).bounds

/-- On an engine that has learnt a prelude, code stays within its range throughout every run. -/
theorem contained_of_reachable {bare engine : Engine} {prelude : List PreludePattern}
    (none : bare.subroutines = .empty) (made : bare.withPrelude prelude = .ok engine)
    (reachable : Configuration.Reachable engine pattern seed configuration) :
    configuration.Contained engine := by
  have held := isSelfContained_withPrelude (by simp [none, Subroutines.codes]) made
  have isContained := Configuration.Reaches.isContained reachable (.start engine pattern seed)
    (Configuration.isContained_start engine pattern seed held)
  exact isContained.contained

end Runs

namespace BlockInArithmetic

theorem contained_blockEntered :
    Engine.standard.withPrelude [] = .ok .standard ∧
      Configuration.Reachable .standard pattern 0 blockEntered ∧
      blockEntered.Contained .standard := by
  have made : Engine.standard.withPrelude [] = .ok .standard := rfl
  exact ⟨made, reachable_blockEntered, contained_of_reachable rfl made reachable_blockEntered⟩

end BlockInArithmetic

end SeededText.Machine
