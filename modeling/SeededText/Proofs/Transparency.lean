import SeededText.Proofs.Lexemes
import SeededText.Proofs.Refinement
import SeededText.Proofs.RenamedEvaluation

/-!
Contract: a pattern that makes another pattern and runs it does what that pattern does.

The source of the maker has the other source in it as a constant. Running it evaluates the constant,
compiles its value under another name, and runs the result one level deeper.

Owns: reading constants back, the evaluation of a maker, the outcomes of both runs.
Does not own: that names do not matter (`SeededText.Proofs.RenamedEvaluation`), that runs are
evaluations (`SeededText.Proofs.Refinement`).
-/

namespace SeededText

open Pattern Output

/-! ### Constants -/

namespace Pattern

/-- Source of a pattern that makes a pattern of the given source and runs it. -/
def making (source : String) : String :=
  String.ofList ('[' :: '?' :: (quote source.toList ++ [']']))

variable {position : Position} {lineBlank : Bool} {first : Char} {rest : List Char}

theorem tokensFrom_of_lexeme {spelling value : List Char} {kind : TokenKind} {tokens : List Token}
    (read : readLexeme lineBlank first rest = .ok ⟨spelling, some (kind, value)⟩)
    (behind : tokensFrom (position.after spelling) (spelling.foldl lineBlankAfter lineBlank)
      (rest.drop (spelling.length - 1)) = .ok tokens) :
    tokensFrom position lineBlank (first :: rest) =
      .ok (⟨kind, String.ofList value, position⟩ :: tokens) := by
  rw [tokensFrom, read]
  simp only [behind]
  rfl

theorem readLexeme_quote (value : List Char) {behind : List Char}
    (ends : behind.head? ≠ some '"') :
    readLexeme lineBlank '"' (doubleQuotes value ++ '"' :: behind) =
      .ok ⟨quote value, some (.constant, value)⟩ := by
  have constant := readConstant_doubleQuotes value ends
  simp [readLexeme, isTextCharacter, isLayout, constant, Except.map]

theorem tokensFrom_close (position : Position) (lineBlank : Bool) :
    tokensFrom position lineBlank [']'] = .ok [⟨.closes .square, "]", position⟩] := by
  have close : readLexeme lineBlank ']' [] = .ok ⟨[']'], some (.closes .square, [']'])⟩ := rfl
  exact tokensFrom_of_lexeme close (by rw [List.drop_nil, tokensFrom])

/-- The tokens of a maker. -/
def makingTokens (source : String) : List Token :=
  [⟨.opens .square, "[", .start⟩, ⟨.question, "?", ⟨1, 2, 1⟩⟩, ⟨.constant, source, ⟨1, 3, 2⟩⟩,
    ⟨.closes .square, "]", Position.after ⟨1, 3, 2⟩ (quote source.toList)⟩]

theorem tokenize_making (source : String) :
    tokenize (making source) = .ok (makingTokens source) := by
  have opens (rest : List Char) : readLexeme true '[' rest =
      .ok ⟨['['], some (.opens .square, ['['])⟩ := rfl
  have mark (rest : List Char) : readLexeme false '?' rest =
      .ok ⟨['?'], some (.question, ['?'])⟩ := rfl
  have left : (doubleQuotes source.toList ++ ['"', ']']).drop
      ((quote source.toList).length - 1) = [']'] := by
    simp [quote]
  have constant : tokensFrom ⟨1, 3, 2⟩ false
      ('"' :: (doubleQuotes source.toList ++ ['"', ']'])) =
      .ok [⟨.constant, String.ofList source.toList, ⟨1, 3, 2⟩⟩,
        ⟨.closes .square, "]", Position.after ⟨1, 3, 2⟩ (quote source.toList)⟩] :=
    tokensFrom_of_lexeme (readLexeme_quote source.toList (by decide))
      (by rw [left, tokensFrom_close])
  have characters : (making source).toList =
      '[' :: '?' :: '"' :: (doubleQuotes source.toList ++ ['"', ']']) := by
    simp [making, quote]
  rw [String.ofList_toList] at constant
  rw [tokenize, characters]
  exact tokensFrom_of_lexeme (opens _) (tokensFrom_of_lexeme (mark _) constant)

end Pattern

namespace Machine

/-! ### The evaluation of a maker -/

/-- The maker of the given source. -/
def maker (name source : String) : Pattern :=
  ⟨name, making source, (makingTokens source).toArray⟩

theorem compile_of_tokenize (name : String) {source : String} {tokens : List Token}
    (lexes : tokenize source = .ok tokens) :
    compile name source = .ok ⟨name, source, tokens.toArray⟩ := by
  rw [compile, Pattern.compile, lexes]
  rfl

theorem compile_making (name source : String) :
    compile name (making source) = .ok (maker name source) :=
  compile_of_tokenize name (tokenize_making source)

section Making

variable {name source : String}

theorem scopeClose_maker : (maker name source).scopeClose 0 = .ok 3 := by
  simp [Pattern.scopeClose, Pattern.closeFrom, maker, makingTokens]

/-- All of a maker is one tag, whose source is the constant. -/
theorem readConstruct_maker {context : Context} {workspace : Workspace}
    (same : context.pattern = maker name source) :
    context.readConstruct workspace 0 4 ⟨.opens .square, "[", .start⟩ =
      .ok (workspace, .generated ⟨maker name source, 2, 3⟩) := by
  have first : (maker name source).skipBlanks 1 3 = 1 := by
    rw [Pattern.skipBlanks]
    rfl
  have inner : (maker name source).skipBlanks 2 3 = 2 := by
    rw [Pattern.skipBlanks]
    rfl
  have body : (maker name source).trimSpan ⟨2, 3⟩ = ⟨2, 3⟩ := by
    rw [Pattern.trimSpan, inner]
    rfl
  have mark : (maker name source).tokens[1]? = some ⟨.question, "?", ⟨1, 2, 1⟩⟩ := rfl
  simp [Context.readConstruct, Context.readTag, same, first, mark, body]

theorem text_maker : (Code.mk (maker name source) ⟨2, 3⟩).text = source := by
  have constant : (maker name source).tokens[2]? = some ⟨.constant, source, ⟨1, 3, 2⟩⟩ := rfl
  rw [Code.text, Pattern.spanText_of_token (by decide) constant,
    Pattern.spanText_of_end (.inl (Nat.le_refl 3)), String.append_empty]

theorem isVerbatim_maker : (Code.mk (maker name source) ⟨2, 3⟩).isVerbatim = true := by
  simp [Code.isVerbatim, Code.tokens, Pattern.slice, maker, makingTokens, TokenKind.isVerbatim]

/-- A maker is evaluated as what it makes, which is called like it with a question mark behind. -/
theorem evaluate_maker (engine : Engine) (depth : Nat) (seed : UInt64) {tokens : List Token}
    (lexes : tokenize source = .ok tokens) :
    evaluate engine (depth + 2) (maker name source) seed =
      evaluate engine (depth + 1) ⟨name ++ "?", source, tokens.toArray⟩ seed := by
  let code : Code := .whole (maker name source)
  let context : Context := ⟨engine, maker name source, .outermost, false⟩
  let workspace : Workspace := .fresh engine seed
  let made : Pattern := ⟨name ++ "?", source, tokens.toArray⟩
  let evaluator := Evaluator.nested engine (depth + 1)
  have opener : code.tokenAt? 0 = some ⟨.opens .square, "[", .start⟩ := rfl
  have stop : context.constructStop 0 ⟨.opens .square, "[", .start⟩ = .ok 4 :=
    Context.constructStop_of_close rfl scopeClose_maker
  have read : context.readConstruct workspace 0 4 ⟨.opens .square, "[", .start⟩ =
      .ok (workspace, .generated ⟨maker name source, 2, 3⟩) := readConstruct_maker rfl
  have text : (evaluator .outermost ⟨maker name source, 2, 3⟩).text workspace =
      some (workspace, .ok source) := by
    rw [Evaluator.text_of_isVerbatim engine depth .outermost workspace isVerbatim_maker, text_maker]
  have compiled : context.generatedCode source = .ok (.whole made) := by
    rw [Context.generatedCode, compile_of_tokenize _ lexes]
    rfl
  have acted : Evaluation.act (fun workspace => do
      return (workspace, ← context.generatedCode source)) workspace =
      some (workspace, .ok (.whole made)) := Evaluation.act_of_ok (by rw [compiled]; rfl)
  have behind (elseArmed : Bool) : Evaluator.codeFrom engine evaluator .outermost code 4 elseArmed =
      return () := Evaluator.codeFrom_of_end rfl
  show Evaluator.codeFrom engine evaluator .outermost code 0 false workspace =
    evaluator .outermost (.whole made) workspace
  rw [Evaluator.codeFrom_of_read opener stop read]
  simp only [Evaluator.construct, behind]
  refine (Evaluation.bind_assoc _ _ _ _).trans ((Evaluation.bind_of_ok text).trans ?_)
  refine (Evaluation.bind_assoc _ _ _ _).trans ((Evaluation.bind_of_ok acted).trans ?_)
  refine (Evaluation.bind_assoc _ _ _ _).trans ?_
  show Evaluation.bind (evaluator .outermost (.whole made)) _ workspace = _
  rw [Evaluation.bind]
  rcases evaluator .outermost (.whole made) workspace with _ | ⟨reached, exit | value⟩ <;> rfl

end Making

/-! ### Runs -/

/-- Two outcomes of runs that are equal, except that a fault may name another pattern. -/
inductive SameButName :
    Except Failure (List ChannelOutput) → Except Failure (List ChannelOutput) → Prop where
  | output (output : List ChannelOutput) : SameButName (.ok output) (.ok output)
  | failure (fault : Fault) (name : String) (written : List ChannelOutput) :
      SameButName (.error ⟨fault, written⟩) (.error ⟨{ fault with pattern := name }, written⟩)

section Runs

variable {engine : Engine} {source : String} {tokens : List Token} {seed : UInt64}

/-- A pattern of any name is a renamed pattern without one. -/
theorem renamed_nameless (name source : String) (tokens : Array Token) :
    (Pattern.mk "" source tokens).renamed name = ⟨name, source, tokens⟩ := by
  rw [Pattern.renamed, String.append_empty]

theorem runSource_eq (engine : Engine) {name : String} {pattern : Pattern} (seed : UInt64)
    (compiles : compile name source = .ok pattern) :
    engine.runSource name source seed = engine.run pattern seed := by
  rw [Engine.runSource, compiles]

/-- Runs that leave one evaluation under two names have the same outcome but for the names. -/
theorem sameButName_report {evaluated : Option (Workspace × Except Exit Unit)}
    {store store' : Store} {fault? fault'? : Option Fault} {front front' : String}
    (first : some (store.workspace 0, endingOf fault?) =
      evaluated.map (Prod.map (Workspace.renamed front) (renamedEnd front id)))
    (second : some (store'.workspace 0, endingOf fault'?) =
      evaluated.map (Prod.map (Workspace.renamed front') (renamedEnd front' id))) :
    SameButName (reportOf store.output fault?) (reportOf store'.output fault'?) := by
  rcases evaluated with _ | ⟨workspace, ending⟩
  · cases first
  · simp only [Option.map_some, Prod.map, Option.some.injEq, Prod.mk.injEq] at first second
    obtain ⟨workspaces, endings⟩ := first
    obtain ⟨workspaces', endings'⟩ := second
    have output : store.output = workspace.sink.output workspace.targets :=
      congrArg (fun workspace : Workspace => workspace.sink.output workspace.targets) workspaces
    have output' : store'.output = workspace.sink.output workspace.targets :=
      congrArg (fun workspace : Workspace => workspace.sink.output workspace.targets) workspaces'
    rw [output, output']
    rcases ending with (_ | fault) | value
    · cases fault? <;> cases endings
    · cases fault? <;> cases endings
      cases fault'? <;> cases endings'
      exact .failure (fault.renamed front) (front' ++ fault.pattern) _
    · cases fault? <;> cases endings
      cases fault'? <;> cases endings'
      exact .output _

/-- Without subroutines at the start, a source does the same on its own and made by another pattern,
unless one of the stacks gets too high. The output is the same, or the fault has the same place and
cause with the same output before it; only the name of the pattern that it lies in may differ. -/
theorem sameButName_making (bare : engine.subroutines = .empty)
    (lexes : tokenize source = .ok tokens) (name makerName : String) (seed : UInt64)
    (fits : ∀ failure, engine.runSource name source seed = .error failure →
      failure.fault.cause ≠ .misused .stackOverflow)
    (makerFits : ∀ failure, engine.runSource makerName (making source) seed = .error failure →
      failure.fault.cause ≠ .misused .stackOverflow) :
    SameButName (engine.runSource name source seed)
      (engine.runSource makerName (making source) seed) := by
  have alone := runSource_eq engine seed (compile_of_tokenize name lexes)
  have made := runSource_eq engine seed (compile_making makerName source)
  rw [alone] at fits ⊢
  rw [made] at makerFits ⊢
  let depth := heightLimit engine
  let nameless : Pattern := ⟨"", source, tokens.toArray⟩
  have first := evaluate_eq_of_fits (Nat.lt_succ_self depth) fits
  have second := evaluate_eq_of_fits (Nat.lt_add_of_pos_right Nat.two_pos) makerFits
  rw [evaluate_maker engine depth seed lexes] at second
  have renamed (front : String) := evaluate_renamed front bare (depth + 1) nameless seed
  simp only [nameless, renamed_nameless] at renamed
  rw [renamed name] at first
  rw [renamed (makerName ++ "?")] at second
  rw [run_eq_report, run_eq_report]
  exact sameButName_report first.symm second.symm

end Runs

/-! ### A source that fails behind a quote

The constant is written before the stray bracket is met. -/

namespace StrayCloser

open SeededText.Machine.Configuration

def source : String := "\"x\"]"

def tokens : List Token :=
  [⟨.constant, "x", .start⟩, ⟨.closes .square, "]", ⟨1, 4, 3⟩⟩]

def pattern (name : String) : Pattern :=
  ⟨name, source, tokens.toArray⟩

def failure (name : String) : Failure :=
  ⟨⟨name, ⟨1, 4, 3⟩, .malformed (.strayCloser "]")⟩, [⟨mainChannel, .shared, "x"⟩]⟩

theorem tokenize_source : tokenize source = .ok tokens :=
  tokensFrom_of_lexeme (readLexeme_quote ['x'] (by decide)) (tokensFrom_close ⟨1, 4, 3⟩ false)

def written : Store :=
  (Store.fresh .standard 0).absorb 0 ((Workspace.fresh .standard 0).write "x")

theorem runSource_alone (name : String) :
    Engine.standard.runSource name source 0 = .error (failure name) := by
  have writes : Steps .standard (.start .standard (pattern name) 0)
      ⟨written, [{ Activation.enter (.shared (.whole (pattern name))) 0 with cursor := 1 }]⟩ :=
    ⟨rfl⟩
  have ends : Ends .standard
      ⟨written, [{ Activation.enter (.shared (.whole (pattern name))) 0 with cursor := 1 }]⟩
      (some (failure name).fault) := .failed rfl
  have compiles : compile name source = .ok (pattern name) :=
    compile_of_tokenize name tokenize_source
  rw [runSource_eq .standard 0 compiles, Engine.run, run_of_reaches (.single writes) ends]
  rfl

/-- The source of the tag, which writes to a sink of its own. -/
def quoted (name : String) : Activation :=
  .enter (.apart ⟨maker name source, 2, 3⟩) 1

def waiting (name : String) : Activation :=
  { Activation.enter (.shared (.whole (maker name source))) 0 with
    cursor := 4, tasks := [.runGenerated] }

def quoteEntered (name : String) : Configuration :=
  ⟨{ Store.fresh .standard 0 with sinks := #[.fresh, .fresh] }, [quoted name, waiting name]⟩

def quoteWritten (name : String) : Configuration :=
  ⟨{ Store.fresh .standard 0 with sinks := #[.fresh, Sink.fresh.write source] },
    [{ quoted name with cursor := 3 }, waiting name]⟩

def quoteDone (name : String) : Configuration :=
  ⟨{ Store.fresh .standard 0 with results := [Sink.fresh.write source] }, [waiting name]⟩

def madeEntered (name : String) : Configuration :=
  ⟨.fresh .standard 0, [.enter (.shared (.whole (pattern (name ++ "?")))) 0,
    { waiting name with tasks := [] }]⟩

def madeWritten (name : String) : Configuration :=
  ⟨written, [{ Activation.enter (.shared (.whole (pattern (name ++ "?")))) 0 with cursor := 1 },
    { waiting name with tasks := [] }]⟩

theorem reachable_madeWritten (name : String) :
    Reachable .standard (maker name source) 0 (madeWritten name) := by
  have reads : Steps .standard (.start .standard (maker name source) 0) (quoteEntered name) :=
    .of_read rfl rfl (Context.constructStop_of_close rfl scopeClose_maker)
      (readConstruct_maker rfl) rfl
  have writes : Steps .standard (quoteEntered name) (quoteWritten name) := ⟨rfl⟩
  have leaves : Steps .standard (quoteWritten name) (quoteDone name) := ⟨rfl⟩
  let context := (waiting name).context .standard (quoteDone name).store
  have text : (quoteDone name).store.resultText = source := rfl
  have resumed : context.resume (quoteDone name).store 0 .runGenerated =
      .ok (context.enter (quoteDone name).store.dropResult
        (.shared (.whole (pattern (name ++ "?"))))) := by
    rw [Context.resume, text]
    show Except.map _ ((compile (name ++ "?") source).map Code.whole) = _
    rw [compile_of_tokenize _ tokenize_source]
    rfl
  have makes : Steps .standard (quoteDone name) (madeEntered name) := .of_resume rfl resumed rfl
  have again : Steps .standard (madeEntered name) (madeWritten name) := ⟨rfl⟩
  exact .head reads (.head writes (.head leaves (.head makes (.single again))))

theorem runSource_made (name : String) :
    Engine.standard.runSource name (making source) 0 = .error (failure (name ++ "?")) := by
  have ends : (madeWritten name).Ends .standard (some (failure (name ++ "?")).fault) := .failed rfl
  rw [runSource_eq .standard 0 (compile_making name source), Engine.run,
    run_of_reaches (reachable_madeWritten name) ends]
  rfl

theorem sameButName_outcomes :
    Engine.standard.subroutines = .empty ∧ tokenize source = .ok tokens ∧
      Engine.standard.runSource "plain" source 0 = .error (failure "plain") ∧
      Engine.standard.runSource "maker" (making source) 0 = .error (failure "maker?") ∧
      SameButName (Engine.standard.runSource "plain" source 0)
        (Engine.standard.runSource "maker" (making source) 0) := by
  have fits (failed : Failure)
      (fails : Engine.standard.runSource "plain" source 0 = .error failed) :
      failed.fault.cause ≠ .misused .stackOverflow := by
    rw [runSource_alone] at fails
    cases fails
    nofun
  have makerFits (failed : Failure)
      (fails : Engine.standard.runSource "maker" (making source) 0 = .error failed) :
      failed.fault.cause ≠ .misused .stackOverflow := by
    rw [runSource_made] at fails
    cases fails
    nofun
  exact ⟨rfl, tokenize_source, runSource_alone "plain", runSource_made "maker",
    sameButName_making rfl tokenize_source "plain" "maker" 0 fits makerFits⟩

end StrayCloser

end Machine

end SeededText
