import Mathlib.Data.List.Forall2
import SeededText.Proofs.Inheritance
import SeededText.Proofs.ReadingFaults

/-!
Contract: arguments of calls, from what is written to what is passed.

The plan of a call holds arguments that are done, those that wait, and between them at most one that
is under way. Together these are the arguments as they are written, in order, so what is passed in
the end has one argument for each of them. Code is passed where the signature of the tag or the
parameter of the subroutine takes code, and a value everywhere else.

Owns: which argument fits a planned one, what a plan carries out, calls as they are written, that
the calls of a run carry them out.
Does not own: what tags do with their arguments (`SeededText.Proofs.PassedArguments`).
-/

namespace SeededText.Machine

open Pattern

/-! ### Plans -/

/-- An argument that may come of a planned one. Code that is passed on is that code; text that needs
no evaluation is passed as it is. -/
inductive Argument.Fits : PlannedArgument → Argument → Prop
  | code (code : Code) : Fits ⟨code, true⟩ (.code code)
  | verbatim {code : Code} (verbatim : code.isVerbatim = true) :
      Fits ⟨code, false⟩ (.value code.text)
  | evaluated {code : Code} (text : String) (runs : code.isVerbatim = false) :
      Fits ⟨code, false⟩ (.value text)

/-- A plan on its way from planned arguments to all that are passed: the first are done, then there
may be one that has to be run, and the others wait. -/
inductive ArgumentPlan.CarriesOut : ArgumentPlan → List PlannedArgument → Prop
  | idle {front waiting : List PlannedArgument} {done : List Argument}
      (fits : List.Forall₂ Argument.Fits front done) :
      CarriesOut ⟨waiting, done, false⟩ (front ++ waiting)
  | awaiting {front waiting : List PlannedArgument} {done : List Argument} {code : Code}
      (fits : List.Forall₂ Argument.Fits front done) (runs : code.isVerbatim = false) :
      CarriesOut ⟨waiting, done, true⟩ (front ++ ⟨code, false⟩ :: waiting)

/-- What becomes of planned arguments when no more can be settled: all are done, or the next has to
be run. -/
inductive ArgumentPlan.Settles (planned : List PlannedArgument) :
    List Argument × Option (Code × List PlannedArgument) → Prop
  | all {done : List Argument} (fits : List.Forall₂ Argument.Fits planned done) :
      Settles planned (done, none)
  | next {front waiting : List PlannedArgument} {done : List Argument} {code : Code}
      (fits : List.Forall₂ Argument.Fits front done) (runs : code.isVerbatim = false)
      (parts : planned = front ++ ⟨code, false⟩ :: waiting) :
      Settles planned (done, some (code, waiting))

namespace ArgumentPlan

variable {plan : ArgumentPlan} {planned front waiting : List PlannedArgument}
  {done : List Argument}

theorem carriesOut_start (planned : List PlannedArgument) : (start planned).CarriesOut planned :=
  List.nil_append planned ▸ .idle .nil

theorem fits_concat {next : PlannedArgument} {argument : Argument}
    (fits : List.Forall₂ Argument.Fits front done) (last : argument.Fits next) :
    List.Forall₂ Argument.Fits (front ++ [next]) (done ++ [argument]) :=
  List.rel_append fits (.cons last .nil)

theorem settles_settle (fits : List.Forall₂ Argument.Fits front done) :
    Settles (front ++ waiting) (settle done waiting) := by
  induction waiting generalizing front done with
  | nil => exact .all (front.append_nil.symm ▸ fits)
  | cons next waiting inductionHypothesis =>
      obtain ⟨code, isDeferred⟩ := next
      have settled {argument : Argument} (last : argument.Fits ⟨code, isDeferred⟩) :
          Settles (front ++ ⟨code, isDeferred⟩ :: waiting)
            (settle (done ++ [argument]) waiting) := by
        rw [List.append_cons]
        exact inductionHypothesis (fits_concat fits last)
      simp only [settle]
      cases isDeferred with
      | true => exact settled (.code code)
      | false =>
          split
          · contradiction
          · split
            · next verbatim => exact settled (.verbatim verbatim)
            · next runs => exact .next fits (Bool.eq_false_iff.mpr runs) rfl

/-- Settling goes on with what the plan carries out. -/
theorem CarriesOut.settlePlan (carries : plan.CarriesOut planned) (store : Store) :
    Settles planned (store.settlePlan plan).2 := by
  cases carries with
  | idle fits => exact settles_settle fits
  | awaiting fits runs =>
      rw [List.append_cons]
      exact settles_settle (fits_concat fits (.evaluated _ runs))

/-- An argument that has to be run is put between those done and those that wait. -/
theorem Settles.carriesOut {code : Code} (settles : Settles planned (done, some (code, waiting))) :
    CarriesOut ⟨waiting, done, true⟩ planned := by
  cases settles with
  | next fits runs parts => exact parts ▸ .awaiting fits runs

/-- No argument is lost or added. -/
theorem CarriesOut.length (carries : plan.CarriesOut planned) :
    plan.done.length + plan.isAwaiting.toNat + plan.waiting.length = planned.length := by
  cases carries with
  | idle fits =>
      rw [List.length_append, fits.length_eq]
      rfl
  | awaiting fits runs =>
      simp only [List.length_append, fits.length_eq, List.length_cons, Bool.toNat_true]
      omega

/-- A plan holds no code but that of its arguments. -/
theorem CarriesOut.codes (carries : plan.CarriesOut planned) :
    plan.codes ⊆ planned.map PlannedArgument.code := by
  have passed {front : List PlannedArgument} {done : List Argument}
      (fits : List.Forall₂ Argument.Fits front done) :
      done.flatMap Argument.codes ⊆ front.map PlannedArgument.code := by
    induction fits with
    | nil => exact List.Subset.refl _
    | cons first _ inductionHypothesis =>
        cases first with
        | code code => exact List.cons_subset_cons _ inductionHypothesis
        | verbatim | evaluated => exact List.subset_cons_of_subset _ inductionHypothesis
  cases carries with
  | idle fits =>
      have done := passed fits
      simp only [ArgumentPlan.codes, List.map_append]
      grind
  | awaiting fits runs =>
      have done := passed fits
      simp only [ArgumentPlan.codes, List.map_append, List.map_cons]
      grind

theorem length_ofParameters (codes : List Code) (parameters : List Parameter) :
    (ofParameters codes parameters).length = codes.length := by
  rw [← List.length_map PlannedArgument.code, codes_ofParameters]

/-- Code is passed exactly where the signature takes code. -/
theorem getElem?_ofParameters (codes : List Code) (parameters : List Parameter) (index : Nat) :
    (ofParameters codes parameters)[index]? =
      codes[index]?.map fun code => ⟨code, decide (parameters[index]? = some .code)⟩ := by
  induction codes generalizing parameters index with
  | nil => rfl
  | cons code codes inductionHypothesis =>
      cases index with
      | zero => simp [ofParameters, List.head?_eq_getElem?]
      | succ index => simp [ofParameters, inductionHypothesis]

end ArgumentPlan

namespace Argument

def isCode (argument : Argument) : Bool :=
  argument.code?.isSome

theorem Fits.isCode {planned : PlannedArgument} {argument : Argument}
    (fits : argument.Fits planned) : argument.isCode = planned.isDeferred := by
  cases fits <;> rfl

/-- Arguments that fit are as many as the planned ones, and are code exactly where code is passed
on. -/
theorem isCode_of_fits {planned : List PlannedArgument} {arguments : List Argument}
    (fits : List.Forall₂ Fits planned arguments) (index : Nat) :
    arguments[index]?.map isCode = planned[index]?.map PlannedArgument.isDeferred := by
  induction fits generalizing index with
  | nil => rfl
  | cons first _ inductionHypothesis =>
      cases index with
      | zero => simp [first.isCode]
      | succ index => simpa using inductionHypothesis index

end Argument

/-! ### Bindings -/

namespace Subroutine

variable {subroutine : Subroutine} {codes : List Code} {arguments : List Argument}

theorem length_plan (known : subroutine.parameters.length = codes.length) :
    (subroutine.plan codes).length = codes.length := by
  simp [plan, known]

theorem isDeferred_plan {before behind : List SubroutineParameter}
    {parameter : SubroutineParameter}
    (parts : subroutine.parameters = before ++ parameter :: behind)
    (known : subroutine.parameters.length = codes.length) :
    (subroutine.plan codes)[before.length]?.map PlannedArgument.isDeferred =
      some parameter.isCode := by
  have inside : before.length < codes.length := by
    rw [← known, parts]
    simp
  simp [plan, parts, List.getElem?_zipWith, List.getElem?_eq_getElem inside]

/-- Other names bind nothing to this one. -/
theorem find?_foldl_insert {pairs : List (SubroutineParameter × Argument)} {name : String}
    (bindings : Table String Argument) (others : ∀ pair ∈ pairs, pair.1.name ≠ name) :
    (pairs.foldl (fun bindings pair => bindings.insert pair.1.name pair.2) bindings).find? name =
      bindings.find? name := by
  induction pairs generalizing bindings with
  | nil => rfl
  | cons pair pairs inductionHypothesis =>
      obtain ⟨first, others⟩ := List.forall_mem_cons.mp others
      rw [List.foldl_cons, inductionHypothesis _ others, Table.find?_insert, if_neg first]

/-- The last parameter of a name has its argument. -/
theorem find?_bind {before behind : List SubroutineParameter} {parameter : SubroutineParameter}
    {argument : Argument} (parts : subroutine.parameters = before ++ parameter :: behind)
    (last : ∀ later ∈ behind, later.name ≠ parameter.name)
    (passed : arguments[before.length]? = some argument) :
    (subroutine.bind arguments).find? parameter.name = some argument := by
  obtain ⟨inside, rfl⟩ := List.getElem?_eq_some_iff.mp passed
  have split : arguments = arguments.take before.length ++
      arguments[before.length] :: arguments.drop (before.length + 1) := by
    rw [← List.drop_eq_getElem_cons, List.take_append_drop]
  have paired : subroutine.parameters.zip arguments =
      before.zip (arguments.take before.length) ++
        (parameter, arguments[before.length]) ::
          behind.zip (arguments.drop (before.length + 1)) := by
    rw [parts]
    nth_rewrite 1 [split]
    rw [List.zip_append (by simp; omega), List.zip_cons_cons]
  rw [bind, paired, List.foldl_append, List.foldl_cons, find?_foldl_insert, Table.find?_insert,
    if_pos rfl]
  exact fun pair member => last pair.1 (List.of_mem_zip member).1

end Subroutine

/-! ### Calls as they are written -/

/-- From the name of a call up to its closing bracket: the name, and the code of each argument. -/
structure WritesCall (pattern : Pattern) (nameIndex close : Nat) (name : String)
    (codes : List Code) : Prop where
  inside : nameIndex < close
  named : ∃ token, pattern.tokens[nameIndex]? = some token ∧ token.kind = .text ∧ token.value = name
  arguments : ∃ (context : Context) (spans : List Span), context.pattern = pattern ∧
    context.argumentSpans (nameIndex + 1) close name = .ok spans ∧
      codes = spans.map (Code.mk pattern)

/-- A call that stands in a pattern: in square brackets, and behind a dollar sign if it calls a
subroutine. -/
inductive IsWrittenCall (pattern : Pattern) : Bool → Position → String → List Code → Prop
  | tag {opening close : Nat} {opener : Token} {name : String} {codes : List Code}
      (opens : pattern.tokens[opening]? = some opener) (square : opener.kind = .opens .square)
      (closes : pattern.scopeClose opening = .ok close)
      (writes : WritesCall pattern (pattern.skipBlanks (opening + 1) close) close name codes) :
      IsWrittenCall pattern false opener.position name codes
  | subroutine {opening close : Nat} {opener : Token} {name : String} {codes : List Code}
      (opens : pattern.tokens[opening]? = some opener) (square : opener.kind = .opens .square)
      (closes : pattern.scopeClose opening = .ok close)
      (dollar : pattern.kindAt? (pattern.skipBlanks (opening + 1) close) = some .dollar)
      (writes : WritesCall pattern (pattern.skipBlanks (opening + 1) close + 1) close name codes) :
      IsWrittenCall pattern true opener.position name codes

/-- A call of a tag as it is written, with the signature that its name and the number of its
arguments choose. -/
def IsTagCall (pattern : Pattern) (position : Position) (codes : List Code)
    (signature : Signature) : Prop :=
  ∃ name, IsWrittenCall pattern false position name codes ∧
    resolveTag name codes.length = .ok signature

/-- A call of a subroutine as it is written, with an argument for each parameter. -/
structure IsSubroutineCall (pattern : Pattern) (position : Position) (codes : List Code)
    (subroutine : Subroutine) : Prop where
  written : IsWrittenCall pattern true position subroutine.name codes
  parameters : subroutine.parameters.length = codes.length

theorem IsWrittenCall.place {pattern : Pattern} {ofSubroutine : Bool} {position : Position}
    {name : String} {codes : List Code}
    (written : IsWrittenCall pattern ofSubroutine position name codes) :
    pattern.IsPlace position := by
  cases written with
  | tag opens | subroutine opens => exact isPlace_of_getElem? opens

/-- Arguments that are written in a pattern are code of this pattern. -/
theorem IsWrittenCall.pattern {pattern : Pattern} {ofSubroutine : Bool} {position : Position}
    {name : String} {codes : List Code}
    (written : IsWrittenCall pattern ofSubroutine position name codes) :
    ∀ code ∈ codes, code.pattern = pattern := by
  have own {nameIndex close : Nat} (writes : WritesCall pattern nameIndex close name codes) :
      ∀ code ∈ codes, code.pattern = pattern := by
    obtain ⟨context, spans, -, -, rfl⟩ := writes.arguments
    exact List.forall_mem_map.mpr fun _ _ => rfl
  cases written with
  | tag opens square closes writes => exact own writes
  | subroutine opens square closes dollar writes => exact own writes

/-- What is left of a construct that stands in the pattern: calls are those that are written, and
arithmetic has its place. -/
def Construct.StandsIn (pattern : Pattern) : Construct → Prop
  | .tag operation position planned => ∃ codes signature,
      IsTagCall pattern position codes signature ∧ operation = signature.operation ∧
        planned = ArgumentPlan.ofParameters codes signature.parameters
  | .call subroutine position planned => ∃ codes,
      IsSubroutineCall pattern position codes subroutine ∧ planned = subroutine.plan codes
  | .arithmetic _ position _ => pattern.IsPlace position
  | _ => True

/-- Subroutines are found by their own name and number of parameters. -/
def Subroutines.Keyed (subroutines : Subroutines) : Prop :=
  ∀ name count subroutine, subroutines.find? (name, count) = some subroutine →
    subroutine.name = name ∧ subroutine.parameters.length = count

theorem Subroutines.kept_keyed : Kept Keyed := by
  intro subroutines defined keyed name count subroutine found
  rw [define, Table.find?_insert] at found
  split at found
  · next same =>
      cases found
      exact Prod.mk.inj same
  · exact keyed name count subroutine found

theorem Subroutines.keyed_empty : Keyed (.empty) := nofun

section Reading

variable {context : Context} {workspace : Workspace} {opening close index stop : Nat}
  {opener token : Token} {position : Position}

namespace Context

theorem standsIn_callTag (inside : index < close)
    (named : context.pattern.tokens[index]? = some token) (text : token.kind = .text)
    (written : ∀ codes, WritesCall context.pattern index close token.value codes →
      IsWrittenCall context.pattern false position token.value codes) :
    Yields (·.2.StandsIn context.pattern)
      (context.callTag workspace position index token close) := by
  intro reading read
  unfold callTag at read
  split at read
  · obtain ⟨spans, arguments, read⟩ := bind_eq_ok.mp read
    split at read
    · cases read
    · cases read
    · next signature resolved =>
        cases read
        rw [← List.length_map (Code.mk context.pattern)] at resolved
        refine ⟨_, signature, ⟨token.value, written _ ?_, resolved⟩, rfl, rfl⟩
        exact ⟨inside, ⟨token, named, text, rfl⟩, ⟨context, spans, rfl, arguments, rfl⟩⟩
  · cases read

theorem standsIn_callSubroutine (keyed : workspace.subroutines.Keyed) (inside : index < close)
    (named : context.pattern.tokens[index]? = some token) (text : token.kind = .text)
    (written : ∀ codes, WritesCall context.pattern index close token.value codes →
      IsWrittenCall context.pattern true position token.value codes) :
    Yields (·.2.StandsIn context.pattern)
      (context.callSubroutine workspace position index token close) := by
  intro reading read
  unfold callSubroutine at read
  obtain ⟨spans, arguments, read⟩ := bind_eq_ok.mp read
  split at read
  · cases read
  · next subroutine known =>
      cases read
      obtain ⟨name, parameters⟩ := keyed _ _ _ known
      refine ⟨_, ⟨name ▸ written _ ?_, by rw [List.length_map, parameters]⟩, rfl⟩
      exact ⟨inside, ⟨token, named, text, rfl⟩, ⟨context, spans, rfl, arguments, rfl⟩⟩

theorem standsIn_readSubroutine (keyed : workspace.subroutines.Keyed)
    (written : ∀ name codes, WritesCall context.pattern index close name codes →
      IsWrittenCall context.pattern true position name codes) :
    Yields (·.2.StandsIn context.pattern)
      (context.readSubroutine workspace position index close) := by
  unfold readSubroutine
  split
  · exact yields_error _
  · next token found =>
      split at found
      · next inside =>
          split
          · next text => exact standsIn_callSubroutine keyed inside found text (written _)
          · simp only [defineSubroutine]
            repeat' first | refine yields_bind fun value => ?_ | split
            all_goals first
              | exact yields_error _
              | exact (yields_pure _).mpr trivial
      · cases found

theorem standsIn_readTag (keyed : workspace.subroutines.Keyed)
    (opens : context.pattern.tokens[opening]? = some opener) (square : opener.kind = .opens .square)
    (closes : context.pattern.scopeClose opening = .ok close) :
    Yields (·.2.StandsIn context.pattern)
      (context.readTag workspace opener opening close) := by
  unfold readTag
  dsimp only
  split
  · exact yields_error _
  · next token found =>
      split at found
      · next inside =>
          split
          · exact (yields_ok _).mpr trivial
          · unfold replace
            repeat' first | refine yields_bind fun value => ?_ | split
            all_goals first
              | exact yields_error _
              | exact (yields_ok _).mpr trivial
          · next dollar =>
              have sign : context.pattern.kindAt? _ = some .dollar :=
                dollar ▸ kindAt?_of_getElem? found
              exact standsIn_readSubroutine keyed fun _ _ writes =>
                .subroutine opens square closes sign writes
          · next text =>
              exact standsIn_callTag inside found text fun _ writes =>
                .tag opens square closes writes
          · exact yields_error _
      · cases found

/-- What reading leaves stands in the pattern that is read. -/
theorem standsIn_readConstruct (keyed : workspace.subroutines.Keyed)
    (found : context.pattern.tokens[index]? = some token)
    (stopped : context.constructStop index token = .ok stop) :
    Yields (·.2.StandsIn context.pattern)
      (context.readConstruct workspace index stop token) := by
  unfold readConstruct
  dsimp only
  split
  · rw [yields_ok]
    unfold readBlock
    dsimp only
    repeat' split
    all_goals trivial
  · next square =>
      obtain ⟨close, closes, rfl⟩ := close_of_constructStop square stopped
      exact standsIn_readTag keyed found square closes
  · exact (yields_ok _).mpr (isPlace_of_getElem? found)
  · unfold readQuery writeEntry
    dsimp only
    repeat' split
    all_goals first
      | exact yields_error _
      | exact (yields_ok _).mpr trivial
  · exact yields_error _
  · unfold readEscape
    dsimp only
    repeat' split
    all_goals first
      | exact yields_error _
      | exact (yields_ok _).mpr trivial
  · exact (yields_ok _).mpr trivial
  · exact (yields_ok _).mpr trivial

end Context

end Reading

/-! ### Calls of a run -/

/-- What a task goes on with stands in the pattern: a call is one that is written there and carried
out as it is written, and arithmetic has its place. -/
def Task.StandsIn (pattern : Pattern) : Task → Prop
  | .callTag call => ∃ codes signature, IsTagCall pattern call.position codes signature ∧
      call.operation = signature.operation ∧
        call.plan.CarriesOut (ArgumentPlan.ofParameters codes signature.parameters)
  | .callSubroutine call => ∃ codes,
      IsSubroutineCall pattern call.position codes call.subroutine ∧
        call.plan.CarriesOut (call.subroutine.plan codes)
  | .settleArithmetic _ position => pattern.IsPlace position
  | _ => True

/-- Calls are carried out as they are written, however often they are interrupted. -/
theorem Task.inherited_standsIn : Inherited Subroutines.Keyed StandsIn where
  left := by
    intro pattern store task left carries leaves
    cases leaves with
    | takeTurn => trivial
    | replacer => trivial
    | @callTag call settled done code waiting next =>
        obtain ⟨codes, signature, written, operation, carries⟩ := carries
        have settles := carries.settlePlan store
        rw [next] at settles
        exact ⟨codes, signature, written, operation, settles.carriesOut⟩
    | @callSubroutine call settled done code waiting next =>
        obtain ⟨codes, written, carries⟩ := carries
        have settles := carries.settlePlan store
        rw [next] at settles
        exact ⟨codes, written, settles.carriesOut⟩
  read := by
    intro context workspace changed index stop token construct left keyed found stopped reading
      leaves
    have standsIn := Context.standsIn_readConstruct keyed found stopped _ reading
    cases construct with
    | tag operation position planned =>
        obtain ⟨codes, signature, written, rfl, rfl⟩ := standsIn
        cases leaves
        exact ⟨codes, signature, written, rfl, ArgumentPlan.carriesOut_start _⟩
    | call subroutine position planned =>
        obtain ⟨codes, written, rfl⟩ := standsIn
        cases leaves
        exact ⟨codes, written, ArgumentPlan.carriesOut_start _⟩
    | arithmetic isStatement position source =>
        cases leaves
        exact standsIn
    | _ => cases leaves <;> trivial

end SeededText.Machine
