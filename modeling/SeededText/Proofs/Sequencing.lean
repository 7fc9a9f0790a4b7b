import SeededText.Arithmetic.Evaluation
import SeededText.Machine.Fault
import SeededText.Proofs.WrittenExpressions

/-!
Contract: what stands behind a bar is evaluated behind what stands before it.

A bar is a token of its own, whatever stands around it. It completes everything before it, so that
the tokens behind it are read on a stack that holds nothing but the first expression. There they are
read as on an empty stack; only the bars among them put the first expression in front of everything,
where they would have found nothing.

Owns: texts with a bar between them, what is read behind an expression, its value.
Does not own: the reader (`SeededText.Arithmetic.Parser`), written expressions
(`SeededText.Proofs.WrittenExpressions`).
-/

namespace SeededText.Arithmetic

open Machine (bind_eq_ok)

/-- The text is read as an expression, all of it. -/
def IsExpression (text : String) : Prop :=
  ∃ expr, parse text = .ok expr

/-! ### Tokens -/

section Tokens

variable {offset length : Nat} {first : Char} {rest text : List Char} {token? : Option Token}
  {tokens : List Token}

theorem takeWhile_append_bar {holds : Char → Bool} (ends : holds '|' = false)
    (rest behind : List Char) :
    (rest ++ '|' :: behind).takeWhile holds = rest.takeWhile holds := by
  rw [List.takeWhile_append]
  split
  · next whole => simp [ends, (List.takeWhile_sublist holds).eq_of_length whole]
  · rfl

/-- No token goes over a bar. -/
theorem readToken_append_bar (offset : Nat) (first : Char) (rest behind : List Char) :
    readToken offset first (rest ++ '|' :: behind) = readToken offset first rest := by
  have numbers : isNumberCharacter '|' = false := by decide
  have names : isVariableCharacter '|' = false := by decide
  have operators : readOperatorSpelling? first (rest ++ '|' :: behind) =
      readOperatorSpelling? first rest := by
    cases rest with
    | nil => simp [readOperatorSpelling?, doubleOperator?]
    | cons => rfl
  simp only [readToken, takeWhile_append_bar numbers, takeWhile_append_bar names, operators]

theorem readToken_bar (offset : Nat) (behind : List Char) :
    readToken offset '|' behind = .ok (some (.operator .bar), 1) := by
  have blank : Text.isBlank '|' = false := by decide
  have number : isNumberCharacter '|' = false := by decide
  have name : isVariableStart '|' = false := by decide
  have double (second : Char) : doubleOperator? '|' second = none := by
    simp [doubleOperator?, singleOperator?]
  have spelling : readOperatorSpelling? '|' behind = some (.bar, 1) := by
    cases behind <;> simp [readOperatorSpelling?, double, singleOperator?]
  simp [readToken, blank, number, name, spelling]

/-- A token lies within its text. -/
theorem length_le_of_readToken (read : readToken offset first rest = .ok (token?, length)) :
    length - 1 ≤ rest.length := by
  have taken (holds : Char → Bool) : (first :: rest.takeWhile holds).length - 1 ≤ rest.length := by
    simpa using (List.takeWhile_sublist holds).length_le
  have spelled {operator : Operator} (found : readOperatorSpelling? first rest =
      some (operator, length)) : length - 1 ≤ rest.length := by
    cases rest with
    | nil =>
        obtain ⟨_, -, same⟩ := Option.map_eq_some_iff.mp found
        cases same
        exact Nat.le_refl 0
    | cons second rest =>
        unfold readOperatorSpelling? at found
        split at found
        · cases found
          simp
        · obtain ⟨_, -, same⟩ := Option.map_eq_some_iff.mp found
          cases same
          exact Nat.zero_le _
  unfold readToken at read
  dsimp only at read
  split at read
  · cases read
    exact Nat.zero_le _
  · split at read
    · split at read
      · cases read
        exact taken _
      · cases read
    · split at read
      · cases read
        exact taken _
      · split at read
        · cases read
          exact Nat.zero_le _
        · split at read
          · cases read
            exact Nat.zero_le _
          · split at read
            · next found =>
                cases read
                exact spelled found
            · cases read

/-- Where a text begins makes no difference to its tokens. -/
theorem readToken_of_ok (read : readToken offset first rest = .ok (token?, length))
    (other : Nat) : readToken other first rest = .ok (token?, length) := by
  unfold readToken at read ⊢
  dsimp only at read ⊢
  repeat' split at read
  all_goals simp_all

theorem tokensFrom_nil (offset : Nat) : tokensFrom offset [] = .ok [] := by
  rw [tokensFrom.eq_def]

theorem tokensFrom_cons (read : readToken offset first rest = .ok (token?, length)) :
    tokensFrom offset (first :: rest) = (do
      let behind ← tokensFrom (offset + byteLength (first :: rest.take (length - 1)))
        (rest.drop (length - 1))
      return token?.toList ++ behind) := by
  rw [tokensFrom.eq_def]
  simp only [read]
  rfl

/-- A text that is cut into tokens begins with one, or with a blank. -/
theorem exists_of_tokensFrom (cut : tokensFrom offset (first :: rest) = .ok tokens) :
    ∃ token? length others, readToken offset first rest = .ok (token?, length) ∧
      tokensFrom (offset + byteLength (first :: rest.take (length - 1)))
        (rest.drop (length - 1)) = .ok others ∧ tokens = token?.toList ++ others := by
  rw [tokensFrom.eq_def] at cut
  obtain ⟨⟨token?, length⟩, read, cut⟩ := bind_eq_ok.mp cut
  obtain ⟨others, further, same⟩ := bind_eq_ok.mp cut
  cases same
  exact ⟨token?, length, others, read, further, rfl⟩

/-- Where a text begins makes no difference to its tokens. -/
theorem tokensFrom_of_ok (cut : tokensFrom offset text = .ok tokens) (other : Nat) :
    tokensFrom other text = .ok tokens := by
  induction offset, text using tokensFrom.induct generalizing tokens other with
  | case1 offset => rwa [tokensFrom_nil] at cut ⊢
  | case2 offset first rest inductionHypothesis =>
      obtain ⟨token?, length, others, read, further, rfl⟩ := exists_of_tokensFrom cut
      rw [tokensFrom_cons (readToken_of_ok read other), inductionHypothesis length further]
      rfl

/-- The tokens of a text with a bar in it are those of its parts and the bar. -/
theorem tokensFrom_append_bar {behind : List Char} {later : List Token}
    (cut : tokensFrom offset text = .ok tokens) (cutBehind : tokensFrom 0 behind = .ok later) :
    tokensFrom offset (text ++ '|' :: behind) = .ok (tokens ++ .operator .bar :: later) := by
  induction offset, text using tokensFrom.induct generalizing tokens with
  | case1 offset =>
      rw [tokensFrom_nil] at cut
      cases cut
      rw [List.nil_append, tokensFrom_cons (readToken_bar offset behind), List.drop_zero,
        tokensFrom_of_ok cutBehind]
      rfl
  | case2 offset first rest inductionHypothesis =>
      obtain ⟨token?, length, others, read, further, rfl⟩ := exists_of_tokensFrom cut
      have within := length_le_of_readToken read
      rw [List.cons_append, tokensFrom_cons ((readToken_append_bar _ _ _ _).trans read),
        List.take_append_of_le_length within, List.drop_append_of_le_length within,
        inductionHypothesis length further]
      exact congrArg Except.ok (List.append_assoc _ _ _).symm

end Tokens

/-! ### Reading -/

/-- Where the reader is: it waits for an operand, or it has read one. -/
inductive Reader where
  | operand (stack : List Pending)
  | operator (stack : List Pending) (left : Expr)

def Reader.read : Reader → List Token → Except Fault Expr
  | .operand stack => readOperand stack
  | .operator stack left => readOperator stack left

/-- The reader goes over tokens. -/
inductive Advances : Reader → List Token → Reader → Prop
  | number (stack : List Pending) (value : Float) :
      Advances (.operand stack) [.number value] (.operator stack (.number value))
  | variable (stack : List Pending) (name : String) :
      Advances (.operand stack) [.variable name] (.operator stack (.variable name))
  | opens (stack : List Pending) :
      Advances (.operand stack) [.opens] (.operand (.parenthesis :: stack))
  | minus (stack : List Pending) :
      Advances (.operand stack) [.operator (.binary .subtract)] (.operand (.negation :: stack))
  | plus (stack : List Pending) :
      Advances (.operand stack) [.operator (.binary .add)] (.operand (.affirmation :: stack))
  | stepBefore (stack : List Pending) (up : Bool) (name : String) :
      Advances (.operand stack) [.operator (.step up), .variable name]
        (.operator stack (.step name up true))
  | binary {stack outer : List Pending} {left whole : Expr} {operator : BinaryOperator}
      (settled : settle (Operator.binary operator).precedence stack left = .ok (outer, whole)) :
      Advances (.operator stack left) [.operator (.binary operator)]
        (.operand (.operand operator whole :: outer))
  | assign {stack outer : List Pending} {left whole : Expr} {operator? : Option BinaryOperator}
      (settled : settle (Operator.assign operator?).precedence stack left = .ok (outer, whole)) :
      Advances (.operator stack left) [.operator (.assign operator?)]
        (.operand (.assignment operator? whole :: outer))
  | bar {stack outer : List Pending} {left whole : Expr}
      (settled : settle Operator.bar.precedence stack left = .ok (outer, whole)) :
      Advances (.operator stack left) [.operator .bar] (.operand (.sequence whole :: outer))
  | stepBehind {stack outer : List Pending} {left : Expr} {up : Bool} {name : String}
      (settled : settle (Operator.step up).precedence stack left = .ok (outer, .variable name)) :
      Advances (.operator stack left) [.operator (.step up)]
        (.operator outer (.step name up false))
  | closes {stack outer : List Pending} {left whole : Expr}
      (settled : settle 1 stack left = .ok (.parenthesis :: outer, whole)) :
      Advances (.operator stack left) [.closes] (.operator outer whole)

/-- The reader goes over all tokens, and what it has read then is an expression. -/
inductive Reads (expr : Expr) : Reader → List Token → Prop
  | ends {stack : List Pending} {left : Expr} (settled : settle 1 stack left = .ok ([], expr)) :
      Reads expr (.operator stack left) []
  | advances {reader next : Reader} {tokens rest : List Token}
      (advances : Advances reader tokens next) (reads : Reads expr next rest) :
      Reads expr reader (tokens ++ rest)

section Reading

variable {first left expr : Expr} {stack : List Pending} {reader next : Reader}
  {tokens : List Token}

theorem Advances.read (advances : Advances reader tokens next) (rest : List Token) :
    reader.read (tokens ++ rest) = next.read rest := by
  cases advances with
  | binary settled => exact readOperator_binary settled
  | assign settled => exact readOperator_assign settled
  | bar settled => exact readOperator_bar settled
  | stepBehind settled => exact readOperator_step settled
  | closes settled =>
      simp only [Reader.read, List.singleton_append, readOperator, settled]
      rfl
  | _ => rfl

theorem Advances.length_pos (advances : Advances reader tokens next) : 0 < tokens.length := by
  cases advances <;> exact Nat.succ_pos _

/-- A reader that does not fail has read an expression, or goes over some token. -/
theorem Reader.cases_of_read (read : reader.read tokens = .ok expr) :
    (∃ stack left, reader = .operator stack left ∧ tokens = [] ∧
      settle 1 stack left = .ok ([], expr)) ∨
    ∃ consumed rest next, tokens = consumed ++ rest ∧ Advances reader consumed next := by
  cases reader with
  | operand stack =>
      right
      simp only [Reader.read] at read
      unfold readOperand at read
      split at read
      · cases read
      · exact ⟨[_], _, _, rfl, .number _ _⟩
      · exact ⟨[_], _, _, rfl, .variable _ _⟩
      · exact ⟨[_], _, _, rfl, .opens _⟩
      · exact ⟨[_], _, _, rfl, .minus _⟩
      · exact ⟨[_], _, _, rfl, .plus _⟩
      · exact ⟨[_, _], _, _, rfl, .stepBefore _ _ _⟩
      · cases read
      · cases read
      · cases read
  | operator stack left =>
      simp only [Reader.read] at read
      unfold readOperator at read
      split at read
      · obtain ⟨⟨outer, whole⟩, settled, read⟩ := bind_eq_ok.mp read
        split at read
        · next same =>
          cases same
          cases read
          exact .inl ⟨stack, left, rfl, rfl, settled⟩
        · cases read
      · right
        obtain ⟨⟨outer, whole⟩, settled, read⟩ := bind_eq_ok.mp read
        dsimp only at read
        split at read
        · exact ⟨[_], _, _, rfl, .binary settled⟩
        · exact ⟨[_], _, _, rfl, .assign settled⟩
        · exact ⟨[_], _, _, rfl, .bar settled⟩
        · exact ⟨[_], _, _, rfl, .stepBehind settled⟩
        · cases read
      · right
        obtain ⟨⟨outer, whole⟩, settled, read⟩ := bind_eq_ok.mp read
        split at read
        · next same =>
          cases same
          exact ⟨[_], _, _, rfl, .closes settled⟩
        · cases read
      · obtain ⟨-, -, read⟩ := bind_eq_ok.mp read
        cases read

theorem Reads.read (reads : Reads expr reader tokens) : reader.read tokens = .ok expr := by
  induction reads with
  | ends settled =>
      simp only [Reader.read, readOperator, settled]
      rfl
  | advances advances _ inductionHypothesis => exact (advances.read _).trans inductionHypothesis

/-- A reader that does not fail goes over all tokens. -/
theorem reads_of_read {reader : Reader} {tokens : List Token}
    (read : reader.read tokens = .ok expr) : Reads expr reader tokens := by
  obtain ⟨stack, left, rfl, rfl, settled⟩ | ⟨consumed, rest, next, rfl, advances⟩ :=
    Reader.cases_of_read read
  · exact .ends settled
  · have shorter : rest.length < (consumed ++ rest).length := by
      have some := advances.length_pos
      rw [List.length_append]
      omega
    rw [advances.read] at read
    exact .advances advances (reads_of_read read)
termination_by tokens.length

/-- A bar behind an expression completes all of it. -/
theorem Reads.read_append_bar (reads : Reads expr reader tokens) (behind : List Token) :
    reader.read (tokens ++ .operator .bar :: behind) = readOperand [.sequence expr] behind := by
  induction reads with
  | ends settled => exact readOperator_bar settled
  | advances advances _ inductionHypothesis =>
      rw [List.append_assoc, advances.read, inductionHypothesis]

end Reading

/-! ### Reading behind an expression -/

/-- One expression is another one with a first in front, which comes before the outermost sequence
of the other. -/
inductive Expr.LedBy (first : Expr) : Expr → Expr → Prop
  | single (expr : Expr) : LedBy first expr (.sequence first expr)
  | sequence {alone behind : Expr} (led : LedBy first alone behind) (second : Expr) :
      LedBy first (.sequence alone second) (.sequence behind second)

/-- What lies lowest while something is read alone, and while it is read behind a first
expression. -/
inductive Beneath (first : Expr) : List Pending → List Pending → Prop
  | start : Beneath first [] [.sequence first]
  | sequence {alone behind : Expr} (led : first.LedBy alone behind) :
      Beneath first [.sequence alone] [.sequence behind]

/-- The reader has the same above what lies lowest. -/
inductive Reader.LedBy (first : Expr) : Reader → Reader → Prop
  | operand {lowest lowestBehind : List Pending} (beneath : Beneath first lowest lowestBehind)
      (above : List Pending) :
      LedBy first (.operand (above ++ lowest)) (.operand (above ++ lowestBehind))
  | operator {lowest lowestBehind : List Pending} (beneath : Beneath first lowest lowestBehind)
      (above : List Pending) (left : Expr) :
      LedBy first (.operator (above ++ lowest) left) (.operator (above ++ lowestBehind) left)

section Behind

variable {first left expr : Expr} {stack above lowest lowestBehind : List Pending}
  {reader next readerBehind : Reader} {tokens : List Token} {precedence : Nat}

/-- Either what lies lowest stays, or a bar or the end of the tokens has completed it as well. -/
theorem Beneath.settle (beneath : Beneath first lowest lowestBehind) (some : 1 ≤ precedence)
    (settled : settle precedence (above ++ lowest) left = .ok (stack, expr)) :
    (∃ higher, stack = higher ++ lowest ∧ (precedence = 1 → higher ≠ []) ∧
      Arithmetic.settle precedence (above ++ lowestBehind) left =
        .ok (higher ++ lowestBehind, expr)) ∨
    (precedence = 1 ∧ stack = [] ∧ ∃ whole, first.LedBy expr whole ∧
      Arithmetic.settle precedence (above ++ lowestBehind) left = .ok ([], whole)) := by
  induction above generalizing left with
  | nil =>
      rw [List.nil_append] at settled ⊢
      by_cases one : precedence = 1
      · -- A bar completes the first expression, or the sequence with it, too.
        subst one
        right
        cases beneath with
        | start =>
            cases settled
            exact ⟨rfl, rfl, _, .single _, rfl⟩
        | sequence led =>
            cases settled
            exact ⟨rfl, rfl, _, led.sequence _, rfl⟩
      · left
        have lower : floorOf lowest < precedence ∧ floorOf lowestBehind < precedence := by
          cases beneath <;> simp only [floorOf, Pending.floor, Operator.precedence] <;> omega
        rw [settle_of_floorOf_lt lower.1] at settled
        cases settled
        exact ⟨[], rfl, fun same => absurd same one, settle_of_floorOf_lt lower.2 _⟩
  | cons pending above inductionHypothesis =>
      rw [List.cons_append, Arithmetic.settle] at settled ⊢
      split at settled
      · next stays =>
          cases settled
          rw [if_pos stays]
          exact .inl ⟨pending :: above, rfl, fun _ => List.cons_ne_nil _ _, rfl⟩
      · next completes =>
          obtain ⟨whole, completed, settled⟩ := bind_eq_ok.mp settled
          rw [if_neg completes, completed]
          exact inductionHypothesis settled

/-- An operator that binds more tightly than a bar leaves what lies lowest alone. -/
theorem Beneath.settle_of_lt (beneath : Beneath first lowest lowestBehind)
    (tighter : 1 < precedence)
    (settled : Arithmetic.settle precedence (above ++ lowest) left = .ok (stack, expr)) :
    ∃ higher, stack = higher ++ lowest ∧
      Arithmetic.settle precedence (above ++ lowestBehind) left =
        .ok (higher ++ lowestBehind, expr) := by
  obtain ⟨higher, same, -, settledBehind⟩ | ⟨bar, -⟩ :=
    beneath.settle (Nat.le_of_lt tighter) settled
  · exact ⟨higher, same, settledBehind⟩
  · exact absurd bar (Nat.ne_of_gt tighter)

/-- What the reader does alone it also does behind the first expression. -/
theorem Advances.behind (advances : Advances reader tokens next)
    (led : reader.LedBy first readerBehind) :
    ∃ nextBehind, Advances readerBehind tokens nextBehind ∧ next.LedBy first nextBehind := by
  cases led with
  | operand beneath above =>
      cases advances with
      | number _ value => exact ⟨_, .number _ value, .operator beneath above _⟩
      | «variable» _ name => exact ⟨_, .variable _ name, .operator beneath above _⟩
      | opens => exact ⟨_, .opens _, .operand beneath (.parenthesis :: above)⟩
      | minus => exact ⟨_, .minus _, .operand beneath (.negation :: above)⟩
      | plus => exact ⟨_, .plus _, .operand beneath (.affirmation :: above)⟩
      | stepBefore _ up name => exact ⟨_, .stepBefore _ up name, .operator beneath above _⟩
  | operator beneath above left =>
      cases advances with
      | @binary _ _ _ _ operator settled =>
          have tighter : 1 < (Operator.binary operator).precedence := by
            cases operator <;> decide
          obtain ⟨higher, rfl, settledBehind⟩ := beneath.settle_of_lt tighter settled
          exact ⟨_, .binary settledBehind, .operand beneath (.operand operator _ :: higher)⟩
      | @assign _ _ _ _ operator? settled =>
          have tighter : 1 < (Operator.assign operator?).precedence := Nat.lt_succ_self 1
          obtain ⟨higher, rfl, settledBehind⟩ := beneath.settle_of_lt tighter settled
          exact ⟨_, .assign settledBehind, .operand beneath (.assignment operator? _ :: higher)⟩
      | bar settled =>
          obtain ⟨higher, rfl, -, settledBehind⟩ | ⟨-, rfl, whole, led, settledBehind⟩ :=
            beneath.settle (Nat.le_refl 1) settled
          · exact ⟨_, .bar settledBehind, .operand beneath (.sequence _ :: higher)⟩
          · exact ⟨_, .bar settledBehind, .operand (.sequence led) []⟩
      | @stepBehind _ _ _ up _ settled =>
          have tighter : 1 < (Operator.step up).precedence := by simp [Operator.precedence]
          obtain ⟨higher, rfl, settledBehind⟩ := beneath.settle_of_lt tighter settled
          exact ⟨_, .stepBehind settledBehind, .operator beneath higher _⟩
      | closes settled =>
          obtain ⟨higher, same, some, settledBehind⟩ | ⟨-, none, -⟩ :=
            beneath.settle (Nat.le_refl 1) settled
          · obtain ⟨pending, higher, rfl⟩ := List.exists_cons_of_ne_nil (some rfl)
            obtain ⟨rfl, rfl⟩ := List.cons.inj same
            exact ⟨_, .closes settledBehind, .operator beneath higher _⟩
          · cases none

/-- What is read behind the first expression is what is read alone, with the first in front. -/
theorem Reads.behind (reads : Reads expr reader tokens) (led : reader.LedBy first readerBehind) :
    ∃ whole, Reads whole readerBehind tokens ∧ first.LedBy expr whole := by
  induction reads generalizing readerBehind with
  | ends settled =>
      cases led with
      | operator beneath above left =>
          obtain ⟨higher, none, some, -⟩ | ⟨-, -, whole, led, settledBehind⟩ :=
            beneath.settle (Nat.le_refl 1) settled
          · exact absurd (List.append_eq_nil_iff.mp none.symm).1 (some rfl)
          · exact ⟨whole, .ends settledBehind, led⟩
  | advances advances _ inductionHypothesis =>
      obtain ⟨nextBehind, advancesBehind, led⟩ := advances.behind led
      obtain ⟨whole, reads, ledWhole⟩ := inductionHypothesis led
      exact ⟨whole, .advances advancesBehind reads, ledWhole⟩

end Behind

/-! ### Values -/

/-- The first expression is evaluated before the other one. -/
theorem Expr.LedBy.value {first expr whole : Expr} (led : first.LedBy expr whole) :
    whole.value = (do let _ ← first.value; expr.value) := by
  induction led with
  | single expr => rfl
  | @sequence alone behind _ second inductionHypothesis =>
      calc (Expr.sequence behind second).value
          = (do let _ ← behind.value; second.value) := rfl
        _ = (do let _ ← (do let _ ← first.value; alone.value); second.value) := by
            rw [inductionHypothesis]
        _ = (do let _ ← first.value; let _ ← alone.value; second.value) := by
            rw [bind_assoc]

/-- Evaluates a text behind another, on the variables that are left, unless the other has failed. -/
def evaluateBehind (second : String) :
    Except Fault Float × Valuation → Except Fault Float × Valuation
  | (.ok _, valuation) => evaluate second valuation
  | (.error fault, valuation) => (.error fault, valuation)

theorem evaluate_of_parse {text : String} {expr : Expr} (read : parse text = .ok expr)
    (valuation : Valuation) : evaluate text valuation = expr.value.run.run valuation := by
  rw [evaluate, read]

/-- What stands behind a value is evaluated on the variables that are left. -/
theorem run_behind (value behind : Evaluation Float) (valuation : Valuation) :
    (do let _ ← value; behind : Evaluation Float).run.run valuation =
      match value.run.run valuation with
      | (.ok _, left) => behind.run.run left
      | (.error fault, left) => (.error fault, left) := by
  show (ExceptT.bindCont (fun _ => behind) (value.run.run valuation).1).run
    (value.run.run valuation).2 = _
  rcases value.run.run valuation with ⟨fault | number, left⟩ <;> rfl

/-- A text with a bar is read as its second part led by its first. -/
theorem parse_append_bar {first second : String} {expr other : Expr}
    (read : parse first = .ok expr) (readBehind : parse second = .ok other) :
    ∃ whole, parse (first ++ "|" ++ second) = .ok whole ∧ expr.LedBy other whole := by
  obtain ⟨tokens, cut, read⟩ := bind_eq_ok.mp read
  obtain ⟨later, cutBehind, readBehind⟩ := bind_eq_ok.mp readBehind
  have cutAll : tokenize (first ++ "|" ++ second) = .ok (tokens ++ .operator .bar :: later) := by
    rw [tokenize, String.toList_append, String.toList_append, List.append_assoc]
    exact tokensFrom_append_bar cut cutBehind
  have alone : Reads expr (.operand []) tokens := reads_of_read read
  have behind : Reads other (.operand []) later := reads_of_read readBehind
  have beneath : Beneath expr [] [.sequence expr] := .start
  obtain ⟨whole, reads, led⟩ := behind.behind (.operand beneath [])
  refine ⟨whole, ?_, led⟩
  rw [parse, cutAll]
  exact (alone.read_append_bar later).trans reads.read

/-- Of two expressions with a bar between them, the first is evaluated, and then, if it has not
failed, the second on the variables that the first has left. Value, fault and variables are what
comes of the two. A text that is no expression leaves the variables as they were. -/
theorem evaluate_sequence :
    (∀ first second : String, IsExpression first → IsExpression second → ∀ valuation : Valuation,
      evaluate (first ++ "|" ++ second) valuation =
        evaluateBehind second (evaluate first valuation)) ∧
    ∀ text : String, ¬ IsExpression text → ∀ valuation : Valuation,
      ∃ fault, evaluate text valuation = (.error fault, valuation) := by
  constructor
  · rintro first second ⟨expr, read⟩ ⟨other, readBehind⟩ valuation
    obtain ⟨whole, readAll, led⟩ := parse_append_bar read readBehind
    rw [evaluate_of_parse readAll, led.value, run_behind, evaluate_of_parse read]
    rcases expr.value.run.run valuation with ⟨fault | value, left⟩
    · rfl
    · exact (evaluate_of_parse readBehind left).symm
  · intro text unread valuation
    cases read : parse text with
    | ok expr => exact absurd ⟨expr, read⟩ unread
    | error fault => exact ⟨fault, by rw [evaluate, read]⟩

theorem isExpression_iff {text : String} : IsExpression text ↔ (parse text).isOk = true := by
  unfold IsExpression
  cases parse text <;> simp [Except.isOk, Except.toBool]

/-! ### An assignment, and steps behind it

The first text assigns only if there is something to assign, and the second has a bar of its own. -/

namespace AssignmentAndStep

def first : String := "a = b"

def second : String := "a++ | c = -a"

def valuation : Valuation := ⟨[("b", 2.0)]⟩

theorem evaluate_assignmentAndStep :
    IsExpression first ∧ IsExpression second ∧ ¬ IsExpression "a =" ∧
      evaluate (first ++ "|" ++ second) valuation =
        evaluateBehind second (evaluate first valuation) ∧
      ∃ fault, evaluate "a =" valuation = (.error fault, valuation) := by
  have reads : IsExpression first := isExpression_iff.mpr (by decide +kernel)
  have readsBehind : IsExpression second := isExpression_iff.mpr (by decide +kernel)
  have unread : ¬ IsExpression "a =" := mt isExpression_iff.mp (by decide +kernel)
  exact ⟨reads, readsBehind, unread,
    evaluate_sequence.1 first second reads readsBehind valuation,
    evaluate_sequence.2 "a =" unread valuation⟩

end AssignmentAndStep

end SeededText.Arithmetic
