import SeededText.Arithmetic.Parser

/-!
Contract: an expression that is written with the parentheses it needs is read back.

Parentheses are put around an operand that holds together less tightly than its place asks for.
Reading an operand leaves parts of it on the stack; they are completed by whatever comes behind,
which then finds the stack as it was before the operand, with the whole operand.

Owns: written expressions, what reading one leaves on the stack.
Does not own: the reader (`SeededText.Arithmetic.Parser`), spellings of tokens.
-/

namespace SeededText.Arithmetic

/-! ### Writing -/

def BinaryOperator.tightness : BinaryOperator → Nat
  | .add | .subtract => 2
  | .multiply | .divide | .remainder => 3
  | .power => 5

/-- How tightly an expression holds together, from sequences, which do least, over assignments,
sums, products, signs, powers and steps to single tokens. -/
def Expr.tightness : Expr → Nat
  | .sequence .. => 0
  | .assign .. => 1
  | .binary operator .. => operator.tightness
  | .negated _ => 4
  | .step .. => 6
  | .number _ | .variable _ => 7

/-- How tightly a left operand must hold together. Powers group from the right, all others from the
left. -/
def BinaryOperator.leftTightness : BinaryOperator → Nat
  | .power => BinaryOperator.power.tightness + 1
  | operator => operator.tightness

/-- How tightly a right operand must hold together. -/
def BinaryOperator.rightTightness : BinaryOperator → Nat
  | .power => BinaryOperator.power.tightness
  | operator => operator.tightness + 1

/-- Tokens, within parentheses if they need them. -/
def parenthesized (needed : Bool) (tokens : List Token) : List Token :=
  if needed then .opens :: (tokens ++ [.closes]) else tokens

/-- The tokens of an expression, with no more parentheses than it needs. -/
def Expr.written : Expr → List Token
  | .number value => [.number value]
  | .variable name => [.variable name]
  | .negated inner =>
      .operator (.binary .subtract) :: parenthesized (inner.tightness < 4) inner.written
  | .binary operator left right =>
      parenthesized (left.tightness < operator.leftTightness) left.written ++
        .operator (.binary operator) ::
          parenthesized (right.tightness < operator.rightTightness) right.written
  | .assign operator? name value =>
      .variable name :: .operator (.assign operator?) ::
        parenthesized (value.tightness < 1) value.written
  | .step name up true => [.operator (.step up), .variable name]
  | .step name up false => [.variable name, .operator (.step up)]
  | .sequence first second =>
      first.written ++ .operator .bar :: parenthesized (second.tightness < 1) second.written

/-! ### The stack around an operand -/

/-- Only operators that bind more tightly than this leave the stack as it is. -/
def floorOf : List Pending → Nat
  | [] => 0
  | pending :: _ => pending.floor

/-- An expression is read on a stack with a floor below this. -/
def Expr.entry : Expr → Nat
  | .sequence .. => Operator.bar.precedence
  | .assign operator? .. => (Operator.assign operator?).precedence
  | .binary operator .. => (Operator.binary operator).precedence
  | _ => (Operator.step true).precedence

/-- Operators up to this precedence complete an expression that stands before them. -/
def Expr.exit : Expr → Nat
  | .sequence .. => Operator.bar.precedence
  | .assign .. => (Operator.assign none).precedence - 1
  | .binary operator .. => operator.rightFloor
  | .negated _ => signPrecedence
  | _ => (Operator.step true).precedence

theorem Expr.entry_pos (expr : Expr) : 0 < expr.entry := by
  cases expr with
  | binary operator left right => cases operator <;> simp [Expr.entry, Operator.precedence]
  | _ => simp [Expr.entry, Operator.precedence]

theorem Expr.exit_pos (expr : Expr) : 1 ≤ expr.exit := by
  cases expr with
  | binary operator left right =>
      cases operator <;> simp [Expr.exit, BinaryOperator.rightFloor, Operator.precedence]
  | _ => simp [Expr.exit, Operator.precedence, signPrecedence]

theorem settle_of_floorOf_lt {stack : List Pending} {precedence : Nat}
    (holds : floorOf stack < precedence) (left : Expr) :
    settle precedence stack left = .ok (stack, left) := by
  cases stack with
  | nil => rfl
  | cons pending outer =>
      rw [settle]
      exact if_pos holds

/-- Tokens that leave, where an operand has to come, parts of `expr` above the stack. An operator
behind them of a precedence up to `exit` puts these together to `expr`. -/
def ReadsAs (stack : List Pending) (tokens : List Token) (expr : Expr) (exit : Nat) : Prop :=
  ∀ rest, ∃ above left,
    readOperand stack (tokens ++ rest) = readOperator (above ++ stack) left rest ∧
    ∀ precedence ≤ exit, settle precedence (above ++ stack) left = settle precedence stack expr

section Reading

variable {stack : List Pending} {tokens : List Token} {expr : Expr} {exit : Nat}

theorem ReadsAs.mono {lower : Nat} (reads : ReadsAs stack tokens expr exit) (le : lower ≤ exit) :
    ReadsAs stack tokens expr lower := by
  intro rest
  obtain ⟨above, left, read, settles⟩ := reads rest
  exact ⟨above, left, read, fun precedence below => settles precedence (Nat.le_trans below le)⟩

/-- Tokens that leave nothing above the stack. -/
theorem ReadsAs.of_read
    (read : ∀ rest, readOperand stack (tokens ++ rest) = readOperator stack expr rest) :
    ReadsAs stack tokens expr exit :=
  fun rest => ⟨[], expr, read rest, fun _ _ => rfl⟩

/-- In parentheses an expression is read on any stack. -/
theorem ReadsAs.parenthesized (reads : ReadsAs (.parenthesis :: stack) tokens expr 1) :
    ReadsAs stack (.opens :: (tokens ++ [.closes])) expr exit := by
  refine .of_read fun rest => ?_
  obtain ⟨above, left, read, settles⟩ := reads (.closes :: rest)
  have settled : settle 1 (above ++ .parenthesis :: stack) left =
      .ok (.parenthesis :: stack, expr) :=
    (settles 1 (Nat.le_refl 1)).trans (settle_of_floorOf_lt Nat.one_pos expr)
  rw [List.cons_append, readOperand, List.append_assoc, List.singleton_append, read, readOperator,
    settled]
  rfl

/-- What stands before an operator is its left operand, if the operator binds less tightly. -/
theorem ReadsAs.awaits {pending : Pending} (reads : ReadsAs stack tokens expr exit)
    (operator : Operator) (ends : operator.precedence ≤ exit)
    (holds : floorOf stack < operator.precedence)
    (pushes : ∀ {outer left rest}, settle operator.precedence outer left = .ok (stack, expr) →
      readOperator outer left (.operator operator :: rest) = readOperand (pending :: stack) rest)
    (rest : List Token) :
    readOperand stack ((tokens ++ [.operator operator]) ++ rest) =
      readOperand (pending :: stack) rest := by
  obtain ⟨above, left, read, settles⟩ := reads (.operator operator :: rest)
  have settled : settle operator.precedence (above ++ stack) left = .ok (stack, expr) :=
    (settles operator.precedence ends).trans (settle_of_floorOf_lt holds expr)
  rw [List.append_assoc, List.singleton_append, read, pushes settled]

/-- What waits on the stack takes its right operand. -/
theorem ReadsAs.complete {pending : Pending} {before : List Token} {whole : Expr}
    (reads : ReadsAs (pending :: stack) tokens expr exit)
    (begins : ∀ rest, readOperand stack (before ++ rest) = readOperand (pending :: stack) rest)
    (completes : pending.complete expr = .ok whole) (floor : pending.floor ≤ exit) :
    ReadsAs stack (before ++ tokens) whole pending.floor := by
  intro rest
  obtain ⟨above, left, read, settles⟩ := reads rest
  -- What waits lies beneath what its operand leaves, so both are completed by the same operators.
  refine ⟨above ++ [pending], left, ?_, fun precedence below => ?_⟩
  · rw [List.append_assoc, begins, read, List.append_assoc, List.singleton_append]
  · rw [List.append_assoc, List.singleton_append, settles precedence (Nat.le_trans below floor),
      settle, if_neg (Nat.not_lt.mpr below), completes]
    rfl

/-- An operand is read if it is wherever it stands without parentheses. -/
theorem ReadsAs.operand {least : Nat}
    (reads : ∀ stack, floorOf stack < expr.entry → ReadsAs stack expr.written expr expr.exit)
    (enters : least ≤ expr.tightness → floorOf stack < expr.entry)
    (ends : least ≤ expr.tightness → exit ≤ expr.exit) :
    ReadsAs stack (SeededText.Arithmetic.parenthesized (expr.tightness < least) expr.written) expr
      exit := by
  unfold SeededText.Arithmetic.parenthesized
  split
  · have inside := reads (.parenthesis :: stack) expr.entry_pos
    exact (inside.mono expr.exit_pos).parenthesized
  · next tight =>
      have above : least ≤ expr.tightness := by simpa using tight
      exact (reads stack (enters above)).mono (ends above)

end Reading

/-! ### Reading back -/

theorem BinaryOperator.le_of_leftTightness {operator : BinaryOperator} {expr : Expr}
    (tight : operator.leftTightness ≤ expr.tightness) :
    (Operator.binary operator).precedence ≤ expr.entry ∧
      (Operator.binary operator).precedence ≤ expr.exit := by
  revert tight
  cases expr with
  | binary other left right =>
      cases operator <;> cases other <;>
        simp [leftTightness, tightness, Expr.tightness, Expr.entry, Expr.exit,
          Operator.precedence, rightFloor]
  | _ =>
      cases operator <;>
        simp [leftTightness, tightness, Expr.tightness, Expr.entry, Expr.exit,
          Operator.precedence, signPrecedence]

theorem BinaryOperator.le_of_rightTightness {operator : BinaryOperator} {expr : Expr}
    (tight : operator.rightTightness ≤ expr.tightness) :
    operator.rightFloor < expr.entry ∧ operator.rightFloor ≤ expr.exit := by
  revert tight
  cases expr with
  | binary other left right =>
      cases operator <;> cases other <;>
        simp [rightTightness, tightness, Expr.tightness, Expr.entry, Expr.exit,
          Operator.precedence, rightFloor]
  | _ =>
      cases operator <;>
        simp [rightTightness, tightness, Expr.tightness, Expr.entry, Expr.exit,
          Operator.precedence, rightFloor, signPrecedence]

theorem Expr.le_of_sign {expr : Expr} (tight : 4 ≤ expr.tightness) :
    signPrecedence < expr.entry ∧ signPrecedence ≤ expr.exit := by
  revert tight
  cases expr with
  | binary operator left right =>
      cases operator <;>
        simp [Expr.tightness, BinaryOperator.tightness, Expr.entry, Expr.exit,
          Operator.precedence, BinaryOperator.rightFloor, signPrecedence]
  | _ =>
      simp [Expr.tightness, Expr.entry, Expr.exit, Operator.precedence, signPrecedence]

theorem Expr.le_of_assignment {expr : Expr} (tight : 1 ≤ expr.tightness) : 1 < expr.entry := by
  revert tight
  cases expr with
  | binary operator left right => cases operator <;> simp [Expr.entry, Operator.precedence]
  | _ => simp [Expr.tightness, Expr.entry, Operator.precedence]

section Operators

variable {outer stack : List Pending} {left expr : Expr} {rest : List Token}

theorem readOperator_binary {operator : BinaryOperator}
    (settled : settle (Operator.binary operator).precedence outer left = .ok (stack, expr)) :
    readOperator outer left (.operator (.binary operator) :: rest) =
      readOperand (.operand operator expr :: stack) rest := by
  rw [readOperator, settled]
  rfl

theorem readOperator_assign {operator? : Option BinaryOperator}
    (settled : settle (Operator.assign operator?).precedence outer left = .ok (stack, expr)) :
    readOperator outer left (.operator (.assign operator?) :: rest) =
      readOperand (.assignment operator? expr :: stack) rest := by
  rw [readOperator, settled]
  rfl

theorem readOperator_bar (settled : settle Operator.bar.precedence outer left = .ok (stack, expr)) :
    readOperator outer left (.operator .bar :: rest) =
      readOperand (.sequence expr :: stack) rest := by
  rw [readOperator, settled]
  rfl

theorem readOperator_step {up : Bool} {name : String}
    (settled : settle (Operator.step up).precedence outer left = .ok (stack, .variable name)) :
    readOperator outer left (.operator (.step up) :: rest) =
      readOperator stack (.step name up false) rest := by
  rw [readOperator, settled]
  rfl

theorem readsAs_variable (name : String) (stack : List Pending) (exit : Nat) :
    ReadsAs stack [.variable name] (.variable name) exit :=
  .of_read fun rest => by rw [List.singleton_append, readOperand]

end Operators

/-- An expression is read wherever the stack leaves its operators alone. -/
theorem readsAs_written (expr : Expr) (stack : List Pending) (holds : floorOf stack < expr.entry) :
    ReadsAs stack expr.written expr expr.exit := by
  induction expr generalizing stack with
  | number value =>
      exact .of_read fun rest => by rw [Expr.written, List.singleton_append, readOperand]
  | «variable» name => exact readsAs_variable name stack _
  | negated inner inductionHypothesis =>
      have begins (rest : List Token) :
          readOperand stack ([.operator (.binary .subtract)] ++ rest) =
            readOperand (.negation :: stack) rest := by
        rw [List.singleton_append, readOperand]
      have reads : ReadsAs (.negation :: stack) _ inner signPrecedence :=
        .operand inductionHypothesis (fun tight => (Expr.le_of_sign tight).1)
          fun tight => (Expr.le_of_sign tight).2
      exact reads.complete begins rfl (Nat.le_refl _)
  | binary operator left right leftHypothesis rightHypothesis =>
      -- The operator completes its left operand; what stands behind the whole completes the right.
      have leftReads : ReadsAs stack _ left (Operator.binary operator).precedence :=
        .operand leftHypothesis
          (fun tight => Nat.lt_of_lt_of_le holds (BinaryOperator.le_of_leftTightness tight).1)
          fun tight => (BinaryOperator.le_of_leftTightness tight).2
      have rightReads : ReadsAs (.operand operator left :: stack) _ right operator.rightFloor :=
        .operand rightHypothesis (fun tight => (BinaryOperator.le_of_rightTightness tight).1)
          fun tight => (BinaryOperator.le_of_rightTightness tight).2
      have begins := leftReads.awaits (.binary operator) (Nat.le_refl _) holds readOperator_binary
      have reads := rightReads.complete begins rfl (Nat.le_refl _)
      rwa [List.append_assoc, List.singleton_append] at reads
  | assign operator? name value inductionHypothesis =>
      have begins := (readsAs_variable name stack _).awaits (.assign operator?) (Nat.le_refl _)
        holds readOperator_assign
      have reads : ReadsAs (.assignment operator? (.variable name) :: stack) _ value 1 :=
        .operand inductionHypothesis Expr.le_of_assignment fun _ => value.exit_pos
      exact reads.complete begins rfl (Nat.le_refl _)
  | step name up signBefore =>
      refine .of_read fun rest => ?_
      cases signBefore with
      | true => rw [Expr.written, List.cons_append, List.singleton_append, readOperand]
      | false =>
          have settled : settle (Operator.step up).precedence stack (.variable name) =
              .ok (stack, .variable name) := settle_of_floorOf_lt holds _
          rw [Expr.written, List.cons_append, List.singleton_append, readOperand,
            readOperator_step settled]
  | sequence first second firstHypothesis secondHypothesis =>
      have firstReads := firstHypothesis stack (Nat.lt_of_lt_of_le holds first.entry_pos)
      have secondReads : ReadsAs (.sequence first :: stack) _ second 1 :=
        .operand secondHypothesis Expr.le_of_assignment fun _ => second.exit_pos
      have begins := firstReads.awaits .bar first.exit_pos holds readOperator_bar
      have reads := secondReads.complete begins rfl (Nat.le_refl _)
      rwa [List.append_assoc, List.singleton_append] at reads

/-- What is written for an expression is read as that expression, with no token left over. -/
theorem parseTokens_written (expr : Expr) : parseTokens expr.written = .ok expr := by
  obtain ⟨above, left, read, settles⟩ := readsAs_written expr [] expr.entry_pos []
  have settled : settle 1 (above ++ []) left = .ok ([], expr) := settles 1 expr.exit_pos
  rw [List.append_nil] at read
  rw [parseTokens, read, readOperator, settled]
  rfl

/-- A sign is no base of a power without parentheses, and a power is its exponent. -/
example :
    Expr.written (.binary .power (.negated (.variable "x"))
        (.binary .power (.variable "y") (.variable "z"))) =
      [.opens, .operator (.binary .subtract), .variable "x", .closes, .operator (.binary .power),
        .variable "y", .operator (.binary .power), .variable "z"] :=
  rfl

end SeededText.Arithmetic
