import Flowchart.Proofs.Expr.Limit

/-! # Conditions

The evaluation of a condition counts the tokens of its text before it takes the text apart.  For a
text that is a comparison the count adds nothing: `evaluate_of_parse` says that the comparison is
made.  A text that is not a comparison is refused, so that the evaluation and the syntax check agree
on every text; `evaluate_exact` says which condition fails for which reason, and what the answer is
if it does not fail.

Every relation has a complement, and two comparisons whose relations are complements of each other
have opposite answers, or both have none.  They have none together also for values of different
kinds, which are never equal and never in order.
-/

namespace Flowchart

/-! ## Texts that are comparisons -/

theorem Expr.tokenize_of_parse {text : Text} {e : Expr} (h : parse text = .ok e) :
    tokenize text = .ok (lex text).lexemes ∧ (lex text).lexemes.length = 3 := by
  obtain ⟨hending, hsentence⟩ := sentence_of_parse h
  obtain ⟨x, t, u, operator, operand, htokens, -, -, -⟩ := hsentence.parts
  refine ⟨?_, ?_⟩
  · rw [tokenize, hending]
  · simpa using congrArg List.length htokens

/-- A text that is a comparison is evaluated by making the comparison. -/
theorem Condition.evaluate_of_parse {text x : Text} {op : RelOp} {operand : Operand}
    (h : Expr.parse text = .ok (.comparison x op operand)) (env : Env) :
    evaluate (some text) env = (Expr.compare env x op operand).mapError .condition := by
  obtain ⟨htokens, hlength⟩ := Expr.tokenize_of_parse h
  cases text with
  | nil => cases h
  | cons c cs => simp [evaluate, evaluateText, htokens, hlength, h]

/-! ## Values of different kinds -/

theorem Value.kind_ne_of_compare {op : RelOp} {a b : Value} {m : TypeMismatch}
    (h : compare op a b = .error m) : a.kind ≠ b.kind := by
  cases a with
  | int _ => cases b <;> simp_all [compare, kind]
  | bool _ => cases b <;> simp_all [compare, kind]

theorem Expr.values_of_typeMismatch {env : Env} {x : Text} {op : RelOp} {operand : Operand}
    {m : Value.TypeMismatch} (h : compare env x op operand = .error (.typeMismatch m)) :
    ∃ a b, env.get? x = some a ∧ operand.resolve env = .ok b ∧ a.kind ≠ b.kind := by
  simp only [compare] at h
  cases hx : env.get? x with
  | none => simp [hx] at h
  | some a =>
    cases hb : operand.resolve env with
    | error y => simp [hx, hb] at h
    | ok b =>
      cases hcompare : Value.compare op a b with
      | ok answer =>
        simp only [hx, hb, hcompare] at h
        cases h
      | error m' => exact ⟨a, b, rfl, rfl, Value.kind_ne_of_compare hcompare⟩

/-- Only the text of a comparison can fail for the kinds of its values. -/
theorem Condition.comparison_of_typeMismatch {condition : Option Text} {env : Env}
    {m : Value.TypeMismatch} (h : evaluate condition env = .error (.condition (.typeMismatch m))) :
    ∃ text x op operand, condition = some text ∧
      Expr.parse text = .ok (.comparison x op operand) ∧
      Expr.compare env x op operand = .error (.typeMismatch m) := by
  cases condition with
  | none => cases h
  | some text =>
    cases hparse : Expr.parse text with
    | error fault =>
      exfalso
      cases fault <;> simp only [evaluate, evaluateText, hparse] at h <;> repeat' split at h
      all_goals cases h
    | ok e =>
      cases e with
      | comparison x op operand =>
        rw [evaluate_of_parse hparse] at h
        cases hcompare : Expr.compare env x op operand with
        | ok answer =>
          rw [hcompare] at h
          cases h
        | error e =>
          rw [hcompare] at h
          cases h
          exact ⟨text, x, op, operand, rfl, hparse, hcompare⟩
      | assignment _ _ | update _ _ _ =>
        exfalso
        simp only [evaluate, evaluateText, hparse] at h
        repeat' split at h
        all_goals cases h

/-! ## Complements -/

/-- The relation that holds exactly if another one does not. -/
def RelOp.complement : RelOp → RelOp
  | .eq => .ne
  | .ne => .eq
  | .lt => .ge
  | .ge => .lt
  | .gt => .le
  | .le => .gt

theorem Value.holdsInt_complement (op : RelOp) (a b : Int) :
    holdsInt op.complement a b = !holdsInt op a b := by
  cases op with
  | eq | ne => simp [RelOp.complement, holdsInt, bne]
  | lt | le | gt | ge => simp [RelOp.complement, holdsInt, ← decide_not]

/-- Two comparisons of which one has the opposite answer of the other, or that both have none. -/
inductive Opposed {ε : Type} : Except ε Bool → Except ε Bool → Prop
  | answers (b : Bool) : Opposed (.ok b) (.ok !b)
  | failures (e e' : ε) : Opposed (.error e) (.error e')

theorem Value.compare_complement (op : RelOp) (a b : Value) :
    Opposed (compare op a b) (compare op.complement a b) := by
  cases a with
  | int m =>
    cases b with
    | int n =>
      simp only [compare, holdsInt_complement]
      exact .answers _
    | bool n =>
      -- an integer is never equal to a truth value, and no order is defined between them
      cases op with
      | eq | ne => exact .answers _
      | lt | le | gt | ge => exact .failures _ _
  | bool m =>
    cases b with
    | int n =>
      cases op with
      | eq | ne => exact .answers _
      | lt | le | gt | ge => exact .failures _ _
    | bool n =>
      simp only [compare, holdsInt_complement]
      exact .answers _

/-- Comparisons by a relation and by its complement have opposite answers, or both have none. -/
theorem Expr.compare_complement (env : Env) (x : Text) (op : RelOp) (operand : Operand) :
    Opposed (compare env x op operand) (compare env x op.complement operand) := by
  cases hx : env.get? x with
  | none =>
    simp only [compare, hx]
    exact .failures _ _
  | some a =>
    cases hb : operand.resolve env with
    | error y =>
      simp only [compare, hx, hb]
      exact .failures _ _
    | ok b =>
      simp only [compare, hx, hb]
      have hvalues := Value.compare_complement op a b
      generalize Value.compare op a b = answer, Value.compare op.complement a b = answer' at hvalues
      cases hvalues with
      | answers b => exact .answers b
      | failures e e' => exact .failures _ _

/-! ## What a condition comes to -/

/-- The order of values: integers by their size, and false before true. -/
inductive Value.Less : Value → Value → Prop
  | int {a b : Int} (less : a < b) : Less (.int a) (.int b)
  | bool : Less (.bool false) (.bool true)

/-- The meaning of the relations.  Values of different kinds are neither equal nor in order. -/
def Value.Holds (op : RelOp) (a b : Value) : Prop :=
  match op with
  | .eq => a = b
  | .ne => a ≠ b
  | .lt => Less a b
  | .le => Less a b ∨ a = b
  | .gt => Less b a
  | .ge => Less b a ∨ a = b

/-- The relations that are about the order of values. -/
def RelOp.Orders (op : RelOp) : Prop :=
  op = .lt ∨ op = .gt ∨ op = .le ∨ op = .ge

@[simp] theorem Value.less_int {a b : Int} : Less (.int a) (.int b) ↔ a < b := by
  constructor
  · rintro ⟨less⟩
    exact less
  · exact .int

@[simp] theorem Value.less_bool {a b : Bool} :
    Less (.bool a) (.bool b) ↔ a = false ∧ b = true := by
  constructor
  · rintro ⟨⟩
    exact ⟨rfl, rfl⟩
  · rintro ⟨rfl, rfl⟩
    exact .bool

theorem Value.holdsInt_iff (op : RelOp) (a b : Int) :
    holdsInt op a b = true ↔ Holds op (.int a) (.int b) := by
  cases op with
  | eq | ne | lt | gt => simp [holdsInt, Holds]
  | le => simp [holdsInt, Holds, Int.le_iff_lt_or_eq]
  | ge => simp [holdsInt, Holds, Int.le_iff_lt_or_eq, @eq_comm Int b]

theorem Value.holdsInt_rank_iff (op : RelOp) (a b : Bool) :
    holdsInt op (rank a) (rank b) = true ↔ Holds op (.bool a) (.bool b) := by
  cases op <;> cases a <;> cases b <;> simp [holdsInt, Holds, rank]

/-- Values are refused exactly if they are of different kinds and were to be put in order. -/
theorem Value.compare_eq_error_iff {op : RelOp} {a b : Value} {m : TypeMismatch} :
    compare op a b = .error m ↔
      a.kind ≠ b.kind ∧ op.Orders ∧ m = ⟨a.kind, b.kind, op.symbol⟩ := by
  cases a <;> cases b <;> cases op <;> simp [compare, kind, RelOp.Orders, eq_comm]

theorem Value.compare_eq_ok_iff {op : RelOp} {a b : Value} {answer : Bool} :
    compare op a b = .ok answer ↔
      (a.kind = b.kind ∨ ¬ op.Orders) ∧ (answer = true ↔ Holds op a b) := by
  cases a with
  | int m =>
    cases b with
    | int n =>
      rw [← holdsInt_iff, ← Bool.eq_iff_iff]
      simp [compare, kind, eq_comm]
    | bool n => cases op <;> cases answer <;> simp [compare, kind, RelOp.Orders, Holds]
  | bool m =>
    cases b with
    | int n => cases op <;> cases answer <;> simp [compare, kind, RelOp.Orders, Holds]
    | bool n =>
      rw [← holdsInt_rank_iff, ← Bool.eq_iff_iff]
      simp [compare, kind, eq_comm]

theorem Operand.resolve_eq_error_iff {operand : Operand} {env : Env} {y : Text} :
    operand.resolve env = .error y ↔ operand = .name y ∧ env.get? y = none := by
  cases operand with
  | int n | bool b => simp [resolve]
  | name x =>
    rw [resolve]
    cases hx : env.get? x <;> grind

namespace Condition

/-- How a comparison ends: the left side is looked up first, then the operand, and only then do the
kinds of the two values matter. -/
structure ComparedAs (env : Env) (x : Text) (op : RelOp) (operand : Operand)
    (outcome : Except ConditionFailure Bool) : Prop where
  undefinedVariable : ∀ y, outcome = .error (.condition (.undefinedVariable y)) ↔
    y = x ∧ env.get? x = none
  undefinedOperand : ∀ y, outcome = .error (.condition (.undefinedOperand y)) ↔
    env.get? x ≠ none ∧ operand = .name y ∧ env.get? y = none
  typeMismatch : ∀ m, outcome = .error (.condition (.typeMismatch m)) ↔
    ∃ a b, env.get? x = some a ∧ operand.resolve env = .ok b ∧
      a.kind ≠ b.kind ∧ op.Orders ∧ m = ⟨a.kind, b.kind, op.symbol⟩
  answer : ∀ answer, outcome = .ok answer ↔
    ∃ a b, env.get? x = some a ∧ operand.resolve env = .ok b ∧
      (a.kind = b.kind ∨ ¬ op.Orders) ∧ (answer = true ↔ Value.Holds op a b)

theorem mapError_ok {α β γ : Type} (f : α → β) (a : γ) :
    (.ok a : Except α γ).mapError f = .ok a := rfl

theorem mapError_error {α β γ : Type} (f : α → β) (e : α) :
    (.error e : Except α γ).mapError f = .error (f e) := rfl

theorem comparedAs_compare (env : Env) (x : Text) (op : RelOp) (operand : Operand) :
    ComparedAs env x op operand ((Expr.compare env x op operand).mapError .condition) := by
  cases hx : env.get? x with
  | none => constructor <;> simp [Expr.compare, hx, mapError_error, eq_comm]
  | some a =>
    cases hb : operand.resolve env with
    | error y =>
      constructor <;> simp [Expr.compare, hx, hb, mapError_error, ← Operand.resolve_eq_error_iff]
    | ok b =>
      -- both sides have values, and it is left to the comparison of these
      cases hcompare : Value.compare op a b <;> constructor <;>
        simp [Expr.compare, hx, hb, hcompare, mapError_ok, mapError_error, ← Operand.resolve_eq_error_iff,
          ← Value.compare_eq_error_iff, ← Value.compare_eq_ok_iff]

theorem isValidCondition_eq_true_iff {text : Text} :
    isValidCondition text = .ok true ↔
      ∃ x op operand, Expr.parse text = .ok (.comparison x op operand) := by
  rw [isValidCondition, parsesTo_eq_true_iff]
  constructor
  · rintro ⟨e, hparse, hsort⟩
    cases e with
    | comparison x op operand => exact ⟨x, op, operand, hparse⟩
    | assignment _ _ | update _ _ _ => cases hsort
  · rintro ⟨x, op, operand, hparse⟩
    exact ⟨_, hparse, rfl⟩

/-- A text that is not a comparison is malformed, whichever of the two readings finds it out. -/
theorem evaluate_of_not_comparison {text : Text} (readable : Readable text) (nonempty : text ≠ [])
    (refused : ∀ x op operand, Expr.parse text ≠ .ok (.comparison x op operand)) (env : Env) :
    evaluate (some text) env = .error (.condition (.malformed text)) := by
  have hempty : text.isEmpty = false := by simpa using nonempty
  simp only [evaluate, evaluateText, hempty, Bool.false_eq_true, if_false]
  cases htokens : tokenize text with
  | error fault =>
    cases fault with
    | malformed _ => rfl
    | limit e => exact absurd htokens (readable.tokenize_ne_limit e)
  | ok lexemes =>
    simp only
    split
    · rfl
    · -- three tokens were counted, which need not be those of an expression
      cases hparse : Expr.parse text with
      | error fault =>
        cases fault with
        | malformed _ => rfl
        | limit e => exact absurd hparse (readable.parse_ne_limit e)
      | ok e =>
        cases e with
        | comparison x op operand => exact absurd hparse (refused x op operand)
        | assignment _ _ | update _ _ _ => rfl

/-- A comparison is neither missing nor malformed. -/
theorem evaluate_comparison_error {text x : Text} {op : RelOp} {operand : Operand} {env : Env}
    (parsed : Expr.parse text = .ok (.comparison x op operand)) {e : ConditionError}
    (h : evaluate (some text) env = .error (.condition e)) :
    e ≠ .missing ∧ ∀ text', e ≠ .malformed text' := by
  rw [evaluate_of_parse parsed] at h
  cases hx : env.get? x with
  | none =>
    simp only [Expr.compare, hx] at h
    cases h
    simp
  | some a =>
    cases hb : operand.resolve env with
    | error y =>
      simp only [Expr.compare, hx, hb] at h
      cases h
      simp
    | ok b =>
      simp only [Expr.compare, hx, hb] at h
      cases hcompare : Value.compare op a b with
      | error m =>
        rw [hcompare] at h
        cases h
        simp
      | ok answer =>
        rw [hcompare] at h
        cases h

/-- The evaluation of a condition and the syntax check agree.  A condition is missing if there is no
text; a text is malformed exactly if the check refuses it, so that the count of its tokens refuses
nothing that the parser accepts and nothing that the parser refuses is compared; and a comparison
fails for nothing but a variable without a value or for values of different kinds that are to be put
in order. -/
theorem evaluate_exact (condition : Option Text) (env : Env)
    (readable : ∀ text, condition = some text → Readable text) :
    (evaluate condition env = .error (.condition .missing) ↔
      condition = none ∨ condition = some []) ∧
    (∀ text, condition = some text → text ≠ [] →
      (isValidCondition text = .ok true ∨ isValidCondition text = .ok false) ∧
      (∀ text', evaluate condition env = .error (.condition (.malformed text')) ↔
        isValidCondition text = .ok false ∧ text' = text) ∧
      (∀ e, Expr.parse text = .ok e →
        ∃ lexemes, tokenize text = .ok lexemes ∧ lexemes.length = 3) ∧
      (∀ fault, Expr.parse text = .error fault →
        evaluate condition env = .error (.condition (.malformed text))) ∧
      (∀ x op operand, Expr.parse text = .ok (.comparison x op operand) →
        ComparedAs env x op operand (evaluate condition env))) ∧
    ∀ e, evaluate condition env ≠ .error (.limit e) := by
  have hlimit : ∀ e, evaluate condition env ≠ .error (.limit e) := by
    intro e h
    obtain ⟨text, rfl, htokens⟩ := evaluate_eq_limit_iff.mp h
    exact (readable text rfl).tokenize_ne_limit e htokens
  cases condition with
  | none => exact ⟨by simp [evaluate], nofun, hlimit⟩
  | some text =>
    have readable := readable text rfl
    by_cases hcomparison : ∃ x op operand, Expr.parse text = .ok (.comparison x op operand)
    · obtain ⟨x, op, operand, parsed⟩ := hcomparison
      have hvalid := isValidCondition_eq_true_iff.mpr ⟨x, op, operand, parsed⟩
      have nonempty : text ≠ [] := by rintro rfl; cases parsed
      refine ⟨?_, ?_, hlimit⟩
      · simp only [reduceCtorEq, Option.some.injEq, nonempty, or_self, iff_false]
        intro h
        exact (evaluate_comparison_error parsed h).1 rfl
      · rintro _ ⟨⟩ -
        refine ⟨Or.inl hvalid, ?_, ?_, ?_, ?_⟩
        · intro text'
          simp only [hvalid, Except.ok.injEq, Bool.true_eq_false, false_and, iff_false]
          intro h
          exact (evaluate_comparison_error parsed h).2 text' rfl
        · intro e he
          exact ⟨_, Expr.tokenize_of_parse he⟩
        · intro fault hfault
          cases parsed.symm.trans hfault
        · intro x' op' operand' parsed'
          rw [evaluate_of_parse parsed']
          exact comparedAs_compare env x' op' operand'
    · by_cases nonempty : text = []
      · subst nonempty
        exact ⟨by simp [evaluate], fun _ h hne => absurd (Option.some.inj h).symm hne, hlimit⟩
      · have refused : ∀ x op operand, Expr.parse text ≠ .ok (.comparison x op operand) :=
          fun x op operand parsed => hcomparison ⟨x, op, operand, parsed⟩
        have hevaluate := evaluate_of_not_comparison readable nonempty refused env
        have hvalid : isValidCondition text = .ok false := by
          refine (readable.parsesTo Expr.isCondition).resolve_left fun h => hcomparison ?_
          exact isValidCondition_eq_true_iff.mp h
        refine ⟨by simp [hevaluate, nonempty], ?_, hlimit⟩
        rintro _ ⟨⟩ -
        refine ⟨Or.inr hvalid, ?_, ?_, fun _ _ => hevaluate, ?_⟩
        · intro text'
          simp [hevaluate, hvalid, eq_comm]
        · intro e he
          exact ⟨_, Expr.tokenize_of_parse he⟩
        · intro x op operand parsed
          exact absurd parsed (refused x op operand)

/-- Three tokens that are no comparison are malformed, and a truth value is not less than an
integer. -/
theorem evaluate_exact_mixed :
    Readable "7 < y" ∧ Readable "x < y" ∧
    evaluate (some ("7 < y" : Text)) ⟨[("y", .int 0)]⟩ =
      .error (.condition (.malformed "7 < y")) ∧
    evaluate (some ("x < y" : Text)) ⟨[("x", .bool false), ("y", .int 1)]⟩ =
      .error (.condition (.typeMismatch ⟨.boolean, .integer, "<"⟩)) := by
  have hcount : Readable "7 < y" := by decide
  have hmixed : Readable "x < y" := by decide
  refine ⟨hcount, hmixed, ?_, ?_⟩
  · obtain ⟨-, hchecked, -⟩ := evaluate_exact (some ("7 < y" : Text)) ⟨[("y", .int 0)]⟩
      (by rintro _ ⟨⟩; exact hcount)
    exact ((hchecked _ rfl (by decide)).2.1 _).mpr ⟨rfl, rfl⟩
  · obtain ⟨-, hchecked, -⟩ := evaluate_exact (some ("x < y" : Text))
      ⟨[("x", .bool false), ("y", .int 1)]⟩ (by rintro _ ⟨⟩; exact hmixed)
    have hcompared := (hchecked _ rfl (by decide)).2.2.2.2 "x" .lt (.name "y") rfl
    exact (hcompared.typeMismatch _).mpr
      ⟨.bool false, .int 1, rfl, rfl, by decide, Or.inl rfl, rfl⟩

end Condition

end Flowchart
