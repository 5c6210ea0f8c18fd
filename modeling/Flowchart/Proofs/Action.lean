import Flowchart.Proofs.Expr.Limit

/-! # What an action can do

An action binds at most one variable, and `Action.Binds` says which one and to what: by an
assignment, or by an update of an integer.  `Action.run_exact` says that nothing else happens to the
variables.  `Action.Effect` lists the same for a proof by cases.  A text that the syntax check accepts
as an action may still do nothing, but never for its syntax.
-/

namespace Flowchart

/-! ## What an action binds -/

/-- What an operation on two integers yields.  What a quotient leaves of the dividend is nearer to
zero than the divisor and is not of the other sign; nothing is divided by zero. -/
def ArithOp.Yields : ArithOp → Int → Int → Int → Prop
  | .add, a, b, n => n = a + b
  | .sub, a, b, n => n = a - b
  | .mul, a, b, n => n = a * b
  | .div, a, b, n =>
    b ≠ 0 ∧ ∃ r, a = b * n + r ∧ r.natAbs < b.natAbs ∧ (r = 0 ∨ r.sign = a.sign)

/-- The variable that an expression binds as an action, with its value: that of the operand in an
assignment, and in an update of an integer by an integer what the operation yields. -/
inductive Expr.Binds (env : Env) : Expr → Text → Value → Prop
  | assignment {x operand v} (resolved : operand.resolve env = .ok v) :
      Binds env (.assignment x operand) x v
  | update {x op operand a b n} (current : env.get? x = some (.int a))
      (resolved : operand.resolve env = .ok (.int b)) (yields : op.Yields a b n) :
      Binds env (.update x op operand) x (.int n)

/-- The variable that an action binds, with its value. -/
def Action.Binds (env : Env) (action : Option Text) (x : Text) (v : Value) : Prop :=
  ∃ text e, action = some text ∧ Expr.parse text = .ok e ∧ e.Binds env x v

/-- How an environment changes when `x` is bound to `v`: a variable that was bound keeps its place, a
new one goes last, and the other bindings stay as they are. -/
inductive Env.Rebinds (x : Text) (v : Value) : Env → Env → Prop
  | inPlace {before after w} (first : x ∉ before.map Prod.fst) :
      Rebinds x v ⟨before ++ (x, w) :: after⟩ ⟨before ++ (x, v) :: after⟩
  | last {bindings} (unbound : x ∉ bindings.map Prod.fst) :
      Rebinds x v ⟨bindings⟩ ⟨bindings ++ [(x, v)]⟩

theorem Env.Rebinds.cons {x y : Text} {v w : Value} {bs bs' : List (Text × Value)}
    (differ : x ≠ y) (h : Rebinds x v ⟨bs⟩ ⟨bs'⟩) : Rebinds x v ⟨(y, w) :: bs⟩ ⟨(y, w) :: bs'⟩ := by
  cases h with
  | @inPlace before after u first =>
    exact @inPlace x v ((y, w) :: before) after u (by simpa [differ] using first)
  | last unbound => exact @last x v ((y, w) :: bs) (by simpa [differ] using unbound)

theorem Env.rebinds_set (env : Env) (x : Text) (v : Value) : Rebinds x v env (env.set x v) := by
  obtain ⟨bs⟩ := env
  unfold set
  induction bs with
  | nil => exact @Rebinds.last x v [] (by simp)
  | cons b bs ih =>
    obtain ⟨y, w⟩ := b
    by_cases hy : y = x
    · subst hy
      simp only [bind, if_true]
      exact @Rebinds.inPlace y v [] bs w (by simp)
    · simp only [bind, hy, if_false]
      exact ih.cons (Ne.symm hy)

/-- The quotient that is rounded toward zero is the one with a rest of the sign of the dividend. -/
theorem divide?_eq_some_iff {a b n : Int} :
    divide? a b = some n ↔
      b ≠ 0 ∧ ∃ r, a = b * n + r ∧ r.natAbs < b.natAbs ∧ (r = 0 ∨ r.sign = a.sign) := by
  unfold divide?
  by_cases hb : b = 0
  · simp [hb]
  · simp only [hb, if_false, Option.some.injEq, ne_eq, not_false_eq_true, true_and]
    constructor
    · rintro rfl
      refine ⟨a.tmod b, (Int.mul_tdiv_add_tmod a b).symm, ?_, ?_⟩
      · rw [Int.natAbs_tmod]
        exact Nat.mod_lt _ (Int.natAbs_pos.mpr hb)
      · rw [← Int.sign_eq_zero_iff_zero, Int.sign_tmod]
        split
        · exact Or.inl rfl
        · exact Or.inr rfl
    · rintro ⟨r, ha, hr, hsign⟩
      have hsum : r + b * n = a := by omega
      -- rounding toward zero goes down from a positive dividend and up from a negative one
      rcases Int.le_total 0 a with hpos | hneg
      · refine ((Int.tdiv_tmod_unique hpos hb).mpr ⟨hsum, ?_, by omega⟩).1
        rcases hsign with rfl | hsign
        · exact Int.le_refl 0
        · rwa [← Int.sign_nonneg_iff, hsign, Int.sign_nonneg_iff]
      · refine ((Int.tdiv_tmod_unique' hneg hb).mpr ⟨hsum, by omega, ?_⟩).1
        rcases hsign with rfl | hsign
        · exact Int.le_refl 0
        · rwa [← Int.sign_nonpos_iff, hsign, Int.sign_nonpos_iff]

theorem ArithOp.apply_eq_some_iff {op : ArithOp} {a b n : Int} :
    op.apply? a b = some n ↔ op.Yields a b n := by
  cases op with
  | add | sub | mul => simp [Yields, ArithOp.apply?, eq_comm]
  | div => exact divide?_eq_some_iff

theorem ArithOp.update_eq_ok_iff {op : ArithOp} {v w u : Value} :
    op.update v w = .ok u ↔ ∃ a b n, v = .int a ∧ w = .int b ∧ op.Yields a b n ∧ u = .int n := by
  constructor
  · intro h
    cases v with
    | bool _ => cases h
    | int a =>
      cases w with
      | bool _ => cases h
      | int b =>
        simp only [update] at h
        cases happly : op.apply? a b with
        | none => simp [happly] at h
        | some n =>
          simp only [happly, Except.ok.injEq] at h
          exact ⟨a, b, n, rfl, rfl, apply_eq_some_iff.mp happly, h.symm⟩
  · rintro ⟨a, b, n, rfl, rfl, yields, rfl⟩
    simp [update, apply_eq_some_iff.mpr yields]

/-- An expression is performed exactly if it binds a variable. -/
theorem Expr.perform_eq_ok_iff {e : Expr} {env env' : Env} :
    e.perform env = .ok env' ↔ ∃ x v, e.Binds env x v ∧ env' = env.set x v := by
  constructor
  · intro h
    cases e with
    | comparison x op operand => cases h
    | assignment x operand =>
      simp only [perform] at h
      cases hv : operand.resolve env with
      | error y => simp [hv] at h
      | ok v =>
        simp only [hv, Except.ok.injEq] at h
        exact ⟨x, v, .assignment hv, h.symm⟩
    | update x op operand =>
      simp only [perform] at h
      cases hv : operand.resolve env with
      | error y => simp [hv] at h
      | ok v =>
        cases hx : env.get? x with
        | none => simp [hv, hx] at h
        | some current =>
          cases hupdate : op.update current v with
          | error notice => simp [hv, hx, hupdate, bind, Except.bind] at h
          | ok result =>
            simp only [hv, hx, hupdate, bind, Except.bind, pure, Except.pure, Except.ok.injEq] at h
            obtain ⟨a, b, n, rfl, rfl, yields, rfl⟩ := ArithOp.update_eq_ok_iff.mp hupdate
            exact ⟨x, .int n, .update hx hv yields, h.symm⟩
  · rintro ⟨x, v, binds, rfl⟩
    cases binds with
    | assignment resolved => simp [perform, resolved]
    | @update _ op _ a b n current resolved yields =>
      have hupdate : op.update (.int a) (.int b) = .ok (.int n) :=
        ArithOp.update_eq_ok_iff.mpr ⟨a, b, n, rfl, rfl, yields, rfl⟩
      simp [perform, resolved, current, hupdate, bind, Except.bind, pure, Except.pure]

/-- No expression is the empty text. -/
theorem Expr.isEmpty_of_parse {text : Text} {e : Expr} (h : parse text = .ok e) :
    text.isEmpty = false := by
  rw [List.isEmpty_eq_false_iff]
  rintro rfl
  cases h

/-! ## What becomes of the variables -/

/-- What becomes of the variables by an action. -/
inductive Action.Effect (env : Env) : Option Text → Env → Prop
  | unchanged {action} : Effect env action env
  | assigned {text x operand v} (parsed : Expr.parse text = .ok (.assignment x operand))
      (resolved : operand.resolve env = .ok v) : Effect env (some text) (env.set x v)
  | updated {text x op operand a b n} (parsed : Expr.parse text = .ok (.update x op operand))
      (current : env.get? x = some (.int a)) (resolved : operand.resolve env = .ok (.int b))
      (applied : ArithOp.apply? op a b = some n) : Effect env (some text) (env.set x (.int n))

theorem Expr.perform_effect {text : Text} {e : Expr} (hparse : Expr.parse text = .ok e)
    {env env' : Env} (h : e.perform env = .ok env') : Action.Effect env (some text) env' := by
  obtain ⟨x, v, binds, rfl⟩ := perform_eq_ok_iff.mp h
  cases binds with
  | assignment resolved => exact .assigned hparse resolved
  | update current resolved yields =>
    exact .updated hparse current resolved (ArithOp.apply_eq_some_iff.mpr yields)

theorem Action.run_effect {action : Option Text} {env : Env} {outcome : Action.Outcome}
    (h : Action.run action env = .ok outcome) : Action.Effect env action outcome.env := by
  cases action with
  | none => cases h; exact .unchanged
  | some text =>
    simp only [Action.run] at h
    split at h
    · cases h; exact .unchanged
    · cases hparse : Expr.parse text with
      | error fault =>
        cases fault with
        | malformed e => simp only [hparse] at h; cases h; exact .unchanged
        | limit e => simp [hparse] at h
      | ok e =>
        simp only [hparse] at h
        cases hperform : e.perform env with
        | error notice => simp only [hperform] at h; cases h; exact .unchanged
        | ok env' =>
          simp only [hperform] at h
          cases h
          exact Expr.perform_effect hparse hperform

/-! ## Actions that the syntax check accepts -/

theorem Expr.perform_error_of_isAction {e : Expr} (sort : e.isAction = true) {env : Env}
    {notice : ActionNotice} (h : e.perform env = .error notice) :
    notice ≠ .comparison ∧ ∀ fault, notice ≠ .malformed fault := by
  cases e with
  | comparison _ _ _ => cases sort
  | assignment x operand =>
    simp only [perform] at h
    cases hv : operand.resolve env <;> simp only [hv] at h <;> cases h
    simp
  | update x op operand =>
    simp only [perform] at h
    cases hv : operand.resolve env with
    | error y => simp only [hv] at h; cases h; simp
    | ok v =>
      cases hx : env.get? x with
      | none => simp only [hv, hx] at h; cases h; simp
      | some current =>
        cases hupdate : op.update current v with
        | ok result => simp [hv, hx, hupdate, bind, Except.bind, pure, Except.pure] at h
        | error fault =>
          simp only [hv, hx, hupdate, bind, Except.bind, Except.error.injEq] at h
          subst h
          simp only [ArithOp.update] at hupdate
          repeat' split at hupdate
          all_goals cases hupdate
          all_goals simp

/-- An action that the syntax check accepts is not ignored for its syntax. -/
theorem Action.run_of_isValidAction {text : Text} (valid : isValidAction text = .ok true)
    (env : Env) :
    ∃ outcome, run (some text) env = .ok outcome ∧ outcome.notice ≠ some .comparison ∧
      ∀ fault, outcome.notice ≠ some (.malformed fault) := by
  obtain ⟨e, parsed, sort⟩ := parsesTo_eq_true_iff.mp valid
  have nonempty := Expr.isEmpty_of_parse parsed
  cases hperform : e.perform env with
  | ok env' => exact ⟨⟨env', none⟩, by simp [run, nonempty, parsed, hperform], by simp, by simp⟩
  | error notice =>
    obtain ⟨hcomparison, hmalformed⟩ := Expr.perform_error_of_isAction sort hperform
    exact ⟨⟨env, some notice⟩, by simp [run, nonempty, parsed, hperform], by simpa using hcomparison,
      by simpa using hmalformed⟩

/-! ## Exactly what an action does -/

namespace Action

theorem run_of_binds {env : Env} {action : Option Text} {x : Text} {v : Value}
    (h : Binds env action x v) : run action env = .ok ⟨env.set x v, none⟩ := by
  obtain ⟨text, e, rfl, parsed, binds⟩ := h
  have nonempty := Expr.isEmpty_of_parse parsed
  have hperform := Expr.perform_eq_ok_iff.mpr ⟨x, v, binds, rfl⟩
  simp [run, nonempty, parsed, hperform]

theorem run_of_not_binds {env : Env} {action : Option Text}
    (readable : ∀ text, action = some text → Readable text) (h : ∀ x v, ¬ Binds env action x v) :
    ∃ notice, run action env = .ok ⟨env, notice⟩ ∧
      (notice = none ↔ action = none ∨ action = some []) := by
  cases action with
  | none => exact ⟨none, rfl, by simp⟩
  | some text =>
    cases text with
    | nil => exact ⟨none, rfl, by simp⟩
    | cons c cs =>
      have readable := readable _ rfl
      cases hparse : Expr.parse (c :: cs) with
      | error fault =>
        cases fault with
        | malformed e => exact ⟨some (.malformed e), by simp [run, hparse], by simp⟩
        | limit e => exact absurd hparse (readable.parse_ne_limit e)
      | ok e =>
        cases hperform : e.perform env with
        | error notice => exact ⟨some notice, by simp [run, hparse, hperform], by simp⟩
        | ok env' =>
          obtain ⟨x, v, binds, -⟩ := Expr.perform_eq_ok_iff.mp hperform
          exact absurd ⟨_, e, rfl, hparse, binds⟩ (h x v)

/-- An action without a numeral that is too long always has an outcome.  If it binds a variable, the
environment is rebound accordingly; in every other case it stays as it is, and unless there is no
text at all, a notice says that the action was not performed. -/
theorem run_exact (action : Option Text) (env : Env)
    (readable : ∀ text, action = some text → Readable text) :
    ∃ outcome, run action env = .ok outcome ∧
      (∀ x v, Binds env action x v →
        outcome.env = env.set x v ∧ Env.Rebinds x v env outcome.env) ∧
      ((∀ x v, ¬ Binds env action x v) → outcome.env = env) ∧
      (outcome.notice = none ↔
        action = none ∨ action = some [] ∨ ∃ x v, Binds env action x v) := by
  by_cases hbinds : ∃ x v, Binds env action x v
  · obtain ⟨x, v, binds⟩ := hbinds
    refine ⟨⟨env.set x v, none⟩, run_of_binds binds, ?_, ?_, ?_⟩
    · intro x' v' binds'
      -- an action has one outcome, so that it binds one variable only
      have hset : env.set x v = env.set x' v' := by
        simpa using (run_of_binds binds).symm.trans (run_of_binds binds')
      exact ⟨hset, hset ▸ env.rebinds_set x' v'⟩
    · exact fun h => absurd binds (h x v)
    · exact iff_of_true rfl (Or.inr (Or.inr ⟨x, v, binds⟩))
  · have hnone : ∀ x v, ¬ Binds env action x v := fun x v binds => hbinds ⟨x, v, binds⟩
    obtain ⟨notice, hrun, hnotice⟩ := run_of_not_binds readable hnone
    refine ⟨⟨env, notice⟩, hrun, ?_, fun _ => rfl, ?_⟩
    · exact fun x v binds => absurd binds (hnone x v)
    · simpa [hbinds] using hnotice

/-- Minus seven is divided by two in its place between other variables, and the quotient is rounded
toward zero. -/
theorem run_exact_quotient :
    let env : Env := ⟨[("a", .bool true), ("x", .int (-7)), ("b", .int 2)]⟩
    (∀ text, some ("x / b" : Text) = some text → Readable text) ∧
      Env.Rebinds "x" (.int (-3)) env ⟨[("a", .bool true), ("x", .int (-3)), ("b", .int 2)]⟩ ∧
      run (some "x / b") env = .ok ⟨⟨[("a", .bool true), ("x", .int (-3)), ("b", .int 2)]⟩, none⟩ := by
  intro env
  have readable : ∀ text, some ("x / b" : Text) = some text → Readable text := by
    rintro _ ⟨⟩
    decide
  obtain ⟨outcome, hrun, hbinds, -, hnotice⟩ := run_exact (some "x / b") env readable
  have binds : Binds env (some "x / b") "x" (.int (-3)) :=
    ⟨_, _, rfl, rfl, .update (a := -7) (b := 2) rfl rfl ⟨by decide, -1, by decide⟩⟩
  obtain ⟨hset, hrebinds⟩ := hbinds _ _ binds
  have hnone := hnotice.mpr (Or.inr (Or.inr ⟨_, _, binds⟩))
  obtain ⟨env', notice⟩ := outcome
  cases hset
  cases hnone
  exact ⟨readable, hrebinds, hrun⟩

end Action

end Flowchart
