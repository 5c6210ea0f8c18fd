import Flowchart.Proofs.Action
import Flowchart.Proofs.Condition
import Flowchart.Proofs.Simulation.Outcome

/-! # Where the variables of a run come from

`replay_induction` is the principle by which facts about the variables are shown for whole runs:
they hold at the beginning, and every effect that an action can have keeps them.  `Evolved` is such
a fact.  It traces names, values and truth values back to the beginning of the run and to the
processes on its path.
-/

namespace Flowchart

/-! ## Replaying a path -/

theorem Content.process_of_action? {content : Content} {text : Text}
    (h : content.action? = some text) : content = .process (some text) := by
  cases content with
  | process action => exact congrArg Content.process h
  | state _ | decision _ | generic => cases h

theorem Visit.perform_effect {v : Visit} {env env' : Env} (h : v.perform env = .ok env') :
    Action.Effect env v.content.action? env' := by
  unfold Visit.perform at h
  cases hv : v.content with
  | process action =>
    cases hrun : Action.run action env with
    | error e => simp [hv, hrun, Except.map] at h
    | ok outcome =>
      simp only [hv, hrun, Except.map, Except.ok.injEq] at h
      exact h ▸ Action.run_effect hrun
  | state _ | decision _ | generic =>
    simp only [hv, Except.ok.injEq] at h
    exact h ▸ .unchanged

section

variable {env₀ env : Env} {path : List Visit}

theorem replay_append_eq_ok {rest : List Visit} :
    replay env₀ (path ++ rest) = .ok env ↔
      ∃ env', replay env₀ path = .ok env' ∧ replay env' rest = .ok env := by
  rw [replay, List.foldlM_append, ← replay]
  cases replay env₀ path with
  | error e => simp [bind, Except.bind]
  | ok env' => simp [bind, Except.bind, replay]

theorem replay_singleton (v : Visit) : replay env [v] = v.perform env := by
  cases h : v.perform env <;> simp [replay, h, bind, Except.bind, pure, Except.pure]

/-- If a whole path can be replayed, then so can its beginnings. -/
theorem replay_take (h : replay env₀ path = .ok env) (i : Nat) :
    ∃ env', replay env₀ (path.take i) = .ok env' := by
  rw [← List.take_append_drop i path, replay_append_eq_ok] at h
  obtain ⟨env', htake, -⟩ := h
  exact ⟨env', htake⟩

/-- What holds at the beginning and is kept by whatever actions do holds all along a path. -/
theorem replay_induction {motive : List Visit → Env → Prop} (start : motive [] env₀)
    (pass : ∀ {path env v env'}, replay env₀ path = .ok env → motive path env →
      Action.Effect env v.content.action? env' → motive (path ++ [v]) env')
    (h : replay env₀ path = .ok env) : motive path env := by
  induction path using List.reverseRecOn generalizing env with
  | nil =>
    cases h
    exact start
  | append_singleton path v ih =>
    obtain ⟨env', hpath, hlast⟩ := replay_append_eq_ok.mp h
    rw [replay_singleton] at hlast
    exact pass hpath (ih hpath) (Visit.perform_effect hlast)

end

theorem Chart.replay_simulate {c : Chart} (hc : c.WellFormed) {env₀ : Env} {r : RunResult}
    (h : (c.simulate env₀).answer = .ok r) : replay env₀ r.path = .ok r.env := by
  rcases Chart.simulate_trail hc h with ⟨e, -, rfl⟩ | ⟨-, n, hreaches, -⟩
  · rfl
  · obtain ⟨path, env, p, trail, -, -, performed, hpath⟩ := hreaches
    rw [hpath, replay_append_eq_ok]
    exact ⟨env, trail.replay_eq, by rw [replay_singleton, performed]⟩

/-! ## Tracing variables back -/

/-- The node that was passed is a process that assigns a variable. -/
def Visit.Assigns (v : Visit) (x : Text) : Prop :=
  ∃ text operand, v.content = .process (some text) ∧
    Expr.parse text = .ok (.assignment x operand)

/-- The node that was passed is a process that updates a variable. -/
def Visit.Updates (v : Visit) (x : Text) : Prop :=
  ∃ text op operand, v.content = .process (some text) ∧
    Expr.parse text = .ok (.update x op operand)

/-- No variable has a truth value. -/
def Env.BoolFree (env : Env) : Prop :=
  ∀ x b, env.get? x ≠ some (.bool b)

/-- How the variables after a path come from those before it. -/
structure Evolved (env₀ : Env) (path : List Visit) (env : Env) : Prop where
  /-- The old names keep their order, and the new ones behind them were assigned on the path. -/
  names : ∃ new, env.names = env₀.names ++ new ∧ new.Nodup ∧
    ∀ x ∈ new, x ∉ env₀.names ∧ ∃ v ∈ path, v.Assigns x
  /-- A variable whose value is not the one it had was assigned or updated on the path. -/
  changed : ∀ x, env.get? x ≠ env₀.get? x → ∃ v ∈ path, v.Assigns x ∨ v.Updates x
  /-- Every truth value was there from the beginning. -/
  booleans : ∀ x b, env.get? x = some (.bool b) → ∃ y, env₀.get? y = some (.bool b)

/-- No action has a truth value written in it. -/
theorem Expr.assignment_ne_bool {text x : Text} {b : Bool} :
    Expr.parse text ≠ .ok (.assignment x (.bool b)) := by
  intro h
  obtain ⟨-, hsentence⟩ := Expr.sentence_of_parse h
  generalize (lex text).lexemes.map (·.token) = ts at hsentence
  cases hsentence

namespace Evolved

variable {env₀ env : Env} {path : List Visit} {v : Visit}

theorem refl (env₀ : Env) : Evolved env₀ [] env₀ where
  names := ⟨[], by simp⟩
  changed x h := absurd rfl h
  booleans x b h := ⟨x, h⟩

theorem concat (h : Evolved env₀ path env) (v : Visit) : Evolved env₀ (path ++ [v]) env where
  names := by
    obtain ⟨new, hnames, hnodup, hnew⟩ := h.names
    refine ⟨new, hnames, hnodup, fun x hx => ?_⟩
    obtain ⟨hx₀, w, hw, hassigns⟩ := hnew x hx
    exact ⟨hx₀, w, List.mem_append_left _ hw, hassigns⟩
  changed x hx := by
    obtain ⟨w, hw, hwrites⟩ := h.changed x hx
    exact ⟨w, List.mem_append_left _ hw, hwrites⟩
  booleans := h.booleans

/-- Binding a variable keeps the history if the last process on the path accounts for it. -/
theorem set {x : Text} {u : Value} (h : Evolved env₀ (path ++ [v]) env)
    (hname : x ∈ env.names ∨ v.Assigns x) (hwrites : v.Assigns x ∨ v.Updates x)
    (hvalue : ∀ b, u = .bool b → ∃ y, env₀.get? y = some (.bool b)) :
    Evolved env₀ (path ++ [v]) (env.set x u) where
  names := by
    obtain ⟨new, hnames, hnodup, hnew⟩ := h.names
    by_cases hx : x ∈ env.names
    · exact ⟨new, by rw [Env.names_set, if_pos hx, hnames], hnodup, hnew⟩
    · have hassigns := hname.resolve_left hx
      rw [hnames, List.mem_append, not_or] at hx
      refine ⟨new ++ [x], ?_, ?_, ?_⟩
      · rw [Env.names_set, hnames, if_neg (by simp [hx.1, hx.2]), List.append_assoc]
      · simpa [List.nodup_append] using ⟨hnodup, fun y hy hyx => hx.2 (hyx ▸ hy)⟩
      · intro y hy
        rcases List.mem_append.mp hy with hy | hy
        · exact hnew y hy
        · cases List.mem_singleton.mp hy
          exact ⟨hx.1, v, by simp, hassigns⟩
  changed y hy := by
    by_cases hyx : y = x
    · exact ⟨v, by simp, hyx ▸ hwrites⟩
    · rw [Env.get?_set_of_ne env hyx] at hy
      exact h.changed y hy
  booleans y b hy := by
    by_cases hyx : y = x
    · subst hyx
      rw [Env.get?_set_self, Option.some.injEq] at hy
      exact hvalue b hy
    · rw [Env.get?_set_of_ne env hyx] at hy
      exact h.booleans y b hy

/-- A truth value that an assignment copies has the history of the variable it is copied from. -/
theorem boolean_of_resolve (h : Evolved env₀ path env) {text x : Text} {operand : Operand}
    {b : Bool} (hparse : Expr.parse text = .ok (.assignment x operand))
    (hresolve : operand.resolve env = .ok (.bool b)) : ∃ y, env₀.get? y = some (.bool b) := by
  cases operand with
  | int n => cases hresolve
  | bool b' => exact absurd hparse Expr.assignment_ne_bool
  | name y => exact h.booleans y b (Operand.resolve_name_eq_ok.mp hresolve)

theorem step {env' : Env} (h : Evolved env₀ path env)
    (heffect : Action.Effect env v.content.action? env') : Evolved env₀ (path ++ [v]) env' := by
  generalize haction : v.content.action? = action at heffect
  cases heffect with
  | unchanged => exact h.concat v
  | assigned parsed resolved =>
    have hassigns : v.Assigns _ := ⟨_, _, Content.process_of_action? haction, parsed⟩
    refine (h.concat v).set (Or.inr hassigns) (Or.inl hassigns) ?_
    rintro b rfl
    exact h.boolean_of_resolve parsed resolved
  | updated parsed current _ _ =>
    have hupdates : v.Updates _ := ⟨_, _, _, Content.process_of_action? haction, parsed⟩
    refine (h.concat v).set (Or.inl (Env.mem_names_iff.mpr ⟨_, current⟩)) (Or.inr hupdates) ?_
    intro b hb
    cases hb

theorem of_replay (h : replay env₀ path = .ok env) : Evolved env₀ path env :=
  replay_induction (motive := Evolved env₀) (refl env₀) (fun _ => step) h

theorem boolFree (h : Evolved env₀ path env) (hfree : env₀.BoolFree) : env.BoolFree := by
  intro x b hx
  obtain ⟨y, hy⟩ := h.booleans x b hx
  exact hfree y b hy

end Evolved

/-! ## Conditions of the wrong kind -/

/-- Without truth values among the variables, only a truth value that is written in a condition can
be of the wrong kind. -/
theorem Condition.literal_of_typeMismatch {condition : Option Text} {env : Env}
    {m : Value.TypeMismatch} (hfree : env.BoolFree)
    (h : evaluate condition env = .error (.condition (.typeMismatch m))) :
    ∃ text x op b, condition = some text ∧
      Expr.parse text = .ok (.comparison x op (.bool b)) := by
  obtain ⟨text, x, op, operand, rfl, hparse, hcompare⟩ := comparison_of_typeMismatch h
  obtain ⟨left, right, hleft, hright, hkind⟩ := Expr.values_of_typeMismatch hcompare
  cases left with
  | bool b => exact absurd hleft (hfree x b)
  | int n =>
    cases operand with
    | bool b => exact ⟨text, x, op, b, rfl, hparse⟩
    | int k =>
      cases hright
      exact absurd rfl hkind
    | name y =>
      cases right with
      | bool b => exact absurd (Operand.resolve_name_eq_ok.mp hright) (hfree y b)
      | int k => exact absurd rfl hkind

theorem Chart.decision_of_error {c : Chart} (hc : c.WellFormed) {env₀ : Env} {r : RunResult}
    {label : Text} {e : ConditionError} (h : (c.simulate env₀).answer = .ok r)
    (herror : r.error = some (.decision label e)) :
    ∃ v condition, r.path.getLast? = some v ∧ v.text = label ∧ v.content = .decision condition ∧
      Condition.evaluate condition r.env = .error (.condition e) := by
  rcases Chart.simulate_trail hc h with ⟨e', hentrance, rfl⟩ | ⟨-, n, hreaches, hhalts⟩
  · cases herror
    rcases RunState.entrance_error hentrance with ⟨-, he⟩ | ⟨-, -, he⟩ | ⟨-, -, he⟩ <;> cases he
  · rw [herror] at hhalts
    generalize r.completed = completed at hhalts
    cases hhalts with
    | undecided decision failed =>
      exact ⟨Visit.ofNode n, _, hreaches.getLast?, rfl, decision, failed⟩

/-- The variables at the end of a run come from those at its beginning by the actions on its path.
A run that begins without truth values never has any, and then a decision fails for the kinds of
its values only if a truth value is written in its condition. -/
theorem simulate_evolved (nodes : List NodeRecord) (links : List LinkRecord) (env₀ : Env)
    {r : RunResult} (h : ((Chart.build nodes links).simulate env₀).answer = .ok r) :
    Evolved env₀ r.path r.env ∧
    (env₀.BoolFree →
      (∀ i, ∃ env, replay env₀ (r.path.take i) = .ok env ∧ env.BoolFree) ∧ r.env.BoolFree ∧
      ∀ label m, r.error = some (.decision label (.typeMismatch m)) →
        ∃ v text x op b, r.path.getLast? = some v ∧ v.text = label ∧
          v.content = .decision (some text) ∧
          Expr.parse text = .ok (.comparison x op (.bool b))) := by
  have hc := Chart.wellFormed_build nodes links
  have hreplay := Chart.replay_simulate hc h
  refine ⟨.of_replay hreplay, fun hfree => ?_⟩
  have hend : r.env.BoolFree := (Evolved.of_replay hreplay).boolFree hfree
  refine ⟨?_, hend, ?_⟩
  · intro i
    obtain ⟨env, henv⟩ := replay_take hreplay i
    exact ⟨env, henv, (Evolved.of_replay henv).boolFree hfree⟩
  · intro label m herror
    obtain ⟨v, condition, hlast, hlabel, hcontent, hfailed⟩ := Chart.decision_of_error hc h herror
    obtain ⟨text, x, op, b, rfl, hparse⟩ := Condition.literal_of_typeMismatch hend hfailed
    exact ⟨v, text, x, op, b, hlast, hlabel, hcontent, hparse⟩

/-- A chart that copies a variable and asks whether the copy exceeds a truth value. -/
def copyingNodes : List NodeRecord :=
  [{ key := .int 1, kind := .state, text := "Start", role := some (.text "start") },
   { key := .int 2, kind := .process, text := "Copy", action := some ("y = x" : Text) },
   { key := .int 3, kind := .decision, text := "More?", condition := some ("y > true" : Text) },
   { key := .int 4, kind := .state, text := "End", role := some (.text "end") }]

/-- The links of that chart. -/
def copyingLinks : List LinkRecord :=
  [{ source := .int 1, target := .int 2 }, { source := .int 2, target := .int 3 },
   { source := .int 3, target := .int 4, branch := some trueBranch },
   { source := .int 3, target := .int 4, branch := some falseBranch }]

/-- The copy is an integer, so the run stops at the decision, whose condition says `true`. -/
theorem simulate_evolved_copying :
    ∃ r, ((Chart.build copyingNodes copyingLinks).simulate ⟨[("x", .int 5)]⟩).answer = .ok r ∧
      r.env = ⟨[("x", .int 5), ("y", .int 5)]⟩ ∧
      r.error = some (.decision "More?" (.typeMismatch ⟨.integer, .boolean, ">"⟩)) ∧
      Evolved ⟨[("x", .int 5)]⟩ r.path r.env ∧
      ∃ v text x op b, r.path.getLast? = some v ∧ v.text = "More?" ∧
        v.content = .decision (some text) ∧
        Expr.parse text = .ok (.comparison x op (.bool b)) := by
  have hfree : Env.BoolFree ⟨[("x", .int 5)]⟩ := by
    intro x b
    simp only [Env.get?, List.lookup_cons, List.lookup_nil]
    split <;> simp
  obtain ⟨hevolved, hlater⟩ := simulate_evolved copyingNodes copyingLinks ⟨[("x", .int 5)]⟩ rfl
  exact ⟨_, rfl, rfl, rfl, hevolved, (hlater hfree).2.2 _ _ rfl⟩

end Flowchart
