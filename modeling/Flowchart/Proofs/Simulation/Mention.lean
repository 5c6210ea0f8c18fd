import Flowchart.Proofs.Simulation.Alongside
import Flowchart.Proofs.Simulation.Replay

/-! # The variables that a chart mentions

A run reads and writes only the variables whose names stand in the code of its nodes.  `mentions`
collects these names, from expressions up to charts.  For each layer the same two things are shown:
environments that agree on the mentioned variables lead to the same outcome and agree on them again,
and a variable that is not mentioned keeps its value.  `simulate_of_agreeOn` says so of whole runs.
-/

namespace Flowchart

/-- Every given variable is unbound in both environments, or has the same value in both. -/
def Env.AgreeOn (V : List Text) (env env' : Env) : Prop :=
  ∀ x ∈ V, env'.get? x = env.get? x

theorem Env.AgreeOn.set {V : List Text} {env env' : Env} (h : env.AgreeOn V env') (x : Text)
    (v : Value) : (env.set x v).AgreeOn V (env'.set x v) := by
  intro y hy
  by_cases hyx : y = x
  · rw [hyx, get?_set_self, get?_set_self]
  · rw [get?_set_of_ne _ hyx, get?_set_of_ne _ hyx, h y hy]

/-! ## Expressions -/

def Operand.mentions : Operand → List Text
  | .name x => [x]
  | .int _ | .bool _ => []

/-- The variables of an expression: its target or left side, and its operand if that is one. -/
def Expr.mentions : Expr → List Text
  | .assignment x operand => x :: operand.mentions
  | .update x _ operand => x :: operand.mentions
  | .comparison x _ operand => x :: operand.mentions

section

variable {V : List Text} {env env' : Env}

theorem Operand.resolve_of_agreeOn {operand : Operand} (h : env.AgreeOn V env')
    (hV : operand.mentions ⊆ V) : operand.resolve env' = operand.resolve env := by
  cases operand with
  | int n => rfl
  | bool b => rfl
  | name x => simp only [resolve, h x (hV List.mem_cons_self)]

/-- An action is performed, or fails to be for the same reason, in environments that agree on its
variables. -/
theorem Expr.perform_of_agreeOn {e : Expr} (h : env.AgreeOn V env') (hV : e.mentions ⊆ V) :
    Agree (Env.AgreeOn V) (e.perform env) (e.perform env') := by
  cases e with
  | comparison x op operand => exact .error _
  | assignment x operand =>
    have hoperand := Operand.resolve_of_agreeOn h (List.subset_of_cons_subset hV)
    simp only [perform, hoperand]
    cases operand.resolve env with
    | error y => exact .error _
    | ok v => exact .ok (h.set x v)
  | update x op operand =>
    have hoperand := Operand.resolve_of_agreeOn h (List.subset_of_cons_subset hV)
    have htarget := h x (hV List.mem_cons_self)
    simp only [perform, hoperand, htarget]
    cases operand.resolve env with
    | error y => exact .error _
    | ok v =>
      cases env.get? x with
      | none => exact .error _
      | some current =>
        cases hupdate : op.update current v with
        | error notice => simp only [bind, Except.bind, hupdate]; exact .error _
        | ok result => simp only [bind, Except.bind, hupdate]; exact .ok (h.set x result)

/-- An action binds no variable but its target. -/
theorem Expr.get?_of_perform {e : Expr} (h : e.perform env = .ok env') {y : Text}
    (hy : y ∉ e.mentions) : env'.get? y = env.get? y := by
  cases e with
  | comparison x op operand => cases h
  | assignment x operand =>
    have hyx : y ≠ x := fun hyx => hy (hyx ▸ List.mem_cons_self)
    simp only [perform] at h
    cases hoperand : operand.resolve env <;> rw [hoperand] at h <;> cases h
    exact Env.get?_set_of_ne env hyx _
  | update x op operand =>
    have hyx : y ≠ x := fun hyx => hy (hyx ▸ List.mem_cons_self)
    simp only [perform] at h
    cases hoperand : operand.resolve env <;> rw [hoperand] at h
    · cases h
    · cases htarget : env.get? x <;> rw [htarget] at h
      · cases h
      · rename_i v current
        cases hupdate : op.update current v <;> simp only [bind, Except.bind, hupdate] at h <;>
          cases h
        exact Env.get?_set_of_ne env hyx _

/-! ## Code -/

/-- The variables of a text that is an expression. -/
def mentionsOf (code : Option Text) : List Text :=
  match code.map Expr.parse with
  | some (.ok e) => e.mentions
  | _ => []

theorem mentionsOf_of_parse {text : Text} {e : Expr} (h : Expr.parse text = .ok e) :
    mentionsOf (some text) = e.mentions := by
  simp [mentionsOf, h]

theorem Action.run_of_agreeOn {action : Option Text} (h : env.AgreeOn V env')
    (hV : mentionsOf action ⊆ V) :
    Agree (fun a b => a.env.AgreeOn V b.env) (Action.run action env) (Action.run action env') := by
  cases action with
  | none => exact .ok h
  | some text =>
    simp only [Action.run]
    split
    · exact .ok h
    · cases hparse : Expr.parse text with
      | error fault =>
        cases fault with
        | malformed e => exact .ok h
        | limit e => exact .error e
      | ok e =>
        rw [mentionsOf_of_parse hparse] at hV
        have hperform := Expr.perform_of_agreeOn h hV
        simp only
        generalize e.perform env = a, e.perform env' = b at hperform
        cases hperform with
        | error notice => exact .ok h
        | ok related => exact .ok related

theorem Action.get?_of_run {action : Option Text} {outcome : Action.Outcome}
    (h : Action.run action env = .ok outcome) {y : Text} (hy : y ∉ mentionsOf action) :
    outcome.env.get? y = env.get? y := by
  cases action with
  | none => cases h; rfl
  | some text =>
    simp only [Action.run] at h
    split at h
    · cases h; rfl
    · cases hparse : Expr.parse text with
      | error fault => cases fault <;> rw [hparse] at h <;> cases h; rfl
      | ok e =>
        rw [mentionsOf_of_parse hparse] at hy
        simp only [hparse] at h
        cases hperform : e.perform env <;> rw [hperform] at h <;> cases h
        · rfl
        · exact Expr.get?_of_perform hperform hy

theorem Condition.evaluate_of_agreeOn {condition : Option Text} (h : env.AgreeOn V env')
    (hV : mentionsOf condition ⊆ V) :
    Condition.evaluate condition env' = Condition.evaluate condition env := by
  cases condition with
  | none => rfl
  | some text =>
    -- the variables come in only where the text was read as a comparison
    have hcompare : ∀ x op operand, Expr.parse text = .ok (.comparison x op operand) →
        Expr.compare env' x op operand = Expr.compare env x op operand := by
      intro x op operand hparse
      rw [mentionsOf_of_parse hparse] at hV
      have hoperand := Operand.resolve_of_agreeOn h (List.subset_of_cons_subset hV)
      simp only [Expr.compare, h x (hV List.mem_cons_self), hoperand]
    simp only [Condition.evaluate, Condition.evaluateText]
    cases hparse : Expr.parse text with
    | error fault => cases fault <;> rfl
    | ok e =>
      cases e with
      | comparison x op operand => simp only [hcompare x op operand hparse]
      | assignment _ _ | update _ _ _ => rfl

end

/-! ## Nodes -/

/-- The variables of the action of a process or of the condition of a decision. -/
def Content.mentions : Content → List Text
  | .process action => mentionsOf action
  | .decision condition => mentionsOf condition
  | .state _ | .generic => []

/-- The variables in the code of the current nodes. -/
def Chart.mentions (c : Chart) : List Text :=
  c.nodes.flatMap (·.content.mentions)

/-- Environments that agree on the given variables, and of which each is as it was at first on all
others. -/
structure Env.Framed (V : List Text) (env₁ env₂ env env' : Env) : Prop where
  agree : env.AgreeOn V env'
  left : ∀ x, x ∉ V → env.get? x = env₁.get? x
  right : ∀ x, x ∉ V → env'.get? x = env₂.get? x

section

variable {V : List Text} {env₁ env₂ env env' : Env} {n : Node}

theorem Env.Framed.perform {v : Visit} (h : Env.Framed V env₁ env₂ env env')
    (hV : v.content.mentions ⊆ V) :
    Agree (Env.Framed V env₁ env₂) (v.perform env) (v.perform env') := by
  cases hv : v.content with
  | state _ | decision _ | generic => simp only [Visit.perform, hv]; exact .ok h
  | process action =>
    simp only [hv, Content.mentions] at hV
    have hrun := Action.run_of_agreeOn h.agree hV
    have hframe : ∀ {e outcome}, Action.run action e = .ok outcome →
        ∀ x, x ∉ V → outcome.env.get? x = e.get? x :=
      fun he x hx => Action.get?_of_run he fun hmem => hx (hV hmem)
    simp only [Visit.perform, hv]
    cases ha : Action.run action env <;> cases hb : Action.run action env' <;>
      rw [ha, hb] at hrun <;> cases hrun
    · exact .error _
    · rename_i related
      refine .ok ⟨related, ?_, ?_⟩
      · intro x hx
        rw [hframe ha x hx, h.left x hx]
      · intro x hx
        rw [hframe hb x hx, h.right x hx]

/-- A node is passed alike in environments that agree on its variables. -/
theorem Node.passAlike_of_mentions (hV : n.content.mentions ⊆ V) :
    n.PassAlike Eq (Env.Framed V env₁ env₂) Eq n := by
  refine ⟨rfl, rfl, rfl, ?_⟩
  intro env env' h
  by_cases decision : n.kind = .decision
  · obtain ⟨condition, hn⟩ := Node.content_of_kind_decision decision
    simp only [hn, Content.mentions] at hV
    rw [Node.pass_of_decision hn, Node.pass_of_decision hn, Node.decide, Node.decide,
      Condition.evaluate_of_agreeOn h.agree hV, ← Node.decide]
    rcases n.decide condition env with (e | e) | q
    · exact .stop rfl
    · exact .limit e
    · exact .ok ⟨h, rfl⟩
  · have hperform := h.perform (v := Visit.ofNode n) hV
    cases ha : (Visit.ofNode n).perform env <;> cases hb : (Visit.ofNode n).perform env' <;>
      rw [ha, hb] at hperform <;> cases hperform
    · rw [Node.pass_of_overlong decision ha, Node.pass_of_overlong decision hb]
      exact .limit _
    · rename_i related
      rw [Node.pass_of_perform decision ha, Node.pass_of_perform decision hb]
      exact .ok ⟨related, rfl⟩

end

/-! ## Runs -/

/-- Variables that a chart does not mention do not interfere.  Runs from environments that agree on
the mentioned variables pass the same nodes and end in the same way, or both come to a numeral that
is too long.  Their variables agree again on those that are mentioned, and all others have the value
they had. -/
theorem simulate_of_agreeOn (nodes : List NodeRecord) (links : List LinkRecord) {env₁ env₂ : Env}
    (h : env₁.AgreeOn (Chart.build nodes links).mentions env₂) :
    Agree (fun r₁ r₂ : RunResult =>
        r₂.isValid = r₁.isValid ∧ r₂.completed = r₁.completed ∧ r₂.path = r₁.path ∧
        r₂.error = r₁.error ∧ r₁.env.AgreeOn (Chart.build nodes links).mentions r₂.env ∧
        (∀ x, x ∉ (Chart.build nodes links).mentions → r₁.env.get? x = env₁.get? x) ∧
        (∀ x, x ∉ (Chart.build nodes links).mentions → r₂.env.get? x = env₂.get? x))
      ((Chart.build nodes links).simulate env₁).answer
      ((Chart.build nodes links).simulate env₂).answer := by
  have hstart : Env.Framed (Chart.build nodes links).mentions env₁ env₂ env₁ env₂ :=
    ⟨h, fun _ _ => rfl, fun _ _ => rfl⟩
  have hnodes : ∀ p ∈ (Chart.build nodes links).places, ∀ n,
      (Chart.build nodes links).node? p = some n →
        ∃ n', (Chart.build nodes links).node? p = some n' ∧
          n.PassAlike Eq (Env.Framed (Chart.build nodes links).mentions env₁ env₂) Eq n' := by
    intro p hp n hn
    refine ⟨n, hn, Node.passAlike_of_mentions ?_⟩
    intro x hx
    exact List.mem_flatMap.mpr ⟨n, Chart.mem_nodes.mpr ⟨p, hp, hn⟩, hx⟩
  have hends := simulate_of_passAlike (fun _ => rfl) rfl rfl (fun _ => hnodes) hstart
  refine hends.imp fun r₁ r₂ hr => ?_
  have hpath : r₂.path = r₁.path := by
    simpa using hr.map_path (f := id) fun _ _ hv => hv.symm
  have herror : r₂.error = r₁.error := by
    simpa using hr.map_error (f := id) fun _ _ he => he.symm
  exact ⟨hr.isValid, hr.completed, hpath, herror, hr.env.agree, hr.env.left,
    hr.env.right⟩

/-- Another variable, bound to a truth value or not at all, makes no difference to the countdown. -/
theorem simulate_of_agreeOn_countdown :
    ∃ r₁ r₂, ((Chart.build countdownNodes countdownLinks).simulate
        ⟨[("y", .bool true), ("x", .int 1)]⟩).answer = .ok r₁ ∧
      ((Chart.build countdownNodes countdownLinks).simulate ⟨[("x", .int 1)]⟩).answer = .ok r₂ ∧
      r₁.completed = true ∧ r₂.path = r₁.path ∧
      r₁.env.get? "y" = some (.bool true) ∧ r₂.env.get? "y" = none := by
  have hagree : Env.AgreeOn (Chart.build countdownNodes countdownLinks).mentions
      ⟨[("y", .bool true), ("x", .int 1)]⟩ ⟨[("x", .int 1)]⟩ := by unfold Env.AgreeOn; decide
  have hy : ("y" : Text) ∉ (Chart.build countdownNodes countdownLinks).mentions := by decide
  cases simulate_of_agreeOn countdownNodes countdownLinks hagree with
  | ok related =>
    obtain ⟨-, -, hpath, -, -, hleft, hright⟩ := related
    exact ⟨_, _, rfl, rfl, rfl, hpath, hleft _ hy, hright _ hy⟩

end Flowchart
