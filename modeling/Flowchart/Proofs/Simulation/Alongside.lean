import Mathlib.Data.List.Forall2
import Flowchart.Proofs.Chart.Builder
import Flowchart.Proofs.Simulation.Lockstep
import Flowchart.Proofs.Simulation.Trail

/-! # Two runs side by side

What a run does at a node that it has not passed before is decided by the node and the variables
alone: that the true branch of a decision was taken does not come in, because the decision was then
passed.  `Node.pass` is this part of a step, and `Step.pass` says that it is all there is to one.
So two runs can be compared node by node.  `simulate_of_passAlike` says that runs with related
variables through nodes of the same keys, which pass them in related ways, end in related ways.
-/

namespace Flowchart

/-! ## Passing a node -/

/-- The place to which a decision is left, if its true branch may be taken. -/
def Node.decide (n : Node) (condition : Option Text) (env : Env) : Except StepFailure Nat :=
  match Condition.evaluate condition env with
  | .error (.limit e) => .error (.limit e)
  | .error (.condition e) => .error (.stop (.decision n.text e))
  | .ok answer =>
    match n.branches (some trueBranch), n.branches (some falseBranch) with
    | [onTrue], [onFalse] => .ok (if answer then onTrue else onFalse)
    | _, _ => .error (.stop (.branchMismatch n.text))

/-- What comes of passing a node that was not passed before: the variables after it and the place to
which it is left, if there is one. -/
def Node.pass (n : Node) (env : Env) : Except StepFailure (Env × Option Nat) :=
  match n.content with
  | .decision condition => (n.decide condition env).map fun q => (env, some q)
  | _ =>
    match (Visit.ofNode n).perform env with
    | .error e => .error (.limit e)
    | .ok env' => .ok (env', if n.isEnd then none else n.firstChild?)

namespace Node

variable {n : Node} {env : Env}

theorem pass_of_decision {condition : Option Text} (h : n.content = .decision condition) :
    n.pass env = (n.decide condition env).map fun q => (env, some q) := by
  simp only [pass, h]

theorem pass_of_perform (plain : n.kind ≠ .decision) {env' : Env}
    (h : (Visit.ofNode n).perform env = .ok env') :
    n.pass env = .ok (env', if n.isEnd then none else n.firstChild?) := by
  cases hn : n.content with
  | decision condition => exact absurd (kind_of_content hn) plain
  | state _ | process _ | generic => simp only [pass, hn, h]

theorem pass_of_overlong (plain : n.kind ≠ .decision) {e : LimitError}
    (h : (Visit.ofNode n).perform env = .error e) : n.pass env = .error (.limit e) := by
  cases hn : n.content with
  | decision condition => exact absurd (kind_of_content hn) plain
  | state _ | process _ | generic => simp only [pass, hn, h]

theorem decide_of_forks {condition : Option Text} {onTrue onFalse : Nat} {answer : Bool}
    (forks : n.Forks onTrue onFalse) (decided : Condition.evaluate condition env = .ok answer) :
    n.decide condition env = .ok (if answer then onTrue else onFalse) := by
  simp only [decide, decided, forks.1, forks.2]

theorem decide_of_not_forks {condition : Option Text} {answer : Bool}
    (unfit : ¬ ∃ onTrue onFalse, n.Forks onTrue onFalse)
    (decided : Condition.evaluate condition env = .ok answer) :
    n.decide condition env = .error (.stop (.branchMismatch n.text)) := by
  simp only [decide, decided]
  split
  · rename_i onTrue onFalse htrue hfalse
    exact absurd ⟨onTrue, onFalse, htrue, hfalse⟩ unfit
  · rfl

theorem decide_of_undecided {condition : Option Text} {e : ConditionError}
    (failed : Condition.evaluate condition env = .error (.condition e)) :
    n.decide condition env = .error (.stop (.decision n.text e)) := by
  simp only [decide, failed]

theorem decide_of_overlong {condition : Option Text} {e : LimitError}
    (failed : Condition.evaluate condition env = .error (.limit e)) :
    n.decide condition env = .error (.limit e) := by
  simp only [decide, failed]

end Node

namespace RunState

variable {s : RunState} {n : Node}

/-- A step at a node that was not passed before is the passing of the node. -/
theorem Step.pass {s' : RunState} {a : Except StepFailure (Option Nat)} (h : Step s n s' a)
    (hs : TakenVisited s) (hfresh : n.key.isIn s.visited = false) :
    (∃ next, a = .ok next ∧ n.pass s.env = .ok (s'.env, next)) ∨
      ∃ e, a = .error e ∧ n.pass s.env = .error e ∧ s'.env = s.env := by
  have henv : (s.enter n).env = s.env := rfl
  cases h with
  | repeated seen =>
    rw [hfresh] at seen
    cases seen
  | completed _ final =>
    have plain : n.kind ≠ .decision := by
      intro decision
      obtain ⟨condition, hn⟩ := Node.content_of_kind_decision decision
      simp [Node.isEnd_of_content hn] at final
    have hpass := Node.pass_of_perform plain (Visit.perform_of_isEnd final s.env)
    rw [if_pos final] at hpass
    exact Or.inl ⟨none, rfl, hpass⟩
  | overlong _ process failed =>
    have plain : n.kind ≠ .decision := by simp [process]
    exact Or.inr ⟨_, rfl, Node.pass_of_overlong plain failed, rfl⟩
  | passed _ inner plain performed =>
    have hpass := Node.pass_of_perform plain performed
    rw [inner, if_neg Bool.false_ne_true] at hpass
    exact Or.inl ⟨n.firstChild?, rfl, hpass⟩
  | unchosen _ decision failed =>
    refine Or.inr ⟨_, rfl, ?_, rfl⟩
    rw [Node.pass_of_decision decision, ← henv]
    cases failed with
    | overlong failed => rw [Node.decide_of_overlong failed, Except.map]
    | undecided failed => rw [Node.decide_of_undecided failed, Except.map]
    | mismatched decided unfit => rw [Node.decide_of_not_forks unfit decided, Except.map]
    | retraversed _ _ taken =>
      exact absurd ((hs.not_taken hfresh).symm.trans taken) Bool.false_ne_true
  | chosen _ decision chose =>
    refine Or.inl ⟨_, rfl, ?_⟩
    rw [Node.pass_of_decision decision, ← henv]
    cases chose with
    | onFalse decided forks => rw [Node.decide_of_forks forks decided]; rfl
    | onTrue decided forks _ => rw [Node.decide_of_forks forks decided]; rfl

end RunState

/-! ## Runs -/

/-- States of two runs that passed nodes of the same keys, related by `W`, and have variables
related by `M`. -/
structure RunState.SideBySide (W : Visit → Visit → Prop) (M : Env → Env → Prop)
    (s s' : RunState) : Prop where
  path : List.Forall₂ W s.path s'.path
  env : M s.env s'.env
  visited : s'.visited = s.visited
  completed : s'.completed = s.completed
  taken : s.TakenVisited
  taken' : s'.TakenVisited

/-- Results of two runs that passed nodes related by `W`, ended with variables related by `M`, and
stopped for reasons related by `E` if they stopped. -/
structure RunResult.SideBySide (W : Visit → Visit → Prop) (M : Env → Env → Prop)
    (E : RunError → RunError → Prop) (r r' : RunResult) : Prop where
  path : List.Forall₂ W r.path r'.path
  env : M r.env r'.env
  completed : r'.completed = r.completed
  error : Option.Rel E r.error r'.error

namespace RunResult.SideBySide

variable {W : Visit → Visit → Prop} {M : Env → Env → Prop} {E : RunError → RunError → Prop}
  {r r' : RunResult}

theorem map_path {α : Type} {f : Visit → α} (h : r.SideBySide W M E r')
    (hf : ∀ v v', W v v' → f v' = f v) : r'.path.map f = r.path.map f := by
  have hpath := h.path
  generalize r.path = path, r'.path = path' at hpath
  induction hpath with
  | nil => rfl
  | cons hv _ ih => rw [List.map_cons, List.map_cons, hf _ _ hv, ih]

theorem map_error {α : Type} {f : RunError → α} (h : r.SideBySide W M E r')
    (hf : ∀ e e', E e e' → f e' = f e) : r'.error.map f = r.error.map f := by
  have herror := h.error
  generalize r.error = e, r'.error = e' at herror
  cases herror with
  | none => rfl
  | some he => exact congrArg some (hf _ _ he)

theorem isValid (h : r.SideBySide W M E r') : r'.isValid = r.isValid := by
  have herror : r'.error.map (fun _ => ()) = r.error.map fun _ => () :=
    h.map_error fun _ _ _ => rfl
  rw [RunResult.isValid, RunResult.isValid, ← Option.isNone_map, herror, Option.isNone_map]

end RunResult.SideBySide

/-- Nodes of the same key that two runs with variables related by `M` pass in the same way: to the
same place, or to errors related by `E`. -/
structure Node.PassAlike (W : Visit → Visit → Prop) (M : Env → Env → Prop)
    (E : RunError → RunError → Prop) (n n' : Node) : Prop where
  key : n'.key = n.key
  isEnd : n'.isEnd = n.isEnd
  visit : W (Visit.ofNode n) (Visit.ofNode n')
  pass : ∀ env env', M env env' →
    Paired E (fun x y => M x.1 y.1 ∧ x.2 = y.2) (n.pass env) (n'.pass env')

/-- Two places that are one place of a current node. -/
def Chart.OneCurrent (c : Chart) (p p' : Nat) : Prop :=
  p = p' ∧ p ∈ c.places

section

variable {W : Visit → Visit → Prop} {M : Env → Env → Prop} {E : RunError → RunError → Prop}

theorem Node.PassAlike.step {n n' : Node} {s s' : RunState} (h : n.PassAlike W M E n')
    (hloop : E .loop .loop) (hs : s.SideBySide W M s') :
    (s.step n).state.SideBySide W M (s'.step n').state ∧
      Paired E Eq (s.step n).answer (s'.step n').answer := by
  have hvisited : n'.key.isIn s'.visited = n.key.isIn s.visited := by rw [h.key, hs.visited]
  by_cases seen : n.key.isIn s.visited = true
  · rw [RunState.step_of_seen seen, RunState.step_of_seen (hvisited.trans seen)]
    exact ⟨hs, .stop hloop⟩
  · have fresh : n.key.isIn s.visited = false := by simpa using seen
    have fresh' : n'.key.isIn s'.visited = false := hvisited.trans fresh
    obtain ⟨hpath, hvis, hcompleted⟩ := (RunState.step_spec s n).entered_of_fresh fresh
    obtain ⟨hpath', hvis', hcompleted'⟩ := (RunState.step_spec s' n').entered_of_fresh fresh'
    have hanswers := h.pass s.env s'.env hs.env
    -- what is left of the two steps is the passing of the two nodes
    suffices hsuff : M (s.step n).state.env (s'.step n').state.env ∧
        Paired E Eq (s.step n).answer (s'.step n').answer by
      refine ⟨⟨?_, hsuff.1, ?_, ?_, hs.taken.step n, hs.taken'.step n'⟩, hsuff.2⟩
      · rw [hpath, hpath']
        exact List.rel_append hs.path (.cons h.visit .nil)
      · rw [hvis, hvis', hs.visited, h.key]
      · rw [hcompleted, hcompleted', hs.completed, h.isEnd]
    rcases (RunState.step_spec s n).pass hs.taken fresh with
      ⟨next, ha, hpass⟩ | ⟨e, ha, hpass, henv⟩ <;>
    rcases (RunState.step_spec s' n').pass hs.taken' fresh' with
      ⟨next', ha', hpass'⟩ | ⟨e', ha', hpass', henv'⟩ <;>
    rw [hpass, hpass'] at hanswers
    · cases hanswers with
      | ok related =>
        rw [ha, ha']
        exact ⟨related.1, .ok related.2⟩
    · cases hanswers
    · cases hanswers
    · rw [ha, ha', henv, henv']
      cases hanswers with
      | stop errors => exact ⟨hs.env, .stop errors⟩
      | limit e => exact ⟨hs.env, .limit e⟩

/-- Runs that begin together, on a chart that was built and on one with the same places, and pass
the nodes at each place alike give results that are related, or come to the same numeral that is too
long. -/
theorem simulate_of_passAlike {nodes : List NodeRecord} {links : List LinkRecord} {c' : Chart}
    (hE : ∀ e, E e e) (hindex : c'.index = (Chart.build nodes links).index)
    (hentrance : c'.entrance = (Chart.build nodes links).entrance)
    (hnodes : (∃ start, (Chart.build nodes links).entrance = .ok start) →
      ∀ p ∈ (Chart.build nodes links).places, ∀ n, (Chart.build nodes links).node? p = some n →
        ∃ n', c'.node? p = some n' ∧ n.PassAlike W M E n')
    {env env' : Env} (henv : M env env') :
    Agree (RunResult.SideBySide W M E) ((Chart.build nodes links).simulate env).answer
      (c'.simulate env').answer := by
  have hc := Chart.wellFormed_build nodes links
  have hparallel : (∃ start, (Chart.build nodes links).entrance = .ok start) →
      RunState.Parallel (Chart.build nodes links) c' E (RunState.SideBySide W M)
        (Chart.build nodes links).OneCurrent := by
    rintro hstart s s' p p' hs ⟨rfl, hp⟩
    obtain ⟨n, hn⟩ := hc.node_of_mem_places hp
    obtain ⟨n', hn', halike⟩ := hnodes hstart p hp n hn
    obtain ⟨hstates, hanswers⟩ := halike.step (hE .loop) hs
    refine ⟨n, n', hn, hn', hstates, ?_⟩
    have hspec := RunState.step_spec s n
    generalize (s.step n).answer = a, (s'.step n').answer = a' at hanswers hspec
    cases hanswers with
    | stop errors => exact .stop errors
    | limit e => exact .limit e
    | @ok next _ related =>
      cases related
      cases next with
      | none => exact .ok .none
      | some q =>
        obtain ⟨e, he, rfl⟩ := hspec.exit.child
        exact .ok (.some ⟨rfl, Chart.child_mem_places hp hn he⟩)
  have hplaces : Agree (Chart.build nodes links).OneCurrent (Chart.build nodes links).entrance
      c'.entrance := by
    rw [hentrance]
    cases hstart : (Chart.build nodes links).entrance with
    | error e => exact .error e
    | ok p => exact .ok ⟨rfl, RunState.entrance_mem_places hstart⟩
  have hsize : (Chart.build nodes links).size = c'.size := by rw [Chart.size, Chart.size, hindex]
  have hstart : (RunState.start env).SideBySide W M (RunState.start env') :=
    ⟨.nil, henv, rfl, rfl, RunState.takenVisited_start env, RunState.takenVisited_start env'⟩
  have hends := RunState.Parallel.simulate hparallel hE hsize hplaces hstart
  generalize hanswer : ((Chart.build nodes links).simulate env).answer = a,
    (c'.simulate env').answer = a' at hends
  cases hends with
  | stop errors =>
    -- a run that is stopped gives a result
    obtain ⟨l, hl⟩ := RunState.run_error hanswer
    cases hl
  | limit e => exact .error _
  | ok related =>
    cases related with
    | stopped states errors => exact .ok ⟨states.path, states.env, rfl, .some errors⟩
    | finished states => exact .ok ⟨states.path, states.env, states.completed, .none⟩

end

end Flowchart
