import Flowchart.Simulation.Basic
import Flowchart.Proofs.Key

/-! # What a step can do

`RunState.Choice` lists the ways in which a decision is left or not left, and `RunState.Step` the
ways in which a node is passed or not passed, each with the conditions under which it happens.
`step_spec` says that these are all, and `Step.step_eq` that they exclude each other.  Whatever is
shown of runs is shown by cases on `Step`; the definition of `RunState.step` is opened here and
nowhere else.
-/

namespace Flowchart

/-! ## Visits -/

/-- Whether the node that was passed is a state where a run is completed. -/
def Visit.isEnd (v : Visit) : Bool :=
  v.content.hasRole "end"

/-- The environment after a node was passed: a process performs its action, and other nodes leave
the environment as it is. -/
def Visit.perform (v : Visit) (env : Env) : Except LimitError Env :=
  match v.content with
  | .process action => (Action.run action env).map (·.env)
  | _ => .ok env

@[simp] theorem Visit.key_ofNode (n : Node) : (Visit.ofNode n).key = n.key := rfl

@[simp] theorem Visit.content_ofNode (n : Node) : (Visit.ofNode n).content = n.content := rfl

@[simp] theorem Visit.isEnd_ofNode (n : Node) : (Visit.ofNode n).isEnd = n.isEnd := rfl

theorem Visit.perform_of_not_process {v : Visit} (h : v.content.kind ≠ .process) (env : Env) :
    v.perform env = .ok env := by
  unfold Visit.perform
  cases hv : v.content with
  | process action => simp [hv, Content.kind] at h
  | state _ | decision _ | generic => rfl

theorem Node.content_of_kind_decision {n : Node} (h : n.kind = .decision) :
    ∃ condition, n.content = .decision condition := by
  unfold Node.kind at h
  cases hn : n.content with
  | decision condition => exact ⟨condition, rfl⟩
  | state _ | process _ | generic => simp [hn, Content.kind] at h

theorem Node.kind_of_content {n : Node} {condition : Option Text}
    (h : n.content = .decision condition) : n.kind = .decision := by
  rw [Node.kind, h, Content.kind]

theorem Node.isEnd_of_content {n : Node} {condition : Option Text}
    (h : n.content = .decision condition) : n.isEnd = false := by
  rw [Node.isEnd, h]
  rfl

/-- The label of the branch for an answer. -/
def answerLabel (answer : Bool) : Text :=
  if answer then trueBranch else falseBranch

/-- A decision has exactly one link for each answer. -/
def Node.Forks (n : Node) (onTrue onFalse : Nat) : Prop :=
  n.branches (some trueBranch) = [onTrue] ∧ n.branches (some falseBranch) = [onFalse]

/-- The place to which a node is left when a run with the given variables goes on. -/
inductive Node.Exit (n : Node) (env : Env) : Nat → Prop
  | branch {condition answer next} (decision : n.content = .decision condition)
      (decided : Condition.evaluate condition env = .ok answer)
      (only : n.branches (some (answerLabel answer)) = [next]) : n.Exit env next
  | link {next} (plain : n.kind ≠ .decision) (inner : n.isEnd = false)
      (first : n.firstChild? = some next) : n.Exit env next

theorem Node.Exit.child {n : Node} {env : Env} {next : Nat} (h : n.Exit env next) :
    ∃ e ∈ n.children, e.place = next := by
  cases h with
  | @branch _ answer _ _ _ only =>
    have hmem : next ∈ n.branches (some (answerLabel answer)) := by
      rw [only]
      exact List.mem_cons_self
    obtain ⟨e, he, hplace⟩ := List.mem_map.mp hmem
    exact ⟨e, (List.mem_filter.mp he).1, hplace⟩
  | link _ _ first =>
    obtain ⟨e, he, hplace⟩ := Option.map_eq_some_iff.mp first
    exact ⟨e, List.mem_of_mem_head? he, hplace⟩

theorem Node.Exit.isEnd {n : Node} {env : Env} {q : Nat} (h : n.Exit env q) : n.isEnd = false := by
  cases h with
  | branch decision _ _ => exact Node.isEnd_of_content decision
  | link _ inner _ => exact inner

namespace RunState

variable {s : RunState} {n : Node}

/-! ## Decisions -/

/-- What comes of choosing the branch of a decision: the state after it, and the answer. -/
inductive Choice (s : RunState) (n : Node) (condition : Option Text) :
    RunState → Except StepFailure Nat → Prop
  | overlong {e} (failed : Condition.evaluate condition s.env = .error (.limit e)) :
      Choice s n condition s (.error (.limit e))
  | undecided {e} (failed : Condition.evaluate condition s.env = .error (.condition e)) :
      Choice s n condition s (.error (.stop (.decision n.text e)))
  | mismatched {answer} (decided : Condition.evaluate condition s.env = .ok answer)
      (unfit : ¬ ∃ onTrue onFalse, n.Forks onTrue onFalse) :
      Choice s n condition s (.error (.stop (.branchMismatch n.text)))
  | retraversed {onTrue onFalse} (decided : Condition.evaluate condition s.env = .ok true)
      (forks : n.Forks onTrue onFalse) (taken : n.key.isIn s.trueTaken = true) :
      Choice s n condition s (.error (.stop (.branchRetraversal n.text)))
  | onFalse {onTrue onFalse} (decided : Condition.evaluate condition s.env = .ok false)
      (forks : n.Forks onTrue onFalse) : Choice s n condition s (.ok onFalse)
  | onTrue {onTrue onFalse} (decided : Condition.evaluate condition s.env = .ok true)
      (forks : n.Forks onTrue onFalse) (fresh : n.key.isIn s.trueTaken = false) :
      Choice s n condition { s with trueTaken := s.trueTaken ++ [n.key] } (.ok onTrue)

theorem choose_spec (s : RunState) (n : Node) (condition : Option Text) :
    Choice s n condition (s.choose n condition).state (s.choose n condition).answer := by
  unfold choose
  split
  · exact .overlong ‹_›
  · exact .undecided ‹_›
  · rename_i answer decided
    split
    · rename_i onTrue onFalse htrue hfalse
      -- only the true branch remembers that it was taken
      cases answer with
      | false => exact .onFalse decided ⟨htrue, hfalse⟩
      | true =>
        simp only [Bool.not_true, Bool.false_eq_true, if_false]
        split
        · exact .retraversed decided ⟨htrue, hfalse⟩ ‹_›
        · rename_i hfresh
          exact .onTrue decided ⟨htrue, hfalse⟩ (by simpa using hfresh)
    · rename_i hunfit
      refine .mismatched decided ?_
      rintro ⟨onTrue, onFalse, htrue, hfalse⟩
      exact hunfit onTrue onFalse htrue hfalse

section Choices

variable {condition : Option Text} {s' : RunState}

/-- A choice changes nothing but the list of true branches, and is one of the ways out. -/
theorem Choice.ok {next : Nat} (h : Choice s n condition s' (.ok next)) :
    ∃ taken, (taken = [] ∨ taken = [n.key]) ∧ s' = { s with trueTaken := s.trueTaken ++ taken } ∧
      ∃ answer, Condition.evaluate condition s.env = .ok answer ∧
        n.branches (some (answerLabel answer)) = [next] := by
  cases h with
  | onFalse decided forks => exact ⟨[], Or.inl rfl, by simp, false, decided, forks.2⟩
  | onTrue decided forks _ => exact ⟨[n.key], Or.inr rfl, rfl, true, decided, forks.1⟩

/-- A choice that fails changes nothing. -/
theorem Choice.of_error {failure : StepFailure} (h : Choice s n condition s' (.error failure)) :
    s' = s := by
  cases h with
  | overlong _ | undecided _ | mismatched _ _ | retraversed _ _ _ => rfl

theorem choose_state_of_error {failure : StepFailure}
    (h : (s.choose n condition).answer = .error failure) : (s.choose n condition).state = s := by
  have hchoice := choose_spec s n condition
  rw [h] at hchoice
  exact hchoice.of_error

/-- What the rules say comes of a decision is what `choose` gives. -/
theorem Choice.choose_eq {a : Except StepFailure Nat} (h : Choice s n condition s' a) :
    (s.choose n condition).state = s' ∧ (s.choose n condition).answer = a := by
  unfold choose
  cases h with
  | overlong failed => simp [failed]
  | undecided failed => simp [failed]
  | mismatched decided unfit =>
    simp only [decided]
    split
    · rename_i onTrue onFalse htrue hfalse
      exact absurd ⟨onTrue, onFalse, htrue, hfalse⟩ unfit
    · exact ⟨rfl, rfl⟩
  | retraversed decided forks taken => simp [decided, forks.1, forks.2, taken]
  | onFalse decided forks => simp [decided, forks.1, forks.2]
  | onTrue decided forks fresh => simp [decided, forks.1, forks.2, fresh]

end Choices

/-! ## Nodes -/

/-- What comes of passing a node: the state after it, and the answer. -/
inductive Step (s : RunState) (n : Node) : RunState → Except StepFailure (Option Nat) → Prop
  | repeated (seen : n.key.isIn s.visited = true) : Step s n s (.error (.stop .loop))
  | completed (fresh : n.key.isIn s.visited = false) (final : n.isEnd = true) :
      Step s n { s.enter n with completed := true } (.ok none)
  | overlong {e} (fresh : n.key.isIn s.visited = false) (process : n.kind = .process)
      (failed : (Visit.ofNode n).perform s.env = .error e) :
      Step s n (s.enter n) (.error (.limit e))
  | passed {env} (fresh : n.key.isIn s.visited = false) (inner : n.isEnd = false)
      (plain : n.kind ≠ .decision) (performed : (Visit.ofNode n).perform s.env = .ok env) :
      Step s n { s.enter n with env } (.ok n.firstChild?)
  | unchosen {condition s' e} (fresh : n.key.isIn s.visited = false)
      (decision : n.content = .decision condition)
      (failed : Choice (s.enter n) n condition s' (.error e)) :
      Step s n (s.enter n) (.error e)
  | chosen {condition s' next} (fresh : n.key.isIn s.visited = false)
      (decision : n.content = .decision condition)
      (chose : Choice (s.enter n) n condition s' (.ok next)) :
      Step s n s' (.ok (some next))

theorem step_of_seen (h : n.key.isIn s.visited = true) :
    s.step n = ⟨s, [], .error (.stop .loop)⟩ := by
  simp [step, h]

theorem step_of_fresh (h : n.key.isIn s.visited = false) :
    (s.step n).state = ((s.enter n).leave n).state ∧
      (s.step n).answer = ((s.enter n).leave n).answer := by
  simp [step, h]

theorem step_spec (s : RunState) (n : Node) : Step s n (s.step n).state (s.step n).answer := by
  by_cases seen : n.key.isIn s.visited = true
  · rw [step_of_seen seen]
    exact .repeated seen
  · have fresh : n.key.isIn s.visited = false := by simpa using seen
    rw [(step_of_fresh fresh).1, (step_of_fresh fresh).2]
    -- actions and conditions see the variables from before the node was entered
    have henv : (s.enter n).env = s.env := rfl
    cases hn : n.content with
    | state role =>
      by_cases final : n.isEnd = true
      · simp only [leave, hn, final, if_true]
        exact .completed fresh final
      · simp only [leave, hn, final, Bool.false_eq_true, if_false]
        exact .passed fresh (by simpa using final) (by simp [Node.kind, hn, Content.kind])
          (Visit.perform_of_not_process (by simp [hn, Content.kind]) s.env)
    | process action =>
      have hperform : (Visit.ofNode n).perform s.env = (Action.run action s.env).map (·.env) := by
        simp [Visit.perform, hn]
      cases hrun : Action.run action s.env with
      | error e =>
        simp only [leave, hn, henv, hrun]
        exact .overlong fresh (by simp [Node.kind, hn, Content.kind]) (by rw [hperform, hrun]; rfl)
      | ok outcome =>
        simp only [leave, hn, henv, hrun]
        exact .passed fresh (by simp [Node.isEnd, hn, Content.hasRole])
          (by simp [Node.kind, hn, Content.kind]) (by rw [hperform, hrun]; rfl)
    | decision condition =>
      have hchoice := choose_spec (s.enter n) n condition
      simp only [leave, hn]
      generalize (s.enter n).choose n condition = turn at hchoice
      cases hanswer : turn.answer with
      | error e =>
        rw [hanswer] at hchoice
        rw [hchoice.of_error]
        exact .unchosen fresh hn hchoice
      | ok next =>
        rw [hanswer] at hchoice
        exact .chosen fresh hn hchoice
    | generic =>
      simp only [leave, hn]
      exact .passed fresh (by simp [Node.isEnd, hn, Content.hasRole])
        (by simp [Node.kind, hn, Content.kind])
        (Visit.perform_of_not_process (by simp [hn, Content.kind]) s.env)

/-- What the rules say comes of passing a node is what `step` gives. -/
theorem Step.step_eq {s' : RunState} {a : Except StepFailure (Option Nat)} (h : Step s n s' a) :
    (s.step n).state = s' ∧ (s.step n).answer = a := by
  have henv : (s.enter n).env = s.env := rfl
  cases h with
  | repeated seen => simp [step, seen]
  | completed fresh final =>
    rw [(step_of_fresh fresh).1, (step_of_fresh fresh).2]
    cases hn : n.content with
    | state role => simp [leave, hn, final]
    | process _ | decision _ | generic => simp [Node.isEnd, hn, Content.hasRole] at final
  | overlong fresh process failed =>
    rw [(step_of_fresh fresh).1, (step_of_fresh fresh).2]
    cases hn : n.content with
    | state _ | decision _ | generic => simp [Node.kind, hn, Content.kind] at process
    | process action =>
      cases hrun : Action.run action s.env with
      | ok outcome => simp [Visit.perform, hn, hrun, Except.map] at failed
      | error e =>
        simp only [Visit.perform, Visit.content_ofNode, hn, hrun, Except.map,
          Except.error.injEq] at failed
        simp [leave, hn, henv, hrun, failed]
  | @passed env fresh inner plain performed =>
    rw [(step_of_fresh fresh).1, (step_of_fresh fresh).2]
    cases hn : n.content with
    | state role =>
      rw [Visit.perform_of_not_process (by simp [hn, Content.kind])] at performed
      cases performed
      simp [leave, hn, inner, enter]
    | process action =>
      cases hrun : Action.run action s.env with
      | error e => simp [Visit.perform, hn, hrun, Except.map] at performed
      | ok outcome =>
        simp only [Visit.perform, Visit.content_ofNode, hn, hrun, Except.map,
          Except.ok.injEq] at performed
        simp [leave, hn, henv, hrun, performed]
    | decision condition => exact absurd (Node.kind_of_content hn) plain
    | generic =>
      rw [Visit.perform_of_not_process (by simp [hn, Content.kind])] at performed
      cases performed
      simp [leave, hn, enter]
  | unchosen fresh decision failed =>
    rw [(step_of_fresh fresh).1, (step_of_fresh fresh).2]
    simp [leave, decision, failed.choose_eq, failed.of_error, Except.map]
  | chosen fresh decision chose =>
    rw [(step_of_fresh fresh).1, (step_of_fresh fresh).2]
    simp [leave, decision, chose.choose_eq, Except.map]

/-- A step that enters its node adds it to the path, and no step does anything else to the path. -/
theorem Step.entered {s' : RunState} {a : Except StepFailure (Option Nat)} (h : Step s n s' a) :
    (s' = s ∧ a = .error (.stop .loop)) ∨
      (n.key.isIn s.visited = false ∧ s'.path = s.path ++ [Visit.ofNode n] ∧
        s'.visited = s.visited ++ [n.key] ∧ s'.completed = (s.completed || n.isEnd)) := by
  cases h with
  | repeated _ => exact Or.inl ⟨rfl, rfl⟩
  | completed fresh final => exact Or.inr ⟨fresh, rfl, rfl, by simp [final]⟩
  | overlong fresh process _ =>
    have hend : n.isEnd = false := by
      unfold Node.kind at process
      unfold Node.isEnd
      cases hn : n.content <;> simp_all [Content.kind, Content.hasRole]
    exact Or.inr ⟨fresh, rfl, rfl, by simp [hend, enter]⟩
  | passed fresh inner _ _ => exact Or.inr ⟨fresh, rfl, rfl, by simp [inner, enter]⟩
  | unchosen fresh decision _ =>
    exact Or.inr ⟨fresh, rfl, rfl, by simp [Node.isEnd_of_content decision, enter]⟩
  | chosen fresh decision chose =>
    obtain ⟨taken, -, rfl, -⟩ := chose.ok
    exact Or.inr ⟨fresh, rfl, rfl, by simp [Node.isEnd_of_content decision, enter]⟩

theorem Step.entered_of_fresh {s' : RunState} {a : Except StepFailure (Option Nat)}
    (h : Step s n s' a) (hfresh : n.key.isIn s.visited = false) :
    s'.path = s.path ++ [Visit.ofNode n] ∧ s'.visited = s.visited ++ [n.key] ∧
      s'.completed = (s.completed || n.isEnd) := by
  refine (h.entered.resolve_left ?_).2
  rintro ⟨hs, ha⟩
  cases h with
  | repeated seen => simp [hfresh] at seen
  | unchosen _ _ _ => simpa [enter] using congrArg (·.path.length) hs
  | completed _ _ | overlong _ _ _ | passed _ _ _ _ | chosen _ _ _ => cases ha

theorem Step.exit {s' : RunState} {next : Nat} (h : Step s n s' (.ok (some next))) :
    n.Exit s'.env next := by
  generalize ha : Except.ok (some next) = a at h
  cases h with
  | repeated _ | completed _ _ | overlong _ _ _ | unchosen _ _ _ => cases ha
  | passed _ inner plain _ =>
    injection ha with first
    exact .link plain inner first.symm
  | chosen _ decision chose =>
    cases ha
    obtain ⟨taken, -, rfl, answer, decided, only⟩ := chose.ok
    exact .branch decision decided only

end RunState

end Flowchart
