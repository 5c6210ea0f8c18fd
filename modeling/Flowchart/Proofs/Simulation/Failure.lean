import Flowchart.Session
import Flowchart.Proofs.Simulation.Alike

/-! # The state after a failure

A step that fails still counts as a visit, unless it fails because the node was passed before; it
changes nothing else, so that the path and the variables of a run that stops can be reported.  A
decision that fails on its own changes nothing at all.  `RunState.faults` lists what speaks against
leaving a decision, and the first of these faults is the one that is reported.
-/

namespace Flowchart

namespace RunState

variable {s : RunState} {n : Node} {condition : Option Text} {failure : StepFailure}

/-! ## The faults of a decision -/

/-- Everything that speaks against leaving a decision, each fault judged apart from the others: its
condition has no truth value, it has not exactly one link for each answer, or the answer is true and
the true branch was taken before. -/
def faults (s : RunState) (n : Node) (condition : Option Text) : List StepFailure :=
  let answer := Condition.evaluate condition s.env
  let undecided :=
    match answer with
    | .ok _ => []
    | .error (.limit e) => [.limit e]
    | .error (.condition e) => [.stop (.decision n.text e)]
  let unfit :=
    if (n.branches (some trueBranch)).length = 1 ∧ (n.branches (some falseBranch)).length = 1 then []
    else [.stop (.branchMismatch n.text)]
  let retraversed :=
    if answer = .ok true ∧ n.key.isIn s.trueTaken = true then [.stop (.branchRetraversal n.text)]
    else []
  undecided ++ unfit ++ retraversed

/-- A decision fails with the first of its faults, and is left if it has none. -/
theorem choose_answer_eq_error_iff :
    (s.choose n condition).answer = .error failure ↔
      (s.faults n condition).head? = some failure := by
  have hspec := choose_spec s n condition
  generalize (s.choose n condition).state = s', (s.choose n condition).answer = a at hspec
  have hfits : ∀ {onTrue onFalse}, n.Forks onTrue onFalse →
      (n.branches (some trueBranch)).length = 1 ∧ (n.branches (some falseBranch)).length = 1 :=
    fun forks => n.exists_forks_iff.mp ⟨_, _, forks⟩
  unfold faults
  cases hspec with
  | overlong failed => simp [failed]
  | undecided failed => simp [failed]
  | mismatched decided unfit =>
    rw [Node.exists_forks_iff] at unfit
    simp [decided, unfit]
  | retraversed decided forks taken => simp [decided, hfits forks, taken]
  | onFalse decided forks => simp [decided, hfits forks]
  | onTrue decided forks fresh => simp [decided, hfits forks, fresh]

theorem Choice.ne_loop {s' : RunState} (h : Choice s n condition s' (.error failure)) :
    failure ≠ .stop .loop := by
  cases h <;> nofun

/-! ## Failing steps -/

/-- A step that fails has entered its node and done nothing else, unless the node was passed
before. -/
theorem Step.of_error {s' : RunState} (h : Step s n s' (.error failure)) :
    (failure = .stop .loop ∧ n.key.isIn s.visited = true ∧ s' = s) ∨
      (failure ≠ .stop .loop ∧ n.key.isIn s.visited = false ∧ s' = s.enter n) := by
  cases h with
  | repeated seen => exact Or.inl ⟨rfl, seen, rfl⟩
  | overlong fresh _ _ => exact Or.inr ⟨nofun, fresh, rfl⟩
  | unchosen fresh _ failed => exact Or.inr ⟨failed.ne_loop, fresh, rfl⟩

theorem step_of_error (h : (s.step n).answer = .error failure) :
    (failure = .stop .loop ∧ n.key.isIn s.visited = true ∧ (s.step n).state = s) ∨
      (failure ≠ .stop .loop ∧ n.key.isIn s.visited = false ∧ (s.step n).state = s.enter n) := by
  have hstep := step_spec s n
  rw [h] at hstep
  exact hstep.of_error

end RunState

theorem Session.follow_eq_error_iff {α : Type} {s : Session} {turn : Turn α} {reply : α → Reply}
    {e : Session.Error} : (s.follow turn reply).2 = .error e ↔
      ∃ failure, turn.answer = .error failure ∧ e = .step failure := by
  cases h : turn.answer with
  | error failure => simp [follow, h, Except.map, Except.mapError, eq_comm]
  | ok a => simp [follow, h, Except.map, Except.mapError]

theorem Session.perform_choose_of_error {s : Session} {key : Key} {error : Session.Error}
    (h : (s.perform (.choose key)).2 = .error error) : (s.perform (.choose key)).1 = s := by
  simp only [perform] at h ⊢
  cases hdecision : s.decision key with
  | error e => rfl
  | ok found =>
    simp only [hdecision] at h ⊢
    obtain ⟨failure, hanswer, -⟩ := follow_eq_error_iff.mp h
    rw [follow, RunState.choose_state_of_error hanswer]

/-! ## The state after a failure -/

/-- Whatever a run has been through: a step to a node that was passed before, and only such a one, is
told of a loop and changes nothing.  After a step that fails otherwise the node is the last on the
path and counts as visited, and all else is as it was.  A decision fails with the first of its
faults: those of its condition come first, then links that do not fit, then a true branch that was
taken before.  A decision that fails changes nothing, neither the run nor, asked in a session, the
session.  If the answer is false and the links fit, it does not fail, whatever was visited before. -/
theorem RunState.state_of_failure (s : RunState) (n : Node) :
    ((s.step n).answer = .error (.stop .loop) ↔ n.key.isIn s.visited = true) ∧
    ((s.step n).answer = .error (.stop .loop) → (s.step n).state = s) ∧
    (∀ failure, (s.step n).answer = .error failure → failure ≠ .stop .loop →
      (s.step n).state =
        { s with path := s.path ++ [Visit.ofNode n], visited := s.visited ++ [n.key] }) ∧
    (∀ condition failure, (s.choose n condition).answer = .error failure ↔
      (s.faults n condition).head? = some failure) ∧
    (∀ condition failure, (s.choose n condition).answer = .error failure →
      (s.choose n condition).state = s) ∧
    (∀ condition onTrue onFalse, Condition.evaluate condition s.env = .ok false →
      n.Forks onTrue onFalse →
        (s.choose n condition).state = s ∧ (s.choose n condition).answer = .ok onFalse) ∧
    ∀ (chart : Chart) (key : Key) (error : Session.Error),
      (Session.perform ⟨chart, s⟩ (.choose key)).2 = .error error →
        (Session.perform ⟨chart, s⟩ (.choose key)).1 = ⟨chart, s⟩ := by
  refine ⟨⟨?_, ?_⟩, ?_, ?_, ?_, ?_, ?_, ?_⟩
  · intro hloop
    rcases step_of_error hloop with ⟨-, seen, -⟩ | ⟨hother, -, -⟩
    · exact seen
    · exact absurd rfl hother
  · intro seen
    rw [step_of_seen seen]
  · intro hloop
    rcases step_of_error hloop with ⟨-, -, hstate⟩ | ⟨hother, -, -⟩
    · exact hstate
    · exact absurd rfl hother
  · intro failure hfailed hother
    rcases step_of_error hfailed with ⟨hloop, -, -⟩ | ⟨-, -, hstate⟩
    · exact absurd hloop hother
    · exact hstate
  · exact fun _ _ => choose_answer_eq_error_iff
  · exact fun _ _ => choose_state_of_error
  · exact fun _ _ _ decided forks => (Choice.onFalse decided forks).choose_eq
  · exact fun _ _ _ => Session.perform_choose_of_error

/-- A decision without a false branch, whose true branch was taken before, is told of its branches.
Asked on its own it leaves the run as it was, and passed it stays on the path. -/
theorem RunState.state_of_failure_mismatched :
    let s : RunState := { env := ⟨[("x", .int 1)]⟩, visited := [.int 1], trueTaken := [.int 2] }
    let n : Node :=
      { key := .int 2, text := "Big?", content := .decision (some "x > 0"),
        children := [⟨0, some "true"⟩] }
    (s.choose n (some "x > 0")).answer = .error (.stop (.branchMismatch "Big?")) ∧
      (s.choose n (some "x > 0")).state = s ∧
      (s.step n).answer = .error (.stop (.branchMismatch "Big?")) ∧
      (s.step n).state =
        { s with path := s.path ++ [Visit.ofNode n], visited := s.visited ++ [n.key] } := by
  intro s n
  obtain ⟨-, -, hstate, hfaults, hunchanged, -, -⟩ := state_of_failure s n
  have hchoose : (s.choose n (some "x > 0")).answer = .error (.stop (.branchMismatch "Big?")) :=
    (hfaults _ _).mpr (by decide)
  have hstep : (s.step n).answer = .error (.stop (.branchMismatch "Big?")) := by decide
  exact ⟨hchoose, hunchanged _ _ hchoose, hstep, hstate _ hstep nofun⟩

end Flowchart
