import Flowchart.Proofs.Simulation.Walk

/-! # Trails

A trail is a run told without the state of the simulator: which nodes were passed, what the
variables are now, and where the run goes next.  `Halts` tells in the same terms why a run goes no
further.  `simulate_trail` ties the two to the simulator: a run that finds its entrance is a trail
with one more node, at which it halts.
-/

namespace Flowchart

/-- The nodes that were passed since the entrance, the variables after them, and the place to which
the last one leads. -/
inductive Trail (c : Chart) (env₀ : Env) : List Visit → Env → Nat → Prop
  | start {p} (entrance : c.entrance = .ok p) : Trail c env₀ [] env₀ p
  | pass {path env p n env' q} (trail : Trail c env₀ path env p) (node : c.node? p = some n)
      (fresh : n.key.isIn (path.map (·.key)) = false)
      (performed : (Visit.ofNode n).perform env = .ok env') (exit : n.Exit env' q) :
      Trail c env₀ (path ++ [Visit.ofNode n]) env' q

/-- A trail with one more node, which is passed but need not lead on. -/
def Reaches (c : Chart) (env₀ : Env) (path : List Visit) (env : Env) (n : Node) : Prop :=
  ∃ path' env' p, Trail c env₀ path' env' p ∧ c.node? p = some n ∧
    n.key.isIn (path'.map (·.key)) = false ∧ (Visit.ofNode n).perform env' = .ok env ∧
    path = path' ++ [Visit.ofNode n]

/-- Why a run goes no further than a node that it has passed: whether it is completed, and the
error it reports. -/
inductive Halts (c : Chart) (path : List Visit) (env : Env) (n : Node) :
    Bool → Option RunError → Prop
  | completed (final : n.isEnd = true) : Halts c path env n true none
  | deadEnd (plain : n.kind ≠ .decision) (inner : n.isEnd = false) (last : n.firstChild? = none) :
      Halts c path env n false none
  | undecided {condition e} (decision : n.content = .decision condition)
      (failed : Condition.evaluate condition env = .error (.condition e)) :
      Halts c path env n false (some (.decision n.text e))
  | mismatched (decision : n.kind = .decision)
      (unfit : ¬ ∃ onTrue onFalse, n.Forks onTrue onFalse) :
      Halts c path env n false (some (.branchMismatch n.text))
  | repeated {q m} (exit : n.Exit env q) (node : c.node? q = some m)
      (seen : m.key.isIn (path.map (·.key)) = true) : Halts c path env n false (some .loop)

variable {c : Chart} {env₀ : Env}

theorem Trail.last {path : List Visit} {env : Env} {q : Nat} (h : Trail c env₀ path env q)
    (hne : path ≠ []) : ∃ n, Reaches c env₀ path env n ∧ n.Exit env q := by
  cases h with
  | start => exact absurd rfl hne
  | pass trail node fresh performed exit =>
    exact ⟨_, ⟨_, _, _, trail, node, fresh, performed, rfl⟩, exit⟩

theorem Visit.perform_of_isEnd {n : Node} (h : n.isEnd = true) (env : Env) :
    (Visit.ofNode n).perform env = .ok env := by
  apply Visit.perform_of_not_process
  unfold Node.isEnd at h
  cases hn : n.content with
  | state _ => simp [hn, Content.kind]
  | process _ | decision _ | generic => simp [hn, Content.hasRole] at h

theorem Visit.perform_of_decision {n : Node} {condition : Option Text}
    (h : n.content = .decision condition) (env : Env) :
    (Visit.ofNode n).perform env = .ok env :=
  Visit.perform_of_not_process (by simp [h, Content.kind]) env

namespace RunState

variable {s : RunState}

theorem Step.performed {n : Node} {s' : RunState} {next : Option Nat} (h : Step s n s' (.ok next)) :
    (Visit.ofNode n).perform s.env = .ok s'.env := by
  generalize ha : Except.ok next = a at h
  cases h with
  | repeated _ | overlong _ _ _ | unchosen _ _ _ => cases ha
  | completed _ final => exact Visit.perform_of_isEnd final s.env
  | passed _ _ _ performed => exact performed
  | chosen _ decision chose =>
    obtain ⟨taken, -, rfl, -⟩ := chose.ok
    exact Visit.perform_of_decision decision s.env

/-- A state of the simulator on a trail. -/
structure OnTrail (c : Chart) (env₀ : Env) (s : RunState) (p : Nat) : Prop where
  trail : Trail c env₀ s.path s.env p
  visited_eq : s.visited = s.path.map (·.key)
  taken : TakenVisited s
  incomplete : s.completed = false

theorem onTrail_start {p : Nat} (h : c.entrance = .ok p) : OnTrail c env₀ (start env₀) p :=
  ⟨.start h, rfl, takenVisited_start env₀, rfl⟩

/-- A step that leads on extends the trail. -/
theorem OnTrail.step {p q : Nat} {n : Node} (h : OnTrail c env₀ s p) (node : c.node? p = some n)
    (answer : (s.step n).answer = .ok (some q)) : OnTrail c env₀ (s.step n).state q := by
  have hspec := step_spec s n
  rw [answer] at hspec
  rcases hspec.entered with ⟨-, ha⟩ | ⟨fresh, hpath, hvisited, hcompleted⟩
  · cases ha
  · rw [h.visited_eq] at fresh hvisited
    refine ⟨?_, ?_, h.taken.step n, ?_⟩
    · rw [hpath]
      exact .pass h.trail node fresh hspec.performed hspec.exit
    · rw [hvisited, hpath]
      simp
    · rw [hcompleted, h.incomplete, hspec.exit.isEnd]
      rfl

/-- A step that leads nowhere ends the trail at its node. -/
theorem OnTrail.ended {p : Nat} {n : Node} (h : OnTrail c env₀ s p) (node : c.node? p = some n)
    (answer : (s.step n).answer = .ok none) :
    Reaches c env₀ (s.step n).state.path (s.step n).state.env n ∧
      Halts c (s.step n).state.path (s.step n).state.env n (s.step n).state.completed none := by
  have hspec := step_spec s n
  rw [answer] at hspec
  rcases hspec.entered with ⟨-, ha⟩ | ⟨fresh, hpath, -, hcompleted⟩
  · cases ha
  · rw [h.visited_eq] at fresh
    refine ⟨⟨s.path, s.env, p, h.trail, node, fresh, hspec.performed, hpath⟩, ?_⟩
    rw [hcompleted, h.incomplete, Bool.false_or]
    generalize (s.step n).state = s' at hspec
    generalize ha : Except.ok none = a at hspec
    cases hspec with
    | repeated _ | overlong _ _ _ | unchosen _ _ _ | chosen _ _ _ => cases ha
    | completed _ final =>
      rw [final]
      exact .completed final
    | passed _ inner plain _ =>
      injection ha with last
      rw [inner]
      exact .deadEnd plain inner last.symm

/-- A step that fails ends the trail, at its node if it entered it and else at the node before. -/
theorem OnTrail.failed {p : Nat} {n : Node} {e : RunError} (h : OnTrail c env₀ s p)
    (node : c.node? p = some n) (answer : (s.step n).answer = .error (.stop e)) :
    ∃ m, Reaches c env₀ (s.step n).state.path (s.step n).state.env m ∧
      Halts c (s.step n).state.path (s.step n).state.env m false (some e) := by
  have hspec := step_spec s n
  rw [answer] at hspec
  generalize (s.step n).state = s' at hspec
  cases hspec with
  | repeated seen =>
    -- the node was passed before, so the trail has a last node, and that one leads here
    rw [h.visited_eq] at seen
    have hne : s.path ≠ [] := by
      intro hnil
      simp [hnil] at seen
    obtain ⟨m, hreaches, exit⟩ := h.trail.last hne
    exact ⟨m, hreaches, .repeated exit node seen⟩
  | unchosen fresh decision failed =>
    rw [h.visited_eq] at fresh
    refine ⟨n, ⟨s.path, s.env, p, h.trail, node, fresh, Visit.perform_of_decision decision s.env,
      rfl⟩, ?_⟩
    cases failed with
    | undecided failed => exact .undecided decision failed
    | mismatched _ unfit => exact .mismatched (Node.kind_of_content decision) unfit
    | retraversed _ _ _ => exact absurd answer (h.taken.not_retraversed n n.text)

theorem Loop.halts {p : Nat} {t : Turn Unit} (hloop : Loop c s p t) (h : OnTrail c env₀ s p)
    {r : RunResult} (hr : (conclude t).answer = .ok r) :
    ∃ n, Reaches c env₀ r.path r.env n ∧ Halts c r.path r.env n r.completed r.error := by
  induction hloop with
  | failed node answer =>
    rcases answer_of_conclude hr with ⟨e', he', rfl⟩ | ⟨he', -⟩
    · cases he'
      exact h.failed node answer
    · cases he'
  | @ended s p n node answer =>
    rcases answer_of_conclude hr with ⟨e', he', -⟩ | ⟨-, rfl⟩
    · cases he'
    · exact ⟨n, h.ended node answer⟩
  | @onward s p n q rest node answer _ ih =>
    refine ih (h.step node answer) ?_
    -- the step puts its events in front of the rest, which is all the same to the result
    rcases answer_of_conclude hr with ⟨e', he', rfl⟩ | ⟨he', rfl⟩
    · rw [conclude, show rest.answer = .error (.stop e') from he']
    · rw [conclude, show rest.answer = .ok () from he']

end RunState

/-- A run on a chart does not begin, or is a trail that ends at a node where it halts. -/
theorem Chart.simulate_trail (hc : c.WellFormed) {r : RunResult}
    (h : (c.simulate env₀).answer = .ok r) :
    (∃ e, c.entrance = .error e ∧ r = .stopped (.start env₀) e) ∨
      (∃ p, c.entrance = .ok p) ∧
        ∃ n, Reaches c env₀ r.path r.env n ∧ Halts c r.path r.env n r.completed r.error := by
  unfold Chart.simulate at h
  cases hentrance : c.entrance with
  | error e =>
    rw [RunState.run_of_error hentrance] at h
    cases h
    exact Or.inl ⟨e, rfl, rfl⟩
  | ok p =>
    obtain ⟨t, hloop, hrun⟩ := RunState.run_eq_loop hc (RunState.consistent_start c env₀) hentrance
    rw [hrun] at h
    exact Or.inr ⟨⟨p, rfl⟩, hloop.halts (RunState.onTrail_start hentrance) h⟩

end Flowchart
