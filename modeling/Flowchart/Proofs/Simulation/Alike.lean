import Mathlib.Data.List.Forall2
import Flowchart.Proofs.Simulation.Lockstep

/-! # Runs through nodes that are alike

Two charts may hold the same nodes at different places, under different keys, with their links in
different orders.  `Node.LeadsAlike` is what a run can tell of two nodes: what they hold, and where
they are left for.  `simulate_of_leadsAlike` says that runs through nodes that lead alike give the
same result, up to the names of the keys on the path.
-/

namespace Flowchart

/-! ## Renaming what a run remembers -/

def Visit.rename (f : Key → Key) (v : Visit) : Visit :=
  { v with key := f v.key }

def RunState.rename (f : Key → Key) (s : RunState) : RunState :=
  { s with
    path := s.path.map (Visit.rename f)
    visited := s.visited.map f
    trueTaken := s.trueTaken.map f }

/-- A result with other keys on its path. -/
def RunResult.rename (f : Key → Key) (r : RunResult) : RunResult :=
  { r with path := r.path.map (Visit.rename f) }

@[simp] theorem Visit.rename_id : Visit.rename id = id := rfl

@[simp] theorem RunResult.rename_id : RunResult.rename id = id := by
  funext r
  simp [RunResult.rename]

/-- All keys that a run remembers are among the given ones. -/
structure RunState.KeysIn (K : Set Key) (s : RunState) : Prop where
  visited : ∀ k ∈ s.visited, k ∈ K
  trueTaken : ∀ k ∈ s.trueTaken, k ∈ K

namespace RunState.KeysIn

variable {K : Set Key} {s : RunState} {n : Node}

theorem start (K : Set Key) (env : Env) : (RunState.start env).KeysIn K where
  visited := by intro k h; cases h
  trueTaken := by intro k h; cases h

theorem enter (h : s.KeysIn K) (hn : n.key ∈ K) : (s.enter n).KeysIn K := by
  refine ⟨?_, h.trueTaken⟩
  intro k hk
  rcases List.mem_append.mp hk with hk | hk
  · exact h.visited k hk
  · rw [List.mem_singleton.mp hk]
    exact hn

theorem step (h : s.KeysIn K) (hn : n.key ∈ K) : (s.step n).state.KeysIn K := by
  have henter := h.enter hn
  have hspec := RunState.step_spec s n
  generalize (s.step n).state = s', (s.step n).answer = a at hspec
  cases hspec with
  | repeated _ => exact h
  | completed _ _ | overlong _ _ _ | passed _ _ _ _ => exact ⟨henter.visited, henter.trueTaken⟩
  | unchosen _ _ _ => exact henter
  | chosen _ _ chose =>
    obtain ⟨taken, htaken, rfl, -⟩ := chose.ok
    refine ⟨henter.visited, ?_⟩
    intro k hk
    rcases List.mem_append.mp hk with hk | hk
    · exact henter.trueTaken k hk
    · rcases htaken with rfl | rfl
      · cases hk
      · rw [List.mem_singleton.mp hk]
        exact hn

end RunState.KeysIn

/-- The second state is the first one with its keys renamed. -/
def RunState.Renamed (f : Key → Key) (K : Set Key) (s s' : RunState) : Prop :=
  s' = s.rename f ∧ s.KeysIn K

/-! ## Nodes -/

/-- Nodes that hold the same, the second under a renamed key, and are left for related places. -/
structure Node.LeadsAlike (f : Key → Key) (R : Nat → Nat → Prop) (n n' : Node) : Prop where
  key : n'.key = f n.key
  text : n'.text = n.text
  content : n'.content = n.content
  first : n.kind ≠ .decision → Option.Rel R n.firstChild? n'.firstChild?
  branches : n.kind = .decision → ∀ label, label = trueBranch ∨ label = falseBranch →
    List.Forall₂ R (n.branches (some label)) (n'.branches (some label))

theorem Node.exists_forks_iff (n : Node) :
    (∃ onTrue onFalse, n.Forks onTrue onFalse) ↔
      (n.branches (some trueBranch)).length = 1 ∧ (n.branches (some falseBranch)).length = 1 := by
  simp only [Node.Forks, List.length_eq_one_iff, exists_and_left, exists_and_right]

namespace Node.LeadsAlike

variable {f : Key → Key} {K : Set Key} {R : Nat → Nat → Prop} {n n' : Node} {s : RunState}

theorem kind (h : n.LeadsAlike f R n') : n'.kind = n.kind := by
  rw [Node.kind, Node.kind, h.content]

theorem isEnd (h : n.LeadsAlike f R n') : n'.isEnd = n.isEnd := by
  rw [Node.isEnd, Node.isEnd, h.content]

theorem perform (h : n.LeadsAlike f R n') (env : Env) :
    (Visit.ofNode n').perform env = (Visit.ofNode n).perform env := by
  simp only [Visit.perform, Visit.content_ofNode, h.content]

theorem enter (h : n.LeadsAlike f R n') (s : RunState) :
    (s.rename f).enter n' = (s.enter n).rename f := by
  simp [RunState.enter, RunState.rename, Visit.ofNode, Visit.rename, h.key, h.text, h.content]

theorem isIn_visited (h : n.LeadsAlike f R n') (hf : Key.Faithful f K) (hn : n.key ∈ K)
    (hs : s.KeysIn K) : n'.key.isIn (s.rename f).visited = n.key.isIn s.visited := by
  rw [h.key]
  exact hf.isIn_map hn hs.visited

theorem isIn_trueTaken (h : n.LeadsAlike f R n') (hf : Key.Faithful f K) (hn : n.key ∈ K)
    (hs : s.KeysIn K) : n'.key.isIn (s.rename f).trueTaken = n.key.isIn s.trueTaken := by
  rw [h.key]
  exact hf.isIn_map hn hs.trueTaken

theorem exists_forks (h : n.LeadsAlike f R n') (decision : n.kind = .decision) :
    (∃ onTrue onFalse, n.Forks onTrue onFalse) ↔ ∃ onTrue onFalse, n'.Forks onTrue onFalse := by
  rw [Node.exists_forks_iff, Node.exists_forks_iff,
    (h.branches decision trueBranch (Or.inl rfl)).length_eq,
    (h.branches decision falseBranch (Or.inr rfl)).length_eq]

theorem forks (h : n.LeadsAlike f R n') (decision : n.kind = .decision) {onTrue onFalse : Nat}
    (forks : n.Forks onTrue onFalse) :
    ∃ onTrue' onFalse', n'.Forks onTrue' onFalse' ∧ R onTrue onTrue' ∧ R onFalse onFalse' := by
  have htrue := h.branches decision trueBranch (Or.inl rfl)
  have hfalse := h.branches decision falseBranch (Or.inr rfl)
  obtain ⟨onTrue', onFalse', htrue', hfalse'⟩ :=
    (h.exists_forks decision).mp ⟨onTrue, onFalse, forks⟩
  rw [forks.1, htrue'] at htrue
  rw [forks.2, hfalse'] at hfalse
  refine ⟨onTrue', onFalse', ⟨htrue', hfalse'⟩, ?_, ?_⟩
  · simpa using htrue
  · simpa using hfalse

theorem choice (h : n.LeadsAlike f R n') (hf : Key.Faithful f K) (hn : n.key ∈ K)
    (hs : s.KeysIn K) (decision : n.kind = .decision) {condition : Option Text}
    {t : RunState} {a : Except StepFailure Nat} (choice : RunState.Choice s n condition t a) :
    ∃ a', RunState.Choice (s.rename f) n' condition (t.rename f) a' ∧ Agree R a a' := by
  have htaken := h.isIn_trueTaken hf hn hs
  cases choice with
  | overlong failed => exact ⟨_, .overlong failed, .error _⟩
  | undecided failed =>
    rw [← h.text]
    exact ⟨_, .undecided failed, .error _⟩
  | mismatched decided unfit =>
    rw [← h.text]
    rw [h.exists_forks decision] at unfit
    exact ⟨_, .mismatched decided unfit, .error _⟩
  | retraversed decided forks taken =>
    obtain ⟨onTrue', onFalse', forks', -, -⟩ := h.forks decision forks
    rw [← h.text]
    rw [← htaken] at taken
    exact ⟨_, .retraversed decided forks' taken, .error _⟩
  | onFalse decided forks =>
    obtain ⟨onTrue', onFalse', forks', -, hfalse⟩ := h.forks decision forks
    exact ⟨_, .onFalse decided forks', .ok hfalse⟩
  | onTrue decided forks fresh =>
    obtain ⟨onTrue', onFalse', forks', htrue, -⟩ := h.forks decision forks
    rw [← htaken] at fresh
    -- each run remembers the decision under the key it has on its own chart
    have hremembers : RunState.rename f { s with trueTaken := s.trueTaken ++ [n.key] } =
        { s.rename f with trueTaken := (s.rename f).trueTaken ++ [n'.key] } := by
      simp [RunState.rename, h.key]
    rw [hremembers]
    exact ⟨_, .onTrue decided forks' fresh, .ok htrue⟩

/-- A step at one node does what a step at the other does, and leads to a related place. -/
theorem step (h : n.LeadsAlike f R n') (hf : Key.Faithful f K) (hn : n.key ∈ K)
    (hs : s.KeysIn K) :
    ((s.rename f).step n').state = (s.step n).state.rename f ∧
      Agree (Option.Rel R) (s.step n).answer ((s.rename f).step n').answer := by
  -- every rule that applies to the first node applies to the second one, and the rules determine
  -- what a step does
  suffices htransfer : ∀ t a, RunState.Step s n t a →
      ∃ a', RunState.Step (s.rename f) n' (t.rename f) a' ∧ Agree (Option.Rel R) a a' by
    obtain ⟨a', hstep, hagree⟩ := htransfer _ _ (RunState.step_spec s n)
    rw [hstep.step_eq.1, hstep.step_eq.2]
    exact ⟨rfl, hagree⟩
  have hvisited := h.isIn_visited hf hn hs
  have henter := h.enter s
  intro t a hstep
  cases hstep with
  | repeated seen =>
    rw [← hvisited] at seen
    exact ⟨_, .repeated seen, .error _⟩
  | completed fresh final =>
    rw [← hvisited] at fresh
    rw [← h.isEnd] at final
    have hstep := RunState.Step.completed fresh final
    rw [henter] at hstep
    exact ⟨_, hstep, .ok .none⟩
  | overlong fresh process failed =>
    rw [← hvisited] at fresh
    rw [← h.kind] at process
    rw [← h.perform] at failed
    have hstep := RunState.Step.overlong fresh process failed
    rw [henter] at hstep
    exact ⟨_, hstep, .error _⟩
  | passed fresh inner plain performed =>
    have hfirst := h.first plain
    rw [← hvisited] at fresh
    rw [← h.isEnd] at inner
    rw [← h.kind] at plain
    rw [← h.perform] at performed
    have hstep := RunState.Step.passed fresh inner plain performed
    rw [henter] at hstep
    exact ⟨_, hstep, .ok hfirst⟩
  | unchosen fresh decision failed =>
    obtain ⟨a', hchoice, hagree⟩ :=
      h.choice hf hn (hs.enter hn) (Node.kind_of_content decision) failed
    rw [← hvisited] at fresh
    rw [← h.content] at decision
    rw [← henter] at hchoice ⊢
    cases hagree with
    | error => exact ⟨_, .unchosen fresh decision hchoice, .error _⟩
  | chosen fresh decision chose =>
    obtain ⟨a', hchoice, hagree⟩ :=
      h.choice hf hn (hs.enter hn) (Node.kind_of_content decision) chose
    rw [← hvisited] at fresh
    rw [← h.content] at decision
    rw [← henter] at hchoice
    cases hagree with
    | ok hplace => exact ⟨_, .chosen fresh decision hchoice, .ok (.some hplace)⟩

end Node.LeadsAlike

/-! ## Runs -/

/-- Charts whose nodes at related places lead alike give the same result, up to the names of
keys. -/
theorem simulate_of_leadsAlike {c c' : Chart} {f : Key → Key} {K : Set Key}
    {R : Nat → Nat → Prop} (hf : Key.Faithful f K) (hsize : c.size = c'.size)
    (hentrance : Agree R c.entrance c'.entrance)
    (hnodes : (∃ start, c.entrance = .ok start) → ∀ p p', R p p' →
      ∃ n n', c.node? p = some n ∧ c'.node? p' = some n' ∧ n.key ∈ K ∧ n.LeadsAlike f R n')
    (env : Env) :
    (c'.simulate env).answer = (c.simulate env).answer.map (RunResult.rename f) := by
  have hlockstep : (∃ start, c.entrance = .ok start) →
      RunState.Lockstep c c' (RunState.Renamed f K) R := by
    rintro hstart s s' p p' ⟨rfl, hs⟩ hplaces
    obtain ⟨n, n', hn, hn', hkey, hleads⟩ := hnodes hstart p p' hplaces
    obtain ⟨hstate, hanswer⟩ := hleads.step hf hkey hs
    exact ⟨n, n', hn, hn', ⟨hstate, hs.step hkey⟩, hanswer⟩
  have hinit : RunState.Renamed f K (.start env) (.start env) := ⟨rfl, .start K env⟩
  have hends := RunState.Lockstep.simulate hlockstep hsize hentrance hinit
  generalize (c.simulate env).answer = a, (c'.simulate env).answer = a' at hends
  cases hends with
  | error e => rfl
  | ok related =>
    cases related with
    | stopped states e =>
      obtain ⟨rfl, -⟩ := states
      rfl
    | finished states =>
      obtain ⟨rfl, -⟩ := states
      rfl

end Flowchart
