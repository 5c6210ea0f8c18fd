import Flowchart.Proofs.Chart.Store
import Flowchart.Proofs.Simulation.Step

/-! # Walks through a chart

`RunState.walk` bounds the number of its steps.  `RunState.Loop` is the same walk without a bound:
it goes on until a step fails or no link leads on, and has a derivation only if that happens.
`loop_walk` says that the bound is never met, so that `walk` is the loop and the loop always ends.
The reason is `RunState.Consistent`: no key is passed twice, and all keys that are passed are keys
of the chart.
-/

namespace Flowchart

namespace RunState

variable {c : Chart} {s : RunState} {n : Node}

/-! ## The invariant of runs -/

/-- What holds of a run on a chart in every state. -/
structure Consistent (c : Chart) (s : RunState) : Prop where
  visited_eq : s.visited = s.path.map (·.key)
  distinct : Key.Distinct (s.path.map (·.key))
  keyed : ∀ v ∈ s.path, v.key.isIn c.keys = true
  completed_eq : s.completed = s.path.any Visit.isEnd

theorem consistent_start (c : Chart) (env : Env) : Consistent c (start env) where
  visited_eq := rfl
  distinct := Key.distinct_nil
  keyed := by intro v h; cases h
  completed_eq := rfl

theorem Consistent.length_path_le (h : Consistent c s) : s.path.length ≤ c.size := by
  rw [← List.length_map (·.key)]
  apply Chart.length_le_size h.distinct
  intro k hk
  obtain ⟨v, hv, rfl⟩ := List.mem_map.mp hk
  exact h.keyed v hv

theorem Consistent.mono {c' : Chart} (h : Consistent c s)
    (hkeys : ∀ k : Key, k.isIn c.keys = true → k.isIn c'.keys = true) : Consistent c' s :=
  ⟨h.visited_eq, h.distinct, fun v hv => hkeys v.key (h.keyed v hv), h.completed_eq⟩

theorem Consistent.step (h : Consistent c s) (hn : n.key.isIn c.keys = true) :
    Consistent c (s.step n).state := by
  rcases (step_spec s n).entered with ⟨hs, -⟩ | ⟨fresh, hpath, hvisited, hcompleted⟩
  · rw [hs]
    exact h
  · refine ⟨?_, ?_, ?_, ?_⟩
    · rw [hvisited, hpath, h.visited_eq]
      simp
    · rw [hpath, List.map_append]
      exact Key.distinct_concat.mpr ⟨h.distinct, by rw [← h.visited_eq]; exact fresh⟩
    · intro v hv
      rw [hpath] at hv
      rcases List.mem_append.mp hv with hv | hv
      · exact h.keyed v hv
      · rw [List.mem_singleton.mp hv]
        exact hn
    · rw [hcompleted, hpath, h.completed_eq]
      simp

theorem Consistent.choose (h : Consistent c s) (condition : Option Text) :
    Consistent c (s.choose n condition).state := by
  have hchoice := choose_spec s n condition
  cases hanswer : (s.choose n condition).answer with
  | error e =>
    rw [choose_state_of_error hanswer]
    exact h
  | ok next =>
    rw [hanswer] at hchoice
    obtain ⟨taken, -, hstate, -⟩ := hchoice.ok
    rw [hstate]
    exact ⟨h.visited_eq, h.distinct, h.keyed, h.completed_eq⟩

/-- Only decisions that were passed were left by their true branch. -/
def TakenVisited (s : RunState) : Prop :=
  ∀ k ∈ s.trueTaken, k.isIn s.visited = true

theorem takenVisited_start (env : Env) : TakenVisited (start env) := by
  intro k h
  cases h

theorem TakenVisited.enter (h : TakenVisited s) (n : Node) : TakenVisited (s.enter n) := by
  intro k hk
  have := h k hk
  simp [RunState.enter, this]

theorem TakenVisited.step (h : TakenVisited s) (n : Node) : TakenVisited (s.step n).state := by
  have hspec := step_spec s n
  generalize (s.step n).state = s', (s.step n).answer = a at hspec
  cases hspec with
  | repeated _ => exact h
  | completed _ _ | overlong _ _ _ | passed _ _ _ _ | unchosen _ _ _ => exact h.enter n
  | chosen _ _ chose =>
    -- the key that may be added is that of the node just entered
    obtain ⟨taken, htaken, rfl, -⟩ := chose.ok
    intro k hk
    rcases List.mem_append.mp hk with hk | hk
    · exact h.enter n k hk
    · rcases htaken with rfl | rfl
      · cases hk
      · rw [List.mem_singleton.mp hk]
        simp [RunState.enter]

theorem TakenVisited.not_taken (h : TakenVisited s) {k : Key} (fresh : k.isIn s.visited = false) :
    k.isIn s.trueTaken = false := by
  rw [← Bool.not_eq_true]
  intro taken
  -- a key that was taken was visited, also under another spelling
  obtain ⟨j, hj, hsame⟩ := List.any_eq_true.mp taken
  have hvisited := h j hj
  rw [Key.isIn_congr hsame, fresh] at hvisited
  cases hvisited

/-- The true branch of a decision that is passed for the first time has not been taken. -/
theorem TakenVisited.not_retraversed (h : TakenVisited s) (n : Node) (label : Text) :
    (s.step n).answer ≠ .error (.stop (.branchRetraversal label)) := by
  have hspec := step_spec s n
  generalize (s.step n).state = s', (s.step n).answer = a at hspec
  intro ha
  cases hspec with
  | repeated _ | completed _ _ | overlong _ _ _ | passed _ _ _ _ | chosen _ _ _ => cases ha
  | unchosen fresh _ failed =>
    cases ha
    cases failed with
    | retraversed _ _ taken => exact Bool.false_ne_true ((h.not_taken fresh).symm.trans taken)

/-! ## The walk without a bound -/

/-- The walk from a place on, as long as it goes.  A derivation is a walk that comes to an end, and
all its places hold nodes. -/
inductive Loop (c : Chart) : RunState → Nat → Turn Unit → Prop
  | failed {s p n e} (node : c.node? p = some n) (answer : (s.step n).answer = .error e) :
      Loop c s p ⟨(s.step n).state, (s.step n).events, .error e⟩
  | ended {s p n} (node : c.node? p = some n) (answer : (s.step n).answer = .ok none) :
      Loop c s p ⟨(s.step n).state, (s.step n).events, .ok ()⟩
  | onward {s p n q rest} (node : c.node? p = some n) (answer : (s.step n).answer = .ok (some q))
      (walk : Loop c (s.step n).state q rest) :
      Loop c s p { rest with events := (s.step n).events ++ rest.events }

/-- What every step keeps, a walk keeps. -/
theorem Loop.preserves {P : RunState → Prop}
    (hstep : ∀ s p n, c.node? p = some n → P s → P (s.step n).state) {p : Nat} {t : Turn Unit}
    (h : Loop c s p t) (hs : P s) : P t.state := by
  induction h with
  | failed node _ => exact hstep _ _ _ node hs
  | ended node _ => exact hstep _ _ _ node hs
  | onward node _ _ ih => exact ih (hstep _ _ _ node hs)

theorem Loop.not_retraversed {p : Nat} {t : Turn Unit} (h : Loop c s p t) (hs : TakenVisited s)
    (label : Text) : t.answer ≠ .error (.stop (.branchRetraversal label)) := by
  induction h with
  | @failed s p n e _ answer =>
    intro he
    cases he
    exact hs.not_retraversed n label answer
  | ended _ _ =>
    intro he
    cases he
  | @onward s p n q rest _ _ _ ih => exact ih (hs.step n)

theorem next_lt (hc : c.WellFormed) {p q : Nat} (node : c.node? p = some n)
    (answer : (s.step n).answer = .ok (some q)) : q < c.placed.length := by
  have hspec := step_spec s n
  rw [answer] at hspec
  obtain ⟨e, he, rfl⟩ := hspec.exit.child
  exact hc.led p n node e he

/-- The bound of `walk` is never met: every step but the last one adds a key to the path, and
there are only as many keys as the chart has. -/
theorem loop_walk (hc : c.WellFormed) {fuel p : Nat} (hs : Consistent c s)
    (hp : p < c.placed.length) (enough : c.size < fuel + s.path.length) :
    Loop c s p (walk c fuel s p) := by
  -- the fuel and the length of the path together stay above the number of keys
  induction fuel generalizing s p with
  | zero =>
    have := hs.length_path_le
    omega
  | succ fuel ih =>
    obtain ⟨n, node⟩ := Chart.node?_of_lt hp
    rw [walk]
    simp only [node]
    cases answer : (s.step n).answer with
    | error e => exact .failed node answer
    | ok next =>
      cases next with
      | none => exact .ended node answer
      | some q =>
        refine .onward node answer (ih (hs.step (hc.keyed p n node)) (next_lt hc node answer) ?_)
        -- a step that leads on has entered its node
        rcases (step_spec s n).entered with ⟨-, ha⟩ | ⟨-, hpath, -⟩
        · rw [ha] at answer
          cases answer
        · rw [hpath, List.length_append]
          simp only [List.length_singleton]
          omega

/-! ## Runs -/

@[simp] theorem state_conclude (t : Turn Unit) : (conclude t).state = t.state := by
  unfold conclude
  split <;> rfl

/-- The result of a run tells why its walk stopped. -/
theorem answer_of_conclude {t : Turn Unit} {r : RunResult} (h : (conclude t).answer = .ok r) :
    (∃ e, t.answer = .error (.stop e) ∧ r = .stopped t.state e) ∨
      t.answer = .ok () ∧ r = .finished t.state := by
  unfold conclude at h
  split at h
  · cases h
  · rename_i e he
    cases h
    exact Or.inl ⟨e, he, rfl⟩
  · rename_i he
    cases h
    exact Or.inr ⟨he, rfl⟩

theorem path_of_run {r : RunResult} (h : (s.run c).answer = .ok r) :
    r.path = (s.run c).state.path := by
  have hconclude : ∀ t : Turn Unit, (conclude t).answer = .ok r →
      r.path = (conclude t).state.path := by
    intro t ht
    rw [state_conclude]
    rcases answer_of_conclude ht with ⟨e, -, rfl⟩ | ⟨-, rfl⟩
    · rfl
    · rfl
  unfold run at h ⊢
  split at h
  · exact hconclude _ h
  · exact hconclude _ h

/-- Why a run does not begin. -/
theorem entrance_error {e : RunError} (h : c.entrance = .error e) :
    (c.isValid = false ∧ e = .invalidChart) ∨
      (c.isValid = true ∧ c.starts = [] ∧ e = .missingStart) ∨
      (c.isValid = true ∧ 2 ≤ c.starts.length ∧ e = .multipleStarts) := by
  unfold Chart.entrance Chart.findStart at h
  split at h
  · rename_i hvalid
    split at h
    · rename_i hstarts
      cases h
      exact Or.inr (Or.inl ⟨hvalid, hstarts, rfl⟩)
    · cases h
    · rename_i hnone hone
      cases h
      refine Or.inr (Or.inr ⟨hvalid, ?_, rfl⟩)
      match hstarts : c.starts with
      | [] => exact absurd hstarts hnone
      | [p] => exact absurd hstarts (hone p)
      | _ :: _ :: _ => simp
  · rename_i hvalid
    cases h
    exact Or.inl ⟨by simpa using hvalid, rfl⟩

theorem entrance_ok {p : Nat} (h : c.entrance = .ok p) : c.isValid = true ∧ c.starts = [p] := by
  unfold Chart.entrance Chart.findStart at h
  split at h
  · rename_i hvalid
    split at h
    · cases h
    · rename_i hstarts
      cases h
      exact ⟨hvalid, hstarts⟩
    · cases h
  · cases h

theorem entrance_congr {c' : Chart} (hvalid : c'.isValid = c.isValid)
    (hstarts : c'.starts = c.starts) : c'.entrance = c.entrance := by
  simp only [Chart.entrance, Chart.findStart, hvalid, hstarts]

theorem entrance_mem_places {p : Nat} (h : c.entrance = .ok p) : p ∈ c.places := by
  have hmem : p ∈ c.starts := by
    rw [(entrance_ok h).2]
    exact List.mem_cons_self
  exact (List.mem_filter.mp hmem).1

theorem entrance_lt (hc : c.WellFormed) {p : Nat} (h : c.entrance = .ok p) :
    p < c.placed.length := by
  obtain ⟨n, hn⟩ := hc.node_of_mem_places (entrance_mem_places h)
  exact Chart.lt_of_node? hn

/-- A run that finds its entrance is a walk that comes to an end. -/
theorem run_eq_loop (hc : c.WellFormed) (hs : Consistent c s) {p : Nat} (hp : c.entrance = .ok p) :
    ∃ t, Loop c s p t ∧ s.run c = conclude t := by
  refine ⟨walk c (c.size + 1) s p, loop_walk hc hs (entrance_lt hc hp) (by omega), ?_⟩
  rw [run, hp]

theorem run_of_error {e : RunError} (h : c.entrance = .error e) :
    s.run c = conclude ⟨s, [], .error (.stop e)⟩ := by
  rw [run, h]

/-- What every step keeps, a run keeps. -/
theorem run_preserves {P : RunState → Prop} (hc : c.WellFormed) (hs : Consistent c s)
    (hstep : ∀ s p n, c.node? p = some n → P s → P (s.step n).state) (hP : P s) :
    P (s.run c).state := by
  cases hentrance : c.entrance with
  | error e =>
    rw [run_of_error hentrance, state_conclude]
    exact hP
  | ok p =>
    obtain ⟨t, hloop, hrun⟩ := run_eq_loop hc hs hentrance
    rw [hrun, state_conclude]
    exact hloop.preserves hstep hP

theorem Consistent.run (hs : Consistent c s) (hc : c.WellFormed) : Consistent c (s.run c).state :=
  run_preserves hc hs (fun _ p n node hs => hs.step (hc.keyed p n node)) hs

/-- The path of a run is at most as long as the chart is large. -/
theorem length_path_run_le (hc : c.WellFormed) (hs : Consistent c s) {r : RunResult}
    (h : (s.run c).answer = .ok r) : r.path.length ≤ c.size := by
  rw [path_of_run h]
  exact (hs.run hc).length_path_le

/-- The only failure of a run that is not a result is a numeral that is too long. -/
theorem run_error {e : StepFailure} (h : (s.run c).answer = .error e) : ∃ l, e = .limit l := by
  have hconclude : ∀ t : Turn Unit, (conclude t).answer = .error e → ∃ l, e = .limit l := by
    intro t ht
    unfold conclude at ht
    split at ht
    · rename_i l _
      cases ht
      exact ⟨l, rfl⟩
    · cases ht
    · cases ht
  unfold run at h
  split at h
  · exact hconclude _ h
  · exact hconclude _ h

/-- A run never takes a true branch twice. -/
theorem run_not_retraversed (hc : c.WellFormed) (hs : Consistent c s) (ht : TakenVisited s)
    {r : RunResult} (h : (s.run c).answer = .ok r) (label : Text) :
    r.error ≠ some (.branchRetraversal label) := by
  intro herror
  cases hentrance : c.entrance with
  | error e =>
    rw [run_of_error hentrance] at h
    rcases answer_of_conclude h with ⟨e', he', rfl⟩ | ⟨he', -⟩
    · cases he'
      cases herror
      rcases entrance_error hentrance with ⟨-, he⟩ | ⟨-, -, he⟩ | ⟨-, -, he⟩ <;> cases he
    · cases he'
  | ok p =>
    obtain ⟨t, hloop, hrun⟩ := run_eq_loop hc hs hentrance
    rw [hrun] at h
    rcases answer_of_conclude h with ⟨e, he, rfl⟩ | ⟨-, rfl⟩
    · cases herror
      exact hloop.not_retraversed ht label he
    · cases herror

end RunState

end Flowchart
