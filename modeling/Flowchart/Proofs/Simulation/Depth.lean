import Flowchart.Proofs.Chart.Depth
import Flowchart.Proofs.Chart.Builder
import Flowchart.Proofs.Simulation.Walk
import Flowchart.Proofs.Simulation.Replay

/-! # The length of a run

A run follows links and passes no key twice, so the nodes it passes are one of the ways that the
search for the depth of the chart goes through.
-/

namespace Flowchart

namespace RunState

variable {c : Chart} {s : RunState}

/-- What a walk adds to the path is a way from its first place on, unless the node there was passed
before. -/
theorem Loop.way {p : Nat} {t : Turn Unit} (h : Loop c s p t) :
    ∃ ns : List Node, t.state.path = s.path ++ ns.map Visit.ofNode ∧
      (c.Way p ns ∨ ns = [] ∧ ∃ n, c.node? p = some n ∧ n.key.isIn s.visited = true) := by
  induction h with
  | @failed s p n e node answer =>
    by_cases seen : n.key.isIn s.visited = true
    · exact ⟨[], by simp [step_of_seen seen], .inr ⟨rfl, n, node, seen⟩⟩
    · obtain ⟨hpath, -⟩ := (step_spec s n).entered_of_fresh (by simpa using seen)
      exact ⟨[n], hpath, .inl (.stop node)⟩
  | @ended s p n node answer =>
    rcases (step_spec s n).entered with ⟨-, ha⟩ | ⟨-, hpath, -⟩
    · cases answer.symm.trans ha
    · exact ⟨[n], hpath, .inl (.stop node)⟩
  | @onward s p n q rest node answer walk ih =>
    -- a step that leads on has entered its node and goes along one of its links
    have hspec := step_spec s n
    rw [answer] at hspec
    obtain ⟨e, he, rfl⟩ := hspec.exit.child
    obtain ⟨ns, hns, hway⟩ := ih
    rcases hspec.entered with ⟨-, ha⟩ | ⟨-, hpath, -⟩
    · cases ha
    · refine ⟨n :: ns, by simp [hns, hpath], .inl ?_⟩
      cases hway with
      | inl hway => exact .follow node he hway
      | inr hnil =>
        rw [hnil.1]
        exact .stop node

end RunState

/-- The path of a run that begins is a way from the only start state. -/
theorem Chart.simulate_way {c : Chart} (hc : c.WellFormed) {env₀ : Env} {r : RunResult}
    (h : (c.simulate env₀).answer = .ok r) :
    (∃ e, c.entrance = .error e) ∧ r.path = [] ∨
      ∃ start ns, c.starts = [start] ∧ c.Way start ns ∧ r.path = ns.map Visit.ofNode := by
  rw [RunState.path_of_run h]
  cases hentrance : c.entrance with
  | error e =>
    rw [RunState.run_of_error hentrance]
    exact .inl ⟨⟨e, rfl⟩, rfl⟩
  | ok start =>
    obtain ⟨t, hloop, hrun⟩ := RunState.run_eq_loop hc (RunState.consistent_start c env₀) hentrance
    obtain ⟨ns, hns, hway | ⟨-, n, -, seen⟩⟩ := hloop.way
    · refine .inr ⟨start, ns, (RunState.entrance_ok hentrance).2, hway, ?_⟩
      rw [hrun, RunState.state_conclude, hns]
      rfl
    · -- nothing was passed before the run
      cases seen

/-- The keys on the path of a run are pairwise different, and the path is at most as long as the
chart is deep, which is at most as many nodes as it has keys.  Unless the run does not begin, the
nodes on its path are a way from the only start state along links. -/
theorem simulate_length_le_maxDepth (nodes : List NodeRecord) (links : List LinkRecord) (env₀ : Env)
    {r : RunResult} (h : ((Chart.build nodes links).simulate env₀).answer = .ok r) :
    Key.Distinct (r.path.map (·.key)) ∧
    ((∃ e, (Chart.build nodes links).entrance = .error e) ∧ r.path = [] ∨
      ∃ start ns, (Chart.build nodes links).starts = [start] ∧
        (Chart.build nodes links).Way start ns ∧ r.path = ns.map Visit.ofNode) ∧
    r.path.length ≤ (Chart.build nodes links).maxDepth ∧
    (Chart.build nodes links).maxDepth ≤ (Chart.build nodes links).size := by
  have hc := Chart.wellFormed_build nodes links
  have hdistinct : Key.Distinct (r.path.map (·.key)) := by
    rw [RunState.path_of_run h]
    exact ((RunState.consistent_start _ env₀).run hc).distinct
  have hway := Chart.simulate_way hc h
  refine ⟨hdistinct, hway, ?_, Chart.maxDepth_le_size hc⟩
  rcases hway with ⟨-, hnil⟩ | ⟨start, ns, hstarts, hway, hpath⟩
  · simp [hnil]
  · -- the way of a run is one of those that the search for the depth goes through
    rw [hpath, List.map_map] at hdistinct
    rw [hpath, List.length_map]
    exact hway.length_le_maxDepth hc hstarts hdistinct

/-- The countdown that gets stuck in its loop has passed three of its four nodes. -/
theorem simulate_length_le_maxDepth_countdown :
    ∃ r, ((Chart.build countdownNodes countdownLinks).simulate ⟨[("x", .int 5)]⟩).answer = .ok r ∧
      r.path.length = 3 ∧ r.path.length ≤ (Chart.build countdownNodes countdownLinks).maxDepth ∧
      (Chart.build countdownNodes countdownLinks).maxDepth = 4 :=
  ⟨_, rfl, rfl, (simulate_length_le_maxDepth _ _ ⟨[("x", .int 5)]⟩ rfl).2.2.1, by decide⟩

end Flowchart
