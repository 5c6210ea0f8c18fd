import Flowchart.Proofs.Chart.Recode
import Flowchart.Proofs.Simulation.Alongside
import Flowchart.Proofs.Simulation.Escape

/-! # Runs see nothing but the nodes they pass

What stands in nodes that a run does not come to has no influence on it: not even code that would
stop it without a result.  `Loop.transfer` says that a walk is a walk on every chart that has the
same nodes on its path, whatever the other nodes hold.
-/

namespace Flowchart

/-- A chart that has nodes of the same keys at the places of the current nodes, and the same nodes
as far as they are on a path. -/
def Chart.SharesPath (c c' : Chart) (path : List Visit) : Prop :=
  ∀ p ∈ c.places, ∀ n, c.node? p = some n →
    ∃ n', c'.node? p = some n' ∧ n'.key = n.key ∧ (Visit.ofNode n ∈ path → n' = n)

namespace RunState

variable {s : RunState} {c c' : Chart} {path : List Visit}

theorem path_prefix_step (s : RunState) (n : Node) : s.path <+: (s.step n).state.path := by
  rcases (step_spec s n).entered with ⟨hs, -⟩ | ⟨-, hpath, -⟩
  · simp [hs]
  · simp [hpath]

theorem Loop.path_prefix {p : Nat} {t : Turn Unit} (h : Loop c s p t) :
    s.path <+: t.state.path := by
  refine h.preserves (P := fun s' => s.path <+: s'.path) ?_ (List.prefix_refl _)
  intro s' q n _ hprefix
  exact hprefix.trans (path_prefix_step s' n)

theorem step_of_sharesPath (h : c.SharesPath c' path) {p : Nat} {n : Node} (hp : p ∈ c.places)
    (node : c.node? p = some n) (hpath : (s.step n).state.path <+: path) :
    ∃ n', c'.node? p = some n' ∧ s.step n' = s.step n := by
  obtain ⟨n', node', hkey, hsame⟩ := h p hp n node
  refine ⟨n', node', ?_⟩
  -- a step at a node that was passed before fails whatever the node holds, and any other step
  -- leaves its node on the path
  by_cases seen : n.key.isIn s.visited = true
  · rw [step_of_seen seen, step_of_seen (by rw [hkey]; exact seen)]
  · obtain ⟨hentered, -⟩ := (step_spec s n).entered_of_fresh (by simpa using seen)
    have hmem : Visit.ofNode n ∈ path := hpath.subset (by simp [hentered])
    rw [hsame hmem]

/-- A walk is a walk on every chart that shares its path. -/
theorem Loop.transfer {nodes : List NodeRecord} {links : List LinkRecord}
    (h : (Chart.build nodes links).SharesPath c' path) {p : Nat} {t : Turn Unit}
    (hloop : Loop (Chart.build nodes links) s p t) (hp : p ∈ (Chart.build nodes links).places)
    (hpath : t.state.path <+: path) : Loop c' s p t := by
  induction hloop with
  | @failed s p n e node answer =>
    obtain ⟨n', node', heq⟩ := step_of_sharesPath h hp node hpath
    rw [← heq] at answer ⊢
    exact .failed node' answer
  | @ended s p n node answer =>
    obtain ⟨n', node', heq⟩ := step_of_sharesPath h hp node hpath
    rw [← heq] at answer ⊢
    exact .ended node' answer
  | @onward s p n q rest node answer walk ih =>
    -- the path of the step is the beginning of the path of the whole walk
    obtain ⟨n', node', heq⟩ := step_of_sharesPath h hp node (walk.path_prefix.trans hpath)
    have hspec := step_spec s n
    rw [answer] at hspec
    obtain ⟨e, he, rfl⟩ := hspec.exit.child
    have hwalk := ih (Chart.child_mem_places hp node he) hpath
    rw [← heq] at answer hwalk ⊢
    exact .onward node' answer hwalk

end RunState

/-! ## Runs on charts of recoded records -/

section

variable {nodes nodes' : List NodeRecord} {links : List LinkRecord}

theorem Chart.entrance_recoded_id (h : List.Forall₂ NodeRecord.Recoded nodes nodes') :
    (Chart.build nodes' links).entrance = (Chart.build nodes links).entrance := by
  have hstarts : (Chart.build nodes' (links.map id)).starts = (Chart.build nodes links).starts :=
    Chart.starts_recoded h LinkRecord.relabels_id
  have hvalid : (Chart.build nodes' (links.map id)).isValid =
      (Chart.build nodes links).isValid := by
    apply Chart.isValid_recoded h LinkRecord.relabels_id
    intro k n n' hn hn'
    obtain ⟨m, hm, -, hchildren, hparents, hkind, -⟩ := Chart.find?_recoded_id h hn
    rw [List.map_id, hm] at hn'
    cases hn'
    rw [Node.violations_congr hkind hchildren hparents]
  rw [List.map_id] at hvalid hstarts
  exact RunState.entrance_congr hvalid hstarts

/-- A chart of recoded records shares every path on whose nodes the labels and the code are the
same. -/
theorem Chart.sharesPath_recoded (h : List.Forall₂ NodeRecord.Recoded nodes nodes')
    {path : List Visit}
    (hpath : ∀ v ∈ path, ∀ n n', (Chart.build nodes links).find? v.key = some n →
      (Chart.build nodes' links).find? v.key = some n' →
        n'.text = n.text ∧ n'.content.action? = n.content.action? ∧
          n'.content.condition? = n.content.condition?) :
    (Chart.build nodes links).SharesPath (Chart.build nodes' links) path := by
  intro p hp n hn
  have hfind := (Chart.wellFormed_build nodes links).find?_key hp hn
  obtain ⟨n', hfind', hkey, hchildren, hparents, hkind, hrole⟩ := Chart.find?_recoded_id h hfind
  refine ⟨n', (Chart.node?_recoded h links links hp hn).trans hfind', hkey, ?_⟩
  intro hmem
  obtain ⟨htext, haction, hcondition⟩ := hpath _ hmem n n' hfind hfind'
  have hcontent := Content.ext_of_fields hkind hrole haction hcondition
  cases n
  cases n'
  simp_all

end

/-- A run is decided by the nodes it passes.  If the records of two charts have the same keys, kinds
and roles, and the nodes on the path of a run on the first one have the same labels, actions and
conditions on the second one, then the run on the second one has the same result. -/
theorem simulate_of_same_on_path {nodes nodes' : List NodeRecord} {links : List LinkRecord}
    {env₀ : Env} {r : RunResult} (hrecords : List.Forall₂ NodeRecord.Recoded nodes nodes')
    (h : ((Chart.build nodes links).simulate env₀).answer = .ok r)
    (hpath : ∀ v ∈ r.path, ∀ n n', (Chart.build nodes links).find? v.key = some n →
      (Chart.build nodes' links).find? v.key = some n' →
        n'.text = n.text ∧ n'.content.action? = n.content.action? ∧
          n'.content.condition? = n.content.condition?) :
    ((Chart.build nodes' links).simulate env₀).answer = .ok r := by
  have hc := Chart.wellFormed_build nodes links
  have hentrance : (Chart.build nodes' links).entrance = (Chart.build nodes links).entrance :=
    Chart.entrance_recoded_id hrecords
  unfold Chart.simulate at h ⊢
  cases hstart : (Chart.build nodes links).entrance with
  | error e =>
    rw [RunState.run_of_error hstart] at h
    rw [RunState.run_of_error (hentrance.trans hstart)]
    exact h
  | ok p =>
    obtain ⟨t, hloop, hrun⟩ := RunState.run_eq_loop hc (RunState.consistent_start _ env₀) hstart
    obtain ⟨t', hloop', hrun'⟩ := RunState.run_eq_loop (Chart.wellFormed_build nodes' links)
      (RunState.consistent_start _ env₀) (hentrance.trans hstart)
    have hstate : t.state.path = r.path := by
      rw [RunState.path_of_run h, hrun, RunState.state_conclude]
    have hshares := Chart.sharesPath_recoded hrecords hpath
    have hwalk := hloop.transfer hshares (RunState.entrance_mem_places hstart)
      (hstate ▸ List.prefix_refl _)
    rw [hrun', hloop'.unique hwalk, ← hrun]
    exact h

/-- A chart that comes to its only action if `x` is positive. -/
def guardedNodes (label action : Text) : List NodeRecord :=
  [{ key := .int 1, kind := .state, text := "Start", role := some (.text "start") },
   { key := .int 2, kind := .decision, text := "Positive?", condition := some ("x > 0" : Text) },
   { key := .int 3, kind := .process, text := label, action },
   { key := .int 4, kind := .state, text := "End", role := some (.text "end") }]

/-- The links of that chart. -/
def guardedLinks : List LinkRecord :=
  [{ source := .int 1, target := .int 2 },
   { source := .int 2, target := .int 3, branch := some trueBranch },
   { source := .int 2, target := .int 4, branch := some falseBranch },
   { source := .int 3, target := .int 4 }]

/-- A run that goes by the action does not notice that it has become a numeral that is too long. -/
theorem simulate_of_same_on_path_guarded :
    ∃ r, ((Chart.build (guardedNodes "Reset" "x = 0") guardedLinks).simulate
        ⟨[("x", .int 0)]⟩).answer = .ok r ∧ r.completed = true ∧
      ((Chart.build (guardedNodes "Set" (longAssignment 4301)) guardedLinks).simulate
        ⟨[("x", .int 0)]⟩).answer = .ok r := by
  have hrecords : List.Forall₂ NodeRecord.Recoded (guardedNodes "Reset" "x = 0")
      (guardedNodes "Set" (longAssignment 4301)) :=
    .cons ⟨rfl, rfl, fun _ => rfl⟩ (.cons ⟨rfl, rfl, fun _ => rfl⟩
      (.cons ⟨rfl, rfl, fun _ => rfl⟩ (.cons ⟨rfl, rfl, fun _ => rfl⟩ .nil)))
  refine ⟨_, rfl, rfl, simulate_of_same_on_path hrecords rfl ?_⟩
  intro v hv n n' hn hn'
  have hkey : v.key = .int 1 ∨ v.key = .int 2 ∨ v.key = .int 4 := by
    cases hv with
    | head => exact .inl rfl
    | tail _ hv =>
      cases hv with
      | head => exact .inr (.inl rfl)
      | tail _ hv => exact .inr (.inr (List.mem_singleton.mp hv ▸ rfl))
  rcases hkey with hkey | hkey | hkey <;> rw [hkey] at hn hn' <;> cases hn <;> cases hn' <;>
    exact ⟨rfl, rfl, rfl⟩

end Flowchart
