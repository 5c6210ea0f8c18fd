import Flowchart.Proofs.Chart.Rules
import Flowchart.Proofs.Simulation.Trail

/-! # The path of a run, replayed from the records

The path that a run reports can be checked without the simulator.  `replay` performs the actions on
a path one after another; `Succeeds` says, in terms of the records, when one entry of a path may
stand behind another.  `simulate_path_sound` says that every path of a run passes this check, and
that the variables it ends with are those of the replay.
-/

namespace Flowchart

/-- The environment after the nodes on a path were passed. -/
def replay (env : Env) (path : List Visit) : Except LimitError Env :=
  path.foldlM (fun env v => v.perform env) env

/-- When an entry of a path stands behind another: they are joined by the only link that leaves the
first one, or, if that is a decision, by the only link with the label of its answer. -/
inductive Succeeds (nodes : List NodeRecord) (links : List LinkRecord) (env : Env) (v w : Visit) :
    Prop
  | branch {condition answer r n} (decision : v.content = .decision condition)
      (decided : Condition.evaluate condition env = .ok answer)
      (only : (outgoing nodes links v.key).filter (·.branch = some (answerLabel answer)) = [r])
      (target : (Chart.build nodes links).find? r.target = some n) (snapshot : w = Visit.ofNode n)
  | link {r n} (plain : v.content.kind ≠ .decision) (only : outgoing nodes links v.key = [r])
      (target : (Chart.build nodes links).find? r.target = some n) (snapshot : w = Visit.ofNode n)

/-! ## Trails -/

namespace Trail

variable {c : Chart} {env₀ env : Env} {path : List Visit} {p : Nat}

theorem replay_eq (h : Trail c env₀ path env p) : replay env₀ path = .ok env := by
  induction h with
  | start => rfl
  | pass _ _ _ performed _ ih =>
    rw [replay, List.foldlM_append, ← replay, ih]
    simp [bind, Except.bind, pure, Except.pure, performed]

theorem head {n : Node} (h : Trail c env₀ path env p) (node : c.node? p = some n) :
    ∃ q m, c.entrance = .ok q ∧ c.node? q = some m ∧
      (path ++ [Visit.ofNode n]).head? = some (Visit.ofNode m) := by
  induction h generalizing n with
  | start entrance => exact ⟨_, n, entrance, node, rfl⟩
  | pass _ node' _ _ _ ih =>
    obtain ⟨q, m, entrance, hm, hhead⟩ := ih node'
    refine ⟨q, m, entrance, hm, ?_⟩
    rw [List.head?_append, hhead]
    rfl

end Trail

/-! ## Exits -/

/-- Performing a node does not change where it leads. -/
theorem Node.Exit.before {n : Node} {env env' : Env} {q : Nat} (h : n.Exit env' q)
    (performed : (Visit.ofNode n).perform env = .ok env') : n.Exit env q := by
  cases h with
  | branch decision decided only =>
    rw [Visit.perform_of_decision decision] at performed
    cases performed
    exact .branch decision decided only
  | link plain inner first => exact .link plain inner first

variable {nodes : List NodeRecord} {links : List LinkRecord}

/-- An only child of a node in a built chart is the target of the only link it comes from. -/
theorem target_of_childrenOf {ls : List LinkRecord} {e : Child} {m : Node}
    (hls : ∀ r ∈ ls, (Chart.build nodes links).contains r.target = true)
    (he : (Chart.build nodes links).childrenOf ls = [e])
    (hm : (Chart.build nodes links).node? e.place = some m) :
    ∃ r, ls = [r] ∧ (Chart.build nodes links).find? r.target = some m := by
  obtain ⟨r, rfl, hr⟩ := Chart.eq_singleton_of_childrenOf hls he
  exact ⟨r, rfl, by rw [Chart.find?, hr]; exact hm⟩

/-- The exit of a node that keeps the rules is the target of its only link, or of the only link for
its answer. -/
theorem Node.Exit.succeeds {n m : Node} {env : Env} {q : Nat} (h : n.Exit env q)
    (hn : (Chart.build nodes links).find? n.key = some n) (hrules : n.violations = [])
    (hm : (Chart.build nodes links).node? q = some m) :
    Succeeds nodes links env (Visit.ofNode n) (Visit.ofNode m) := by
  have hchildren := Chart.children_build hn
  have htargets : ∀ r ∈ outgoing nodes links n.key,
      (Chart.build nodes links).contains r.target = true :=
    fun _ => Chart.contains_target_of_mem_outgoing nodes links
  cases h with
  | branch decision decided only =>
    rw [Node.branches, hchildren, Chart.filter_childrenOf] at only
    obtain ⟨e, he, rfl⟩ := List.map_eq_singleton_iff.mp only
    obtain ⟨r, hr, htarget⟩ := target_of_childrenOf
      (fun r hr => htargets r (List.mem_filter.mp hr).1) he hm
    exact .branch decision decided hr htarget rfl
  | link plain _ first =>
    -- the rules make the first child the only one
    obtain ⟨e, he, rfl⟩ := Option.map_eq_some_iff.mp first
    have hsingle : n.children = [e] := by
      have hlength := ((Node.violations_eq_nil_iff n).mp hrules).2.1 plain
      cases hcases : n.children with
      | nil => simp [hcases] at he
      | cons a rest =>
        rw [hcases] at he hlength
        cases he
        cases rest with
        | nil => rfl
        | cons b rest => simp at hlength
    rw [hchildren] at hsingle
    obtain ⟨r, hr, htarget⟩ := target_of_childrenOf htargets hsingle hm
    exact .link plain hr htarget rfl

/-! ## Paths of runs -/

/-- A trail on a built chart stays on current nodes. -/
theorem Trail.mem_places {env₀ env : Env} {path : List Visit} {p : Nat}
    (h : Trail (Chart.build nodes links) env₀ path env p) :
    p ∈ (Chart.build nodes links).places := by
  induction h with
  | start entrance => exact RunState.entrance_mem_places entrance
  | pass _ node _ _ exit ih =>
    obtain ⟨e, he, rfl⟩ := exit.child
    exact Chart.child_mem_places ih node he

theorem Trail.succeeds {env₀ env : Env} {path : List Visit} {p : Nat} {n : Node}
    (hrules : ∀ n ∈ (Chart.build nodes links).nodes, n.violations = [])
    (h : Trail (Chart.build nodes links) env₀ path env p)
    (node : (Chart.build nodes links).node? p = some n) {i : Nat} {v w : Visit}
    (hv : (path ++ [Visit.ofNode n])[i]? = some v)
    (hw : (path ++ [Visit.ofNode n])[i + 1]? = some w) :
    v.isEnd = false ∧ ∃ env', replay env₀ (path.take i) = .ok env' ∧
      Succeeds nodes links env' v w := by
  induction h generalizing n i with
  | start => simp at hw
  | @pass path env p m env' q trail node' _ performed exit ih =>
    by_cases hi : i < path.length
    · -- both entries stand in the trail as it was before its last node
      have hlen : i + 1 < (path ++ [Visit.ofNode m]).length := by
        simp only [List.length_append, List.length_singleton]
        omega
      rw [List.getElem?_append_left (by omega)] at hv
      rw [List.getElem?_append_left hlen] at hw
      rw [List.take_append_of_le_length (by omega)]
      exact ih node' hv hw
    -- otherwise they are the last node of the trail and the node it leads to
    · have hlast : i = path.length := by
        have := (List.getElem?_eq_some_iff.mp hw).1
        simp only [List.length_append, List.length_singleton] at this
        omega
      subst hlast
      obtain rfl : Visit.ofNode m = v := by simpa using hv
      obtain rfl : Visit.ofNode n = w := by simpa using hw
      have hmem : m ∈ (Chart.build nodes links).nodes :=
        Chart.mem_nodes.mpr ⟨p, trail.mem_places, node'⟩
      have hfind := (Chart.wellFormed_build nodes links).mem_nodes_iff.mp hmem
      refine ⟨exit.isEnd, env, ?_, (exit.before performed).succeeds hfind (hrules m hmem) node⟩
      rw [List.take_left]
      exact trail.replay_eq

/-- What the result of a run on a chart that is built from records shows about its path. -/
structure PathSound (nodes : List NodeRecord) (links : List LinkRecord) (env₀ : Env)
    (r : RunResult) : Prop where
  /-- The path begins at the only start state. -/
  head : ∃ n, (Chart.build nodes links).nodes.filter Node.isStart = [n] ∧
    r.path.head? = some (Visit.ofNode n)
  /-- Every entry but the last one leads on to the next one, with the variables that the actions
  before it leave behind. -/
  succeeds : ∀ i v w, r.path[i]? = some v → r.path[i + 1]? = some w →
    v.isEnd = false ∧ ∃ env, replay env₀ (r.path.take i) = .ok env ∧ Succeeds nodes links env v w
  /-- The run ends with the variables that all its actions leave behind. -/
  replays : replay env₀ r.path = .ok r.env

/-- The path of a run, however the run ends, is a way through the chart that the records allow, and
its actions account for the variables. -/
theorem simulate_path_sound (nodes : List NodeRecord) (links : List LinkRecord) (env₀ : Env)
    {r : RunResult} (h : ((Chart.build nodes links).simulate env₀).answer = .ok r)
    (hne : r.path ≠ []) : PathSound nodes links env₀ r := by
  have hc := Chart.wellFormed_build nodes links
  rcases Chart.simulate_trail hc h with ⟨e, -, rfl⟩ | ⟨⟨p, hp⟩, n, hreaches, -⟩
  · exact absurd rfl hne
  · have hlength := RunState.length_path_run_le hc (RunState.consistent_start _ env₀) h
    obtain ⟨path, env, q, trail, node, -, performed, hpath⟩ := hreaches
    refine ⟨?_, ?_, ?_⟩
    · obtain ⟨start, m, hentrance, hm, hhead⟩ := trail.head node
      refine ⟨m, ?_, by rw [hpath, hhead]⟩
      rw [Chart.filter_isStart_nodes, (RunState.entrance_ok hentrance).2]
      simp [hm]
    · intro i v w hv hw
      -- a chart with one key has not been checked, but a path on it has only one entry
      have hlt := (List.getElem?_eq_some_iff.mp hw).1
      have hrules := ((Chart.isValid_iff _).mp (RunState.entrance_ok hp).1).resolve_left
        (by omega)
      rw [hpath] at hv hw ⊢
      have hlast : i ≤ path.length := by
        have := (List.getElem?_eq_some_iff.mp hw).1
        simp only [List.length_append, List.length_singleton] at this
        omega
      rw [List.take_append_of_le_length hlast]
      exact trail.succeeds hrules.1 node hv hw
    · rw [hpath, replay, List.foldlM_append, ← replay, trail.replay_eq]
      simp [bind, Except.bind, pure, Except.pure, performed]

/-- A chart that counts a variable down and leads back while it is positive. -/
def countdownNodes : List NodeRecord :=
  [{ key := .int 1, kind := .state, text := "Start", role := some (.text "start") },
   { key := .int 2, kind := .process, text := "Decrease", action := some ("x - 1" : Text) },
   { key := .int 3, kind := .decision, text := "More?", condition := some ("x > 0" : Text) },
   { key := .int 4, kind := .state, text := "End", role := some (.text "end") }]

/-- The links of that chart. -/
def countdownLinks : List LinkRecord :=
  [{ source := .int 1, target := .int 2 }, { source := .int 2, target := .int 3 },
   { source := .int 3, target := .int 2, branch := some trueBranch },
   { source := .int 3, target := .int 4, branch := some falseBranch }]

/-- A run that leads back to a node it has passed stops there, and has a sound path. -/
theorem simulate_path_sound_countdown :
    ∃ r, ((Chart.build countdownNodes countdownLinks).simulate ⟨[("x", .int 5)]⟩).answer = .ok r ∧
      r.error = some .loop ∧ r.path.length = 3 ∧
      PathSound countdownNodes countdownLinks ⟨[("x", .int 5)]⟩ r :=
  ⟨_, rfl, rfl, rfl, simulate_path_sound _ _ _ rfl (List.cons_ne_nil _ _)⟩

end Flowchart
