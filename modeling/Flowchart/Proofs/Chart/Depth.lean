import Flowchart.Chart.Measure
import Flowchart.Proofs.Chart.Store

/-! # The depth of a chart

`maxDepth` searches all ways from the start on which no key is repeated, and bounds their length by
its fuel.  `Way` is a way without a bound.  The bound is never met, since a way without a repeated
key has at most as many nodes as the chart has keys; so the depth is the number of nodes on a
longest such way.
-/

namespace Flowchart.Chart

variable {c : Chart}

/-- The nodes on a way from a place along links. -/
inductive Way (c : Chart) : Nat → List Node → Prop
  | stop {p n} (node : c.node? p = some n) : Way c p [n]
  | follow {p n e ns} (node : c.node? p = some n) (child : e ∈ n.children)
      (way : Way c e.place ns) : Way c p (n :: ns)

theorem Way.head {p : Nat} {ns : List Node} (h : c.Way p ns) :
    ∃ n rest, c.node? p = some n ∧ ns = n :: rest := by
  cases h with
  | stop node => exact ⟨_, _, node, rfl⟩
  | follow node _ _ => exact ⟨_, _, node, rfl⟩

theorem Way.isIn_keys (hc : c.WellFormed) {p : Nat} {ns : List Node} (h : c.Way p ns) :
    ∀ n ∈ ns, n.key.isIn c.keys = true := by
  induction h with
  | stop node =>
    intro m hm
    rw [List.mem_singleton.mp hm]
    exact hc.keyed _ _ node
  | follow node _ _ ih =>
    intro m hm
    cases hm with
    | head => exact hc.keyed _ _ node
    | tail _ hm => exact ih m hm

theorem Way.length_le_size (hc : c.WellFormed) {p : Nat} {ns : List Node} (h : c.Way p ns)
    (hkeys : Key.Distinct (ns.map (·.key))) : ns.length ≤ c.size := by
  rw [← List.length_map (·.key)]
  apply Chart.length_le_size hkeys
  intro k hk
  obtain ⟨n, hn, rfl⟩ := List.mem_map.mp hk
  exact h.isIn_keys hc n hn

/-! ## The search -/

/-- The depth that a search finds beyond a link. -/
def depthBeyond (c : Chart) (fuel : Nat) (onPath : List Key) (e : Child) : Nat :=
  match c.node? e.place with
  | none => 0
  | some m => if m.key.isIn onPath then 0 else c.depthFrom fuel (m.key :: onPath) e.place

theorem depthBeyond_of_fresh {fuel : Nat} {onPath : List Key} {e : Child} {m : Node}
    (node : c.node? e.place = some m) (fresh : m.key.isIn onPath = false) :
    c.depthBeyond fuel onPath e = c.depthFrom fuel (m.key :: onPath) e.place := by
  simp [depthBeyond, node, fresh]

theorem fresh_of_depthBeyond {fuel : Nat} {onPath : List Key} {e : Child}
    (h : c.depthBeyond fuel onPath e ≠ 0) :
    ∃ m, c.node? e.place = some m ∧ m.key.isIn onPath = false := by
  cases hm : c.node? e.place with
  | none => simp [depthBeyond, hm] at h
  | some m =>
    by_cases hon : m.key.isIn onPath = true
    · simp [depthBeyond, hm, hon] at h
    · exact ⟨m, rfl, by simpa using hon⟩

theorem depthFrom_succ {fuel p : Nat} {onPath : List Key} {n : Node} (node : c.node? p = some n) :
    c.depthFrom (fuel + 1) onPath p =
      1 + (n.children.map (c.depthBeyond fuel onPath)).foldl max 0 := by
  simp only [depthFrom, node, List.foldl_map]
  congr 2
  funext best e
  cases hm : c.node? e.place with
  | none => simp [depthBeyond, hm]
  | some m => by_cases hon : m.key.isIn onPath = true <;> simp [depthBeyond, hm, hon]

/-- The greatest of the depths beyond the links of a node is that beyond one of them, if it is not
zero. -/
theorem foldl_max_spec (ds : List Nat) :
    ds.foldl max 0 ∈ 0 :: ds ∧ ∀ d ∈ ds, d ≤ ds.foldl max 0 := by
  have hmax : (0 :: ds).max? = some (ds.foldl max 0) := List.max?_cons'
  obtain ⟨hmem, hle⟩ := List.max?_eq_some_iff.mp hmax
  exact ⟨hmem, fun d hd => hle d (List.mem_cons_of_mem _ hd)⟩

/-- The search misses no way that its fuel allows. -/
theorem Way.length_le_depthFrom {p : Nat} {ns : List Node} (h : c.Way p ns) {fuel : Nat}
    {onPath : List Key} (hkeys : Key.Distinct (ns.map (·.key)))
    (havoid : ∀ m ∈ ns.tail, m.key.isIn onPath = false) (enough : ns.length ≤ fuel) :
    ns.length ≤ c.depthFrom fuel onPath p := by
  -- the search remembers the keys of the way so far, which is why the way must not repeat one
  induction h generalizing fuel onPath with
  | stop node =>
    obtain ⟨fuel, rfl⟩ : ∃ k, fuel = k + 1 := ⟨fuel - 1, by simp at enough; omega⟩
    rw [depthFrom_succ node]
    simp
  | @follow p n e ns node child way ih =>
    obtain ⟨fuel, rfl⟩ : ∃ k, fuel = k + 1 := ⟨fuel - 1, by simp at enough; omega⟩
    obtain ⟨m, rest, hm, rfl⟩ := way.head
    have hdistinct := (List.pairwise_cons.mp hkeys).2
    have hfresh : m.key.isIn onPath = false := havoid m List.mem_cons_self
    have hrest : (m :: rest).length ≤ c.depthBeyond fuel onPath e := by
      rw [depthBeyond_of_fresh hm hfresh]
      apply ih hdistinct
      · intro x hx
        have hsame : m.key.same x.key = false :=
          (List.pairwise_cons.mp hdistinct).1 _ (List.mem_map_of_mem hx)
        simp [hsame, havoid x (List.mem_cons_of_mem _ hx)]
      · simpa using enough
    have hmax := (foldl_max_spec (n.children.map (c.depthBeyond fuel onPath))).2 _
      (List.mem_map_of_mem child)
    rw [depthFrom_succ node, List.length_cons]
    omega

/-- What the search finds is the length of a way without a repeated key. -/
theorem exists_way_depthFrom {fuel : Nat} {onPath : List Key} {p : Nat}
    (hon : ∀ n, c.node? p = some n → n.key.isIn onPath = true) (h : c.depthFrom fuel onPath p ≠ 0) :
    ∃ ns, c.Way p ns ∧ ns.length = c.depthFrom fuel onPath p ∧ Key.Distinct (ns.map (·.key)) ∧
      ∀ m ∈ ns.tail, m.key.isIn onPath = false := by
  induction fuel generalizing onPath p with
  | zero => exact absurd rfl h
  | succ fuel ih =>
    cases node : c.node? p with
    | none => simp [depthFrom, node] at h
    | some n =>
      obtain ⟨hmem, -⟩ := foldl_max_spec (n.children.map (c.depthBeyond fuel onPath))
      rw [depthFrom_succ node]
      by_cases hzero : (n.children.map (c.depthBeyond fuel onPath)).foldl max 0 = 0
      · refine ⟨[n], .stop node, ?_, List.pairwise_singleton _ _, ?_⟩
        · simp [hzero]
        · simp
      · -- the greatest depth is found beyond some link, and the way goes on there
        obtain ⟨e, he, hdepth⟩ := List.mem_map.mp ((List.mem_cons.mp hmem).resolve_left hzero)
        rw [← hdepth] at hzero ⊢
        obtain ⟨m, hm, hfresh⟩ := fresh_of_depthBeyond hzero
        rw [depthBeyond_of_fresh hm hfresh] at hzero ⊢
        obtain ⟨ns, hway, hlength, hdistinct, havoid⟩ := ih (by simp [hm]) hzero
        obtain ⟨m', rest, hm', rfl⟩ := hway.head
        obtain rfl : m = m' := Option.some.inj (hm.symm.trans hm')
        have hfar : ∀ x ∈ m :: rest, x.key.isIn onPath = false := by
          intro x hx
          cases hx with
          | head => exact hfresh
          | tail _ hx =>
            have := havoid x hx
            simp_all
        refine ⟨n :: m :: rest, .follow node he hway, ?_, ?_, hfar⟩
        · rw [← hlength, List.length_cons]
          omega
        · refine List.pairwise_cons.mpr ⟨?_, hdistinct⟩
          intro k hk
          obtain ⟨x, hx, rfl⟩ := List.mem_map.mp hk
          exact Key.not_same_of_isIn (hon n node) (hfar x hx)

/-- A way from the start on which no key is repeated has at most as many nodes as the depth says. -/
theorem Way.length_le_maxDepth (hc : c.WellFormed) {start : Nat} {rest : List Nat}
    (hstarts : c.starts = start :: rest) {ns : List Node} (h : c.Way start ns)
    (hkeys : Key.Distinct (ns.map (·.key))) : ns.length ≤ c.maxDepth := by
  obtain ⟨n, ms, node, rfl⟩ := h.head
  simp only [maxDepth, hstarts, node]
  apply h.length_le_depthFrom hkeys
  · intro m hm
    have hsame : n.key.same m.key = false :=
      (List.pairwise_cons.mp hkeys).1 _ (List.mem_map_of_mem hm)
    simp [hsame]
  · exact h.length_le_size hc hkeys

/-- The depth is the length of some way from the start on which no key is repeated. -/
theorem exists_way_maxDepth (h : c.maxDepth ≠ 0) :
    ∃ start rest ns, c.starts = start :: rest ∧ c.Way start ns ∧
      Key.Distinct (ns.map (·.key)) ∧ ns.length = c.maxDepth := by
  unfold maxDepth at h ⊢
  cases hstarts : c.starts with
  | nil => simp [hstarts] at h
  | cons start rest =>
    cases node : c.node? start with
    | none => simp [hstarts, node] at h
    | some n =>
      simp only [hstarts, node] at h ⊢
      have hon : ∀ m, c.node? start = some m → m.key.isIn [n.key] = true := by simp [node]
      obtain ⟨ns, hway, hlength, hdistinct, -⟩ := exists_way_depthFrom hon h
      exact ⟨start, rest, ns, rfl, hway, hdistinct, hlength⟩

/-- The depth is at most the number of keys, because a longest way repeats none. -/
theorem maxDepth_le_size (hc : c.WellFormed) : c.maxDepth ≤ c.size := by
  by_cases hzero : c.maxDepth = 0
  · omega
  · obtain ⟨start, rest, ns, -, hway, hkeys, hlength⟩ := exists_way_maxDepth hzero
    rw [← hlength]
    exact hway.length_le_size hc hkeys

end Flowchart.Chart
