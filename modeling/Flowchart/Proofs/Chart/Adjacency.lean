import Flowchart.Proofs.Chart.Order

/-! # The chart of a list of records

`find?_build` says what a chart holds under one key.  Here the chart is described as a whole:
`Chart.Holds` says which keys it has and in which order, which record each node comes from, which
links it lists, and that the children and the parents of a node are the listed links that leave it
and lead to it.  What is counted in different ways then comes out the same, and the links that were
left out could as well not have been there.
-/

namespace Flowchart

/-- A node without its links. -/
def Node.unlinked (n : Node) : Node :=
  { n with children := [], parents := [] }

@[simp] theorem Node.unlinked_linked_ofRecord (r : NodeRecord) (cs : List Child) (ps : List Key) :
    ((Node.ofRecord r).linked cs ps).unlinked = Node.ofRecord r := rfl

/-- The chart is what the records say.  Keys stand in the order of their first records, and each
leads to the node of its last record; of the links those with both ends are listed, in order; and
the children and parents of a node are told by the listed links, in order.  A child is given by its
place, so that it is the current node of its key and not one that was replaced. -/
structure Chart.Holds (c : Chart) (nodes : List NodeRecord) (links : List LinkRecord) : Prop where
  keys : c.keys = (nodes.map (·.key)).eraseDupsBy Key.same
  nodes : List.Forall₂ (fun k n => (lastRecord nodes k).map Node.ofRecord = some n.unlinked)
    c.keys c.nodes
  links : c.links = links.filter fun r => c.contains r.source && c.contains r.target
  children : ∀ n ∈ c.nodes, n.children.map (fun e => (some e.place, e.branch)) =
    (c.links.filter (·.source.same n.key)).map fun r => (c.place? r.target, r.branch)
  parents : ∀ n ∈ c.nodes, n.parents.map some =
    (c.links.filter (·.target.same n.key)).map fun r => (c.find? r.source).map (·.key)

/-! ## Links sorted by keys -/

/-- Sorting links by the keys they leave loses none and lists none twice. -/
theorem Key.Distinct.length_flatMap_filter {ks : List Key} (h : Key.Distinct ks)
    {ls : List LinkRecord} (hls : ∀ r ∈ ls, r.source.isIn ks = true) :
    (ks.flatMap fun k => ls.filter (·.source.same k)).length = ls.length := by
  induction ks generalizing ls with
  | nil =>
    cases ls with
    | nil => rfl
    | cons r ls => cases hls r List.mem_cons_self
  | cons k ks ih =>
    obtain ⟨hhead, htail⟩ := List.pairwise_cons.mp h
    -- the links that leave the other keys are among those that do not leave the first
    have hrest : ∀ k' ∈ ks, (ls.filter (!·.source.same k)).filter (·.source.same k') =
        ls.filter (·.source.same k') := by
      intro k' hk'
      rw [List.filter_filter]
      apply List.filter_congr
      intro r _
      cases hr : r.source.same k' with
      | false => rfl
      | true =>
        rw [Key.same_congr_left hr, Key.same_comm, hhead k' hk']
        rfl
    have hmem : ∀ r ∈ ls.filter (!·.source.same k), r.source.isIn ks = true := by
      intro r hr
      obtain ⟨hr, hne⟩ := List.mem_filter.mp hr
      have := hls r hr
      rw [Key.isIn_cons, Key.same_comm, Bool.or_eq_true] at this
      exact this.resolve_left (by simpa using hne)
    rw [List.flatMap_cons, List.length_append, ← List.flatMap_congr hrest, ih htail hmem,
      ← List.length_eq_length_filter_add]

namespace Chart

/-! ## Keys and nodes -/

/-- Placing nodes puts the keys that are new behind the others, in the order of first use. -/
theorem keys_addAll (c : Chart) (rs : List NodeRecord) :
    (c.addAll rs).keys =
      c.keys ++ ((rs.map (·.key)).filter (!·.isIn c.keys)).eraseDupsBy Key.same := by
  induction rs generalizing c with
  | nil => simp [addAll]
  | cons r rs ih =>
    have hstep : (c.addAll (r :: rs)).keys = ((c.add (Node.ofRecord r)).addAll rs).keys := rfl
    have hadd : (c.add (Node.ofRecord r)).keys =
        if r.key.isIn c.keys then c.keys else c.keys ++ [r.key] := keys_add c (Node.ofRecord r)
    rw [hstep, ih, hadd, List.map_cons]
    by_cases hr : r.key.isIn c.keys = true
    · simp [hr]
    · -- the key is new, and is left out of what comes behind it
      have hbehind : ∀ k : Key, (!k.isIn (c.keys ++ [r.key])) =
          (decide (k.same r.key = false) && !k.isIn c.keys) := by
        intro k
        rw [Key.isIn_append, Key.isIn_cons, Key.same_comm]
        cases k.same r.key <;> simp
      simp only [hr, Bool.false_eq_true, if_false, hbehind]
      simp [hr, List.eraseDupsBy_cons, List.filter_filter]

theorem keys_build (nodes : List NodeRecord) (links : List LinkRecord) :
    (build nodes links).keys = (nodes.map (·.key)).eraseDupsBy Key.same := by
  rw [keys, index_build, ← keys, keys_addAll]
  simp [empty, keys]

/-- The nodes of a chart, one for each key. -/
theorem WellFormed.forall₂_nodes {c : Chart} (hc : c.WellFormed) :
    List.Forall₂ (fun k n => c.find? k = some n) c.keys c.nodes := by
  have hfound : ∀ k ∈ c.keys, ∃ n, c.find? k = some n := by
    intro k hk
    rw [← Option.isSome_iff_exists, hc.find?_isSome, contains_eq_isIn]
    exact Key.isIn_of_mem hk
  rw [nodes_eq_filterMap hc]
  generalize c.keys = ks at hfound
  induction ks with
  | nil => exact .nil
  | cons k ks ih =>
    obtain ⟨n, hn⟩ := hfound k List.mem_cons_self
    rw [List.filterMap_cons_some hn]
    exact .cons hn (ih fun k' hk' => hfound k' (List.mem_cons_of_mem _ hk'))

/-! ## Children and parents -/

theorem map_childrenOf {c : Chart} {ls : List LinkRecord}
    (h : ∀ r ∈ ls, c.contains r.target = true) :
    (c.childrenOf ls).map (fun e => (some e.place, e.branch)) =
      ls.map fun r => (c.place? r.target, r.branch) := by
  induction ls with
  | nil => rfl
  | cons r ls ih =>
    obtain ⟨t, ht⟩ := Option.isSome_iff_exists.mp (h r List.mem_cons_self)
    have ih := ih fun r' hr' => h r' (List.mem_cons_of_mem _ hr')
    simp only [childrenOf] at ih ⊢
    simp [ht, ih]

theorem WellFormed.map_parentsOf {c : Chart} (hc : c.WellFormed) {ls : List LinkRecord}
    (h : ∀ r ∈ ls, c.contains r.source = true) :
    (c.parentsOf ls).map some = ls.map fun r => (c.find? r.source).map (·.key) := by
  induction ls with
  | nil => rfl
  | cons r ls ih =>
    have hsource := h r List.mem_cons_self
    rw [← hc.find?_isSome] at hsource
    obtain ⟨n, hn⟩ := Option.isSome_iff_exists.mp hsource
    have ih := ih fun r' hr' => h r' (List.mem_cons_of_mem _ hr')
    simp only [parentsOf] at ih ⊢
    simp [hn, ih]

/-! ## Links that were left out -/

theorem contains_linkIfPossible (c : Chart) (r : LinkRecord) (k : Key) :
    (c.linkIfPossible r).contains k = c.contains k := by
  rw [contains, contains, place?_of_index (index_linkIfPossible c r)]

/-- Links that cannot be made make no difference. -/
theorem linkAll_filter (c : Chart) (ls : List LinkRecord) :
    (c.linkAll (ls.filter fun r => c.contains r.source && c.contains r.target)).1 =
      (c.linkAll ls).1 := by
  induction ls generalizing c with
  | nil => rfl
  | cons r ls ih =>
    have ih := ih (c.linkIfPossible r)
    simp only [contains_linkIfPossible] at ih
    rw [linkAll_cons, ← ih, List.filter_cons]
    split
    · rw [linkAll_cons]
    · rename_i hends
      have hnone : c.link r = none := by
        rw [← Option.not_isSome_iff_eq_none, link_isSome]
        exact hends
      rw [linkIfPossible, hnone]
      rfl

/-! ## The chart as a whole -/

variable (nodes : List NodeRecord) (links : List LinkRecord)

theorem links_build_filter (k : Key) :
    (build nodes links).links.filter (·.source.same k) = outgoing nodes links k ∧
      (build nodes links).links.filter (·.target.same k) = incoming nodes links k := by
  rw [links_build, List.filter_filter, List.filter_filter, outgoing, incoming]
  simp only [Bool.and_comm, and_self]

theorem holds_build : (build nodes links).Holds nodes links where
  keys := keys_build nodes links
  nodes := by
    refine (wellFormed_build nodes links).forall₂_nodes.imp fun k n hn => ?_
    rw [find?_build] at hn
    obtain ⟨r, hr, rfl⟩ := Option.map_eq_some_iff.mp hn
    rw [hr, Node.unlinked_linked_ofRecord]
    rfl
  links := by
    simp only [contains_build]
    exact links_build nodes links
  children := by
    intro n hn
    have hfind := (wellFormed_build nodes links).mem_nodes_iff.mp hn
    rw [(links_build_filter nodes links n.key).1, children_build hfind]
    exact map_childrenOf fun r => contains_target_of_mem_outgoing nodes links
  parents := by
    intro n hn
    have hc := wellFormed_build nodes links
    have hfind := hc.mem_nodes_iff.mp hn
    rw [find?_build] at hfind
    obtain ⟨r, -, hr⟩ := Option.map_eq_some_iff.mp hfind
    rw [(links_build_filter nodes links n.key).2, ← congrArg Node.parents hr]
    refine hc.map_parentsOf fun r hr => ?_
    have hkept := (List.mem_filter.mp hr).2
    simp only [LinkRecord.isKept, Bool.and_eq_true] at hkept
    rw [contains_build]
    exact hkept.1.1

variable {nodes links} {c : Chart}

theorem Holds.contains_ends (h : c.Holds nodes links) {r : LinkRecord} (hr : r ∈ c.links) :
    c.contains r.source = true ∧ c.contains r.target = true := by
  rw [h.links] at hr
  exact Bool.and_eq_true_iff.mp (List.mem_filter.mp hr).2

/-- The links that leave the nodes of a chart are those it lists. -/
theorem Holds.linkCount_eq (h : c.Holds nodes links) (hc : c.WellFormed) :
    c.linkCount = c.links.length := by
  have hsource : ∀ r ∈ c.links, r.source.isIn c.keys = true := by
    intro r hr
    rw [← contains_eq_isIn]
    exact (h.contains_ends hr).1
  -- key by key, the children of a node are as many as the listed links that leave its key
  have hlengths : (c.keys.map fun k => (c.links.filter (·.source.same k)).length) =
      c.nodes.map (·.children.length) := by
    rw [← List.forall₂_eq_eq_eq, List.forall₂_map_left_iff, List.forall₂_map_right_iff]
    refine hc.forall₂_nodes.imp fun k n hn => ?_
    obtain ⟨p, hp, hnode, hkey⟩ := hc.node_of_find? hn
    have hchildren := congrArg List.length (h.children n (mem_nodes.mpr ⟨p, hp, hnode⟩))
    rw [List.length_map, List.length_map] at hchildren
    have hsame : ∀ r : LinkRecord, r.source.same n.key = r.source.same k := fun r => by
      rw [Key.same_comm, Key.same_congr_left hkey, Key.same_comm]
    rw [hchildren]
    simp only [hsame]
  rw [← hc.keys_distinct.length_flatMap_filter hsource, linkCount, List.length_flatMap,
    List.length_flatMap, hlengths]

/-- The parents of a node with a given key are the listed links from that key to the node. -/
theorem Holds.count_parents (h : c.Holds nodes links) (hc : c.WellFormed) {n : Node}
    (hn : n ∈ c.nodes) (k : Key) :
    n.parents.countP (·.same k) =
      c.links.countP fun r => r.source.same k && r.target.same n.key := by
  have hmap : n.parents.countP (·.same k) =
      (n.parents.map some).countP fun j => j.any (·.same k) := by
    rw [List.countP_map]
    rfl
  rw [hmap, h.parents n hn, List.countP_map, ← List.countP_filter]
  apply List.countP_congr
  intro r hr
  -- the node of a source may have another spelling of its key
  have hsource := (h.contains_ends (List.mem_filter.mp hr).1).1
  rw [← hc.find?_isSome] at hsource
  obtain ⟨m, hm⟩ := Option.isSome_iff_exists.mp hsource
  obtain ⟨-, -, -, hkey⟩ := hc.node_of_find? hm
  simp [hm, Key.same_congr_left hkey]

/-- The children of a node that are the node of a given key are the listed links to that key. -/
theorem Holds.count_children (h : c.Holds nodes links) (hc : c.WellFormed) {p : Node}
    (hp : p ∈ c.nodes) (k : Key) :
    (p.children.countP fun e => c.place? k = some e.place) =
      c.links.countP fun r => r.source.same p.key && r.target.same k := by
  have hmap : (p.children.countP fun e => c.place? k = some e.place) =
      (p.children.map fun e => (some e.place, e.branch)).countP fun e => c.place? k = e.1 := by
    rw [List.countP_map]
    rfl
  rw [hmap, h.children p hp, List.countP_map, List.countP_filter]
  apply List.countP_congr
  intro r hr
  obtain ⟨t, ht⟩ := Option.isSome_iff_exists.mp (h.contains_ends hr).2
  simp [ht, hc.place?_eq_iff ht, Key.same_comm k, and_comm]

end Chart

/-- The chart of a list of records is what the records say, whatever they are: with repeated keys,
with links that lead nowhere, with links from a node to itself or several between the same nodes.
The children of its nodes are as many as the links it lists; a node has another one as a parent as
often as it is a child of that one; and the links it lists make the same chart. -/
theorem build_exact (nodes : List NodeRecord) (links : List LinkRecord) :
    (Chart.build nodes links).Holds nodes links ∧
    (Chart.build nodes links).linkCount = (Chart.build nodes links).links.length ∧
    (∀ n ∈ (Chart.build nodes links).nodes, ∀ p ∈ (Chart.build nodes links).nodes,
      n.parents.countP (·.same p.key) =
        p.children.countP fun e => (Chart.build nodes links).place? n.key = some e.place) ∧
    Chart.build nodes (Chart.build nodes links).links = Chart.build nodes links := by
  have hholds := Chart.holds_build nodes links
  have hc := Chart.wellFormed_build nodes links
  refine ⟨hholds, hholds.linkCount_eq hc, ?_, ?_⟩
  · intro n hn p hp
    rw [hholds.count_parents hc hn, hholds.count_children hc hp]
  · have hlinks : (Chart.build nodes links).links = links.filter fun r =>
        (Chart.empty.addAll nodes).contains r.source &&
          (Chart.empty.addAll nodes).contains r.target := by
      simp only [Chart.contains_addAll]
      exact Chart.links_build nodes links
    rw [hlinks]
    exact Chart.linkAll_filter (Chart.empty.addAll nodes) links

-- a key keeps its first spelling, and its node comes from the last record
example :
    let c := Chart.build [{ key := .bool true, kind := .generic }, { key := .int 2, kind := .state },
      { key := .int 1, kind := .decision }] [{ source := .int 1, target := .int 3 }]
    c.keys = [.bool true, .int 2] ∧ c.nodes.map (·.kind) = [.decision, .state] ∧ c.links = [] := by
  decide

end Flowchart
