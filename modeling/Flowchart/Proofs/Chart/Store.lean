import Flowchart.Chart.Lemmas
import Flowchart.Proofs.Key

/-! # The store behind a chart

Nodes are never taken away, and a key always leads to a node of that key, even after the node it
led to before was replaced.  `Chart.WellFormed` says so; every operation on charts keeps it.  It is
what makes a place reached by links a place of some node, whose key is in use.
-/

namespace Flowchart

/-- A node with more links and more parents. -/
def Node.linked (n : Node) (children : List Child) (parents : List Key) : Node :=
  { n with children := n.children ++ children, parents := n.parents ++ parents }

namespace Chart

/-! ## Looking up keys -/

theorem contains_eq_isIn (c : Chart) (k : Key) : c.contains k = k.isIn c.keys := by
  rw [Bool.eq_iff_iff]
  simp [contains, place?, Key.isIn, keys]

theorem place?_congr {a b : Key} (h : a.same b = true) (c : Chart) : c.place? a = c.place? b := by
  have hab : ∀ k : Key, k.same a = k.same b := fun k => by
    rw [Key.same_comm k a, Key.same_comm k b, Key.same_congr_left h]
  simp [place?, hab]

theorem mem_index_of_place? {c : Chart} {k : Key} {p : Nat} (h : c.place? k = some p) :
    ∃ k', (k', p) ∈ c.index ∧ k'.same k = true := by
  obtain ⟨⟨k', p'⟩, hfind, rfl⟩ := Option.map_eq_some_iff.mp h
  exact ⟨k', List.mem_of_find?_eq_some hfind, by simpa using List.find?_some hfind⟩

theorem mem_places_of_place? {c : Chart} {k : Key} {p : Nat} (h : c.place? k = some p) :
    p ∈ c.places := by
  obtain ⟨k', hmem, -⟩ := mem_index_of_place? h
  exact List.mem_map_of_mem hmem

theorem mem_nodes {c : Chart} {n : Node} :
    n ∈ c.nodes ↔ ∃ p ∈ c.places, c.node? p = some n := by
  simp [nodes]

/-- The start states are the nodes at the places where a run can start. -/
theorem filter_isStart_nodes (c : Chart) :
    c.nodes.filter Node.isStart = c.starts.filterMap c.node? := by
  unfold nodes starts
  induction c.places with
  | nil => rfl
  | cons p ps ih =>
    cases hn : c.node? p with
    | none => simp [hn, ih]
    | some n => by_cases hstart : n.isStart = true <;> simp [hn, hstart, ih]

theorem length_filter_isStart_nodes (c : Chart) :
    (c.nodes.filter Node.isStart).length = c.starts.length := by
  rw [filter_isStart_nodes, List.filterMap_length_eq_length]
  intro p hp
  have hstart := (List.mem_filter.mp hp).2
  cases hn : c.node? p with
  | none => simp [hn] at hstart
  | some n => rfl

theorem lt_of_node? {c : Chart} {p : Nat} {n : Node} (h : c.node? p = some n) :
    p < c.placed.length :=
  (List.getElem?_eq_some_iff.mp h).1

theorem node?_of_lt {c : Chart} {p : Nat} (h : p < c.placed.length) : ∃ n, c.node? p = some n :=
  ⟨c.placed[p], List.getElem?_eq_getElem h⟩

theorem mem_setPlace {k k' : Key} {p p' : Nat} {index : List (Key × Nat)}
    (h : (k', p') ∈ setPlace k p index) : (k', p') ∈ index ∨ p' = p ∧ k'.same k = true := by
  induction index with
  | nil =>
    simp only [setPlace, List.mem_singleton, Prod.mk.injEq] at h
    exact Or.inr ⟨h.2, by rw [h.1]; exact Key.same_refl k⟩
  | cons e index ih =>
    obtain ⟨a, q⟩ := e
    by_cases ha : a.same k = true
    · simp only [setPlace, ha, if_true, List.mem_cons, Prod.mk.injEq] at h
      rcases h with ⟨rfl, rfl⟩ | h
      · exact Or.inr ⟨rfl, ha⟩
      · exact Or.inl (List.mem_cons_of_mem _ h)
    · simp only [setPlace, ha, Bool.false_eq_true, if_false, List.mem_cons] at h
      rcases h with h | h
      · exact Or.inl (by rw [h]; exact List.mem_cons_self)
      · exact (ih h).imp_left (List.mem_cons_of_mem _)

theorem place?_of_mem_index {c : Chart} (hc : Key.Distinct c.keys) {k : Key} {p : Nat}
    (h : (k, p) ∈ c.index) : c.place? k = some p := by
  obtain ⟨placed, index, links⟩ := c
  simp only [keys, place?] at *
  induction index with
  | nil => cases h
  | cons e index ih =>
    -- an entry further back is not hidden by the first one, which has a different key
    obtain ⟨hhead, htail⟩ := List.pairwise_cons.mp hc
    rcases List.mem_cons.mp h with rfl | h
    · simp
    · have hne : e.1.same k = false := hhead k (List.mem_map_of_mem h)
      simpa [List.find?_cons, hne] using ih htail h

theorem length_le_size {c : Chart} {ks : List Key} (h : Key.Distinct ks)
    (hks : ∀ k ∈ ks, k.isIn c.keys = true) : ks.length ≤ c.size := by
  simpa [keys, size] using h.length_le hks

/-! ## The invariant -/

/-- What holds of every chart that was made by the operations on charts. -/
structure WellFormed (c : Chart) : Prop where
  keys_distinct : Key.Distinct c.keys
  /-- A key leads to a node of that key. -/
  current : ∀ k p, (k, p) ∈ c.index → ∃ n, c.node? p = some n ∧ n.key.same k = true
  /-- Nodes that were replaced have their keys in use as well. -/
  keyed : ∀ p n, c.node? p = some n → n.key.isIn c.keys = true
  /-- Links lead to nodes. -/
  led : ∀ p n, c.node? p = some n → ∀ e ∈ n.children, e.place < c.placed.length

namespace WellFormed

variable {c : Chart}

theorem node_of_place? (hc : c.WellFormed) {k : Key} {p : Nat} (h : c.place? k = some p) :
    ∃ n, c.node? p = some n ∧ n.key.same k = true := by
  obtain ⟨k', hmem, hk⟩ := mem_index_of_place? h
  obtain ⟨n, hn, hkey⟩ := hc.current k' p hmem
  exact ⟨n, hn, Key.same_trans hkey hk⟩

theorem lt_of_place? (hc : c.WellFormed) {k : Key} {p : Nat} (h : c.place? k = some p) :
    p < c.placed.length := by
  obtain ⟨n, hn, -⟩ := hc.node_of_place? h
  exact lt_of_node? hn

theorem same_of_place? (hc : c.WellFormed) {a b : Key} {p : Nat} (ha : c.place? a = some p)
    (hb : c.place? b = some p) : a.same b = true := by
  obtain ⟨n, hn, hna⟩ := hc.node_of_place? ha
  obtain ⟨m, hm, hmb⟩ := hc.node_of_place? hb
  rw [hn] at hm
  cases hm
  rw [Key.same_comm] at hna
  exact Key.same_trans hna hmb

theorem place?_eq_iff (hc : c.WellFormed) {a b : Key} {p : Nat} (ha : c.place? a = some p) :
    c.place? b = some p ↔ b.same a = true := by
  constructor
  · intro hb
    exact hc.same_of_place? hb ha
  · intro h
    rw [place?_congr h, ha]

/-- A current node is found under its own key. -/
theorem place?_key (hc : c.WellFormed) {p : Nat} {n : Node} (hp : p ∈ c.places)
    (hn : c.node? p = some n) : c.place? n.key = some p := by
  obtain ⟨⟨k, p'⟩, hmem, rfl⟩ := List.mem_map.mp hp
  obtain ⟨m, hm, hkey⟩ := hc.current k p' hmem
  rw [hn] at hm
  cases hm
  rw [place?_congr hkey]
  exact place?_of_mem_index hc.keys_distinct hmem

theorem node_of_mem_places (hc : c.WellFormed) {p : Nat} (hp : p ∈ c.places) :
    ∃ n, c.node? p = some n := by
  obtain ⟨⟨k, p'⟩, hmem, rfl⟩ := List.mem_map.mp hp
  obtain ⟨n, hn, -⟩ := hc.current k p' hmem
  exact ⟨n, hn⟩

/-- Every key has one current node. -/
theorem length_nodes (hc : c.WellFormed) : c.nodes.length = c.size := by
  have hsome : ∀ p ∈ c.places, (c.node? p).isSome = true := fun _ hp =>
    Option.isSome_iff_exists.mpr (hc.node_of_mem_places hp)
  rw [nodes, List.filterMap_length_eq_length.mpr hsome, places, List.length_map, size]

/-- The nodes stand in the order of their places. -/
theorem getElem?_nodes (hc : c.WellFormed) {i p : Nat} (h : c.places[i]? = some p) :
    c.nodes[i]? = c.node? p := by
  have hplaces : c.places.map c.node? = c.nodes.map some := by
    have hsome : ∀ p ∈ c.places, (c.node? p).isSome = true := by
      intro p hp
      obtain ⟨n, hn⟩ := hc.node_of_mem_places hp
      simp [hn]
    rw [nodes]
    generalize c.places = ps at hsome
    induction ps with
    | nil => rfl
    | cons p ps ih =>
      obtain ⟨hp, hps⟩ := List.forall_mem_cons.mp hsome
      obtain ⟨n, hn⟩ := Option.isSome_iff_exists.mp hp
      rw [List.map_cons, ih hps, List.filterMap_cons_some hn, List.map_cons, hn]
  have hi := congrArg (·[i]?) hplaces
  simp only [List.getElem?_map, h, Option.map_some] at hi
  cases hn : c.nodes[i]? with
  | none => simp [hn] at hi
  | some n => simpa [hn] using hi.symm

theorem find?_key (hc : c.WellFormed) {p : Nat} {n : Node} (hp : p ∈ c.places)
    (hn : c.node? p = some n) : c.find? n.key = some n := by
  rw [find?, hc.place?_key hp hn]
  exact hn

theorem node_of_find? (hc : c.WellFormed) {k : Key} {n : Node} (h : c.find? k = some n) :
    ∃ p ∈ c.places, c.node? p = some n ∧ n.key.same k = true := by
  obtain ⟨p, hp, hn⟩ := Option.bind_eq_some_iff.mp h
  obtain ⟨m, hm, hkey⟩ := hc.node_of_place? hp
  rw [hn] at hm
  cases hm
  exact ⟨p, mem_places_of_place? hp, hn, hkey⟩

theorem find?_isSome (hc : c.WellFormed) (k : Key) : (c.find? k).isSome = c.contains k := by
  rw [contains]
  cases hp : c.place? k with
  | none => simp [find?, hp]
  | some p =>
    obtain ⟨n, hn, -⟩ := hc.node_of_place? hp
    simp [find?, hp, hn]

/-- The current nodes are those that are found under their keys. -/
theorem mem_nodes_iff (hc : c.WellFormed) {n : Node} : n ∈ c.nodes ↔ c.find? n.key = some n := by
  rw [mem_nodes]
  constructor
  · rintro ⟨p, hp, hn⟩
    exact hc.find?_key hp hn
  · intro h
    obtain ⟨p, hp, hn, -⟩ := hc.node_of_find? h
    exact ⟨p, hp, hn⟩

theorem forall_mem_nodes_iff (hc : c.WellFormed) {P : Node → Prop} :
    (∀ n ∈ c.nodes, P n) ↔ ∀ k n, c.find? k = some n → P n := by
  constructor
  · intro h k n hn
    obtain ⟨p, hp, hnode, -⟩ := hc.node_of_find? hn
    exact h n (mem_nodes.mpr ⟨p, hp, hnode⟩)
  · intro h n hn
    exact h n.key n (hc.mem_nodes_iff.mp hn)

end WellFormed

/-! ## The operations keep the invariant -/

@[simp] theorem keys_connect (c : Chart) (s t : Nat) (b : Option Text) :
    (c.connect s t b).keys = c.keys := by
  simp [keys]

/-- The nodes after a link was made: one child more at its source, one parent more at its
target. -/
theorem node?_connect {c : Chart} {s : Nat} {source : Node} (hs : c.node? s = some source)
    (t : Nat) (b : Option Text) (p : Nat) :
    (c.connect s t b).node? p = (c.node? p).map fun n =>
      n.linked (if s = p then [⟨t, b⟩] else []) (if t = p then [source.key] else []) := by
  rw [connect, hs]
  simp only [node?, List.getElem?_modify]
  cases c.placed[p]? with
  | none => rfl
  | some n => by_cases hps : s = p <;> by_cases hpt : t = p <;> simp [Node.linked, hps, hpt]

/-- A chart that differs from a well-formed one only in links and labels is well-formed if its
links lead to nodes. -/
theorem WellFormed.of_keys {c c' : Chart} (hc : c.WellFormed) (hindex : c'.index = c.index)
    (hkeys : c'.placed.map (·.key) = c.placed.map (·.key))
    (hled : ∀ p n, c'.node? p = some n → ∀ e ∈ n.children, e.place < c.placed.length) :
    c'.WellFormed := by
  have hlen : c'.placed.length = c.placed.length := by simpa using congrArg List.length hkeys
  have hnode : ∀ p, (c'.node? p).map (·.key) = (c.node? p).map (·.key) := fun p => by
    simpa [node?] using congrArg (·[p]?) hkeys
  have hkeys' : c'.keys = c.keys := by rw [keys, keys, hindex]
  refine ⟨hkeys' ▸ hc.keys_distinct, ?_, ?_, ?_⟩
  -- each clause is about keys alone, and the nodes at a place have the same key in both charts
  · intro k p hmem
    obtain ⟨n, hn, hkey⟩ := hc.current k p (hindex ▸ hmem)
    have := hnode p
    rw [hn] at this
    obtain ⟨n', hn', (hkey' : n'.key = n.key)⟩ := Option.map_eq_some_iff.mp this
    exact ⟨n', hn', by rw [hkey']; exact hkey⟩
  · intro p n hn
    have := hnode p
    rw [hn] at this
    obtain ⟨n', hn', (hkey' : n'.key = n.key)⟩ := Option.map_eq_some_iff.mp this.symm
    rw [hkeys', ← hkey']
    exact hc.keyed p n' hn'
  · intro p n hn e he
    rw [hlen]
    exact hled p n hn e he

theorem wellFormed_empty : empty.WellFormed where
  keys_distinct := Key.distinct_nil
  current := by intro k p h; cases h
  keyed := by intro p n h; simp [node?, empty] at h
  led := by intro p n h; simp [node?, empty] at h

theorem node?_add {c : Chart} {m : Node} {p : Nat} {n : Node} (h : (c.add m).node? p = some n) :
    c.node? p = some n ∨ p = c.placed.length ∧ n = m := by
  have hlt := lt_of_node? h
  rw [length_placed_add] at hlt
  by_cases hp : p < c.placed.length
  · rw [node?_add_of_lt hp] at h
    exact Or.inl h
  · obtain rfl : p = c.placed.length := by omega
    rw [node?_add_self] at h
    cases h
    exact Or.inr ⟨rfl, rfl⟩

theorem isIn_keys_add (c : Chart) (n : Node) (k : Key) :
    k.isIn (c.add n).keys = (k.isIn c.keys || n.key.same k) := by
  rw [keys_add]
  split
  · rename_i h
    by_cases hk : n.key.same k = true
    · rw [← Key.isIn_congr hk, h, Bool.true_or]
    · simp [hk]
  · simp

theorem WellFormed.add {c : Chart} (hc : c.WellFormed) {n : Node} (hn : n.children = []) :
    (c.add n).WellFormed where
  keys_distinct := by
    rw [keys_add]
    split
    · exact hc.keys_distinct
    · rename_i hnew
      exact Key.distinct_concat.mpr ⟨hc.keys_distinct, by simpa using hnew⟩
  current := by
    intro k p hmem
    rcases mem_setPlace hmem with hmem | ⟨rfl, hkey⟩
    -- an entry from before leads where it led, and that place still holds its node
    · obtain ⟨m, hm, hkey⟩ := hc.current k p hmem
      exact ⟨m, by rw [node?_add_of_lt (lt_of_node? hm)]; exact hm, hkey⟩
    · exact ⟨n, node?_add_self c n, by rw [Key.same_comm]; exact hkey⟩
  keyed := by
    intro p m hm
    rcases node?_add hm with hm | ⟨-, rfl⟩
    · rw [isIn_keys_add, hc.keyed p m hm, Bool.true_or]
    · rw [isIn_keys_add, Key.same_refl, Bool.or_true]
  led := by
    intro p m hm e he
    rcases node?_add hm with hm | ⟨-, rfl⟩
    · have := hc.led p m hm e he
      rw [length_placed_add]
      omega
    · rw [hn] at he
      cases he

theorem WellFormed.connect {c : Chart} (hc : c.WellFormed) {t : Nat} (ht : t < c.placed.length)
    (s : Nat) (b : Option Text) : (c.connect s t b).WellFormed := by
  cases hs : c.node? s with
  | none =>
    simp only [Chart.connect, hs]
    exact hc
  | some source =>
    refine hc.of_keys (index_connect c s t b) ?_ ?_
    · apply List.ext_getElem?
      intro p
      have := node?_connect hs t b p
      simp only [node?] at this
      simp [this, Node.linked, Function.comp_def]
    · intro p n hn e he
      rw [node?_connect hs] at hn
      obtain ⟨m, hm, rfl⟩ := Option.map_eq_some_iff.mp hn
      rcases List.mem_append.mp he with he | he
      · exact hc.led p m hm e he
      -- the new child, if the node is the source
      · split at he
        · cases List.mem_singleton.mp he
          exact ht
        · cases he

/-- A link that is made joins the current nodes of its ends. -/
theorem link_eq_some {c c' : Chart} {r : LinkRecord} (h : c.link r = some c') :
    ∃ s t, c.place? r.source = some s ∧ c.place? r.target = some t ∧
      c' = { c.connect s t r.branch with links := c.links ++ [r] } := by
  unfold link at h
  split at h
  · rename_i s t hs ht
    cases h
    exact ⟨s, t, hs, ht, rfl⟩
  · cases h

theorem WellFormed.link {c c' : Chart} (hc : c.WellFormed) {r : LinkRecord}
    (h : c.link r = some c') : c'.WellFormed := by
  obtain ⟨s, t, -, ht, rfl⟩ := link_eq_some h
  have hconnect := hc.connect (hc.lt_of_place? ht) s r.branch
  exact ⟨hconnect.keys_distinct, hconnect.current, hconnect.keyed, hconnect.led⟩

theorem relabel_eq_some {c c' : Chart} {p i : Nat} {b : Option Text}
    (h : c.relabel p i b = some c') :
    c' = { c with
      placed := c.placed.modify p fun n =>
        { n with children := n.children.modify i fun e => { e with branch := b } } } := by
  unfold relabel at h
  split at h
  · cases h
  · split at h
    · cases h
      rfl
    · cases h

theorem WellFormed.relabel {c c' : Chart} (hc : c.WellFormed) {p i : Nat} {b : Option Text}
    (h : c.relabel p i b = some c') : c'.WellFormed := by
  have hrelabel := relabel_eq_some h
  have hnode : ∀ q, c'.node? q = (c.node? q).map fun n =>
      if p = q then { n with children := n.children.modify i fun e => { e with branch := b } }
      else n := fun q => by
    rw [hrelabel]
    simp only [node?, List.getElem?_modify]
    cases c.placed[q]? with
    | none => rfl
    | some n => by_cases hpq : p = q <;> simp [hpq]
  refine hc.of_keys (by rw [hrelabel]) ?_ ?_
  · apply List.ext_getElem?
    intro q
    have := hnode q
    simp only [node?] at this
    simp only [List.getElem?_map, this, Option.map_map]
    congr 1
    funext n
    by_cases hpq : p = q <;> simp [hpq]
  · intro q n hn e he
    rw [hnode] at hn
    obtain ⟨m, hm, rfl⟩ := Option.map_eq_some_iff.mp hn
    split at he
    · -- relabelling changes no place, so the child stands where one stood before
      obtain ⟨j, hj, rfl⟩ := List.mem_iff_getElem.mp he
      simp only [List.length_modify] at hj
      have := hc.led q m hm m.children[j] (List.getElem_mem hj)
      simp only [List.getElem_modify]
      split
      · exact this
      · exact this
    · exact hc.led q m hm e he

end Chart

end Flowchart
