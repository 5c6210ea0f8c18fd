import Flowchart.Proofs.Chart.Store

/-! # Charts that are built from records

A chart is built in two passes.  The first places the nodes, so that a key leads to the node of
the last record with that key; the second makes the links, and leaves out those with an end that
no record has.  `find?_build` says what comes out under a key, and says it in terms of the records
alone: the node of the last record, with the links that leave the key and the keys from which links
come.
-/

namespace Flowchart

/-! ## Reading records -/

/-- Whether both ends of a link are keys of records. -/
def LinkRecord.isKept (nodes : List NodeRecord) (r : LinkRecord) : Bool :=
  r.source.isIn (nodes.map (·.key)) && r.target.isIn (nodes.map (·.key))

/-- The links that leave a key, in order, of those with both ends. -/
def outgoing (nodes : List NodeRecord) (links : List LinkRecord) (k : Key) : List LinkRecord :=
  links.filter fun r => r.isKept nodes && r.source.same k

/-- The links that lead to a key, in order, of those with both ends. -/
def incoming (nodes : List NodeRecord) (links : List LinkRecord) (k : Key) : List LinkRecord :=
  links.filter fun r => r.isKept nodes && r.target.same k

/-- The last record with a key. -/
def lastRecord (nodes : List NodeRecord) (k : Key) : Option NodeRecord :=
  (nodes.filter (·.key.same k)).getLast?

theorem lastRecord_cons (r : NodeRecord) (rs : List NodeRecord) (k : Key) :
    lastRecord (r :: rs) k =
      (lastRecord rs k).or (if r.key.same k then some r else none) := by
  unfold lastRecord
  by_cases h : r.key.same k = true
  · simp only [List.filter_cons, h, if_true, List.getLast?_cons]
    cases (rs.filter (·.key.same k)).getLast? <;> rfl
  · simp [h]

theorem lastRecord_same {nodes : List NodeRecord} {k : Key} {r : NodeRecord}
    (h : lastRecord nodes k = some r) : r ∈ nodes ∧ r.key.same k = true := by
  have hmem := List.mem_of_getLast? h
  simpa using hmem

@[simp] theorem Node.linked_nil (n : Node) : n.linked [] [] = n := by
  simp [Node.linked]

theorem Node.linked_linked (n : Node) (cs ds : List Child) (ps qs : List Key) :
    (n.linked cs ps).linked ds qs = n.linked (cs ++ ds) (ps ++ qs) := by
  simp [Node.linked]

namespace Chart

/-! ## Placing the nodes -/

theorem find?_add {c : Chart} (hc : c.WellFormed) (n : Node) (k : Key) :
    (c.add n).find? k = if n.key.same k then some n else c.find? k := by
  rw [find?, place?_add]
  by_cases h : n.key.same k = true
  · simp [h]
  · rw [if_neg h, if_neg h, find?]
    cases hp : c.place? k with
    | none => rfl
    | some p =>
      simp only [Option.bind_some]
      exact node?_add_of_lt (hc.lt_of_place? hp) n

theorem WellFormed.addAll {c : Chart} (hc : c.WellFormed) (rs : List NodeRecord) :
    (c.addAll rs).WellFormed := by
  induction rs generalizing c with
  | nil => exact hc
  | cons r rs ih => exact ih (hc.add rfl)

theorem find?_addAll {c : Chart} (hc : c.WellFormed) (rs : List NodeRecord) (k : Key) :
    (c.addAll rs).find? k = ((lastRecord rs k).map Node.ofRecord).or (c.find? k) := by
  induction rs generalizing c with
  | nil => rfl
  | cons r rs ih =>
    have hstep : (c.addAll (r :: rs)).find? k = ((c.add (Node.ofRecord r)).addAll rs).find? k := rfl
    rw [hstep, ih (hc.add rfl), find?_add hc, lastRecord_cons]
    -- a later record with the key replaces this one, and this one replaces what was there
    cases lastRecord rs k with
    | some _ => rfl
    | none =>
      by_cases h : r.key.same k = true
      · simp [Node.ofRecord, h]
      · simp [Node.ofRecord, h]

theorem isIn_keys_addAll (c : Chart) (rs : List NodeRecord) (k : Key) :
    k.isIn (c.addAll rs).keys = (k.isIn c.keys || k.isIn (rs.map (·.key))) := by
  induction rs generalizing c with
  | nil => simp [addAll]
  | cons r rs ih =>
    have hstep : (c.addAll (r :: rs)).keys = ((c.add (Node.ofRecord r)).addAll rs).keys := rfl
    rw [hstep, ih, isIn_keys_add, List.map_cons, Key.isIn_cons, Bool.or_assoc]
    rfl

theorem links_addAll (c : Chart) (rs : List NodeRecord) : (c.addAll rs).links = c.links := by
  induction rs generalizing c with
  | nil => rfl
  | cons r rs ih => exact ih (c.add (Node.ofRecord r))

/-! ## Making the links -/

/-- The children that links give to their source.  A link without a target gives none. -/
def childrenOf (c : Chart) (ls : List LinkRecord) : List Child :=
  ls.filterMap fun r => (c.place? r.target).map fun t => ⟨t, r.branch⟩

/-- The parents that links give to their target.  A link without a source gives none. -/
def parentsOf (c : Chart) (ls : List LinkRecord) : List Key :=
  ls.filterMap fun r => (c.find? r.source).map (·.key)

/-- The links that leave the node at a place. -/
def linksFrom (c : Chart) (p : Nat) (ls : List LinkRecord) : List LinkRecord :=
  ls.filter fun r => c.contains r.target && decide (c.place? r.source = some p)

/-- The links that lead to the node at a place. -/
def linksTo (c : Chart) (p : Nat) (ls : List LinkRecord) : List LinkRecord :=
  ls.filter fun r => c.contains r.source && decide (c.place? r.target = some p)

/-- The chart after a link was made, if it can be made. -/
def linkIfPossible (c : Chart) (r : LinkRecord) : Chart :=
  (c.link r).getD c

theorem linkAll_cons (c : Chart) (r : LinkRecord) (rs : List LinkRecord) :
    (c.linkAll (r :: rs)).1 = ((c.linkIfPossible r).linkAll rs).1 := by
  unfold linkIfPossible
  rw [linkAll]
  cases c.link r <;> rfl

theorem WellFormed.linkIfPossible {c : Chart} (hc : c.WellFormed) (r : LinkRecord) :
    (c.linkIfPossible r).WellFormed := by
  unfold Chart.linkIfPossible
  cases hl : c.link r with
  | none => exact hc
  | some c' => exact hc.link hl

@[simp] theorem index_linkIfPossible (c : Chart) (r : LinkRecord) :
    (c.linkIfPossible r).index = c.index := by
  unfold linkIfPossible
  cases hl : c.link r with
  | none => rfl
  | some c' => exact (index_links_of_link hl).1

theorem links_linkIfPossible (c : Chart) (r : LinkRecord) :
    (c.linkIfPossible r).links =
      c.links ++ [r].filter fun r => c.contains r.source && c.contains r.target := by
  have hsome := link_isSome c r
  unfold linkIfPossible
  cases hl : c.link r with
  | none =>
    rw [hl] at hsome
    simp [← hsome]
  | some c' =>
    rw [hl] at hsome
    simp [← hsome, (index_links_of_link hl).2]

theorem place?_of_index {c c' : Chart} (h : c'.index = c.index) (k : Key) :
    c'.place? k = c.place? k := by
  rw [place?, place?, h]

theorem childrenOf_congr {c c' : Chart} (h : c'.index = c.index) (ls : List LinkRecord) :
    c'.childrenOf ls = c.childrenOf ls := by
  simp only [childrenOf, place?_of_index h]

theorem linksFrom_congr {c c' : Chart} (h : c'.index = c.index) (p : Nat) (ls : List LinkRecord) :
    c'.linksFrom p ls = c.linksFrom p ls := by
  simp only [linksFrom, contains, place?_of_index h]

theorem linksTo_congr {c c' : Chart} (h : c'.index = c.index) (p : Nat) (ls : List LinkRecord) :
    c'.linksTo p ls = c.linksTo p ls := by
  simp only [linksTo, contains, place?_of_index h]

theorem parentsOf_congr {c c' : Chart} (h : ∀ k, (c'.find? k).map (·.key) = (c.find? k).map (·.key))
    (ls : List LinkRecord) : c'.parentsOf ls = c.parentsOf ls := by
  simp only [parentsOf, h]

theorem find?_key_of_linked {c c' : Chart} (hindex : c'.index = c.index) {cs : Nat → List Child}
    {ps : Nat → List Key}
    (hnode : ∀ p, c'.node? p = (c.node? p).map fun n => n.linked (cs p) (ps p)) (k : Key) :
    (c'.find? k).map (·.key) = (c.find? k).map (·.key) := by
  simp only [find?, place?_of_index hindex]
  cases c.place? k with
  | none => rfl
  | some p => simp [hnode, Node.linked, Function.comp_def]

/-- One link gives its source one child and its target one parent. -/
theorem node?_linkIfPossible {c : Chart} (hc : c.WellFormed) (r : LinkRecord) (p : Nat) :
    (c.linkIfPossible r).node? p = (c.node? p).map fun n =>
      n.linked (c.childrenOf (c.linksFrom p [r])) (c.parentsOf (c.linksTo p [r])) := by
  -- a link without one of its ends is left out, and gives no child and no parent
  cases hs : c.place? r.source with
  | none => simp [linkIfPossible, link, hs, linksFrom, linksTo, contains, childrenOf, parentsOf]
  | some s =>
    cases ht : c.place? r.target with
    | none =>
      simp [linkIfPossible, link, hs, ht, linksFrom, linksTo, contains, childrenOf, parentsOf]
    | some t =>
      obtain ⟨source, hsource, -⟩ := hc.node_of_place? hs
      have hlink : (c.linkIfPossible r).node? p = (c.connect s t r.branch).node? p := by
        simp only [linkIfPossible, link, hs, ht]
        rfl
      have hchild : c.childrenOf (c.linksFrom p [r]) = if s = p then [⟨t, r.branch⟩] else [] := by
        by_cases h : s = p <;> simp [linksFrom, childrenOf, contains, hs, ht, h]
      have hparent : c.parentsOf (c.linksTo p [r]) = if t = p then [source.key] else [] := by
        by_cases h : t = p <;>
          simp [linksTo, parentsOf, contains, find?, hs, ht, hsource, h]
      rw [hlink, node?_connect hsource, hchild, hparent]

theorem WellFormed.linkAll {c : Chart} (hc : c.WellFormed) (ls : List LinkRecord) :
    (c.linkAll ls).1.WellFormed := by
  induction ls generalizing c with
  | nil => exact hc
  | cons r rs ih =>
    rw [linkAll_cons]
    exact ih (hc.linkIfPossible r)

@[simp] theorem index_linkAll (c : Chart) (ls : List LinkRecord) :
    (c.linkAll ls).1.index = c.index := by
  induction ls generalizing c with
  | nil => rfl
  | cons r rs ih => rw [linkAll_cons, ih, index_linkIfPossible]

theorem links_linkAll (c : Chart) (ls : List LinkRecord) :
    (c.linkAll ls).1.links =
      c.links ++ ls.filter fun r => c.contains r.source && c.contains r.target := by
  induction ls generalizing c with
  | nil => simp [linkAll]
  | cons r rs ih =>
    have hcontains : ∀ k, (c.linkIfPossible r).contains k = c.contains k := fun k => by
      rw [contains, contains, place?_of_index (index_linkIfPossible c r)]
    rw [linkAll_cons, ih, links_linkIfPossible]
    simp only [hcontains]
    rw [List.append_assoc, ← List.filter_append, List.singleton_append]

theorem node?_linkAll {c : Chart} (hc : c.WellFormed) (ls : List LinkRecord) (p : Nat) :
    (c.linkAll ls).1.node? p = (c.node? p).map fun n =>
      n.linked (c.childrenOf (c.linksFrom p ls)) (c.parentsOf (c.linksTo p ls)) := by
  induction ls generalizing c with
  | nil => simp [linkAll, linksFrom, linksTo, childrenOf, parentsOf]
  | cons r rs ih =>
    have hindex := index_linkIfPossible c r
    have hkey := find?_key_of_linked hindex (node?_linkIfPossible hc r)
    have hfrom : c.linksFrom p (r :: rs) = c.linksFrom p [r] ++ c.linksFrom p rs := by
      rw [linksFrom, linksFrom, linksFrom, ← List.filter_append, List.singleton_append]
    have hto : c.linksTo p (r :: rs) = c.linksTo p [r] ++ c.linksTo p rs := by
      rw [linksTo, linksTo, linksTo, ← List.filter_append, List.singleton_append]
    -- the index stays as it is while links are made, so that the links after the first one can be
    -- read off the index from before
    rw [linkAll_cons, ih (hc.linkIfPossible r), node?_linkIfPossible hc, Option.map_map,
      linksFrom_congr hindex, linksTo_congr hindex, childrenOf_congr hindex, parentsOf_congr hkey,
      hfrom, hto]
    simp [Function.comp_def, Node.linked_linked, childrenOf, parentsOf]

/-! ## Children as links -/

theorem map_branch_childrenOf {c : Chart} {ls : List LinkRecord}
    (h : ∀ r ∈ ls, c.contains r.target = true) :
    (c.childrenOf ls).map (·.branch) = ls.map (·.branch) := by
  induction ls with
  | nil => rfl
  | cons r ls ih =>
    obtain ⟨t, ht⟩ := Option.isSome_iff_exists.mp (h r List.mem_cons_self)
    have ih := ih fun r' hr' => h r' (List.mem_cons_of_mem _ hr')
    simp only [childrenOf] at ih ⊢
    simp [ht, ih]

theorem length_childrenOf {c : Chart} {ls : List LinkRecord}
    (h : ∀ r ∈ ls, c.contains r.target = true) : (c.childrenOf ls).length = ls.length := by
  simpa using congrArg List.length (map_branch_childrenOf h)

theorem filter_childrenOf (c : Chart) (ls : List LinkRecord) (b : Option Text) :
    (c.childrenOf ls).filter (·.branch = b) = c.childrenOf (ls.filter (·.branch = b)) := by
  induction ls with
  | nil => rfl
  | cons r ls ih =>
    simp only [childrenOf] at ih ⊢
    by_cases hb : r.branch = b
    · cases ht : c.place? r.target <;> simp [ht, hb, ih]
    · cases ht : c.place? r.target <;> simp [ht, hb, ih]

/-- An only child comes from an only link. -/
theorem eq_singleton_of_childrenOf {c : Chart} {ls : List LinkRecord} {e : Child}
    (h : ∀ r ∈ ls, c.contains r.target = true) (he : c.childrenOf ls = [e]) :
    ∃ r, ls = [r] ∧ c.place? r.target = some e.place := by
  have hlen := length_childrenOf h
  rw [he] at hlen
  obtain ⟨r, rfl⟩ := List.length_eq_one_iff.mp hlen.symm
  obtain ⟨t, ht⟩ := Option.isSome_iff_exists.mp (h r List.mem_cons_self)
  simp only [childrenOf, List.filterMap_cons, ht, Option.map_some, List.filterMap_nil,
    List.cons.injEq, and_true] at he
  exact ⟨r, rfl, by rw [ht, ← he]⟩

theorem mem_places_of_mem_childrenOf {c : Chart} {ls : List LinkRecord} {e : Child}
    (he : e ∈ c.childrenOf ls) : e.place ∈ c.places := by
  obtain ⟨r, -, hr⟩ := List.mem_filterMap.mp he
  obtain ⟨t, ht, rfl⟩ := Option.map_eq_some_iff.mp hr
  exact mem_places_of_place? ht

/-! ## The finished chart -/

variable (nodes : List NodeRecord) (links : List LinkRecord)

theorem wellFormed_build : (build nodes links).WellFormed :=
  (wellFormed_empty.addAll nodes).linkAll links

theorem index_build : (build nodes links).index = (empty.addAll nodes).index :=
  index_linkAll (empty.addAll nodes) links

theorem contains_addAll (k : Key) :
    (empty.addAll nodes).contains k = k.isIn (nodes.map (·.key)) := by
  rw [contains_eq_isIn, isIn_keys_addAll]
  rfl

theorem isIn_keys_build (k : Key) :
    k.isIn (build nodes links).keys = k.isIn (nodes.map (·.key)) := by
  rw [keys, index_build, ← keys, isIn_keys_addAll]
  rfl

theorem contains_build (k : Key) :
    (build nodes links).contains k = k.isIn (nodes.map (·.key)) := by
  rw [contains_eq_isIn, isIn_keys_build]

theorem links_build : (build nodes links).links = links.filter (·.isKept nodes) := by
  rw [build, buildWith, links_linkAll, links_addAll]
  simp only [contains_addAll]
  rfl

theorem contains_target_of_mem_outgoing {k : Key} {r : LinkRecord}
    (h : r ∈ outgoing nodes links k) : (build nodes links).contains r.target = true := by
  have hkept := (List.mem_filter.mp h).2
  simp only [LinkRecord.isKept, Bool.and_eq_true] at hkept
  rw [contains_build]
  exact hkept.1.2

/-- A key leads to the place of another one exactly if it is the same key; it is then the key of
a record, too. -/
theorem place?_addAll_eq {k : Key} {p : Nat} (hp : (empty.addAll nodes).place? k = some p)
    (j : Key) :
    decide ((empty.addAll nodes).place? j = some p) =
      (j.isIn (nodes.map (·.key)) && j.same k) := by
  have hk : k.isIn (nodes.map (·.key)) = true := by
    rw [← contains_addAll, contains, hp]
    rfl
  rw [Bool.eq_iff_iff, decide_eq_true_iff, (wellFormed_empty.addAll nodes).place?_eq_iff hp,
    Bool.and_eq_true]
  constructor
  · intro h
    exact ⟨by rw [Key.isIn_congr h]; exact hk, h⟩
  · intro h
    exact h.2

theorem linksFrom_addAll {k : Key} {p : Nat} (hp : (empty.addAll nodes).place? k = some p) :
    (empty.addAll nodes).linksFrom p links = outgoing nodes links k := by
  apply List.filter_congr
  intro r _
  rw [place?_addAll_eq nodes hp, contains_addAll, LinkRecord.isKept, Bool.and_left_comm,
    Bool.and_assoc]

theorem linksTo_addAll {k : Key} {p : Nat} (hp : (empty.addAll nodes).place? k = some p) :
    (empty.addAll nodes).linksTo p links = incoming nodes links k := by
  apply List.filter_congr
  intro r _
  rw [place?_addAll_eq nodes hp, contains_addAll, LinkRecord.isKept, Bool.and_assoc]

/-- What a chart holds under a key: the node of the last record with that key, the links that
leave the key, and the keys from which links come. -/
theorem find?_build (k : Key) :
    (build nodes links).find? k = (lastRecord nodes k).map fun r =>
      (Node.ofRecord r).linked ((build nodes links).childrenOf (outgoing nodes links k))
        ((build nodes links).parentsOf (incoming nodes links k)) := by
  have hbase := wellFormed_empty.addAll nodes
  have hindex := index_build nodes links
  have hfind : (empty.addAll nodes).find? k = (lastRecord nodes k).map Node.ofRecord := by
    rw [find?_addAll wellFormed_empty]
    exact Option.or_none
  cases hp : (empty.addAll nodes).place? k with
  | none =>
    rw [find?, hp] at hfind
    rw [find?, place?_of_index hindex, hp, Option.map_eq_none_iff.mp hfind.symm]
    rfl
  | some p =>
    -- children and parents may be read off the chart without links, which has the same keys
    have hkey := find?_key_of_linked hindex (node?_linkAll hbase links)
    rw [find?, hp] at hfind
    rw [childrenOf_congr hindex, parentsOf_congr hkey, find?, place?_of_index hindex, hp,
      Option.bind_some, build, buildWith, node?_linkAll hbase, linksFrom_addAll nodes links hp,
      linksTo_addAll nodes links hp]
    rw [Option.bind_some] at hfind
    rw [hfind, Option.map_map]
    rfl

variable {nodes links}

/-- The children of a current node are the links that leave its key. -/
theorem children_build {n : Node} (h : (build nodes links).find? n.key = some n) :
    n.children = (build nodes links).childrenOf (outgoing nodes links n.key) := by
  have hbuild := find?_build nodes links n.key
  rw [h] at hbuild
  obtain ⟨r, -, hr⟩ := Option.map_eq_some_iff.mp hbuild.symm
  exact (congrArg Node.children hr).symm

/-- In a chart that is built from records no link leads to a replaced node. -/
theorem child_mem_places {p : Nat} {n : Node} (hp : p ∈ (build nodes links).places)
    (hn : (build nodes links).node? p = some n) {e : Child} (he : e ∈ n.children) :
    e.place ∈ (build nodes links).places := by
  have hfind := (wellFormed_build nodes links).find?_key hp hn
  rw [children_build hfind] at he
  exact mem_places_of_mem_childrenOf he

end Chart

end Flowchart
