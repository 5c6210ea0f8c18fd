import Mathlib.Data.List.Forall2
import Flowchart.Proofs.Chart.Order

/-! # Records with other labels and other code

Where nodes stand and which of them are linked is decided by keys alone.  So two lists of records
with the same keys, one after the other, make charts in which every key leads to the same place and
every node has the same parents, whatever labels and code the nodes have and whatever labels the
links have.  `Recoded` and `Relabels` say in what records may differ, and `find?_recoded` what the
two charts hold under a key.
-/

namespace Flowchart

/-- Two records that may differ in the label, the action and the condition, and in the role unless
they are states. -/
structure NodeRecord.Recoded (r r' : NodeRecord) : Prop where
  key : r'.key = r.key
  kind : r'.kind = r.kind
  role : r.kind = .state → r'.role = r.role

/-- A function that changes no more of a link than its label. -/
structure LinkRecord.Relabels (f : LinkRecord → LinkRecord) : Prop where
  source : ∀ r, (f r).source = r.source
  target : ∀ r, (f r).target = r.target

theorem LinkRecord.relabels_id : Relabels id := ⟨fun _ => rfl, fun _ => rfl⟩

/-! ## Nodes -/

theorem Content.ext_of_fields {content content' : Content} (hkind : content'.kind = content.kind)
    (hrole : content'.role? = content.role?) (haction : content'.action? = content.action?)
    (hcondition : content'.condition? = content.condition?) : content' = content := by
  cases content <;> cases content' <;>
    simp_all [Content.kind, Content.role?, Content.action?, Content.condition?]

theorem Content.hasRole_congr {content content' : Content}
    (h : content'.role? = content.role?) (name : Text) :
    content'.hasRole name = content.hasRole name := by
  cases content <;> cases content' <;> simp_all [Content.role?, Content.hasRole]

/-- The rules look at the kind of a node, at its links and at its parents. -/
theorem Node.violations_congr {n n' : Node} (hkind : n'.kind = n.kind)
    (hchildren : n'.children = n.children) (hparents : n'.parents = n.parents) :
    n'.violations = n.violations := by
  simp only [Node.violations, Node.linkViolations, hkind, hchildren, hparents]

namespace NodeRecord.Recoded

variable {r r' : NodeRecord}

theorem content_kind (h : r.Recoded r') :
    (Node.ofRecord r').content.kind = (Node.ofRecord r).content.kind := by
  simp only [Node.ofRecord, h.kind]
  cases r.kind with
  | state => cases r.role <;> cases r'.role <;> rfl
  | process | decision | generic | other _ => rfl

theorem content_role (h : r.Recoded r') :
    (Node.ofRecord r').content.role? = (Node.ofRecord r).content.role? := by
  simp only [Node.ofRecord, h.kind]
  cases hkind : r.kind with
  | state => rw [h.role hkind]
  | process | decision | generic | other _ => rfl

end NodeRecord.Recoded

/-! ## Reading recoded records -/

section

variable {nodes nodes' : List NodeRecord} {f : LinkRecord → LinkRecord}

theorem keys_recoded (h : List.Forall₂ NodeRecord.Recoded nodes nodes') :
    nodes'.map (·.key) = nodes.map (·.key) := by
  induction h with
  | nil => rfl
  | cons hr _ ih => rw [List.map_cons, List.map_cons, hr.key, ih]

theorem lastRecord_recoded (h : List.Forall₂ NodeRecord.Recoded nodes nodes') (k : Key) :
    Option.Rel NodeRecord.Recoded (lastRecord nodes k) (lastRecord nodes' k) := by
  induction h with
  | nil => exact .none
  | @cons r r' nodes nodes' hr _ ih =>
    rw [lastRecord_cons, lastRecord_cons, hr.key]
    generalize lastRecord nodes k = last, lastRecord nodes' k = last' at ih
    -- a later record with the key counts, and this one only if there is none
    cases ih with
    | some hlast => exact .some hlast
    | none =>
      by_cases hk : r.key.same k = true
      · simpa [hk] using Option.Rel.some hr
      · simp [hk]

theorem isKept_recoded (h : List.Forall₂ NodeRecord.Recoded nodes nodes')
    (hf : LinkRecord.Relabels f) (r : LinkRecord) : (f r).isKept nodes' = r.isKept nodes := by
  rw [LinkRecord.isKept, LinkRecord.isKept, keys_recoded h, hf.source, hf.target]

theorem outgoing_recoded (h : List.Forall₂ NodeRecord.Recoded nodes nodes')
    (hf : LinkRecord.Relabels f) (links : List LinkRecord) (k : Key) :
    outgoing nodes' (links.map f) k = (outgoing nodes links k).map f := by
  simp only [outgoing, List.filter_map, Function.comp_def, isKept_recoded h hf, hf.source]

theorem incoming_recoded (h : List.Forall₂ NodeRecord.Recoded nodes nodes')
    (hf : LinkRecord.Relabels f) (links : List LinkRecord) (k : Key) :
    incoming nodes' (links.map f) k = (incoming nodes links k).map f := by
  simp only [incoming, List.filter_map, Function.comp_def, isKept_recoded h hf, hf.target]

end

/-! ## Charts of recoded records -/

namespace Chart

theorem parentsOf_map {f : LinkRecord → LinkRecord} (hf : LinkRecord.Relabels f) (c : Chart)
    (ls : List LinkRecord) : c.parentsOf (ls.map f) = c.parentsOf ls := by
  simp only [parentsOf, List.filterMap_map, Function.comp_def, hf.source]

theorem index_addAll_recoded {nodes nodes' : List NodeRecord}
    (h : List.Forall₂ NodeRecord.Recoded nodes nodes') {c c' : Chart} (hindex : c'.index = c.index)
    (hlength : c'.placed.length = c.placed.length) :
    (c'.addAll nodes').index = (c.addAll nodes).index := by
  induction h generalizing c c' with
  | nil => exact hindex
  | @cons r r' nodes nodes' hr _ ih =>
    have hkey : (Node.ofRecord r').key = (Node.ofRecord r).key := hr.key
    show ((c'.add (Node.ofRecord r')).addAll nodes').index =
      ((c.add (Node.ofRecord r)).addAll nodes).index
    apply ih
    · simp only [add, hkey, hindex, hlength]
    · simp only [length_placed_add, hlength]

variable {nodes nodes' : List NodeRecord} {links : List LinkRecord} {f : LinkRecord → LinkRecord}

theorem index_recoded (h : List.Forall₂ NodeRecord.Recoded nodes nodes')
    (links links' : List LinkRecord) :
    (build nodes' links').index = (build nodes links).index := by
  rw [index_build, index_build]
  exact index_addAll_recoded h rfl rfl

/-- The node at a place is the one that is found under the key that led to the place before. -/
theorem node?_recoded (h : List.Forall₂ NodeRecord.Recoded nodes nodes')
    (links links' : List LinkRecord) {p : Nat} {n : Node} (hp : p ∈ (build nodes links).places)
    (hn : (build nodes links).node? p = some n) :
    (build nodes' links').node? p = (build nodes' links').find? n.key := by
  have hplace : (build nodes' links').place? n.key = some p := by
    rw [place?_of_index (index_recoded h links links')]
    exact (wellFormed_build nodes links).place?_key hp hn
  rw [find?, hplace, Option.bind_some]

theorem find?_key_recoded (h : List.Forall₂ NodeRecord.Recoded nodes nodes')
    (links links' : List LinkRecord) (k : Key) :
    ((build nodes' links').find? k).map (·.key) = ((build nodes links).find? k).map (·.key) := by
  have hlast := lastRecord_recoded h k
  rw [find?_build, find?_build]
  generalize lastRecord nodes k = last, lastRecord nodes' k = last' at hlast
  cases hlast with
  | none => rfl
  | some hr => exact congrArg some hr.key

/-- What a key leads to on the chart of recoded records: a node with the recoded content, the same
parents, and the same links but for their labels. -/
theorem find?_recoded (h : List.Forall₂ NodeRecord.Recoded nodes nodes')
    (hf : LinkRecord.Relabels f) {k : Key} {n : Node} (hn : (build nodes links).find? k = some n) :
    ∃ r r' ps, lastRecord nodes k = some r ∧ lastRecord nodes' k = some r' ∧ r.Recoded r' ∧
      n = (Node.ofRecord r).linked
        ((build nodes links).childrenOf (outgoing nodes links k)) ps ∧
      (build nodes' (links.map f)).find? k = some ((Node.ofRecord r').linked
        ((build nodes links).childrenOf ((outgoing nodes links k).map f)) ps) := by
  have hlast := lastRecord_recoded h k
  have hn' := find?_build nodes' (links.map f) k
  rw [outgoing_recoded h hf, incoming_recoded h hf, parentsOf_map hf,
    childrenOf_congr (index_recoded h links (links.map f)),
    parentsOf_congr (find?_key_recoded h links (links.map f))] at hn'
  rw [find?_build] at hn
  obtain ⟨r, hr, rfl⟩ := Option.map_eq_some_iff.mp hn
  rw [hr] at hlast
  obtain ⟨r', hr', hrecoded⟩ : ∃ r', lastRecord nodes' k = some r' ∧ r.Recoded r' := by
    generalize lastRecord nodes' k = last' at hlast
    cases hlast with
    | some hrecoded => exact ⟨_, rfl, hrecoded⟩
  rw [hr', Option.map_some] at hn'
  exact ⟨r, r', _, hr, hr', hrecoded, rfl, hn'⟩

/-- The nodes of a key on the two charts differ in nothing but their labels and their code. -/
theorem find?_recoded_id (h : List.Forall₂ NodeRecord.Recoded nodes nodes') {k : Key}
    {n : Node} (hn : (build nodes links).find? k = some n) :
    ∃ n', (build nodes' links).find? k = some n' ∧ n'.key = n.key ∧
      n'.children = n.children ∧ n'.parents = n.parents ∧ n'.content.kind = n.content.kind ∧
      n'.content.role? = n.content.role? := by
  obtain ⟨r, r', ps, -, -, hrecoded, rfl, hn'⟩ := find?_recoded h LinkRecord.relabels_id hn
  rw [List.map_id, List.map_id] at hn'
  exact ⟨_, hn', hrecoded.key, rfl, rfl, hrecoded.content_kind, hrecoded.content_role⟩

/-- Labels and code make no difference to the rules. -/
theorem violations_recoded (h : List.Forall₂ NodeRecord.Recoded nodes nodes') :
    (build nodes' links).violations = (build nodes links).violations := by
  have hindex := index_recoded h links links
  have hkeys : (build nodes' links).keys = (build nodes links).keys := by rw [keys, keys, hindex]
  have hsize : (build nodes' links).size = (build nodes links).size := by rw [size, size, hindex]
  have hlinks : (build nodes' links).links = (build nodes links).links := by
    rw [links_build, links_build]
    exact List.filter_congr fun r _ => isKept_recoded h LinkRecord.relabels_id r
  -- key by key, the two charts have nodes that break the same rules
  have hnode : ∀ k, ((build nodes' links).find? k).map Node.violations =
      ((build nodes links).find? k).map Node.violations := by
    intro k
    cases hn : (build nodes links).find? k with
    | none =>
      have hkey := find?_key_recoded h links links k
      rw [hn, Option.map_none, Option.map_eq_none_iff] at hkey
      rw [hkey]
    | some n =>
      obtain ⟨n', hn', -, hchildren, hparents, hkind, -⟩ := find?_recoded_id h hn
      rw [hn', Option.map_some, Option.map_some, Node.violations_congr hkind hchildren hparents]
  have hnodes : (build nodes' links).nodes.map Node.violations =
      (build nodes links).nodes.map Node.violations := by
    rw [nodes_eq_filterMap (wellFormed_build _ _), nodes_eq_filterMap (wellFormed_build _ _), hkeys,
      List.map_filterMap, List.map_filterMap]
    simp only [hnode]
  have hlink : (build nodes' links).linkViolations = (build nodes links).linkViolations := by
    funext r
    have hcontains : (build nodes' links).contains r.target =
        (build nodes links).contains r.target := by
      rw [contains, contains, place?_of_index hindex]
    cases hn : (build nodes links).find? r.source with
    | none =>
      have hkey := find?_key_recoded h links links r.source
      rw [hn, Option.map_none, Option.map_eq_none_iff] at hkey
      simp [linkViolations, hn, hkey]
    | some n =>
      obtain ⟨n', hn', -, -, -, hkind, -⟩ := find?_recoded_id h hn
      have hkind : n'.kind = n.kind := hkind
      simp [linkViolations, hn, hn', hcontains, hkind]
  simp only [violations, hsize, hlinks, hlink, List.flatMap_def, hnodes]

theorem isStart_recoded (h : List.Forall₂ NodeRecord.Recoded nodes nodes')
    (hf : LinkRecord.Relabels f) (k : Key) :
    ((build nodes' (links.map f)).find? k).any Node.isStart =
      ((build nodes links).find? k).any Node.isStart := by
  cases hn : (build nodes links).find? k with
  | none =>
    have hkey := find?_key_recoded h links (links.map f) k
    rw [hn, Option.map_none, Option.map_eq_none_iff] at hkey
    rw [hkey]
  | some n =>
    obtain ⟨r, r', ps, -, -, hrecoded, rfl, hn'⟩ := find?_recoded h hf hn
    rw [hn', Option.any_some, Option.any_some]
    exact Content.hasRole_congr hrecoded.content_role "start"

theorem starts_recoded (h : List.Forall₂ NodeRecord.Recoded nodes nodes')
    (hf : LinkRecord.Relabels f) :
    (build nodes' (links.map f)).starts = (build nodes links).starts := by
  have hindex := index_recoded h links (links.map f)
  have hplace : (build nodes' (links.map f)).place? = (build nodes links).place? :=
    funext fun k => by rw [place?, place?, hindex]
  rw [starts_eq_filterMap (wellFormed_build _ _), starts_eq_filterMap (wellFormed_build _ _),
    keys, keys, hindex, hplace]
  simp only [isStart_recoded h hf]

/-- The chart of recoded records keeps the rules exactly if the chart does, if that is so for the
nodes of each key. -/
theorem isValid_recoded (h : List.Forall₂ NodeRecord.Recoded nodes nodes')
    (hf : LinkRecord.Relabels f)
    (hrules : ∀ k n n', (build nodes links).find? k = some n →
      (build nodes' (links.map f)).find? k = some n' → (n'.violations = [] ↔ n.violations = [])) :
    (build nodes' (links.map f)).isValid = (build nodes links).isValid := by
  have hsize : (build nodes' (links.map f)).size = (build nodes links).size := by
    rw [size, size, index_recoded h]
  rw [Bool.eq_iff_iff, isValid_build_iff_violations, isValid_build_iff_violations, hsize,
    (wellFormed_build _ _).forall_mem_nodes_iff, (wellFormed_build _ _).forall_mem_nodes_iff]
  refine or_congr_right ⟨?_, ?_⟩
  · intro hall k n hn
    obtain ⟨r, r', ps, -, -, -, -, hn'⟩ := find?_recoded h hf hn
    exact (hrules k n _ hn hn').mp (hall k _ hn')
  · intro hall k n' hn'
    have hkey := find?_key_recoded h links (links.map f) k
    rw [hn', Option.map_some] at hkey
    obtain ⟨n, hn, -⟩ := Option.map_eq_some_iff.mp hkey.symm
    exact (hrules k n n' hn hn').mpr (hall k n hn)

end Chart

end Flowchart
