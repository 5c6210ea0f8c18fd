import Mathlib.Data.List.Forall2
import Flowchart.Proofs.Chart.Rules

/-! # The order of records

If no key is used twice, then a chart does not depend on the order of its records but for the order
in which its nodes and links are listed.  Since nodes stand at other places when the records are
reordered, two charts are compared by `SamePlace`: places that belong to the same key.  Lists are
compared by `Matching`, which allows for another order and relates the elements.  `resembles_build`
says that the nodes of a key are alike on both charts, up to the order of their links.
-/

namespace Flowchart

/-! ## Lists that match up to their order -/

/-- Two lists of which one can be reordered so that their elements are related one by one. -/
def Matching {α β : Type} (R : α → β → Prop) (as : List α) (bs : List β) : Prop :=
  ∃ cs, as.Perm cs ∧ List.Forall₂ R cs bs

namespace Matching

variable {α β : Type} {R : α → β → Prop} {as : List α} {bs : List β}

theorem length_eq (h : Matching R as bs) : as.length = bs.length := by
  obtain ⟨cs, hperm, hrel⟩ := h
  exact hperm.length_eq.trans hrel.length_eq

/-- Short lists match in the order they have. -/
theorem forall₂ (h : Matching R as bs) (hshort : as.length ≤ 1) : List.Forall₂ R as bs := by
  obtain ⟨cs, hperm, hrel⟩ := h
  have hcs : as = cs := by
    match as, hshort with
    | [], _ => exact hperm.nil_eq
    | [a], _ => exact (List.perm_singleton.mp hperm.symm).symm
  rw [hcs]
  exact hrel

theorem filter {p : α → Bool} {q : β → Bool} (h : Matching R as bs)
    (hpq : ∀ a b, R a b → p a = q b) : Matching R (as.filter p) (bs.filter q) := by
  obtain ⟨cs, hperm, hrel⟩ := h
  refine ⟨cs.filter p, hperm.filter p, ?_⟩
  clear hperm
  induction hrel with
  | nil => exact .nil
  | @cons a b cs bs hab _ ih =>
    have := hpq a b hab
    cases hq : q b with
    | true => simpa [this, hq] using ⟨hab, ih⟩
    | false => simpa [this, hq] using ih

theorem map {γ δ : Type} {Q : γ → δ → Prop} {f : α → γ} {g : β → δ} (h : Matching R as bs)
    (hfg : ∀ a b, R a b → Q (f a) (g b)) : Matching Q (as.map f) (bs.map g) := by
  obtain ⟨cs, hperm, hrel⟩ := h
  refine ⟨cs.map f, hperm.map f, ?_⟩
  rw [List.forall₂_map_left_iff, List.forall₂_map_right_iff]
  exact hrel.imp hfg

theorem perm_map {γ : Type} {f : α → γ} {g : β → γ} (h : Matching R as bs)
    (hfg : ∀ a b, R a b → f a = g b) : (as.map f).Perm (bs.map g) := by
  obtain ⟨cs, hperm, hrel⟩ := h.map hfg
  rw [List.forall₂_eq_eq_eq] at hrel
  exact hrel ▸ hperm

end Matching

/-! ## Reading reordered records -/

theorem Key.isIn_perm {ks ls : List Key} (h : ks.Perm ls) (k : Key) : k.isIn ks = k.isIn ls := by
  rw [Bool.eq_iff_iff, isIn_iff_mem, isIn_iff_mem]
  exact (h.map identity).mem_iff

theorem Key.Distinct.length_filter_same {rs : List NodeRecord}
    (h : Key.Distinct (rs.map (·.key))) (k : Key) : (rs.filter (·.key.same k)).length ≤ 1 := by
  have hdistinct : Key.Distinct ((rs.filter (·.key.same k)).map (·.key)) :=
    h.sublist (List.filter_sublist.map _)
  rw [← List.length_map, hdistinct.length_le_one_iff]
  -- keys that are the same as `k` are the same as each other
  have hsame : ∀ j ∈ (rs.filter (·.key.same k)).map (·.key), j.same k = true := by
    intro j hj
    obtain ⟨r, hr, rfl⟩ := List.mem_map.mp hj
    exact (List.mem_filter.mp hr).2
  intro a ha b hb
  have hkb : k.same b = true := by
    rw [Key.same_comm]
    exact hsame b hb
  exact Key.same_trans (hsame a ha) hkb

section Records

variable {nodes nodes' : List NodeRecord} {links links' : List LinkRecord}

theorem LinkRecord.isKept_perm (hnodes : nodes.Perm nodes') (r : LinkRecord) :
    r.isKept nodes = r.isKept nodes' := by
  rw [LinkRecord.isKept, LinkRecord.isKept, Key.isIn_perm (hnodes.map _),
    Key.isIn_perm (hnodes.map _)]

theorem outgoing_perm (hnodes : nodes.Perm nodes') (hlinks : links.Perm links') (k : Key) :
    (outgoing nodes links k).Perm (outgoing nodes' links' k) := by
  simp only [outgoing, LinkRecord.isKept_perm hnodes]
  exact hlinks.filter _

theorem incoming_perm (hnodes : nodes.Perm nodes') (hlinks : links.Perm links') (k : Key) :
    (incoming nodes links k).Perm (incoming nodes' links' k) := by
  simp only [incoming, LinkRecord.isKept_perm hnodes]
  exact hlinks.filter _

theorem lastRecord_perm (hkeys : Key.Distinct (nodes.map (·.key))) (hnodes : nodes.Perm nodes')
    (k : Key) : lastRecord nodes k = lastRecord nodes' k := by
  have hmatch : Matching Eq (nodes.filter (·.key.same k)) (nodes'.filter (·.key.same k)) :=
    ⟨_, hnodes.filter _, List.forall₂_refl _⟩
  have heq := hmatch.forall₂ (hkeys.length_filter_same k)
  rw [List.forall₂_eq_eq_eq] at heq
  rw [lastRecord, lastRecord, heq]

end Records

namespace Chart

/-! ## Listing a chart by its keys -/

variable {c : Chart}

theorem places_eq_filterMap (hc : c.WellFormed) : c.places = c.keys.filterMap c.place? := by
  rw [keys, List.filterMap_map, places, ← List.filterMap_eq_map]
  apply List.filterMap_congr
  rintro ⟨k, p⟩ hmem
  exact (place?_of_mem_index hc.keys_distinct hmem).symm

theorem nodes_eq_filterMap (hc : c.WellFormed) : c.nodes = c.keys.filterMap c.find? := by
  rw [nodes, places_eq_filterMap hc, List.filterMap_filterMap]
  rfl

theorem starts_eq_filterMap (hc : c.WellFormed) :
    c.starts = (c.keys.filter fun k => (c.find? k).any Node.isStart).filterMap c.place? := by
  rw [starts, places_eq_filterMap hc, List.filter_filterMap, List.filterMap_filter]
  apply List.filterMap_congr
  intro k _
  cases hp : c.place? k with
  | none => simp
  | some p => simp [find?, hp, Option.filter]

theorem keys_addAll_of_distinct {rs : List NodeRecord}
    (h : Key.Distinct (c.keys ++ rs.map (·.key))) :
    (c.addAll rs).keys = c.keys ++ rs.map (·.key) := by
  induction rs generalizing c with
  | nil => simp [addAll]
  | cons r rs ih =>
    have hstep : (c.addAll (r :: rs)).keys = ((c.add (Node.ofRecord r)).addAll rs).keys := rfl
    have hnew : r.key.isIn c.keys = false := by
      rw [List.map_cons, List.append_cons] at h
      exact (Key.distinct_concat.mp (List.pairwise_append.mp h).1).2
    have hkeys : (c.add (Node.ofRecord r)).keys = c.keys ++ [r.key] := by
      rw [keys_add]
      simp [Node.ofRecord, hnew]
    rw [hstep, ih (by rw [hkeys]; simpa using h), hkeys]
    simp

theorem keys_build_of_distinct {nodes : List NodeRecord} {links : List LinkRecord}
    (h : Key.Distinct (nodes.map (·.key))) : (build nodes links).keys = nodes.map (·.key) := by
  have hempty : Key.Distinct (empty.keys ++ nodes.map (·.key)) := h
  rw [keys, index_build, ← keys, keys_addAll_of_distinct hempty]
  rfl

end Chart

/-! ## Nodes that are alike -/

/-- Nodes that hold the same and have the same links, up to their order and to the relation of the
places they lead to. -/
structure Node.Resembles (R : Nat → Nat → Prop) (n n' : Node) : Prop where
  key : n.key = n'.key
  text : n.text = n'.text
  content : n.content = n'.content
  children : Matching (fun e e' => e.branch = e'.branch ∧ R e.place e'.place) n.children n'.children
  parents : n.parents.Perm n'.parents

namespace Node.Resembles

variable {R : Nat → Nat → Prop} {n n' : Node}

theorem kind (h : n.Resembles R n') : n.kind = n'.kind := by
  rw [Node.kind, Node.kind, h.content]

theorem isStart (h : n.Resembles R n') : n.isStart = n'.isStart := by
  rw [Node.isStart, Node.isStart, h.content]

theorem labels (h : n.Resembles R n') :
    (n.children.map (·.branch)).Perm (n'.children.map (·.branch)) :=
  h.children.perm_map fun _ _ he => he.1

theorem linkViolations (h : n.Resembles R n') : n.linkViolations = n'.linkViolations := by
  -- the rule for decisions names both orders of the two labels, so it does not depend on the order
  have hlabels : ∀ m : Node, (m.children.map (·.branch) = [some trueBranch, some falseBranch] ∨
      m.children.map (·.branch) = [some falseBranch, some trueBranch]) ↔
        (m.children.map (·.branch)).Perm [some trueBranch, some falseBranch] := fun m =>
    List.perm_pair.symm
  simp only [Node.linkViolations, h.kind, h.children.length_eq, hlabels, h.labels.congr_left]

theorem violations (h : n.Resembles R n') : n.violations = n'.violations := by
  have hchildren : n.children.isEmpty = n'.children.isEmpty := by
    rw [Bool.eq_iff_iff, List.isEmpty_iff_length_eq_zero, List.isEmpty_iff_length_eq_zero,
      h.children.length_eq]
  have hparents : n.parents.isEmpty = n'.parents.isEmpty := by
    rw [Bool.eq_iff_iff, List.isEmpty_iff_length_eq_zero, List.isEmpty_iff_length_eq_zero,
      h.parents.length_eq]
  rw [Node.violations, Node.violations, h.linkViolations, hchildren, hparents]

end Node.Resembles

namespace Chart

/-- Places of the same key on two charts. -/
def SamePlace (c c' : Chart) (p p' : Nat) : Prop :=
  ∃ k, c.place? k = some p ∧ c'.place? k = some p'

/-- What is made of the places of keys on two charts with the same keys matches. -/
theorem matching_filterMap_place? {c c' : Chart} (hkeys : ∀ k, c.contains k = c'.contains k)
    {α β : Type} (key : α → Key) (make : α → Nat → β) {Q : β → β → Prop}
    (hmake : ∀ a p p', SamePlace c c' p p' → Q (make a p) (make a p')) {as as' : List α}
    (h : as.Perm as') :
    Matching Q (as.filterMap fun a => (c.place? (key a)).map (make a))
      (as'.filterMap fun a => (c'.place? (key a)).map (make a)) := by
  refine ⟨as'.filterMap fun a => (c.place? (key a)).map (make a), h.filterMap _, ?_⟩
  clear h
  induction as' with
  | nil => exact .nil
  | cons a as' ih =>
    have hk := hkeys (key a)
    unfold contains at hk
    cases hp : c.place? (key a) with
    | none =>
      cases hp' : c'.place? (key a) with
      | none => simpa [hp, hp'] using ih
      | some p' => simp [hp, hp'] at hk
    | some p =>
      cases hp' : c'.place? (key a) with
      | none => simp [hp, hp'] at hk
      | some p' =>
        have hhead := hmake a p p' ⟨key a, hp, hp'⟩
        simpa [hp, hp'] using ⟨hhead, ih⟩

end Chart

/-! ## Charts of reordered records -/

/-- Records without a repeated key, in two orders. -/
structure Reordered (nodes nodes' : List NodeRecord) (links links' : List LinkRecord) : Prop where
  distinct : Key.Distinct (nodes.map (·.key))
  nodes : nodes.Perm nodes'
  links : links.Perm links'

namespace Reordered

open Chart (build SamePlace)

variable {nodes nodes' : List NodeRecord} {links links' : List LinkRecord}

theorem symm (h : Reordered nodes nodes' links links') : Reordered nodes' nodes links' links := by
  refine ⟨?_, h.nodes.symm, h.links.symm⟩
  have hdistinct := h.distinct
  rw [Key.distinct_iff_nodup] at hdistinct ⊢
  exact ((h.nodes.map _).map _).nodup_iff.mp hdistinct

theorem contains (h : Reordered nodes nodes' links links') (k : Key) :
    (build nodes links).contains k = (build nodes' links').contains k := by
  rw [Chart.contains_build, Chart.contains_build, Key.isIn_perm (h.nodes.map _)]

theorem keys (h : Reordered nodes nodes' links links') :
    (build nodes links).keys.Perm (build nodes' links').keys := by
  rw [Chart.keys_build_of_distinct h.distinct, Chart.keys_build_of_distinct h.symm.distinct]
  exact h.nodes.map _

theorem size (h : Reordered nodes nodes' links links') :
    (build nodes links).size = (build nodes' links').size := by
  have hlength := h.keys.length_eq
  rwa [Chart.keys, Chart.keys, List.length_map, List.length_map] at hlength

theorem key (h : Reordered nodes nodes' links links') (k : Key) :
    ((build nodes links).find? k).map (·.key) = ((build nodes' links').find? k).map (·.key) := by
  rw [Chart.find?_build, Chart.find?_build, lastRecord_perm h.distinct h.nodes]
  simp [Node.linked, Function.comp_def]

/-- The nodes of a key are alike, up to the order of their links. -/
theorem resembles (h : Reordered nodes nodes' links links') {k : Key} {n : Node}
    (hn : (build nodes links).find? k = some n) :
    ∃ n', (build nodes' links').find? k = some n' ∧
      n.Resembles (SamePlace (build nodes links) (build nodes' links')) n' := by
  rw [Chart.find?_build] at hn
  obtain ⟨r, hr, rfl⟩ := Option.map_eq_some_iff.mp hn
  have hn' := Chart.find?_build nodes' links' k
  rw [← lastRecord_perm h.distinct h.nodes, hr, Option.map_some] at hn'
  refine ⟨_, hn', rfl, rfl, rfl, ?_, ?_⟩
  · refine Chart.matching_filterMap_place? h.contains (·.target) (fun r t => Child.mk t r.branch)
      ?_ (outgoing_perm h.nodes h.links k)
    intro r p p' hp
    exact ⟨rfl, hp⟩
  · have hparents : ((build nodes links).parentsOf (incoming nodes links k)).Perm
        ((build nodes' links').parentsOf (incoming nodes' links' k)) := by
      rw [Chart.parentsOf_congr h.key]
      exact (incoming_perm h.nodes h.links k).filterMap _
    exact hparents

theorem find?_eq_none (h : Reordered nodes nodes' links links') {k : Key}
    (hn : (build nodes links).find? k = none) : (build nodes' links').find? k = none := by
  have hkey := h.key k
  rw [hn] at hkey
  exact Option.map_eq_none_iff.mp hkey.symm

/-- What is asked of the nodes of a key is the same on both charts if it is the same for nodes
that are alike. -/
theorem map_find? (h : Reordered nodes nodes' links links') {α : Type} {f : Node → α}
    (hf : ∀ n n', n.Resembles (SamePlace (build nodes links) (build nodes' links')) n' → f n = f n')
    (k : Key) : ((build nodes links).find? k).map f = ((build nodes' links').find? k).map f := by
  cases hn : (build nodes links).find? k with
  | none => rw [h.find?_eq_none hn]
  | some n =>
    obtain ⟨n', hn', hresembles⟩ := h.resembles hn
    rw [hn', Option.map_some, Option.map_some, hf n n' hresembles]

/-! ## Violations -/

theorem nodeViolations (h : Reordered nodes nodes' links links') :
    ((build nodes links).nodes.flatMap Node.violations).Perm
      ((build nodes' links').nodes.flatMap Node.violations) := by
  have hlist : ∀ c : Chart, c.WellFormed → c.nodes.flatMap Node.violations =
      c.keys.flatMap fun k => ((c.find? k).map Node.violations).getD [] := by
    intro c hc
    rw [Chart.nodes_eq_filterMap hc]
    induction c.keys with
    | nil => rfl
    | cons k ks ih => cases hk : c.find? k <;> simp [hk, ih]
  rw [hlist _ (Chart.wellFormed_build nodes links), hlist _ (Chart.wellFormed_build nodes' links')]
  simp only [h.map_find? fun _ _ hn => hn.violations]
  exact h.keys.flatMap_right _

theorem linkViolations (h : Reordered nodes nodes' links links') (r : LinkRecord) :
    (build nodes links).linkViolations r = (build nodes' links').linkViolations r := by
  unfold Chart.linkViolations
  rw [h.contains]
  cases hn : (build nodes links).find? r.source with
  | none => rw [h.find?_eq_none hn]
  | some n =>
    obtain ⟨n', hn', hresembles⟩ := h.resembles hn
    simp only [hn', hresembles.kind]

/-- The violations are the same, in another order. -/
theorem violations (h : Reordered nodes nodes' links links') :
    (build nodes links).violations.Perm (build nodes' links').violations := by
  have hlinks : ((build nodes links).links.flatMap (build nodes links).linkViolations).Perm
      ((build nodes' links').links.flatMap (build nodes' links').linkViolations) := by
    simp only [Chart.links_build, funext h.linkViolations, LinkRecord.isKept_perm h.nodes]
    exact (h.links.filter _).flatMap_right _
  unfold Chart.violations
  rw [h.size]
  split
  · exact .refl _
  · exact h.nodeViolations.append hlinks

theorem isValid (h : Reordered nodes nodes' links links') :
    (build nodes links).isValid = (build nodes' links').isValid := by
  rw [Chart.isValid, Chart.isValid, Bool.eq_iff_iff, List.isEmpty_iff_length_eq_zero,
    List.isEmpty_iff_length_eq_zero, h.violations.length_eq]

end Reordered

end Flowchart
