import Mathlib.Data.List.Permutation
import Flowchart.Chart.Check
import Flowchart.Proofs.Chart.Builder

/-! # The structural rules, read off the records

The check of a chart looks at its nodes: how many children they have, with which labels, and
whether anything is linked to them.  For a chart that was built from records all of this is decided
by the records.  `isValid_build_iff` says how, and that the rule about links adds nothing: a link
without a label is noticed at the decision it leaves.
-/

namespace Flowchart

/-! ## The rules at a node -/

theorem Node.linkViolations_eq_nil_iff (n : Node) :
    n.linkViolations = [] ↔
      (n.kind = .decision →
        (n.children.map (·.branch)).Perm [some trueBranch, some falseBranch]) ∧
      (n.kind ≠ .decision → n.children.length ≤ 1) := by
  unfold Node.linkViolations
  by_cases hkind : n.kind = .decision
  · simp only [hkind, if_true, List.perm_pair, ne_eq, not_true, false_implies, and_true,
      true_implies]
    by_cases hcount : n.children.length = 2
    · simp only [hcount, not_true, if_false]
      split
      · simpa
      · rename_i hlabels
        simpa using not_or.mp hlabels
    · -- two labels belong to two children
      have hlabels : ∀ a b : Option Text, n.children.map (·.branch) ≠ [a, b] := by
        intro a b h
        exact hcount (by simpa using congrArg List.length h)
      simp [hcount, hlabels]
  · by_cases hcount : 1 < n.children.length
    · simp [hkind, hcount]
    · simp only [hkind, if_false, hcount, true_iff]
      exact ⟨False.elim, fun _ => by omega⟩

theorem Node.violations_eq_nil_iff (n : Node) :
    n.violations = [] ↔
      (n.kind = .decision →
        (n.children.map (·.branch)).Perm [some trueBranch, some falseBranch]) ∧
      (n.kind ≠ .decision → n.children.length ≤ 1) ∧ (n.children ≠ [] ∨ n.parents ≠ []) := by
  unfold Node.violations
  rw [List.append_eq_nil_iff, Node.linkViolations_eq_nil_iff, and_assoc]
  by_cases hc : n.children = [] <;> by_cases hp : n.parents = [] <;> simp [hc, hp]

theorem kind_ofRecord_eq_decision_iff (r : NodeRecord) :
    (Node.ofRecord r).kind = .decision ↔ r.kind = .decision := by
  unfold Node.ofRecord Node.kind
  cases r.kind with
  | state => cases r.role <;> simp [Content.kind]
  | process | decision | generic | other _ => simp [Content.kind]

/-! ## The rules for a key -/

/-- The rules that records keep at a key. -/
structure KeepsRules (nodes : List NodeRecord) (links : List LinkRecord) (k : Key) : Prop where
  /-- Exactly two links leave a decision, one labelled true and one labelled false. -/
  decision : ∀ r, lastRecord nodes k = some r → r.kind = .decision →
    ((outgoing nodes links k).map (·.branch)).Perm [some trueBranch, some falseBranch]
  /-- At most one link leaves a node of another kind. -/
  single : ∀ r, lastRecord nodes k = some r → r.kind ≠ .decision →
    (outgoing nodes links k).length ≤ 1
  /-- Some link leaves the node or leads to it. -/
  connected : ∃ l ∈ links, l.isKept nodes = true ∧
    (l.source.same k = true ∨ l.target.same k = true)

namespace Chart

variable (nodes : List NodeRecord) (links : List LinkRecord)

theorem parentsOf_incoming_eq_nil_iff (k : Key) :
    (build nodes links).parentsOf (incoming nodes links k) = [] ↔ incoming nodes links k = [] := by
  constructor
  · intro h
    cases hin : incoming nodes links k with
    | nil => rfl
    | cons r rs =>
      have hr : r ∈ incoming nodes links k := by rw [hin]; exact List.mem_cons_self
      have hkept := (List.mem_filter.mp hr).2
      simp only [LinkRecord.isKept, Bool.and_eq_true] at hkept
      have hsource : ((build nodes links).find? r.source).isSome = true := by
        rw [(wellFormed_build nodes links).find?_isSome, contains_build]
        exact hkept.1.1
      obtain ⟨n, hn⟩ := Option.isSome_iff_exists.mp hsource
      simp [parentsOf, hin, hn] at h
  · intro h
    rw [h]
    rfl

theorem childrenOf_outgoing_eq_nil_iff (k : Key) :
    (build nodes links).childrenOf (outgoing nodes links k) = [] ↔ outgoing nodes links k = [] := by
  rw [← List.length_eq_zero_iff, ← List.length_eq_zero_iff,
    length_childrenOf fun _ => contains_target_of_mem_outgoing nodes links]

theorem connected_iff (k : Key) :
    (outgoing nodes links k ≠ [] ∨ incoming nodes links k ≠ []) ↔
      ∃ l ∈ links, l.isKept nodes = true ∧ (l.source.same k = true ∨ l.target.same k = true) := by
  simp only [ne_eq, outgoing, incoming, List.filter_eq_nil_iff, Bool.and_eq_true, not_forall,
    not_not]
  constructor
  · rintro (⟨l, hl, hkept, h⟩ | ⟨l, hl, hkept, h⟩)
    · exact ⟨l, hl, hkept, Or.inl h⟩
    · exact ⟨l, hl, hkept, Or.inr h⟩
  · rintro ⟨l, hl, hkept, h | h⟩
    · exact Or.inl ⟨l, hl, hkept, h⟩
    · exact Or.inr ⟨l, hl, hkept, h⟩

/-- The node of a key keeps the rules exactly if the records do. -/
theorem violations_eq_nil_iff_keepsRules {k : Key} {n : Node}
    (hn : (build nodes links).find? k = some n) :
    n.violations = [] ↔ KeepsRules nodes links k := by
  rw [find?_build] at hn
  obtain ⟨r, hr, rfl⟩ := Option.map_eq_some_iff.mp hn
  have htargets : ∀ l ∈ outgoing nodes links k, (build nodes links).contains l.target = true :=
    fun _ => contains_target_of_mem_outgoing nodes links
  have hkind : ((Node.ofRecord r).linked
      ((build nodes links).childrenOf (outgoing nodes links k))
      ((build nodes links).parentsOf (incoming nodes links k))).kind = .decision ↔
        r.kind = .decision :=
    kind_ofRecord_eq_decision_iff r
  have hchildren : (Node.ofRecord r).children = [] := rfl
  have hparents : (Node.ofRecord r).parents = [] := rfl
  rw [Node.violations_eq_nil_iff, ne_eq, hkind]
  simp only [Node.linked, hchildren, hparents, List.nil_append, map_branch_childrenOf htargets,
    length_childrenOf htargets, ne_eq, childrenOf_outgoing_eq_nil_iff,
    parentsOf_incoming_eq_nil_iff]
  rw [← ne_eq, ← ne_eq, connected_iff]
  constructor
  · rintro ⟨hdecision, hsingle, hconnected⟩
    refine ⟨?_, ?_, hconnected⟩
    · intro r' hr' hkind'
      cases hr.symm.trans hr'
      exact hdecision hkind'
    · intro r' hr' hkind'
      cases hr.symm.trans hr'
      exact hsingle hkind'
  · intro h
    exact ⟨h.decision r hr, h.single r hr, h.connected⟩

/-- A link from a decision that keeps the rules has a label. -/
theorem linkViolations_eq_nil (hnodes : ∀ n ∈ (build nodes links).nodes, n.violations = [])
    {r : LinkRecord} (hr : r ∈ (build nodes links).links) :
    (build nodes links).linkViolations r = [] := by
  unfold linkViolations
  cases hn : (build nodes links).find? r.source with
  | none => rfl
  | some n =>
    by_cases hkind : n.kind = .decision
    · have hc := wellFormed_build nodes links
      obtain ⟨p, hp, hnode, -⟩ := hc.node_of_find? hn
      have hrules := (violations_eq_nil_iff_keepsRules nodes links hn).mp
        (hnodes n (mem_nodes.mpr ⟨p, hp, hnode⟩))
      have hout : r ∈ outgoing nodes links r.source := by
        rw [links_build] at hr
        obtain ⟨hmem, hkept⟩ := List.mem_filter.mp hr
        exact List.mem_filter.mpr ⟨hmem, by simp [hkept]⟩
      rw [find?_build] at hn
      obtain ⟨record, hrecord, rfl⟩ := Option.map_eq_some_iff.mp hn
      have hperm := hrules.decision record hrecord ((kind_ofRecord_eq_decision_iff record).mp hkind)
      have hlabel := hperm.mem_iff.mp (List.mem_map_of_mem hout)
      simp only [List.mem_cons, List.not_mem_nil, or_false] at hlabel
      rcases hlabel with hlabel | hlabel
      · rw [hlabel]
        simp [trueBranch, Text.ofString, Text.ofChars]
      · rw [hlabel]
        simp [falseBranch, Text.ofString, Text.ofChars]
    · simp [hkind]

theorem size_build_le_one_iff :
    (build nodes links).size ≤ 1 ↔ ∀ a ∈ nodes, ∀ b ∈ nodes, a.key.same b.key = true := by
  have hc := wellFormed_build nodes links
  have hlength : (build nodes links).size = (build nodes links).keys.length := by simp [size, keys]
  rw [hlength, hc.keys_distinct.length_le_one_iff]
  constructor
  · intro h a ha b hb
    have hin : ∀ r ∈ nodes, r.key.isIn (build nodes links).keys = true := fun r hr => by
      rw [isIn_keys_build]
      exact Key.isIn_of_mem (List.mem_map_of_mem hr)
    obtain ⟨k, hk, hka⟩ := List.any_eq_true.mp (hin a ha)
    obtain ⟨l, hl, hlb⟩ := List.any_eq_true.mp (hin b hb)
    rw [Key.same_comm] at hka
    exact Key.same_trans (Key.same_trans hka (h k hk l hl)) hlb
  · intro h k hk l hl
    have hof : ∀ j ∈ (build nodes links).keys, ∃ r ∈ nodes, r.key.same j = true := fun j hj => by
      have hin := Key.isIn_of_mem hj
      rw [isIn_keys_build] at hin
      simpa [Key.isIn] using hin
    obtain ⟨a, ha, hak⟩ := hof k hk
    obtain ⟨b, hb, hbl⟩ := hof l hl
    rw [Key.same_comm] at hak
    exact Key.same_trans (Key.same_trans hak (h a ha b hb)) hbl

/-- Every current node keeps the rules exactly if the records do at every key. -/
theorem nodes_keep_rules_iff :
    (∀ n ∈ (build nodes links).nodes, n.violations = []) ↔
      ∀ a ∈ nodes, KeepsRules nodes links a.key := by
  have hc := wellFormed_build nodes links
  constructor
  · intro h a ha
    have hfind : ((build nodes links).find? a.key).isSome = true := by
      rw [hc.find?_isSome, contains_build]
      exact Key.isIn_of_mem (List.mem_map_of_mem ha)
    obtain ⟨n, hn⟩ := Option.isSome_iff_exists.mp hfind
    obtain ⟨p, hp, hnode, -⟩ := hc.node_of_find? hn
    exact (violations_eq_nil_iff_keepsRules nodes links hn).mp
      (h n (mem_nodes.mpr ⟨p, hp, hnode⟩))
  · intro h n hn
    have hfind := hc.mem_nodes_iff.mp hn
    have hlast := hfind
    rw [find?_build] at hlast
    obtain ⟨r, hr, hrn⟩ := Option.map_eq_some_iff.mp hlast
    have hkey : n.key = r.key := by rw [← hrn]; rfl
    rw [hkey] at hfind
    exact (violations_eq_nil_iff_keepsRules nodes links hfind).mpr (h r (lastRecord_same hr).1)

theorem isValid_iff (c : Chart) :
    c.isValid = true ↔
      c.size ≤ 1 ∨ (∀ n ∈ c.nodes, n.violations = []) ∧ ∀ r ∈ c.links, c.linkViolations r = [] := by
  unfold isValid violations
  split
  · simp [*]
  · simp [*, List.flatMap_eq_nil_iff]

/-- On a chart built from records the rule about links adds nothing to those about nodes. -/
theorem isValid_build_iff_violations :
    (build nodes links).isValid = true ↔
      (build nodes links).size ≤ 1 ∨ ∀ n ∈ (build nodes links).nodes, n.violations = [] := by
  rw [isValid_iff, and_iff_left_of_imp fun h _ => linkViolations_eq_nil nodes links h]

/-- The check accepts a chart built from records exactly if there is at most one key, or if the
records keep the rules at every key.  The links need no check of their own: a chart whose nodes
keep the rules has no link that breaks one. -/
theorem isValid_build_iff :
    ((build nodes links).isValid = true ↔
      (∀ a ∈ nodes, ∀ b ∈ nodes, a.key.same b.key = true) ∨
        ∀ a ∈ nodes, KeepsRules nodes links a.key) ∧
    ((∀ n ∈ (build nodes links).nodes, n.violations = []) →
      ∀ r ∈ (build nodes links).links, (build nodes links).linkViolations r = []) := by
  have hlinks : (∀ n ∈ (build nodes links).nodes, n.violations = []) →
      ∀ r ∈ (build nodes links).links, (build nodes links).linkViolations r = [] :=
    fun hnodes _ => linkViolations_eq_nil nodes links hnodes
  refine ⟨?_, hlinks⟩
  rw [isValid_iff, size_build_le_one_iff, and_iff_left_of_imp hlinks, nodes_keep_rules_iff]

end Chart

end Flowchart
