import Mathlib.Logic.Function.Basic
import Flowchart.Proofs.Chart.Recode

/-! # Turning a decision around

A decision is turned around by giving it another condition and by exchanging the labels true and
false on the links that leave it.  `find?_negated` says what becomes of the nodes of the chart: the
node of the decision is turned around, and all other nodes are as they were.  The rules ask for one
link of each label, so the chart keeps them exactly if it did before.
-/

namespace Flowchart

/-- Exchanges the labels of the two branches of a decision. -/
def swapLabel (label : Text) : Text :=
  if label = trueBranch then falseBranch else if label = falseBranch then trueBranch else label

/-- A link with its label exchanged, if it leaves the given key. -/
def LinkRecord.swapFrom (k : Key) (r : LinkRecord) : LinkRecord :=
  if r.source.same k then { r with branch := r.branch.map swapLabel } else r

/-- A record with another condition, if it has the given key. -/
def NodeRecord.withCondition (k : Key) (condition : Text) (r : NodeRecord) : NodeRecord :=
  if r.key.same k then { r with condition := some condition } else r

/-- A child with its label exchanged. -/
def Child.swap (e : Child) : Child :=
  { e with branch := e.branch.map swapLabel }

/-- A decision with another condition and the labels of its links exchanged. -/
def Node.negate (condition : Text) (n : Node) : Node :=
  { n with content := .decision (some condition), children := n.children.map Child.swap }

/-! ## Labels -/

theorem swapLabel_true : swapLabel trueBranch = falseBranch := by decide

theorem swapLabel_false : swapLabel falseBranch = trueBranch := by decide

theorem swapLabel_involutive : Function.Involutive swapLabel := by
  intro label
  by_cases htrue : label = trueBranch
  · rw [htrue, swapLabel_true, swapLabel_false]
  · by_cases hfalse : label = falseBranch
    · rw [hfalse, swapLabel_false, swapLabel_true]
    · simp [swapLabel, htrue, hfalse]

theorem map_swapLabel_injective : Function.Injective (Option.map swapLabel) :=
  Option.map_injective swapLabel_involutive.injective

theorem map_swapLabel_eq_some_iff {branch : Option Text} {label : Text} :
    branch.map swapLabel = some label ↔ branch = some (swapLabel label) := by
  rw [← map_swapLabel_injective.eq_iff, Option.map_map, swapLabel_involutive.comp_self,
    Option.map_id, id, Option.map_some]

namespace Node

variable {n : Node} {condition : Text}

theorem branches_negate (n : Node) (condition label : Text) :
    (n.negate condition).branches (some label) = n.branches (some (swapLabel label)) := by
  simp only [branches, negate, List.filter_map, List.map_map, Function.comp_def, Child.swap,
    map_swapLabel_eq_some_iff]

/-- A decision that is turned around keeps the rules exactly if it did before. -/
theorem violations_negate (decision : n.kind = .decision) :
    (n.negate condition).violations = [] ↔ n.violations = [] := by
  have hkind : (n.negate condition).kind = .decision := rfl
  have hlabels : (n.negate condition).children.map (·.branch) =
      (n.children.map (·.branch)).map (Option.map swapLabel) := by
    simp [negate, Child.swap, Function.comp_def]
  have hpair : [some trueBranch, some falseBranch].Perm
      ([some trueBranch, some falseBranch].map (Option.map swapLabel)) := by
    simpa [swapLabel_true, swapLabel_false] using List.Perm.swap _ _ []
  rw [violations_eq_nil_iff, violations_eq_nil_iff, hkind, decision, hlabels,
    hpair.congr_right, List.map_perm_map_iff map_swapLabel_injective]
  simp [negate]

end Node

/-! ## Charts -/

theorem LinkRecord.relabels_swapFrom (k : Key) : Relabels (swapFrom k) := by
  refine ⟨?_, ?_⟩
  · intro r
    unfold swapFrom
    split <;> rfl
  · intro r
    unfold swapFrom
    split <;> rfl

theorem NodeRecord.recoded_withCondition (k : Key) (condition : Text) (r : NodeRecord) :
    r.Recoded (r.withCondition k condition) := by
  unfold withCondition
  split
  · exact ⟨rfl, rfl, fun _ => rfl⟩
  · exact ⟨rfl, rfl, fun _ => rfl⟩

theorem forall₂_withCondition (k : Key) (condition : Text) (nodes : List NodeRecord) :
    List.Forall₂ NodeRecord.Recoded nodes (nodes.map (·.withCondition k condition)) := by
  rw [List.forall₂_map_right_iff, List.forall₂_same]
  intro r _
  exact r.recoded_withCondition k condition

theorem lastRecord_withCondition (k : Key) (condition : Text) (nodes : List NodeRecord) (j : Key) :
    lastRecord (nodes.map (·.withCondition k condition)) j =
      (lastRecord nodes j).map (·.withCondition k condition) := by
  have hkey : ∀ r : NodeRecord, (r.withCondition k condition).key = r.key :=
    fun r => (r.recoded_withCondition k condition).key
  simp only [lastRecord, List.filter_map, List.getLast?_map, Function.comp_def, hkey]

theorem Key.Distinct.eq_of_same {nodes : List NodeRecord} (h : Distinct (nodes.map (·.key)))
    {r d : NodeRecord} (hr : r ∈ nodes) (hd : d ∈ nodes) (hsame : r.key.same d.key = true) :
    r = d := by
  rw [distinct_iff_nodup, List.map_map] at h
  exact List.inj_on_of_nodup_map h hr hd (same_iff.mp hsame)

namespace Chart

variable {nodes : List NodeRecord} {links : List LinkRecord} {d : NodeRecord}

theorem childrenOf_swap (c : Chart) {ls : List LinkRecord} {k : Key}
    (h : ∀ r ∈ ls, r.source.same k = true) :
    c.childrenOf (ls.map (·.swapFrom k)) = (c.childrenOf ls).map Child.swap := by
  rw [childrenOf, childrenOf, List.filterMap_map, List.map_filterMap]
  apply List.filterMap_congr
  intro r hr
  simp [LinkRecord.swapFrom, h r hr, Child.swap, Function.comp_def]

/-- The nodes of a chart on which the decision of a record is turned around. -/
theorem find?_negated (hkeys : Key.Distinct (nodes.map (·.key))) (hd : d ∈ nodes)
    (hkind : d.kind = .decision) (condition : Text) {k : Key} {n : Node}
    (hn : (build nodes links).find? k = some n) :
    if k.same d.key then
      n.content = .decision d.condition ∧
        (build (nodes.map (·.withCondition d.key condition))
          (links.map (·.swapFrom d.key))).find? k = some (n.negate condition)
    else
      (build (nodes.map (·.withCondition d.key condition))
        (links.map (·.swapFrom d.key))).find? k = some n := by
  obtain ⟨r, r', ps, hr, hr', -, rfl, hn'⟩ := find?_recoded
    (forall₂_withCondition d.key condition nodes) (LinkRecord.relabels_swapFrom d.key) hn
  rw [lastRecord_withCondition, hr] at hr'
  obtain rfl : r.withCondition d.key condition = r' := Option.some.inj hr'
  obtain ⟨hmem, hrk⟩ := lastRecord_same hr
  have hsources : ∀ l ∈ outgoing nodes links k, l.source.same k = true := by
    intro l hl
    have := (List.mem_filter.mp hl).2
    simp_all
  split
  · -- the key is that of the decision, so its record is the one that is changed
    rename_i hk
    obtain rfl := hkeys.eq_of_same hmem hd (Key.same_trans hrk hk)
    rw [childrenOf_swap _ fun l hl => Key.same_trans (hsources l hl) hk] at hn'
    refine ⟨by simp [Node.linked, Node.ofRecord, hkind], ?_⟩
    rw [hn']
    simp [NodeRecord.withCondition, Node.negate, Node.linked, Node.ofRecord, hkind]
  · rename_i hk
    have hne : ∀ {j : Key}, j.same k = true → ¬ j.same d.key = true := by
      intro j hj hjd
      rw [Key.same_congr_left hj] at hjd
      exact hk hjd
    have hout : (outgoing nodes links k).map (·.swapFrom d.key) = outgoing nodes links k := by
      conv_rhs => rw [← List.map_id (outgoing nodes links k)]
      apply List.map_congr_left
      intro l hl
      simp [LinkRecord.swapFrom, hne (hsources l hl)]
    rw [hn', hout, NodeRecord.withCondition, if_neg (hne hrk)]

theorem isValid_negated (hkeys : Key.Distinct (nodes.map (·.key))) (hd : d ∈ nodes)
    (hkind : d.kind = .decision) (condition : Text) :
    (build (nodes.map (·.withCondition d.key condition)) (links.map (·.swapFrom d.key))).isValid =
      (build nodes links).isValid := by
  apply isValid_recoded (forall₂_withCondition d.key condition nodes)
    (LinkRecord.relabels_swapFrom d.key)
  intro k n n' hn hn'
  have hnegated := find?_negated hkeys hd hkind condition hn
  split at hnegated
  · obtain ⟨hcontent, hnegated⟩ := hnegated
    cases hn'.symm.trans hnegated
    apply Node.violations_negate
    rw [Node.kind, hcontent, Content.kind]
  · cases hn'.symm.trans hnegated
    exact Iff.rfl

end Chart

end Flowchart
