import Flowchart.Chart.Measure
import Flowchart.Proofs.Chart.Edit
import Flowchart.Proofs.Chart.Rules

/-! # The cyclomatic number of valid charts

The rules fix how many links leave a node: two if it is a decision, and otherwise one, unless it is a
sink.  So the links of a valid chart are counted by its nodes, decisions and sinks, whichever way the
chart was edited: what is counted are the children of the current nodes, and of the listed links
nothing is asked.
-/

namespace Flowchart

/-- Each decision has one link more than one, and each sink one less. -/
theorem Node.length_children_of_violations {n : Node} (h : n.violations = []) :
    n.children.length + (if n.children.isEmpty then 1 else 0) =
      1 + if n.kind = .decision then 1 else 0 := by
  obtain ⟨hdecision, hother, -⟩ := n.violations_eq_nil_iff.mp h
  by_cases hkind : n.kind = .decision
  · have htwo : n.children.length = 2 := by simpa using (hdecision hkind).length_eq
    have hlinked : n.children ≠ [] := List.ne_nil_of_length_pos (by omega)
    simp [hkind, htwo, hlinked]
  · have hone := hother hkind
    cases hchildren : n.children with
    | nil => simp [hkind]
    | cons e es =>
      rw [hchildren, List.length_cons] at hone
      have hes : es.length = 0 := by omega
      simp [hkind, hes]

namespace Chart

/-- The number of nodes that no link leaves. -/
def sinkCount (c : Chart) : Nat :=
  c.nodes.countP fun n => n.children.isEmpty

variable {c : Chart}

theorem length_flatMap_children {ns : List Node} (h : ∀ n ∈ ns, n.violations = []) :
    (ns.flatMap (·.children)).length + ns.countP (fun n => n.children.isEmpty) =
      ns.length + ns.countP fun n => n.kind = .decision := by
  induction ns with
  | nil => rfl
  | cons n ns ih =>
    obtain ⟨hn, hns⟩ := List.forall_mem_cons.mp h
    have hhead := Node.length_children_of_violations hn
    have htail := ih hns
    simp only [List.flatMap_cons, List.length_append, List.countP_cons, List.length_cons,
      decide_eq_true_eq] at htail ⊢
    omega

/-- On a chart whose nodes keep the rules, links and sinks together are as many as nodes and
decisions. -/
theorem WellFormed.linkCount_add_sinkCount (hc : c.WellFormed)
    (h : ∀ n ∈ c.nodes, n.violations = []) :
    c.linkCount + c.sinkCount = c.size + c.decisionCount := by
  rw [← hc.length_nodes]
  exact length_flatMap_children h

/-- The cyclomatic number of a valid chart with at least two nodes, however it was built and edited:
two more than there are more decisions than sinks.  With a single sink it is one more than the
decisions. -/
theorem cyclomaticNumber_of_isValid (nodes : List NodeRecord) (links : List LinkRecord)
    (edits : List Edit) :
    let c := (build nodes links).edited edits
    2 ≤ c.size → c.isValid = true →
      c.cyclomaticNumber = (c.decisionCount : Int) - c.sinkCount + 2 ∧
      (c.sinkCount = 1 → c.cyclomaticNumber = c.decisionCount + 1) := by
  intro c hsize hvalid
  have hc : c.WellFormed := (wellFormed_build nodes links).edited edits
  have hrules : ∀ n ∈ c.nodes, n.violations = [] := by
    rcases c.isValid_iff.mp hvalid with hsmall | ⟨hnodes, -⟩
    · omega
    · exact hnodes
  have hcount := hc.linkCount_add_sinkCount hrules
  unfold cyclomaticNumber
  constructor
  · omega
  · intro hsink
    omega

/-- A decision that was placed anew and linked without listing the links: two listed links are left
of the chart as it was, while the chart has three. -/
theorem cyclomaticNumber_of_isValid_relinked :
    let c := (build
        [⟨.int 1, .state, "Start", none, none, some (.text "start")⟩,
          ⟨.int 2, .process, "Halve", some "x / 2", none, none⟩,
          ⟨.int 3, .state, "End", none, none, some (.text "end")⟩]
        [⟨.int 1, .int 2, none⟩, ⟨.int 2, .int 3, some "next"⟩]).edited
      [.add ⟨.int 2, .decision, "Even?", none, some "x == 0", none⟩,
        .add ⟨.int 1, .state, "Start", none, none, some (.text "start")⟩,
        .connect (.int 1) (.int 2) none, .connect (.int 2) (.int 3) (some "true"),
        .connect (.int 2) (.int 2) (some "no"), .relabel 3 1 (some "false")]
    c.links.length = 2 ∧ c.linkCount = 3 ∧ c.cyclomaticNumber = 2 := by
  intro c
  refine ⟨by decide, by decide, ?_⟩
  exact (cyclomaticNumber_of_isValid _ _ _ (by decide) (by decide)).2 (by decide)

end Chart

end Flowchart
