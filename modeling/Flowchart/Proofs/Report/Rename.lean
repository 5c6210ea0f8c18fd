import Flowchart.Proofs.Chart.Rename
import Flowchart.Report.Outline
import Flowchart.Report.Script

/-! # Reports on a chart with renamed keys

Reports name nodes by their labels and never show a key.  The one measure that looks at keys is the
depth, which follows a way until a key would be repeated; it needs the renaming to be faithful.  All
other measures are the same for any renaming.
-/

namespace Flowchart

namespace Chart

/-! ## Measures -/

section Counts

variable (f : Key → Key) (c : Chart)

@[simp] theorem linkCount_rename : (c.rename f).linkCount = c.linkCount := by
  simp [linkCount, List.flatMap_map]

@[simp] theorem decisionCount_rename : (c.rename f).decisionCount = c.decisionCount := by
  rw [decisionCount, decisionCount, nodes_rename, List.countP_map]
  rfl

@[simp] theorem branchingFactor_rename : (c.rename f).branchingFactor = c.branchingFactor := by
  simp [branchingFactor]

@[simp] theorem cyclomaticNumber_rename : (c.rename f).cyclomaticNumber = c.cyclomaticNumber := by
  simp [cyclomaticNumber]

end Counts

section Depth

variable {f : Key → Key} {K : Set Key} {c : Chart}

theorem depthFrom_rename (hf : Key.Faithful f K) (hc : c.KeysIn K) (fuel : Nat) {onPath : List Key}
    (hpath : ∀ k ∈ onPath, k ∈ K) (p : Nat) :
    (c.rename f).depthFrom fuel (onPath.map f) p = c.depthFrom fuel onPath p := by
  induction fuel generalizing onPath p with
  | zero => rfl
  | succ fuel ih =>
    rw [depthFrom, depthFrom, node?_rename]
    cases c.node? p with
    | none => rfl
    | some n =>
      simp only [Option.map_some, Node.children_rename]
      -- the two folds go over the same children, and each child counts the same
      congr 2
      funext best child
      rw [node?_rename]
      cases hm : c.node? child.place with
      | none => rfl
      | some m =>
        have hkey : m.key ∈ K := hc.node? hm
        have hpath' : ∀ k ∈ m.key :: onPath, k ∈ K := by
          intro k hk
          rcases List.mem_cons.mp hk with rfl | hk
          · exact hkey
          · exact hpath k hk
        have hseen : (m.rename f).key.isIn (onPath.map f) = m.key.isIn onPath :=
          hf.isIn_map hkey hpath
        have hdepth := ih hpath' child.place
        simp only [Option.map_some, hseen, ← hdepth]
        rfl

theorem maxDepth_rename (hf : Key.Faithful f K) (hc : c.KeysIn K) :
    (c.rename f).maxDepth = c.maxDepth := by
  rw [maxDepth, maxDepth, starts_rename]
  split
  · rfl
  · rename_i start _ _
    rw [node?_rename]
    cases hn : c.node? start with
    | none => rfl
    | some n =>
      have hpath : ∀ k ∈ [n.key], k ∈ K := by simpa using hc.node? hn
      have hdepth := depthFrom_rename hf hc c.size hpath start
      rw [size_rename]
      exact hdepth

end Depth

/-! ## The outline -/

section Outline

variable (f : Key → Key) (c : Chart)

theorem connection_rename (child : Child) : (c.rename f).connection child = c.connection child := by
  simp [connection, Function.comp_def]

theorem connections_rename (n : Node) : (c.rename f).connections (n.rename f) = c.connections n := by
  simp only [connections, Node.children_rename, funext (connection_rename f c)]

theorem nodeLines_rename (number : Nat) (ns : List Node) :
    (c.rename f).nodeLines number (ns.map (Node.rename f)) = c.nodeLines number ns := by
  induction ns generalizing number with
  | nil => rfl
  | cons n ns ih =>
    have hdetails : (n.rename f).details = n.details := rfl
    rw [List.map_cons, nodeLines, nodeLines, hdetails, ih, connections_rename]
    rfl

end Outline

theorem outline_rename {f : Key → Key} {K : Set Key} {c : Chart} (hf : Key.Faithful f K)
    (hc : c.KeysIn K) : (c.rename f).outline = c.outline := by
  simp only [outline, size_rename, nodes_rename, nodeLines_rename, decisionCount_rename,
    maxDepth_rename hf hc, branchingFactor_rename, cyclomaticNumber_rename]

end Chart

/-! ## The script -/

namespace Script

variable (f : Key → Key) (c : Chart)

theorem childLine_rename (n : Node) (child : Child) :
    childLine (c.rename f) (n.rename f) child = childLine c n child := by
  simp [childLine, Function.comp_def]

theorem treeLines_rename : treeLines (c.rename f) = treeLines c := by
  have hchild : ∀ n, childLine (c.rename f) (n.rename f) = childLine c n := fun n =>
    funext (childLine_rename f c n)
  simp only [treeLines, Chart.nodes_rename, List.flatMap_map, Node.children_rename, hchild]

namespace Generator

variable (g : Generator)

theorem emitNodes_rename (ns : List Node) :
    g.emitNodes (ns.map (Node.rename f)) = g.emitNodes ns := by
  induction ns generalizing g with
  | nil => rfl
  | cons n ns ih =>
    have hline : nodeLine (n.rename f) = nodeLine n := rfl
    simp only [List.map_cons, emitNodes, hline, ih]

theorem generate_rename : g.generate (c.rename f) = g.generate c := by
  simp only [generate, Chart.size_rename, Chart.nodes_rename, emitNodes_rename, treeLines_rename]

end Generator

end Script

end Flowchart
