import Mathlib.Data.List.Forall2
import Flowchart.Proofs.Report.Script

/-! # Texts that are quoted in scripts

The line that makes a node holds three things that come from the chart.  No blank is left in the
variable, the label stands in a literal, and what the node holds is written as JSON.  Whatever these
texts hold, the label and the data are read back as they were, and the line stays one line.
-/

namespace Flowchart

/-- Whether the role that a content has, if it has one, is a text. -/
def Content.IsTextual (content : Content) : Prop :=
  ∀ role, content.role? = some role → ∃ s, role = .text s

theorem Content.ints_of_isTextual {content : Content} (h : content.IsTextual) : content.ints = [] := by
  rw [ints]
  cases hrole : content.role? with
  | none => rfl
  | some role =>
    obtain ⟨s, rfl⟩ := h role hrole
    rfl

namespace Script

/-- A line that makes a node, and its parts: the variable, the literal of the label and the JSON text
of what the node holds. -/
structure Makes (n : Node) (line var label printed : Text) : Prop where
  layout : line = var ++ " = Node(" ++ label ++ ", '" ++ n.kind.name ++ "', " ++ printed ++ ")"
  solid : ∀ c ∈ var, Text.isBlank c = false
  label_read : Text.Quoted.read? label = some (n.text, [])
  printed_read : Json.parse printed = .ok (data n.content)
  unbroken : .scalar '\n' ∉ label ++ printed ∧ .scalar '\r' ∉ label ++ printed

theorem makes_of_nodeLine {n : Node} {line : Text} (textual : n.content.IsTextual)
    (h : nodeLine n = .ok line) : ∃ var label printed, Makes n line var label printed := by
  obtain ⟨printed, hprint, hparse⟩ := exists_print_data textual
  have hlabel : Text.Quoted.read? (Text.quoted n.text ++ []) = some (n.text, []) :=
    Text.Quoted.read?_quoted n.text []
  have hinline : (Text.quoted n.text ++ printed).Inline :=
    (Text.Quoted.inline_quoted n.text).append (Json.inline_print _ printed hprint)
  refine ⟨nodeVar n.text, Text.quoted n.text, printed, ?_, fun _ => isBlank_of_mem_nodeVar, ?_,
    hparse, hinline.not_mem (by decide), hinline.not_mem (by decide)⟩
  · rw [nodeLine, hprint] at h
    exact (Except.ok.inj h).symm
  · rwa [List.append_nil] at hlabel

theorem forall₂_nodeLine {ns : List Node} {ls : List Text} (h : nodeLines ns = (ls, .ok ())) :
    List.Forall₂ (fun n l => nodeLine n = .ok l) ns ls := by
  have hmap : List.Forall₂ Eq (ns.map nodeLine) (ls.map .ok) := by
    rw [List.forall₂_eq_eq_eq]
    exact map_nodeLine h
  rwa [List.forall₂_map_left_iff, List.forall₂_map_right_iff] at hmap

/-- A generator that is given a chart with nodes answers if the roles of its states are texts.
Whenever it answers, there is a line for each node behind the header, and every node whose role, if
it has one, is a text is made by its line.  At the outermost level, where scripts are written, the
lines stand in the answer as they are. -/
theorem generate_quoted (g : Generator) {c : Chart} (nonempty : c.size ≠ 0) :
    ((∀ n ∈ c.nodes, n.content.IsTextual) → ∃ output, (g.generate c).2 = .ok output) ∧
    ∀ output, (g.generate c).2 = .ok output → ∃ lines,
      output = Text.unlines (g.lines ++ (header ++ lines ++ treeLines c).map (indented g.level)) ∧
      (g.level = 0 → output = Text.unlines (g.lines ++ (header ++ lines ++ treeLines c))) ∧
      List.Forall₂ (fun n line => n.content.IsTextual →
        ∃ var label printed, Makes n line var label printed) c.nodes lines := by
  refine ⟨fun textual => ?_, fun output houtput => ?_⟩
  · -- no role that is a text shows an integer, and only an integer can be too long to write
    have hlines : ∃ ls, nodeLines c.nodes = (ls, .ok ()) := by
      rw [exists_nodeLines_iff]
      intro n hn
      rw [Content.ints_of_isTextual (textual n hn)]
      nofun
    exact ⟨_, (g.generate_eq_ok_iff nonempty).mpr ⟨hlines, rfl⟩⟩
  · obtain ⟨⟨lines, hlines⟩, rfl⟩ := (g.generate_eq_ok_iff nonempty).mp houtput
    refine ⟨lines, ?_, fun outermost => ?_, (forall₂_nodeLine hlines).imp fun n l hline textual =>
      makes_of_nodeLine textual hline⟩
    · rw [chartLines, hlines]
    · rw [chartLines, hlines, outermost, indented_zero, List.map_id]

/-- Labels with both quotes, a backslash and a control character, an action with a line feed and a role
with a quote are read back from the lines of a generator that was used before. -/
theorem generate_quoted_mixed :
    let c := Chart.build
      [⟨.int 1, .state, "it's \"so\"\\", none, none, some (.text "'start\"")⟩,
        ⟨.int 2, .process, "\x00\t\u00A0\u2028", some "x\r\n= 1", none, none⟩]
      [⟨.int 1, .int 2, none⟩]
    let g : Generator := ⟨["pass"], 0⟩
    c.size ≠ 0 ∧ (∀ n ∈ c.nodes, n.content.IsTextual) ∧ ∃ lines : List Text,
      (g.generate c).2 = .ok (Text.unlines (g.lines ++ (header ++ lines ++ treeLines c))) ∧
      List.Forall₂ (fun n line => ∃ var label printed, Makes n line var label printed)
        c.nodes lines := by
  intro c g
  have nonempty : c.size ≠ 0 := by decide
  have textual : ∀ n ∈ c.nodes, n.content.IsTextual := by
    have hcontents : c.nodes.map (·.content) =
        [.state (.text "'start\""), .process (some "x\r\n= 1")] := rfl
    have hall : ∀ content ∈ c.nodes.map (·.content), content.IsTextual := by
      rw [hcontents]
      simp [Content.IsTextual, Content.role?]
    exact List.forall_mem_map.mp hall
  obtain ⟨hanswers, hlines⟩ := generate_quoted g nonempty
  obtain ⟨output, houtput⟩ := hanswers textual
  obtain ⟨lines, -, hplain, hmade⟩ := hlines output houtput
  rw [hplain rfl] at houtput
  have hboth := (List.forall₂_and_left c.nodes lines).mpr ⟨textual, hmade⟩
  exact ⟨nonempty, textual, lines, houtput, hboth.imp fun _ _ h => h.2 h.1⟩

end Script

end Flowchart
