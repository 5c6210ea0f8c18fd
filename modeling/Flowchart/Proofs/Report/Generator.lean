import Flowchart.Proofs.Chart.Edit
import Flowchart.Proofs.Json.Printer
import Flowchart.Report.Script

/-! # Scripts that are written in turn

A generator keeps the lines it wrote, so what it answers is made of the lines of all charts it was
given, in turn.  It keeps its level of indentation too: `level_generate` says that every chart leaves
it as it was, and `lines_after` that therefore all charts are written at one level.  No text a chart
holds brings a line feed into one of these lines: in variables blanks are replaced, labels are quoted,
what a node holds is printed on one line, and only the labels of the links that leave decisions stand
there as they are.  So the lines of a script are counted by the nodes and links of its chart.
-/

namespace Flowchart

/-- The integers in what a node holds, which are those in the role of a state. -/
def Content.ints (content : Content) : List Int :=
  match content.role? with
  | some role => role.ints
  | none => []

namespace Script

/-! ## Lines without line feeds -/

theorem isBlank_of_mem_joinWords {inBlank : Bool} {t : Text} {c : CodePoint}
    (h : c ∈ joinWords inBlank t) : Text.isBlank c = false := by
  induction t generalizing inBlank with
  | nil => cases h
  | cons d t ih =>
    rw [joinWords] at h
    split at h
    · split at h
      · exact ih h
      · rcases List.mem_cons.mp h with rfl | h
        · decide
        · exact ih h
    · rename_i hd
      rcases List.mem_cons.mp h with rfl | h
      · simpa using hd
      · exact ih h

/-- There is no blank in a variable. -/
theorem isBlank_of_mem_nodeVar {t : Text} {c : CodePoint} (h : c ∈ nodeVar t) :
    Text.isBlank c = false :=
  Text.isBlank_of_mem_lower (fun _ => isBlank_of_mem_joinWords) c h

theorem lineFeed_not_mem_nodeVar (t : Text) : .scalar '\n' ∉ nodeVar t :=
  fun h => absurd (isBlank_of_mem_nodeVar h) (by decide)

theorem lineFeed_not_mem_kindName (n : Node) : .scalar '\n' ∉ n.kind.name := by
  rw [Node.kind]
  cases n.content <;> simp only [Content.kind] <;> decide

theorem lineFeed_not_mem_nodeLine {n : Node} {line : Text} (h : nodeLine n = .ok line) :
    .scalar '\n' ∉ line := by
  rw [nodeLine, bind_eq_ok_iff] at h
  obtain ⟨printed, hprint, ⟨⟩⟩ := h
  have hprinted := (Json.inline_print _ printed hprint).lineFeed_not_mem
  simp only [List.append_assoc, List.mem_append, not_or]
  exact ⟨lineFeed_not_mem_nodeVar _, by decide, (Text.Quoted.inline_quoted _).lineFeed_not_mem, by decide,
    lineFeed_not_mem_kindName n, by decide, hprinted, by decide⟩

variable {c : Chart}

theorem lineFeed_not_mem_childLine {n : Node} {e : Child}
    (labels : n.kind = .decision → ∀ b, e.branch = some b → .scalar '\n' ∉ b) :
    .scalar '\n' ∉ childLine c n e := by
  have hvar := lineFeed_not_mem_nodeVar
  unfold childLine
  split
  · rename_i hdecision
    have hbranch : .scalar '\n' ∉ e.branch.getD "None" := by
      cases hb : e.branch with
      | none => decide
      | some b => exact labels hdecision b hb
    simp only [List.append_assoc, List.mem_append, not_or]
    exact ⟨hvar _, by decide, by decide, hbranch, by decide, hvar _, by decide⟩
  · simp only [List.append_assoc, List.mem_append, not_or]
    exact ⟨hvar _, by decide, hvar _, by decide⟩

/-- The labels of the links that leave decisions hold no line feed. -/
def PlainLabels (c : Chart) : Prop :=
  ∀ n ∈ c.nodes, n.kind = .decision → ∀ e ∈ n.children, ∀ b, e.branch = some b → .scalar '\n' ∉ b

theorem lineFeed_not_mem_treeLines (labels : PlainLabels c) : ∀ l ∈ treeLines c, .scalar '\n' ∉ l := by
  intro l hl
  simp only [treeLines, List.mem_cons, List.mem_flatMap, List.mem_map] at hl
  rcases hl with rfl | rfl | ⟨n, hn, e, he, rfl⟩
  · decide
  · decide
  · exact lineFeed_not_mem_childLine fun hdecision => labels n hn hdecision e he

theorem length_treeLines (c : Chart) : (treeLines c).length = 2 + c.linkCount := by
  simp only [treeLines, Chart.linkCount, List.length_cons, List.length_flatMap, List.length_map]
  omega

/-! ## The lines of a chart -/

/-- The lines before the nodes. -/
def header : List Text :=
  ["# Flowchart Tree Structure",
   "",
   "class Node:",
   "    def __init__(self, name, node_type, data=None):",
   "        self.name = name",
   "        self.type = node_type",
   "        self.data = data or \x7b\x7d",
   "        self.children = []",
   ""]

/-- The lines that make nodes: all of them, or those before the first one that cannot be written. -/
def nodeLines : List Node → List Text × Except LimitError Unit
  | [] => ([], .ok ())
  | n :: ns =>
    match nodeLine n with
    | .error e => ([], .error e)
    | .ok line => (line :: (nodeLines ns).1, (nodeLines ns).2)

theorem shows_data (content : Content) : Shows content.ints (data content).print := by
  cases content with
  | generic => exact .nil _
  | process text | decision text =>
    cases text with
    | none => exact .nil _
    | some s =>
      simp only [data, data.field]
      split <;> exact .nil _
  | state role =>
    rw [data]
    cases hpresent : role.isTruthy with
    | true =>
      have hshows := Json.shows_print (.object [("state_type", role)])
      simp only [Json.ints, Json.intsOfFields, List.append_nil] at hshows
      exact hshows
    | false => exact .of_forall (Json.isWritable_of_not_truthy hpresent) _

/-- The line of a node can be written exactly if the integers in its role can. -/
theorem shows_nodeLine (n : Node) : Shows n.content.ints (nodeLine n) :=
  (shows_data n.content).map _

theorem exists_nodeLines_iff {ns : List Node} :
    (∃ ls, nodeLines ns = (ls, .ok ())) ↔
      ∀ n ∈ ns, ∀ m ∈ n.content.ints, m.natAbs < 10 ^ maxDigits := by
  simp only [← Numeral.isWritable_iff]
  induction ns with
  | nil => simp [nodeLines]
  | cons n ns ih =>
    rw [List.forall_mem_cons, ← ih, ← (shows_nodeLine n).exists_ok_iff]
    cases hline : nodeLine n with
    | error e => simp [nodeLines, hline]
    | ok line => simp [nodeLines, hline, Prod.ext_iff]

theorem map_nodeLine {ns : List Node} {ls : List Text} (h : nodeLines ns = (ls, .ok ())) :
    ns.map nodeLine = ls.map .ok := by
  induction ns generalizing ls with
  | nil =>
    cases h
    rfl
  | cons n ns ih =>
    cases hline : nodeLine n with
    | error e => simp [nodeLines, hline] at h
    | ok l =>
      simp only [nodeLines, hline, Prod.mk.injEq] at h
      obtain ⟨rfl, hrest⟩ := h
      rw [List.map_cons, List.map_cons, hline, ih (Prod.ext rfl hrest)]

/-- The lines that a chart adds to a generator.  Behind a line that cannot be written nothing more is
added. -/
def chartLines (c : Chart) : List Text :=
  match nodeLines c.nodes with
  | (ls, .error _) => header ++ ls
  | (ls, .ok ()) => header ++ ls ++ treeLines c

theorem lineFeed_not_mem_chartLines (labels : PlainLabels c) {ls : List Text}
    (hls : nodeLines c.nodes = (ls, .ok ())) : ∀ l ∈ chartLines c, .scalar '\n' ∉ l := by
  have hheader : ∀ l ∈ header, .scalar '\n' ∉ l := by decide
  simp only [chartLines, hls, List.forall_mem_append]
  refine ⟨⟨hheader, fun l hl => ?_⟩, lineFeed_not_mem_treeLines labels⟩
  have hmem : .ok l ∈ c.nodes.map nodeLine := map_nodeLine hls ▸ List.mem_map_of_mem hl
  obtain ⟨n, -, hline⟩ := List.mem_map.mp hmem
  exact lineFeed_not_mem_nodeLine hline

theorem length_chartLines (hc : c.WellFormed) {ls : List Text}
    (hls : nodeLines c.nodes = (ls, .ok ())) : (chartLines c).length = 11 + c.size + c.linkCount := by
  have hnodes := congrArg List.length (map_nodeLine hls)
  rw [List.length_map, List.length_map, hc.length_nodes] at hnodes
  have hheader : header.length = 9 := rfl
  simp only [chartLines, hls, List.length_append, hheader, ← hnodes, length_treeLines]
  omega

/-! ## Indentation -/

@[simp] theorem indented_zero : indented 0 = id := by
  funext line
  cases line <;> simp [indented, indent]

@[simp] theorem indented_indented (level more : Nat) (line : Text) :
    indented level (indented more line) = indented (level + more) line := by
  cases line with
  | nil => simp [indented]
  | cons c line =>
    simp [indented, indent, ← List.flatten_append, ← List.append_assoc]

/-- The header is made of lines at three levels. -/
theorem header_eq : header =
    (["# Flowchart Tree Structure", "", "class Node:",
      indented 1 "def __init__(self, name, node_type, data=None):",
      indented 2 "self.name = name", indented 2 "self.type = node_type",
      indented 2 "self.data = data or \x7b\x7d", indented 2 "self.children = []", ""] : List Text) := by
  simp [header, indented, indent, Text.ofString, Text.ofChars]

/-! ## Generators -/

namespace Generator

variable (g : Generator)

@[simp] theorem level_emit (line : Text) : (g.emit line).level = g.level := rfl

@[simp] theorem lines_emit (line : Text) :
    (g.emit line).lines = g.lines ++ [indented g.level line] := rfl

@[simp] theorem level_indentBy (levels : Nat) : (g.indentBy levels).level = g.level + levels := rfl

@[simp] theorem lines_indentBy (levels : Nat) : (g.indentBy levels).lines = g.lines := rfl

@[simp] theorem level_dedentBy (levels : Nat) : (g.dedentBy levels).level = g.level - levels := rfl

@[simp] theorem lines_dedentBy (levels : Nat) : (g.dedentBy levels).lines = g.lines := rfl

@[simp] theorem level_emitAll (ls : List Text) : (g.emitAll ls).level = g.level := by
  induction ls generalizing g with
  | nil => rfl
  | cons l ls ih => exact ih (g.emit l)

@[simp] theorem lines_emitAll (ls : List Text) :
    (g.emitAll ls).lines = g.lines ++ ls.map (indented g.level) := by
  induction ls generalizing g with
  | nil => simp [emitAll]
  | cons l ls ih => simpa [emitAll] using ih (g.emit l)

/-- The class of the nodes is written two levels further in, and these are left again behind it. -/
@[simp] theorem level_emitHeader : g.emitHeader.level = g.level := by
  simp [emitHeader]

@[simp] theorem lines_emitHeader :
    g.emitHeader.lines = g.lines ++ header.map (indented g.level) := by
  simp [emitHeader, header_eq]

/-- The lines of nodes are written at one level, also if one of them cannot be written. -/
theorem emitNodes_eq (ns : List Node) :
    g.emitNodes ns = (g.emitAll (nodeLines ns).1, (nodeLines ns).2) := by
  induction ns generalizing g with
  | nil => rfl
  | cons n ns ih =>
    rw [emitNodes, nodeLines]
    cases nodeLine n with
    | error e => rfl
    | ok line => exact ih (g.emit line)

theorem generate_of_empty (h : c.size = 0) : g.generate c = (g, .ok nothing) := by
  rw [generate, if_pos h]

/-- Whatever chart it is given, a generator ends at the level at which it began, even if a numeral
stops it. -/
theorem level_generate (c : Chart) : (g.generate c).1.level = g.level := by
  by_cases hempty : c.size = 0
  · rw [generate_of_empty g hempty]
  · rw [generate, if_neg hempty, emitNodes_eq]
    -- the nodes and the links are written at the level at which the header ends
    cases (nodeLines c.nodes).2 with
    | error e => simp
    | ok _ => simp

theorem lines_generate (h : c.size ≠ 0) :
    (g.generate c).1.lines = g.lines ++ (chartLines c).map (indented g.level) := by
  rw [generate, if_neg h, emitNodes_eq, chartLines]
  cases nodeLines c.nodes with
  | mk ls written => cases written <;> simp

theorem generate_eq_ok_iff (h : c.size ≠ 0) {output : Text} :
    (g.generate c).2 = .ok output ↔
      (∃ ls, nodeLines c.nodes = (ls, .ok ())) ∧
        output = Text.unlines (g.lines ++ (chartLines c).map (indented g.level)) := by
  have hlines := g.lines_generate h
  rw [generate, if_neg h, emitNodes_eq] at hlines ⊢
  cases hnodes : nodeLines c.nodes with
  | mk ls written =>
    cases written with
    | error e => simp
    | ok _ =>
      simp only [hnodes] at hlines ⊢
      rw [hlines, Text.joinWith_append_lineFeed (by simp [chartLines, hnodes, treeLines])]
      simp [eq_comm]

/-- The generator that was given charts in turn. -/
def after (cs : List Chart) : Generator :=
  cs.foldl (fun g c => (g.generate c).1) g

@[simp] theorem after_nil : g.after [] = g := rfl

@[simp] theorem after_cons (cs : List Chart) : g.after (c :: cs) = (g.generate c).1.after cs := rfl

theorem after_append (cs ds : List Chart) : g.after (cs ++ ds) = (g.after cs).after ds :=
  List.foldl_append

/-- A generator stands at the same level between any two charts. -/
theorem level_after (cs : List Chart) : (g.after cs).level = g.level := by
  induction cs generalizing g with
  | nil => rfl
  | cons c cs ih => rw [after_cons, ih, level_generate]

theorem lines_after (cs : List Chart) :
    (g.after cs).lines =
      g.lines ++ ((cs.filter (·.size ≠ 0)).flatMap chartLines).map (indented g.level) := by
  induction cs generalizing g with
  | nil => simp
  | cons c cs ih =>
    -- the charts that follow are written at the level that the first one leaves
    rw [after_cons, ih, level_generate]
    by_cases hempty : c.size = 0
    · simp [generate_of_empty, hempty]
    · simp [lines_generate, hempty]

end Generator

theorem script_eq_ok_iff (h : c.size ≠ 0) {script : Text} :
    c.script = .ok script ↔
      (∃ ls, nodeLines c.nodes = (ls, .ok ())) ∧ script = Text.unlines (chartLines c) := by
  rw [Chart.script, Generator.generate_eq_ok_iff _ h]
  simp [Generator.fresh]

theorem flatten_scripts {cs : List Chart} (nonempty : ∀ c ∈ cs, c.size ≠ 0) {scripts : List Text}
    (h : cs.map Chart.script = scripts.map .ok) :
    scripts.flatten = Text.unlines (cs.flatMap chartLines) := by
  induction cs generalizing scripts with
  | nil =>
    obtain rfl : scripts = [] := by simpa using h
    rfl
  | cons c cs ih =>
    obtain ⟨hc, hcs⟩ := List.forall_mem_cons.mp nonempty
    cases scripts with
    | nil => simp at h
    | cons script scripts =>
      rw [List.map_cons, List.map_cons, List.cons.injEq, script_eq_ok_iff hc] at h
      obtain ⟨⟨-, rfl⟩, hrest⟩ := h
      rw [List.flatten_cons, List.flatMap_cons, Text.unlines_append, ih hcs hrest]

/-- A generator that was given charts before answers with their scripts and that of the chart. -/
theorem generate_after {before : List Chart} (nonempty : c.size ≠ 0) {scripts : List Text}
    (h : ((before ++ [c]).filter (·.size ≠ 0)).map Chart.script = scripts.map .ok) :
    ((Generator.fresh.after before).generate c).2 = .ok scripts.flatten := by
  have hlast : (before ++ [c]).filter (·.size ≠ 0) = before.filter (·.size ≠ 0) ++ [c] := by
    simp [nonempty]
  have hnonempty : ∀ d ∈ (before ++ [c]).filter (·.size ≠ 0), d.size ≠ 0 := by
    intro d hd
    simpa using (List.mem_filter.mp hd).2
  have hflatten := flatten_scripts hnonempty h
  -- the last of the scripts is that of the chart
  have hmem : c.script ∈ scripts.map .ok := h ▸ List.mem_map_of_mem (by simp [nonempty])
  obtain ⟨script, -, hscript⟩ := List.mem_map.mp hmem
  have hls := ((script_eq_ok_iff nonempty).mp hscript.symm).1
  rw [Generator.generate_eq_ok_iff _ nonempty]
  refine ⟨hls, ?_⟩
  rw [hflatten, hlast, List.flatMap_append, List.flatMap_singleton, Generator.lines_after,
    Generator.level_after]
  simp [Generator.fresh]

/-- What a generator answers for the charts it is given in turn.  Every chart leaves it at the level
at which it found it, also one that a numeral keeps from being written, so all charts are written at
the outermost level.  For a chart without nodes the answer is a fixed text, and what is answered later
is as if the chart had not been given.  For any other chart it is the scripts of all charts so far
that have nodes, one behind the other.  The chart has a script exactly if the integers in the roles of
its states can be written, and whatever it holds, its script has a line for each node and for each
link, and eleven more. -/
theorem generate_in_turn (before : List Chart) (nodes : List NodeRecord) (links : List LinkRecord)
    (edits : List Chart.Edit) :
    let c := (Chart.build nodes links).edited edits
    let answer := fun before (c : Chart) => ((Generator.fresh.after before).generate c).2
    (∀ g : Generator, (g.generate c).1.level = g.level) ∧
    (c.size = 0 → answer before c = .ok nothing ∧
      ∀ later d, answer (before ++ c :: later) d = answer (before ++ later) d) ∧
    (c.size ≠ 0 →
      (∀ scripts : List Text,
        ((before ++ [c]).filter (·.size ≠ 0)).map Chart.script = scripts.map .ok →
        answer before c = .ok scripts.flatten) ∧
      ((∃ script, c.script = .ok script) ↔
        ∀ n ∈ c.nodes, ∀ m ∈ n.content.ints, m.natAbs < 10 ^ maxDigits) ∧
      ∀ script, c.script = .ok script → PlainLabels c →
        script.count (.scalar '\n') = 11 + c.size + c.linkCount) := by
  intro c answer
  have hc : c.WellFormed := (Chart.wellFormed_build nodes links).edited edits
  refine ⟨fun g => g.level_generate c, fun hempty => ⟨?_, fun later d => ?_⟩,
    fun nonempty => ⟨fun scripts h => ?_, ?_, ?_⟩⟩
  · simp only [answer, Generator.generate_of_empty _ hempty]
  · simp only [answer, Generator.after_append, Generator.after_cons,
      Generator.generate_of_empty _ hempty]
  · exact generate_after nonempty h
  · simp [script_eq_ok_iff nonempty, ← exists_nodeLines_iff]
  · intro script hscript labels
    obtain ⟨⟨ls, hls⟩, rfl⟩ := (script_eq_ok_iff nonempty).mp hscript
    rw [Text.count_lineFeed_unlines (lineFeed_not_mem_chartLines labels hls), length_chartLines hc hls]

/-- Behind the script of a single state stands that of three nodes whose labels, action and role hold
line feeds.  In between the generator was given a chart without nodes. -/
theorem generate_in_turn_behind_empty :
    let first := Chart.build [⟨.int 1, .state, "Start", none, none, some (.text "start")⟩] []
    let c := (Chart.build
        [⟨.int 1, .process, "Add\none", some "x\n+ 1", none, none⟩,
          ⟨.int 2, .decision, "More\r\n?", none, some "x < 9", none⟩]
        [⟨.int 1, .int 2, some "next\n"⟩, ⟨.int 2, .int 1, some "true"⟩]).edited
      [.add ⟨.int 3, .state, "\n", none, none, some (.list [.text "end\n", .int 7])⟩,
        .connect (.int 2) (.int 3) none, .relabel 1 0 (some "yes")]
    ∃ script script', first.script = .ok script ∧ c.script = .ok script' ∧
      ((Generator.fresh.after [first, Chart.empty]).generate c).2 = .ok (script ++ script') ∧
      script'.count (.scalar '\n') = 17 := by
  intro first c
  have hturn := (generate_in_turn [first, Chart.empty]
    [⟨.int 1, .process, "Add\none", some "x\n+ 1", none, none⟩,
      ⟨.int 2, .decision, "More\r\n?", none, some "x < 9", none⟩]
    [⟨.int 1, .int 2, some "next\n"⟩, ⟨.int 2, .int 1, some "true"⟩]
    [.add ⟨.int 3, .state, "\n", none, none, some (.list [.text "end\n", .int 7])⟩,
      .connect (.int 2) (.int 3) none, .relabel 1 0 (some "yes")]).2.2 (by decide)
  obtain ⟨hanswer, hwritten, hcount⟩ := hturn
  obtain ⟨script, hscript⟩ : ∃ script, first.script = .ok script := ⟨_, rfl⟩
  have hints : ∀ n ∈ c.nodes, ∀ m ∈ n.content.ints, m.natAbs < 10 := by decide
  obtain ⟨script', hscript'⟩ : ∃ script', c.script = .ok script' := hwritten.mpr fun n hn m hm =>
    (hints n hn m hm).trans_le (Nat.le_self_pow (by decide) 10)
  have hscripts : [first, c].map Chart.script = [script, script'].map .ok := by
    simp [hscript, hscript', -Chart.edited_cons]
  have hflatten : [script, script'].flatten = script ++ script' := by simp
  have hlabels : PlainLabels c := by
    unfold PlainLabels
    decide
  exact ⟨script, script', hscript, hscript', hflatten ▸ hanswer _ hscripts,
    hcount script' hscript' hlabels⟩

end Script

end Flowchart
