import Mathlib.Data.List.Nodup
import Flowchart.Proofs.Report.Generator

/-! # Scripts that are read back

A script is read line by line.  A line that makes a node tells its label, its kind and its data, a
line that adds a child names two variables, and all other lines are passed over.  `read_script` says
that the chart is found in its script again, if every node has a variable of its own.
-/

namespace Flowchart

namespace Script

/-! ## Statements -/

/-- Whether a character can stand in a variable. -/
def isVarChar : CodePoint → Bool
  | .scalar c => c.isLower || c.isDigit || c == '_'
  | .surrogate _ => false

/-- What a line of a script does. -/
inductive Statement where
  /-- Makes a node and gives it to a variable. -/
  | node (var text : Text) (kind : Kind) (data : Json)
  /-- Adds the node of the variable `target` to the children of another node. -/
  | child (var : Text) (branch : Option Text) (target : Text)

/-- Reads up to a single quote that is followed by a comma. -/
def readName (rest : Text) : Option (Text × Text) := do
  let name := rest.takeWhile fun c => c ≠ .scalar '\x27'
  let rest ← (rest.drop name.length).dropPrefix? "', "
  return (name, rest)

/-- Reads a variable and what has to close the line behind it. -/
def readTarget (closing rest : Text) : Option Text :=
  let target := rest.takeWhile isVarChar
  if rest.drop target.length = closing then some target else none

/-- Reads the rest `L, 'K', D)` of a line that makes a node. -/
def readNode (var rest : Text) : Option Statement := do
  let (text, rest) ← Text.Quoted.read? rest
  let rest ← rest.dropPrefix? ", '"
  let (kind, rest) ← readName rest
  if rest.getLast? = some (.scalar ')') then
    match Json.parse rest.dropLast with
    | .ok data => some (.node var text (.ofName kind) data)
    | .error _ => none
  else none

/-- Reads the rest `W)` or `('b', W))` of a line that adds a child. -/
def readChild (var rest : Text) : Option Statement :=
  match rest.dropPrefix? "('" with
  | some rest => do
    let (branch, rest) ← readName rest
    let target ← readTarget "))" rest
    return .child var (some branch) target
  | none => do
    let target ← readTarget ")" rest
    return .child var none target

/-- Reads a line, unless it neither makes a node nor adds a child. -/
def readLine (line : Text) : Option Statement :=
  let var := line.takeWhile isVarChar
  let rest := line.drop var.length
  match rest.dropPrefix? " = Node(" with
  | some rest => readNode var rest
  | none => (rest.dropPrefix? ".children.append(").bind (readChild var)

/-! ## The nodes of a script -/

/-- A node as a script tells of it.  Its children are given by their places among the nodes of the
script, each with the label of the link if it has one. -/
structure Declared where
  text : Text
  kind : Kind
  data : Json
  children : List (Nat × Option Text)

/-- The place of the node of a variable. -/
def place? (nodes : List (Text × Declared)) (var : Text) : Option Nat :=
  nodes.findIdx? fun n => n.1 = var

/-- What a statement does to the nodes.  No variable is given a second node. -/
def Statement.run (nodes : List (Text × Declared)) : Statement → Option (List (Text × Declared))
  | .node var text kind data =>
    match place? nodes var with
    | some _ => none
    | none => some (nodes ++ [(var, ⟨text, kind, data, []⟩)])
  | .child var branch target => do
    let source ← place? nodes var
    let place ← place? nodes target
    return nodes.modify source fun n =>
      (n.1, { n.2 with children := n.2.children ++ [(place, branch)] })

/-- Reads a script: its nodes, in order. -/
def read (script : Text) : Option (List Declared) := do
  let nodes ← ((Text.lines script).filterMap readLine).foldlM Statement.run []
  return nodes.map Prod.snd

/-! ## Reading lines -/

theorem dropPrefix?_append (p rest : Text) : (p ++ rest).dropPrefix? p = some rest :=
  List.dropPrefix?_append_of_beq rest (by simp)

theorem readName_append {name : Text} (h : .scalar '\x27' ∉ name) (rest : Text) :
    readName (name ++ ("', " ++ rest)) = some (name, rest) := by
  have hname : (name ++ ("', " ++ rest)).takeWhile (fun c => c ≠ .scalar '\x27') = name := by
    apply Text.takeWhile_append_of_head
    · intro c hc
      rw [decide_eq_true_eq]
      rintro rfl
      exact h hc
    · rintro _ ⟨⟩
      rfl
  simp only [readName, hname, List.drop_left, dropPrefix?_append, Option.bind_eq_bind,
    Option.bind_some, Option.pure_def]

theorem readTarget_append {target closing : Text} (h : ∀ c ∈ target, isVarChar c = true)
    (hclosing : ∀ c ∈ closing.head?, isVarChar c = false) :
    readTarget closing (target ++ closing) = some target := by
  have htarget := Text.takeWhile_append_of_head h hclosing
  rw [readTarget, htarget, List.drop_left, if_pos rfl]

section Lines

variable {var : Text} (plain : ∀ c ∈ var, isVarChar c = true)

include plain

theorem readLine_append {rest : Text} (apart : ∀ c ∈ rest.head?, isVarChar c = false) :
    readLine (var ++ rest) =
      match rest.dropPrefix? " = Node(" with
      | some rest => readNode var rest
      | none => (rest.dropPrefix? ".children.append(").bind (readChild var) := by
  have hvar := Text.takeWhile_append_of_head plain apart
  rw [readLine, hvar, List.drop_left]

theorem readLine_node (rest : Text) : readLine (var ++ (" = Node(" ++ rest)) = readNode var rest := by
  have apart : ∀ c ∈ (" = Node(" ++ rest : Text).head?, isVarChar c = false := by
    rintro _ ⟨⟩
    rfl
  rw [readLine_append plain apart, dropPrefix?_append]

theorem readLine_child (rest : Text) :
    readLine (var ++ (".children.append(" ++ rest)) = readChild var rest := by
  have apart : ∀ c ∈ (".children.append(" ++ rest : Text).head?, isVarChar c = false := by
    rintro _ ⟨⟩
    rfl
  have hnode : (".children.append(" ++ rest : Text).dropPrefix? " = Node(" = none := rfl
  rw [readLine_append plain apart, hnode, dropPrefix?_append]
  rfl

end Lines

theorem readNode_append (var text : Text) {kind : Kind} {data : Json} {printed : Text}
    (known : ∀ name, kind ≠ .other name) (parsed : Json.parse printed = .ok data) :
    readNode var (Text.quoted text ++ (", '" ++ (kind.name ++ ("', " ++ (printed ++ ")"))))) =
      some (.node var text kind data) := by
  have hkind : .scalar '\x27' ∉ kind.name ∧ Kind.ofName kind.name = kind := by
    cases kind with
    | other name => exact absurd rfl (known name)
    | state | process | decision | generic => decide
  have hclosing : (")" : Text) = [.scalar ')'] := rfl
  simp only [readNode, Text.Quoted.read?_quoted, dropPrefix?_append, readName_append hkind.1,
    Option.bind_eq_bind, Option.bind_some, hclosing, List.getLast?_concat, List.dropLast_concat,
    parsed, hkind.2, if_true]

theorem readChild_plain (var : Text) {target : Text} (h : ∀ c ∈ target, isVarChar c = true) :
    readChild var (target ++ ")") = some (.child var none target) := by
  -- no variable begins with the bracket that opens a pair
  have hplain : (target ++ ")" : Text).dropPrefix? "('" = none := by
    cases target with
    | nil => rfl
    | cons c target =>
      have hc : c ≠ .scalar '(' := by
        rintro rfl
        exact absurd (h _ List.mem_cons_self) (by decide)
      simp [Text.ofString, Text.ofChars, List.dropPrefix?, hc]
  have htarget : readTarget ")" (target ++ ")") = some target := readTarget_append h (by decide)
  simp [readChild, hplain, htarget]

theorem readChild_labelled (var : Text) {branch target : Text} (hbranch : .scalar '\x27' ∉ branch)
    (h : ∀ c ∈ target, isVarChar c = true) :
    readChild var ("('" ++ (branch ++ ("', " ++ (target ++ "))")))) =
      some (.child var (some branch) target) := by
  have htarget : readTarget "))" (target ++ "))") = some target := readTarget_append h (by decide)
  simp [readChild, dropPrefix?_append, readName_append hbranch, htarget]

/-! ## The lines of a chart -/

/-- Charts that can be read back from their scripts. -/
structure Legible (c : Chart) : Prop where
  textual : ∀ n ∈ c.nodes, ∀ role, n.content.role? = some role → ∃ s, role = .text s
  labelled : ∀ n ∈ c.nodes, n.kind = .decision → ∀ e ∈ n.children,
    e.branch = some "true" ∨ e.branch = some "false"
  plain : ∀ n ∈ c.nodes, ∀ x ∈ nodeVar n.text, isVarChar x = true
  distinct : (c.nodes.map fun n => nodeVar n.text).Nodup

theorem Legible.plainLabels {c : Chart} (hc : Legible c) : PlainLabels c := by
  intro n hn hdecision e he b hb
  rcases hc.labelled n hn hdecision e he with h | h
  · cases h.symm.trans hb
    decide
  · cases h.symm.trans hb
    decide

/-- What a node holds is printed as an object that is read back. -/
theorem exists_print_data {content : Content}
    (textual : ∀ role, content.role? = some role → ∃ s, role = .text s) :
    ∃ printed, (data content).print = .ok printed ∧ Json.parse printed = .ok (data content) := by
  have hempty : ∃ printed, (Json.object []).print = .ok printed ∧
      Json.parse printed = .ok (.object []) := ⟨"\x7b\x7d", rfl, rfl⟩
  have hfield : ∀ name s, ∃ printed, (Json.object [(name, .text s)]).print = .ok printed ∧
      Json.parse printed = .ok (.object [(name, .text s)]) :=
    fun name s => ⟨_, rfl, Json.parse_field name s⟩
  cases content with
  | generic => exact hempty
  | state role =>
    obtain ⟨s, rfl⟩ := textual role rfl
    rw [data]
    split
    · exact hfield _ s
    · exact hempty
  | process text | decision text =>
    cases text with
    | none => exact hempty
    | some s =>
      simp only [data, data.field]
      split
      · exact hempty
      · exact hfield _ s

/-- What the line of a node does. -/
def nodeStatement (n : Node) : Statement :=
  .node (nodeVar n.text) n.text n.kind (data n.content)

section Nodes

variable {c : Chart} (hc : Legible c) {n : Node} (hn : n ∈ c.nodes)

include hc hn

theorem exists_nodeLine :
    ∃ line, nodeLine n = .ok line ∧ readLine line = some (nodeStatement n) := by
  obtain ⟨printed, hprint, hparse⟩ := exists_print_data (hc.textual n hn)
  have known : ∀ name, n.kind ≠ .other name := by
    intro name
    rw [Node.kind]
    cases n.content <;> simp [Content.kind]
  have hline : nodeLine n = .ok (nodeVar n.text ++ (" = Node(" ++ (Text.quoted n.text ++
      (", '" ++ (n.kind.name ++ ("', " ++ (printed ++ ")"))))))) := by
    simp only [nodeLine, hprint, bind, Except.bind, pure, Except.pure, List.append_assoc]
  refine ⟨_, hline, ?_⟩
  rw [readLine_node (hc.plain n hn), readNode_append _ _ known hparse, nodeStatement]

theorem readLine_childLine {e : Child} (he : e ∈ n.children) {target : Node}
    (htarget : c.node? e.place = some target) (hmem : target ∈ c.nodes) :
    readLine (childLine c n e) = some (.child (nodeVar n.text)
      (if n.kind = .decision then e.branch else none) (nodeVar target.text)) := by
  unfold childLine
  simp only [htarget, Option.map_some, Option.getD_some]
  split
  · rename_i hdecision
    obtain ⟨b, hb, hquote⟩ : ∃ b, e.branch = some b ∧ .scalar '\x27' ∉ b := by
      rcases hc.labelled n hn hdecision e he with h | h
      · exact ⟨_, h, by decide⟩
      · exact ⟨_, h, by decide⟩
    simp only [hb, Option.getD_some, List.append_assoc]
    rw [readLine_child (hc.plain n hn), readChild_labelled _ hquote (hc.plain target hmem)]
  · simp only [List.append_assoc]
    rw [readLine_child (hc.plain n hn), readChild_plain _ (hc.plain target hmem)]

end Nodes

/-! ## Running the statements -/

theorem place?_eq_some {nodes : List (Text × Declared)} (distinct : (nodes.map Prod.fst).Nodup)
    {var : Text} {i : Nat} (h : (nodes.map Prod.fst)[i]? = some var) :
    place? nodes var = some i := by
  obtain ⟨hi, hvar⟩ := List.getElem?_eq_some_iff.mp h
  rw [List.length_map] at hi
  rw [List.getElem_map] at hvar
  rw [place?, List.findIdx?_eq_some_iff_getElem]
  refine ⟨hi, by simpa using hvar, ?_⟩
  intro j hj heq
  rw [decide_eq_true_eq] at heq
  -- a place before it would hold the same variable once more
  have hj' : j < (nodes.map Prod.fst).length := by
    rw [List.length_map]
    omega
  have hsame : (nodes.map Prod.fst)[j]? = (nodes.map Prod.fst)[i]? := by
    rw [List.getElem?_eq_getElem hj', List.getElem_map, heq, h]
  have := (List.getElem?_inj hj' distinct).mp hsame
  omega

theorem modify_length_append {α : Type} (f : α → α) (xs : List α) (x : α) (ys : List α) :
    (xs ++ x :: ys).modify xs.length f = xs ++ f x :: ys := by
  induction xs with
  | nil => rfl
  | cons y xs ih => simp [ih]

/-- A node as it is made, without children. -/
def made (n : Node) : Text × Declared :=
  (nodeVar n.text, ⟨n.text, n.kind, data n.content, []⟩)

theorem run_nodes {nodes : List (Text × Declared)} {ns : List Node}
    (distinct : (nodes.map Prod.fst ++ ns.map fun n => nodeVar n.text).Nodup) :
    (ns.map nodeStatement).foldlM Statement.run nodes = some (nodes ++ ns.map made) := by
  induction ns generalizing nodes with
  | nil => simp
  | cons n ns ih =>
    have hnew : place? nodes (nodeVar n.text) = none := by
      rw [place?, List.findIdx?_eq_none_iff]
      intro x hx
      rw [decide_eq_false_iff_not]
      intro heq
      rw [List.nodup_append] at distinct
      exact distinct.2.2 _ (List.mem_map_of_mem hx) _ (by simp) heq
    have hdistinct : ((nodes ++ [made n]).map Prod.fst ++ ns.map fun n => nodeVar n.text).Nodup := by
      simpa [made] using distinct
    have hrest := ih hdistinct
    simp only [List.map_cons, List.foldlM_cons, nodeStatement, Statement.run, hnew,
      Option.bind_eq_bind, Option.bind_some]
    simpa [made] using hrest

theorem run_children {nodes rest : List (Text × Declared)} {var : Text} {es : List Child}
    {branch : Child → Option Text} {target : Child → Text} {place : Child → Nat}
    (distinct : (nodes.map Prod.fst ++ var :: rest.map Prod.fst).Nodup)
    (placed : ∀ e ∈ es, (nodes.map Prod.fst ++ var :: rest.map Prod.fst)[place e]? =
      some (target e)) (d : Declared) :
    (es.map fun e => Statement.child var (branch e) (target e)).foldlM Statement.run
        (nodes ++ (var, d) :: rest) =
      some (nodes ++ (var, { d with
        children := d.children ++ es.map fun e => (place e, branch e) }) :: rest) := by
  -- the variables stay as they are while children are added to one of the nodes
  induction es generalizing d with
  | nil => simp
  | cons e es ih =>
    obtain ⟨he, hes⟩ := List.forall_mem_cons.mp placed
    have hvars : (nodes ++ (var, d) :: rest).map Prod.fst =
        nodes.map Prod.fst ++ var :: rest.map Prod.fst := by simp
    have hsource : place? (nodes ++ (var, d) :: rest) var = some nodes.length := by
      apply place?_eq_some (by rwa [hvars])
      rw [hvars]
      simp
    have htarget : place? (nodes ++ (var, d) :: rest) (target e) = some (place e) :=
      place?_eq_some (by rwa [hvars]) (by rwa [hvars])
    simp only [List.map_cons, List.foldlM_cons, Statement.run, hsource, htarget,
      Option.bind_eq_bind, Option.bind_some, Option.pure_def, modify_length_append]
    rw [ih hes]
    simp

/-- A node as its chart has it. -/
def declared (c : Chart) (n : Node) : Declared where
  text := n.text
  kind := n.kind
  data := data n.content
  children := n.children.map fun e =>
    (c.places.idxOf e.place, if n.kind = .decision then e.branch else none)

/-- The variable of a child. -/
def targetVar (c : Chart) (e : Child) : Text :=
  nodeVar (((c.node? e.place).map (·.text)).getD "")

/-- What the line of a child does. -/
def childStatement (c : Chart) (n : Node) (e : Child) : Statement :=
  .child (nodeVar n.text) (if n.kind = .decision then e.branch else none) (targetVar c e)

theorem run_tree {c : Chart} (distinct : (c.nodes.map fun n => nodeVar n.text).Nodup)
    (placed : ∀ n ∈ c.nodes, ∀ e ∈ n.children,
      (c.nodes.map fun n => nodeVar n.text)[c.places.idxOf e.place]? = some (targetVar c e))
    {before ns : List Node} (h : c.nodes = before ++ ns) :
    (ns.flatMap fun n => n.children.map (childStatement c n)).foldlM Statement.run
        (before.map (fun n => (nodeVar n.text, declared c n)) ++ ns.map made) =
      some (c.nodes.map fun n => (nodeVar n.text, declared c n)) := by
  -- the nodes before the place have their children, the others have none yet
  induction ns generalizing before with
  | nil => simp [h]
  | cons n ns ih =>
    have hvars : (before.map (fun n => (nodeVar n.text, declared c n))).map Prod.fst ++
        nodeVar n.text :: (ns.map made).map Prod.fst = c.nodes.map fun n => nodeVar n.text := by
      simp [h, made, Function.comp_def]
    have hn : n ∈ c.nodes := by simp [h]
    have hchildren : (n.children.map (childStatement c n)).foldlM Statement.run
        (before.map (fun n => (nodeVar n.text, declared c n)) ++ made n :: ns.map made) =
        some (before.map (fun n => (nodeVar n.text, declared c n)) ++
          (nodeVar n.text, declared c n) :: ns.map made) :=
      run_children (by rwa [hvars]) (by rw [hvars]; exact placed n hn) _
    have hsplit : c.nodes = (before ++ [n]) ++ ns := by simpa using h
    have hrest := ih hsplit
    rw [List.flatMap_cons, List.foldlM_append, List.map_cons, hchildren]
    simpa using hrest

/-! ## Reading a script -/

theorem exists_nodeLines {c : Chart} (hc : Legible c) {ns : List Node} (hns : ns ⊆ c.nodes) :
    ∃ ls, nodeLines ns = (ls, .ok ()) ∧ ls.filterMap readLine = ns.map nodeStatement := by
  induction ns with
  | nil => exact ⟨[], rfl, rfl⟩
  | cons n ns ih =>
    obtain ⟨hn, hns⟩ := List.cons_subset.mp hns
    obtain ⟨line, hline, hread⟩ := exists_nodeLine hc hn
    obtain ⟨ls, hls, hreads⟩ := ih hns
    refine ⟨line :: ls, ?_, ?_⟩
    · simp [nodeLines, hline, hls]
    · simp [hread, hreads]

section Charts

variable {c : Chart} (wellFormed : c.WellFormed) (hc : Legible c)
  (current : ∀ n ∈ c.nodes, ∀ e ∈ n.children, e.place ∈ c.places)

include wellFormed current

theorem exists_target {n : Node} (hn : n ∈ c.nodes) {e : Child} (he : e ∈ n.children) :
    ∃ m ∈ c.nodes, c.node? e.place = some m ∧ c.nodes[c.places.idxOf e.place]? = some m := by
  have hplace := current n hn e he
  obtain ⟨m, hm⟩ := wellFormed.node_of_mem_places hplace
  refine ⟨m, Chart.mem_nodes.mpr ⟨_, hplace, hm⟩, hm, ?_⟩
  rw [wellFormed.getElem?_nodes (List.getElem?_idxOf hplace), hm]

include hc

theorem readLine_linked {n : Node} (hn : n ∈ c.nodes) {e : Child} (he : e ∈ n.children) :
    readLine (childLine c n e) = some (childStatement c n e) := by
  obtain ⟨m, hmem, hm, -⟩ := exists_target wellFormed current hn he
  have hread := readLine_childLine hc hn he hm hmem
  simpa [childStatement, targetVar, hm] using hread

theorem filterMap_treeLines :
    (treeLines c).filterMap readLine = c.nodes.flatMap fun n => n.children.map (childStatement c n) := by
  have hopening : readLine "" = none ∧ readLine "# Build tree structure" = none := ⟨rfl, rfl⟩
  rw [treeLines, List.filterMap_cons_none hopening.1, List.filterMap_cons_none hopening.2,
    List.filterMap_flatMap]
  refine List.flatMap_congr fun n hn => ?_
  rw [List.filterMap_map, ← List.filterMap_eq_map]
  exact List.filterMap_congr fun e he => readLine_linked wellFormed hc current hn he

theorem run_script :
    (c.nodes.map nodeStatement ++ c.nodes.flatMap fun n =>
        n.children.map (childStatement c n)).foldlM Statement.run [] =
      some (c.nodes.map fun n => (nodeVar n.text, declared c n)) := by
  have hplaced : ∀ n ∈ c.nodes, ∀ e ∈ n.children,
      (c.nodes.map fun n => nodeVar n.text)[c.places.idxOf e.place]? = some (targetVar c e) := by
    intro n hn e he
    obtain ⟨m, -, hm, hindex⟩ := exists_target wellFormed current hn he
    simp [targetVar, hm, hindex]
  have hnodes : (c.nodes.map nodeStatement).foldlM Statement.run [] = some (c.nodes.map made) :=
    run_nodes hc.distinct
  have hchildren : (c.nodes.flatMap fun n => n.children.map (childStatement c n)).foldlM Statement.run
      (c.nodes.map made) = some (c.nodes.map fun n => (nodeVar n.text, declared c n)) :=
    run_tree hc.distinct hplaced (List.nil_append _).symm
  rw [List.foldlM_append, hnodes]
  exact hchildren

/-- The script of a chart of which no link leads to a replaced node is read back. -/
theorem read_script_of_legible (nonempty : c.size ≠ 0) :
    ∃ script, c.script = .ok script ∧ read script = some (c.nodes.map (declared c)) := by
  obtain ⟨ls, hls, hreads⟩ := exists_nodeLines hc (List.Subset.refl c.nodes)
  have hscript : c.script = .ok (Text.unlines (chartLines c)) :=
    (script_eq_ok_iff nonempty).mpr ⟨⟨ls, hls⟩, rfl⟩
  have hlines := Text.lines_unlines (lineFeed_not_mem_chartLines hc.plainLabels hls)
  have hstatements : (chartLines c ++ [[]]).filterMap readLine =
      c.nodes.map nodeStatement ++ c.nodes.flatMap fun n => n.children.map (childStatement c n) := by
    have hheader : header.filterMap readLine = [] := rfl
    have hend : readLine [] = none := rfl
    simp [chartLines, hls, hheader, hreads, filterMap_treeLines wellFormed hc current, hend]
  refine ⟨_, hscript, ?_⟩
  rw [read, hlines, hstatements, run_script wellFormed hc current]
  simp

end Charts

/-! ## Charts that are built from records -/

theorem textual_of_record {r : NodeRecord}
    (textual : ∀ role, r.role = some role → ∃ s, role = .text s) {role : Json}
    (h : (Node.ofRecord r).content.role? = some role) : ∃ s, role = .text s := by
  cases hkind : r.kind with
  | process | decision | generic | other _ => simp [Node.ofRecord, hkind, Content.role?] at h
  | state =>
    cases hrole : r.role with
    | none =>
      simp only [Node.ofRecord, hkind, hrole, Content.role?, Option.some.injEq] at h
      exact ⟨_, h.symm⟩
    | some given =>
      simp only [Node.ofRecord, hkind, hrole, Content.role?, Option.some.injEq] at h
      split at h
      · exact textual role (h ▸ hrole)
      · exact ⟨_, h.symm⟩

/-- The script of a chart determines the chart.  Its lines tell the nodes in order, each with its
label, its kind and what it holds, and the children of each node in order, with the labels of the
links where the node is a decision. -/
theorem read_script {nodes : List NodeRecord} {links : List LinkRecord}
    (nonempty : (Chart.build nodes links).size ≠ 0)
    (textual : ∀ r ∈ nodes, ∀ role, r.role = some role → ∃ s, role = .text s)
    (labelled : ∀ n ∈ (Chart.build nodes links).nodes, n.kind = .decision → ∀ e ∈ n.children,
      e.branch = some "true" ∨ e.branch = some "false")
    (plain : ∀ n ∈ (Chart.build nodes links).nodes, ∀ x ∈ nodeVar n.text, isVarChar x = true)
    (distinct : ((Chart.build nodes links).nodes.map fun n => nodeVar n.text).Nodup) :
    ∃ script, (Chart.build nodes links).script = .ok script ∧
      read script = some ((Chart.build nodes links).nodes.map (declared (Chart.build nodes links))) := by
  have wellFormed := Chart.wellFormed_build nodes links
  have htextual : ∀ n ∈ (Chart.build nodes links).nodes, ∀ role,
      n.content.role? = some role → ∃ s, role = .text s := by
    intro n hn role hrole
    have hbuild := Chart.find?_build nodes links n.key
    rw [wellFormed.mem_nodes_iff.mp hn] at hbuild
    obtain ⟨r, hr, hnode⟩ := Option.map_eq_some_iff.mp hbuild.symm
    rw [← hnode] at hrole
    exact textual_of_record (textual r (lastRecord_same hr).1) hrole
  have current : ∀ n ∈ (Chart.build nodes links).nodes, ∀ e ∈ n.children,
      e.place ∈ (Chart.build nodes links).places := by
    intro n hn e he
    obtain ⟨p, hp, hnode⟩ := Chart.mem_nodes.mp hn
    exact Chart.child_mem_places hp hnode he
  exact read_script_of_legible wellFormed ⟨htextual, labelled, plain, distinct⟩ current nonempty

/-- A decision whose label holds a line feed, and whose condition holds quotes, is read back with its
two children. -/
theorem read_script_decision :
    ∃ script, (Chart.build
        [⟨.int 1, .state, "Start", none, none, some (.text "start")⟩,
          ⟨.int 2, .decision, "Which\nway", none, some "x == 'a'", none⟩]
        [⟨.int 1, .int 2, none⟩, ⟨.int 2, .int 1, some "false"⟩, ⟨.int 2, .int 2, some "true"⟩]).script =
          .ok script ∧
      read script = some [⟨"Start", .state, .object [("state_type", .text "start")], [(1, none)]⟩,
        ⟨"Which\nway", .decision, .object [("condition", .text "x == 'a'")],
          [(0, some "false"), (1, some "true")]⟩] := by
  refine read_script (by decide) ?_ (by decide) (by decide) (by decide)
  simp

end Script

end Flowchart
