import Flowchart.Model
import Flowchart.Proofs.Action
import Flowchart.Proofs.Chart.Recode
import Flowchart.Proofs.Condition
import Flowchart.Proofs.Report.Trace

/-! # Records that are loaded from a model

Whatever the editor stored, the records that are loaded from it are `Sorted`: a node has a label,
and it has an action, a condition or a role only if that belongs to its kind.  To take labels as code
adds to the records what `NodeRecord.completed` says and changes nothing else; in particular the
chart keeps or breaks the same rules.  What is added is code: the syntax check of the loader lets
nothing through that the evaluation then ignores or refuses as malformed.
-/

namespace Flowchart

/-! ## Labels -/

namespace Binary64

theorem layout_ne_nil (ds : List Char) (point : Int) : layout ds point ≠ [] := by
  unfold layout
  split
  · split
    · simp
    · split <;> simp
  · simp

theorem text_ne_nil (x : Binary64) : x.text ≠ [] := by
  cases x with
  | nan => decide
  | infinite negative => cases negative <;> decide
  | finite negative m e =>
    simp only [text]
    split
    · cases negative <;> simp [Text.ofString, Text.ofChars]
    · simp [Text.ofChars, layout_ne_nil]

end Binary64

theorem Numeral.signed_ne_nil (n : Int) : signed n ≠ [] := by
  unfold signed text digits
  split <;> simp [Text.ofChars, Nat.toDigits_ne_nil]

namespace Json

theorem written_ne_nil {v : Json} {s : Text} (h : v.written = .ok s) : s ≠ [] := by
  cases v with
  | null => cases h; decide
  | bool b => cases h; cases b <;> decide
  | int n =>
    simp only [written, Numeral.write] at h
    split at h
    · cases h; exact Numeral.signed_ne_nil n
    · cases h
  | float x => cases h; exact x.text_ne_nil
  | text t => cases h; simp [Text.quoted]
  | list items =>
    simp only [written, bind_eq_ok_iff] at h
    obtain ⟨parts, -, h⟩ := h
    cases h
    simp [Text.ofString, Text.ofChars]
  | object fields =>
    simp only [written, bind_eq_ok_iff] at h
    obtain ⟨parts, -, h⟩ := h
    cases h
    simp [Text.ofString, Text.ofChars]

/-- Only the empty text is shown as an empty label. -/
theorem display_ne_nil {v : Json} {s : Text} (h : v.display = .ok s) (nonempty : v ≠ .text []) :
    s ≠ [] := by
  cases v with
  | text t =>
    cases h
    rintro rfl
    exact nonempty rfl
  | null | bool _ | int _ | float _ | list _ | object _ => exact written_ne_nil h

end Json

/-! ## Records -/

/-- A record with a label, whose action, condition and role belong to its kind. -/
structure NodeRecord.Sorted (r : NodeRecord) : Prop where
  text : r.text ≠ []
  action : r.action ≠ none → r.kind = .process
  condition : r.condition ≠ none → r.kind = .decision
  role : r.role ≠ none → r.kind = .state

/-- The record with its label taken as the action of a process that has none, or as the condition of
a decision that has none, if the label is code of that sort. -/
def NodeRecord.completed (r : NodeRecord) : NodeRecord :=
  { r with
    action :=
      if r.kind = .process ∧ r.action = none ∧ isValidAction r.text = .ok true then some r.text
      else r.action
    condition :=
      if r.kind = .decision ∧ r.condition = none ∧ isValidCondition r.text = .ok true then
        some r.text
      else r.condition }

theorem NodeRecord.recoded_completed (r : NodeRecord) : r.Recoded r.completed :=
  ⟨rfl, rfl, fun _ => rfl⟩

theorem NodeRecord.forall₂_completed (nodes : List NodeRecord) :
    List.Forall₂ Recoded nodes (nodes.map completed) := by
  rw [List.forall₂_map_right_iff, List.forall₂_same]
  exact fun r _ => r.recoded_completed

namespace Model

theorem label_ne_nil {v : Json} {s : Text} (h : label v = .ok s) (nonempty : v ≠ .text []) :
    s ≠ [] := by
  unfold label at h
  cases hdisplay : v.display with
  | error e => rw [hdisplay] at h; cases h
  | ok t =>
    rw [hdisplay] at h
    cases h
    exact Json.display_ne_nil hdisplay nonempty

theorem branchLabel_ne_nil {k : Key} {branch : Option Text} (h : branchLabel k = .ok branch) :
    branch ≠ some [] := by
  cases k with
  | null => cases h; simp
  | text s =>
    simp only [branchLabel] at h
    split at h <;> cases h <;> simp_all
  | bool b => cases h; cases b <;> decide
  | int n =>
    simp only [branchLabel, bind_eq_ok_iff] at h
    obtain ⟨s, hs, h⟩ := h
    cases h
    simpa using label_ne_nil hs (by simp [Key.toJson])
  | float x =>
    simp only [branchLabel, bind_eq_ok_iff] at h
    obtain ⟨s, hs, h⟩ := h
    cases h
    simpa using label_ne_nil hs (by simp [Key.toJson])

theorem ite_bind {α β ε : Type} (p : Prop) [Decidable p] (x y : Except ε α) (f : α → Except ε β) :
    (if p then x >>= f else y >>= f) = (if p then x else y) >>= f := by
  split <;> rfl

/-- The parts of a node that is loaded. -/
theorem loadNode_eq_ok_iff {labelsAsCode : Bool} {index : Nat} {entry : Fields} {r : NodeRecord} :
    loadNode labelsAsCode index entry = .ok r ↔
      ∃ figure text action condition action' condition' key,
        scalar .nodes index "figure" entry = .ok figure ∧
        (if (Json.fieldD "text" entry).isTruthy then label (Json.fieldD "text" entry)
          else .ok unnamed) = .ok text ∧
        optionalText (Json.fieldD "action" entry) = .ok action ∧
        optionalText (Json.fieldD "condition" entry) = .ok condition ∧
        (if labelsAsCode && Kind.ofFigure figure = .process then orLabel isValidAction text action
          else .ok action) = .ok action' ∧
        (if labelsAsCode && Kind.ofFigure figure = .decision then
          orLabel isValidCondition text condition else .ok condition) = .ok condition' ∧
        scalar .nodes index "key" entry = .ok key ∧
        r = {
          key
          kind := Kind.ofFigure figure
          text
          action := if Kind.ofFigure figure = .process then action' else none
          condition := if Kind.ofFigure figure = .decision then condition' else none
          role :=
            if Kind.ofFigure figure = .state then
              some (if (Json.fieldD "stateType" entry).isTruthy then Json.fieldD "stateType" entry
                else normalRole)
            else none } := by
  simp only [loadNode, ite_bind, bind_eq_ok_iff, exists_and_left, pure, Except.pure,
    Except.ok.injEq, @eq_comm _ _ r]

theorem sorted_of_loadNode {labelsAsCode : Bool} {index : Nat} {entry : Fields} {r : NodeRecord}
    (h : loadNode labelsAsCode index entry = .ok r) : r.Sorted := by
  obtain ⟨figure, text, action, condition, action', condition', key, -, htext, -, -, -, -, -, rfl⟩ :=
    loadNode_eq_ok_iff.mp h
  refine ⟨?_, by simp +contextual, by simp +contextual, by simp⟩
  split at htext
  · rename_i hstored
    exact label_ne_nil htext (by rintro heq; rw [heq] at hstored; cases hstored)
  · cases htext
    simp [unnamed, Text.ofString, Text.ofChars]

/-- The code of a node after adoption, where `p` says that the node is of the kind that has code of
this sort. -/
theorem adopted_of_readable {text : Text} (readable : Readable text) (sort : Expr → Bool)
    (p : Prop) [Decidable p] (code : Option Text) :
    ∃ code', (if true && p then orLabel (parsesTo sort) text code else .ok code) = .ok code' ∧
      (if p then code' else none) =
        if p ∧ (if p then code else none) = none ∧ parsesTo sort text = .ok true then some text
        else if p then code else none := by
  by_cases hp : p
  · cases code with
    | some s => exact ⟨some s, by simp [orLabel], by simp [hp]⟩
    | none =>
      rcases readable.parsesTo sort with h | h
      · exact ⟨some text, by simp [hp, orLabel, h], by simp [hp, h]⟩
      · exact ⟨none, by simp [hp, orLabel, h], by simp [hp, h]⟩
  · exact ⟨code, by simp [hp], by simp [hp]⟩

/-- A node that is loaded as it is, is loaded completed when labels are taken as code. -/
theorem loadNode_completed {index : Nat} {entry : Fields} {r : NodeRecord}
    (h : loadNode false index entry = .ok r) (readable : Readable r.text) :
    loadNode true index entry = .ok r.completed := by
  obtain ⟨figure, text, action, condition, _, _, key, hfigure, htext, haction, hcondition, ⟨⟩, ⟨⟩,
    hkey, rfl⟩ := loadNode_eq_ok_iff.mp h
  obtain ⟨action', hadopted, haction'⟩ := adopted_of_readable readable Expr.isAction
    (Kind.ofFigure figure = .process) action
  obtain ⟨condition', hadopted', hcondition'⟩ := adopted_of_readable readable
    Expr.isCondition (Kind.ofFigure figure = .decision) condition
  refine loadNode_eq_ok_iff.mpr ⟨figure, text, action, condition, action', condition', key, hfigure,
    htext, haction, hcondition, hadopted, hadopted', hkey, ?_⟩
  rw [haction', hcondition']
  rfl

theorem branch_of_loadLink {index : Nat} {entry : Fields} {r : LinkRecord}
    (h : loadLink index entry = .ok r) : r.branch ≠ some [] := by
  simp only [loadLink, bind_eq_ok_iff] at h
  obtain ⟨source, -, target, -, branchType, -, branch, hbranch, h⟩ := h
  cases h
  exact branchLabel_ne_nil hbranch

/-! ## Lists of records -/

section

variable {α : Type} {load load' : Nat → Fields → Except LoadError α} {index : Nat}
  {entries : List Fields} {records : List α}

theorem loadAll_forall {P : α → Prop} (hload : ∀ index entry r, load index entry = .ok r → P r)
    (h : loadAll load index entries = .ok records) : ∀ r ∈ records, P r := by
  induction entries generalizing index records with
  | nil => cases h; nofun
  | cons entry entries ih =>
    simp only [loadAll, bind_eq_ok_iff] at h
    obtain ⟨record, hrecord, rest, hrest, h⟩ := h
    cases h
    rintro r (- | hr)
    · exact hload index entry record hrecord
    · exact ih hrest r ‹_›

theorem loadAll_map {P : α → Prop} {f : α → α}
    (hload : ∀ index entry r, load index entry = .ok r → P r → load' index entry = .ok (f r))
    (h : loadAll load index entries = .ok records) (hrecords : ∀ r ∈ records, P r) :
    loadAll load' index entries = .ok (records.map f) := by
  induction entries generalizing index records with
  | nil => cases h; rfl
  | cons entry entries ih =>
    simp only [loadAll, bind_eq_ok_iff] at h ⊢
    obtain ⟨record, hrecord, rest, hrest, h⟩ := h
    cases h
    obtain ⟨hhead, htail⟩ := List.forall_mem_cons.mp hrecords
    exact ⟨f record, hload index entry record hrecord hhead, rest.map f, ih hrest htail, rfl⟩

end

theorem load_eq_ok {labelsAsCode : Bool} {model : Json} {records : Records}
    (h : load labelsAsCode model = .ok records) :
    ∃ fields nodes links, model = .object fields ∧
      sectionEntries .nodes fields = .ok nodes ∧ sectionEntries .links fields = .ok links ∧
      loadAll (loadNode labelsAsCode) 0 nodes = .ok records.nodes ∧
      loadAll loadLink 0 links = .ok records.links := by
  cases model with
  | object fields =>
    simp only [load, bind_eq_ok_iff] at h
    obtain ⟨nodes, hnodes, links, hlinks, nodeRecords, hloaded, linkRecords, hloadedLinks, h⟩ := h
    cases h
    exact ⟨fields, nodes, links, rfl, hnodes, hlinks, hloaded, hloadedLinks⟩
  | null | bool _ | int _ | float _ | text _ | list _ => cases h

/-! ## Labels as code -/

theorem action_of_completed {r : NodeRecord} (missing : r.action = none) {text : Text}
    (h : r.completed.action = some text) : isValidAction text = .ok true := by
  simp only [NodeRecord.completed, missing] at h
  split at h
  · rename_i hadopted
    cases h
    exact hadopted.2.2
  · cases h

theorem condition_of_completed {r : NodeRecord} (missing : r.condition = none) {text : Text}
    (h : r.completed.condition = some text) : isValidCondition text = .ok true := by
  simp only [NodeRecord.completed, missing] at h
  split at h
  · rename_i hadopted
    cases h
    exact hadopted.2.2
  · cases h

/-- A model that is loaded as it is, is also loaded when labels are taken as code: with the same
links, and with the same nodes but for the code that was adopted.  In both ways the records are
sorted and no link has an empty label.  The rules that are broken are the same, and an adopted text
is never ignored or refused for its syntax. -/
theorem load_completed {model : Json} {records : Records} (plain : load false model = .ok records)
    (readable : ∀ r ∈ records.nodes, Readable r.text) :
    load true model = .ok ⟨records.nodes.map NodeRecord.completed, records.links⟩ ∧
    (∀ labelsAsCode loaded, load labelsAsCode model = .ok loaded →
      (∀ r ∈ loaded.nodes, r.Sorted) ∧ ∀ r ∈ loaded.links, r.branch ≠ some []) ∧
    (Chart.build (records.nodes.map NodeRecord.completed) records.links).violations =
      (Chart.build records.nodes records.links).violations ∧
    (∀ r ∈ records.nodes, r.action = none → ∀ text, r.completed.action = some text →
      ∀ env, ∃ outcome, Action.run (some text) env = .ok outcome ∧
        outcome.notice ≠ some .comparison ∧ ∀ fault, outcome.notice ≠ some (.malformed fault)) ∧
    ∀ r ∈ records.nodes, r.condition = none → ∀ text, r.completed.condition = some text →
      ∀ env, Condition.evaluate (some text) env ≠ .error (.condition .missing) ∧
        ∀ text', Condition.evaluate (some text) env ≠ .error (.condition (.malformed text')) := by
  refine ⟨?_, ?_, ?_, ?_, ?_⟩
  · obtain ⟨fields, nodes, links, rfl, hnodes, hlinks, hloaded, hloadedLinks⟩ := load_eq_ok plain
    have hcompleted := loadAll_map (fun _ _ _ => loadNode_completed) hloaded readable
    simp only [load, bind_eq_ok_iff]
    exact ⟨nodes, hnodes, links, hlinks, _, hcompleted, _, hloadedLinks, rfl⟩
  · intro labelsAsCode loaded h
    obtain ⟨fields, nodes, links, -, -, -, hloaded, hloadedLinks⟩ := load_eq_ok h
    exact ⟨loadAll_forall (fun _ _ _ => sorted_of_loadNode) hloaded,
      loadAll_forall (fun _ _ _ => branch_of_loadLink) hloadedLinks⟩
  · exact Chart.violations_recoded (NodeRecord.forall₂_completed records.nodes)
  · intro r _ missing text hadopted env
    exact Action.run_of_isValidAction (action_of_completed missing hadopted) env
  · intro r _ missing text hadopted env
    have hvalid := condition_of_completed missing hadopted
    obtain ⟨x, op, operand, parsed⟩ := Condition.isValidCondition_eq_true_iff.mp hvalid
    constructor
    · intro h
      exact (Condition.evaluate_comparison_error parsed h).1 rfl
    · intro text' h
      exact (Condition.evaluate_comparison_error parsed h).2 text' rfl

/-- A model of three labels: an action, a condition, and a label that is no code. -/
def labelled : Json :=
  .object [("nodes", .list [
    .object [("key", .int 1), ("figure", .text "Rectangle"), ("text", .text "x = 5")],
    .object [("key", .int 2), ("figure", .text "Diamond"), ("text", .text "x >= 3")],
    .object [("key", .int 3), ("figure", .text "Rectangle"), ("text", .text "Do something")]])]

theorem load_completed_labelled :
    ∃ records, load false labelled = .ok records ∧ (∀ r ∈ records.nodes, Readable r.text) ∧
      load true labelled = .ok ⟨records.nodes.map NodeRecord.completed, records.links⟩ ∧
      records.nodes.map (·.action) = [none, none, none] ∧
      (records.nodes.map fun r => (r.completed.action, r.completed.condition)) =
        [(some ("x = 5" : Text), none), (none, some ("x >= 3" : Text)), (none, none)] := by
  have hreadable : ∀ text ∈ [("x = 5" : Text), "x >= 3", "Do something"], Readable text := by
    decide
  obtain ⟨records, plain, hlabels, haction, hadopted⟩ : ∃ records, load false labelled = .ok records ∧
      records.nodes.map (·.text) = [("x = 5" : Text), "x >= 3", "Do something"] ∧
      records.nodes.map (·.action) = [none, none, none] ∧
      (records.nodes.map fun r => (r.completed.action, r.completed.condition)) =
        [(some ("x = 5" : Text), none), (none, some ("x >= 3" : Text)), (none, none)] :=
    ⟨_, rfl, rfl, rfl, rfl⟩
  have readable : ∀ r ∈ records.nodes, Readable r.text := by
    intro r hr
    apply hreadable
    rw [← hlabels]
    exact List.mem_map_of_mem hr
  exact ⟨records, plain, readable, (load_completed plain readable).1, haction, hadopted⟩

end Model

end Flowchart
