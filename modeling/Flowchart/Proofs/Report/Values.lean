import Flowchart.Proofs.Command.Variables
import Flowchart.Proofs.Condition
import Flowchart.Proofs.Expr.Spelling
import Flowchart.Proofs.Report.Trace

/-! # Values in reports, on the command line and in code

A value is written in one way and read in three: as an item of the command line, as the operand of an
action and as the operand of a condition.  `notations_agree` says that what is written is read as the
same value everywhere.  In particular the variables that a trace reports can be given back to the
command line as they stand.
-/

namespace Flowchart

/-! ## Items of the command line -/

namespace Command

/-- The names that an item of the command line can give to a variable. -/
structure IsVariableName (x : Text) : Prop where
  nonempty : x ≠ []
  noEquals : .scalar '=' ∉ x
  noLineFeed : .scalar '\n' ∉ x
  trimmed : x.Trimmed

theorem readVariable_binding {x t : Text} {v : Value} (hx : IsVariableName x)
    (ht : v.text = .ok t) : readVariable (x ++ " = " ++ t) = .ok (x, v) := by
  have hequals : (" = " : Text) = (" " : Text) ++ CodePoint.scalar '=' :: (" " : Text) := rfl
  have hsplit : splitAtEquals? (x ++ " = " ++ t) = some (x ++ " ", " " ++ t) := by
    have hname : .scalar '=' ∉ x ++ (" " : Text) := by
      rw [List.mem_append, not_or]
      exact ⟨hx.noEquals, by decide⟩
    have hsplit := splitAtEquals?_append hname (" " ++ t)
    simpa [hequals] using hsplit
  have hname : Text.strip (([] : Text) ++ x ++ " ") = x :=
    Text.strip_append hx.trimmed (by simp) (by decide)
  have hvalue : Value.read ((" " : Text) ++ t ++ []) = .ok v :=
    Value.read_text ht (by decide) (by simp)
  rw [List.nil_append] at hname
  rw [List.append_nil] at hvalue
  rw [readVariable, hsplit]
  simp [hname, hvalue, hx.nonempty]

end Command

theorem Env.set_of_not_mem {env : Env} {x : Text} (h : x ∉ env.names) (v : Value) :
    env.set x v = ⟨env.bindings ++ [(x, v)]⟩ := by
  obtain ⟨bs⟩ := env
  simp only [set, mk.injEq]
  induction bs with
  | nil => rfl
  | cons b bs ih =>
    obtain ⟨y, w⟩ := b
    have hy : y ≠ x := (List.ne_of_not_mem_cons h).symm
    rw [bind, if_neg hy, ih (List.not_mem_of_not_mem_cons h), List.cons_append]

namespace Trace

/-! ## The variables of a trace -/

theorem bindings_cons_eq_ok {x : Text} {v : Value} {bs : List (Text × Value)} {ls : List Text}
    (h : bindings ((x, v) :: bs) = .ok ls) :
    ∃ t rest, v.text = .ok t ∧ bindings bs = .ok rest ∧ ls = (x ++ " = " ++ t) :: rest := by
  simp only [bindings, binding] at h
  cases ht : v.text with
  | error e => simp [ht, Bind.bind, Except.bind] at h
  | ok t =>
    cases hrest : bindings bs with
    | error e => simp [ht, hrest, Bind.bind, Except.bind, pure, Except.pure] at h
    | ok rest =>
      simp only [ht, hrest, Bind.bind, Except.bind, pure, Except.pure, Except.ok.injEq] at h
      exact ⟨t, rest, rfl, rfl, h.symm⟩

/-- The lines of variables are items that add these variables to an environment. -/
theorem readVariablesOn_bindings {env : Env} {bs : List (Text × Value)} {ls : List Text}
    (hls : bindings bs = .ok ls) (names : ∀ b ∈ bs, Command.IsVariableName b.1)
    (distinct : (env.bindings ++ bs).map Prod.fst |>.Nodup) :
    Command.readVariablesOn env ls = .ok ⟨env.bindings ++ bs⟩ := by
  -- the environment grows by one variable with each line
  induction bs generalizing env ls with
  | nil =>
    cases hls
    rw [List.append_nil]
    rfl
  | cons b bs ih =>
    obtain ⟨x, v⟩ := b
    obtain ⟨t, rest, ht, hrest, rfl⟩ := bindings_cons_eq_ok hls
    obtain ⟨hx, hbs⟩ := List.forall_mem_cons.mp names
    have hnew : x ∉ env.names := by
      intro hmem
      rw [List.map_append, List.nodup_append] at distinct
      exact distinct.2.2 x hmem x (by simp) rfl
    have hset := Env.set_of_not_mem hnew v
    have hrest : Command.readVariablesOn (env.set x v) rest = .ok ⟨(env.set x v).bindings ++ bs⟩ :=
      ih hrest hbs (by simpa [hset] using distinct)
    rw [Command.readVariablesOn, Command.readVariable_binding hx ht]
    simp only [Bind.bind, Except.bind, hrest]
    simp [hset]

/-- The line above the variables. -/
def valuesHeader : Text :=
  "Variable Values After Simulation:"

/-- The lines below the last header of variables. -/
def valueLines (text : Text) : List Text :=
  ((Text.lines text).reverse.takeWhile (· ≠ valuesHeader)).reverse

theorem valueLines_append (before : Text) {ls : List Text} (nonempty : ls ≠ [])
    (hls : ∀ l ∈ ls, .scalar '=' ∈ l ∧ .scalar '\n' ∉ l) :
    valueLines (before ++ .scalar '\n' :: (valuesHeader ++ .scalar '\n' :: Text.joinWith "\n" ls)) =
      ls := by
  -- read from the end, the first line without an equals sign is the header
  have hvalues : ∀ l ∈ ls.reverse, decide (l ≠ valuesHeader) = true := by
    intro l hl
    rw [decide_eq_true_eq]
    rintro rfl
    exact absurd (hls _ (List.mem_reverse.mp hl)).1 (by decide)
  have hheader : Text.lines valuesHeader = [valuesHeader] := Text.lines_of_not_mem (by decide)
  rw [valueLines, Text.lines_append, Text.lines_append, hheader,
    Text.lines_joinWith nonempty fun l hl => (hls l hl).2, List.reverse_append,
    List.reverse_append, List.append_assoc, List.takeWhile_append_of_pos hvalues]
  simp

/-- The line of a variable is not the header, and there is no line feed in it. -/
theorem equals_mem_of_mem_bindings {bs : List (Text × Value)} {ls : List Text}
    (hls : bindings bs = .ok ls) (names : ∀ b ∈ bs, Command.IsVariableName b.1) :
    ∀ l ∈ ls, .scalar '=' ∈ l ∧ .scalar '\n' ∉ l := by
  induction bs generalizing ls with
  | nil =>
    cases hls
    simp
  | cons b bs ih =>
    obtain ⟨x, v⟩ := b
    obtain ⟨t, rest, ht, hrest, rfl⟩ := bindings_cons_eq_ok hls
    obtain ⟨hx, hbs⟩ := List.forall_mem_cons.mp names
    have hvalue : .scalar '\n' ∉ t := by
      intro hmem
      have := (Value.value_of_mem_text ht hmem).1
      exact absurd this (by decide)
    refine List.forall_mem_cons.mpr ⟨⟨?_, ?_⟩, ih hrest hbs⟩
    · exact List.mem_append_left _ (List.mem_append_right _ (by decide))
    · simp only [List.mem_append, not_or]
      exact ⟨⟨hx.noLineFeed, by decide⟩, hvalue⟩

theorem valueLines_render {path : List Entry} {error : Option Text} {env : Env} {text : Text}
    (passed : path ≠ []) (bound : env.bindings ≠ [])
    (names : ∀ x ∈ env.names, Command.IsVariableName x)
    (rendered : render path error env = .ok text) :
    bindings env.bindings = .ok (valueLines text) := by
  have names : ∀ b ∈ env.bindings, Command.IsVariableName b.1 :=
    fun b hb => names b.1 (List.mem_map_of_mem hb)
  rw [render, if_neg (by simpa using passed)] at rendered
  cases hlines : lines 1 path with
  | error e => simp [hlines, Bind.bind, Except.bind] at rendered
  | ok entries =>
    cases hls : bindings env.bindings with
    | error e => simp [hlines, hls, Bind.bind, Except.bind] at rendered
    | ok ls =>
      have hnonempty : ls ≠ [] := by
        obtain ⟨b, bs, hbs⟩ := List.exists_cons_of_ne_nil bound
        rw [hbs] at hls
        obtain ⟨t, rest, -, -, rfl⟩ := bindings_cons_eq_ok hls
        simp
      simp only [hlines, hls, Bind.bind, Except.bind, pure, Except.pure,
        List.isEmpty_eq_false_iff.mpr hnonempty, Bool.false_eq_true, if_false,
        Except.ok.injEq] at rendered
      have hmembers := equals_mem_of_mem_bindings hls names
      have htext : text = (heading error ++ "Execution Path:\n" ++ Text.joinWith "\n" entries ++
          "\n") ++ .scalar '\n' :: (valuesHeader ++ .scalar '\n' :: Text.joinWith "\n" ls) := by
        rw [← rendered]
        simp [valuesHeader, Text.ofString, Text.ofChars]
      rw [htext, valueLines_append _ hnonempty hmembers]

/-- The entries whose role, if there is one, shows only integers that can be written. -/
def Entry.Writable (e : Entry) : Prop :=
  ∀ role, e.role = some role → ∀ n ∈ role.ints, n.natAbs < 10 ^ maxDigits

theorem Entry.Writable.exists_line {e : Entry} (writable : e.Writable) (number : Nat) :
    ∃ line, e.line number = .ok line := by
  have hnote : ∃ note, e.note = .ok note := by
    unfold note
    cases e.kind with
    | process | decision | generic | other _ => exact ⟨_, rfl⟩
    | state =>
      cases hrole : e.role with
      | none => exact ⟨_, rfl⟩
      | some role =>
        refine (shows_roleNote role).ok fun n hn => ?_
        exact Numeral.isWritable_iff.mpr (writable role hrole n hn)
  obtain ⟨note, hnote⟩ := hnote
  exact ⟨_, by rw [line, hnote]; rfl⟩

theorem exists_lines {path : List Entry} (writable : ∀ e ∈ path, e.Writable) (number : Nat) :
    ∃ ls, lines number path = .ok ls := by
  induction path generalizing number with
  | nil => exact ⟨_, rfl⟩
  | cons e path ih =>
    obtain ⟨he, hpath⟩ := List.forall_mem_cons.mp writable
    obtain ⟨line, hline⟩ := he.exists_line number
    obtain ⟨ls, hls⟩ := ih hpath (number + 1)
    exact ⟨line :: ls, by rw [lines, hline, hls]; rfl⟩

theorem exists_render {path : List Entry} {env : Env} (writable : ∀ e ∈ path, e.Writable)
    (short : ∀ n ∈ env.ints, n.natAbs < 10 ^ maxDigits) (error : Option Text) :
    ∃ text, render path error env = .ok text := by
  obtain ⟨ls, hls⟩ := exists_lines writable 1
  obtain ⟨bs, hbs⟩ := (shows_bindings env.bindings).ok fun n hn =>
    Numeral.isWritable_iff.mpr (short n hn)
  unfold render
  split
  · exact ⟨_, rfl⟩
  · exact ⟨_, by rw [hls, hbs]; rfl⟩

end Trace

/-! ## Literals in code -/

/-- A truth value, and an integer that is not negative, is written as the token of an operand. -/
theorem Value.exists_literal {v : Value}
    (literal : ∀ n ∈ v.ints, 0 ≤ n ∧ n.natAbs < 10 ^ maxDigits) :
    ∃ (u : Token) (operand : Operand), v.text = .ok u.text ∧ u.Spelled ∧
      (∀ op, Expr.operand? (.rel op) u = some operand) ∧
      ∀ env : Env, operand.resolve env = .ok v := by
  cases v with
  | bool b => exact ⟨.bool b, .bool b, rfl, trivial, fun _ => rfl, fun _ => rfl⟩
  | int n =>
    obtain ⟨hnonneg, hshort⟩ := literal n (List.mem_singleton.mpr rfl)
    lift n to Nat using hnonneg
    refine ⟨.int n, .int n, ?_, hshort, fun _ => rfl, fun _ => rfl⟩
    exact text_eq_ok_iff.mpr (Or.inl ⟨n, rfl, hshort, by simp [Token.text, Numeral.signed]⟩)

theorem Expr.compare_eq_iff {env : Env} {x : Text} {operand : Operand} {v : Value}
    (resolved : operand.resolve env = .ok v) :
    (compare env x .eq operand).mapError ConditionFailure.condition = .ok true ↔
      env.get? x = some v := by
  rw [(Condition.comparedAs_compare env x .eq operand).answer]
  simp [resolved, RelOp.Orders, Value.Holds]

theorem Expr.parse_spelled_apart {x : Text} (hx : Lexer.IsName x) {t u : Token}
    {operator : Operator} {operand : Operand} (ht : operator? t = some operator)
    (hu : operand? operator u = some operand) (spelled : u.Spelled) :
    parse (x ++ (" " ++ t.text ++ " ") ++ u.text) = .ok (ofParts x operator operand) := by
  have hparse : parse (([] : Text) ++ (x ++ ((" " : Text) ++ (t.text ++ ((" " : Text) ++ (u.text ++ [])))))) =
      .ok (ofParts x operator operand) := parse_spelled hx ht hu spelled (by decide)
  simpa using hparse

theorem Action.run_assignment {x : Text} (hx : Lexer.IsName x) {n : Nat}
    (short : n < 10 ^ maxDigits) (env : Env) :
    run (some (x ++ " = " ++ Numeral.text n)) env = .ok ⟨env.set x (.int n), none⟩ := by
  have hparse : Expr.parse (x ++ " = " ++ Numeral.text n) = .ok (.assignment x (.int n)) :=
    Expr.parse_spelled_apart hx (t := .assign) (u := .int n) rfl rfl short
  have hnonempty : (x ++ " = " ++ Numeral.text n).isEmpty = false := by
    simp [Numeral.text_ne_nil]
  simp only [run, hnonempty, hparse]
  rfl

theorem Condition.evaluate_equation {x : Text} (hx : Lexer.IsName x) {u : Token}
    {operand : Operand} {v : Value} (hu : Expr.operand? (.rel .eq) u = some operand)
    (spelled : u.Spelled) {env : Env} (resolved : operand.resolve env = .ok v) :
    evaluate (some (x ++ " == " ++ u.text)) env = .ok true ↔ env.get? x = some v := by
  have hparse : Expr.parse (x ++ " == " ++ u.text) = .ok (.comparison x .eq operand) :=
    Expr.parse_spelled_apart hx (t := .rel .eq) rfl hu spelled
  rw [evaluate_of_parse hparse, Expr.compare_eq_iff resolved]

/-! ## Agreement -/

/-- The notations of values agree.  The text of a value is read as that value, whatever blanks are
around it; the variables below a trace, given as items to the command line, are the variables that
were reported, in their order; the action `x = n` gives the variable the integer whose text stands in
it; and the condition `x == v` is true of the value whose text stands in it, and of no other. -/
theorem Value.notations_agree :
    (∀ (v : Value) (before after : Text), (∀ n ∈ v.ints, n.natAbs < 10 ^ maxDigits) →
      (∀ c ∈ before, Text.isBlank c = true) → (∀ c ∈ after, Text.isBlank c = true) →
      ∃ t, v.text = .ok t ∧ read (before ++ t ++ after) = .ok v) ∧
    (∀ (path : List Trace.Entry) (error : Option Text) (env : Env), path ≠ [] →
      env.bindings ≠ [] → env.names.Nodup → (∀ x ∈ env.names, Command.IsVariableName x) →
      (∀ n ∈ env.ints, n.natAbs < 10 ^ maxDigits) →
      (∀ text, Trace.render path error env = .ok text →
        Trace.bindings env.bindings = .ok (Trace.valueLines text) ∧
        Command.readVariables (Trace.valueLines text) = .ok env) ∧
      ((∀ e ∈ path, e.Writable) → ∃ text, Trace.render path error env = .ok text)) ∧
    (∀ (x : Text) (n : Nat), Lexer.IsName x → n < 10 ^ maxDigits →
      ∃ t, (Value.int n).text = .ok t ∧ ∀ env,
        Action.run (some (x ++ " = " ++ t)) env = .ok ⟨env.set x (.int n), none⟩) ∧
    ∀ (x : Text) (v : Value), Lexer.IsName x →
      (∀ n ∈ v.ints, 0 ≤ n ∧ n.natAbs < 10 ^ maxDigits) →
      ∃ t, v.text = .ok t ∧ ∀ env,
        Condition.evaluate (some (x ++ " == " ++ t)) env = .ok true ↔ env.get? x = some v := by
  refine ⟨?_, ?_, ?_, ?_⟩
  · intro v before after short hbefore hafter
    obtain ⟨t, ht⟩ := v.shows_text.ok fun n hn => Numeral.isWritable_iff.mpr (short n hn)
    exact ⟨t, ht, read_text ht hbefore hafter⟩
  · intro path error env passed bound distinct names short
    refine ⟨fun text rendered => ?_, fun writable => Trace.exists_render writable short error⟩
    have hlines := Trace.valueLines_render passed bound names rendered
    have hread : Command.readVariablesOn .empty (Trace.valueLines text) =
        .ok ⟨Env.empty.bindings ++ env.bindings⟩ :=
      Trace.readVariablesOn_bindings hlines (fun b hb => names b.1 (List.mem_map_of_mem hb)) distinct
    exact ⟨hlines, hread⟩
  · intro x n hx short
    refine ⟨Numeral.text n, ?_, Action.run_assignment hx short⟩
    exact text_eq_ok_iff.mpr (Or.inl ⟨n, rfl, short, by simp [Numeral.signed]⟩)
  · intro x v hx literal
    obtain ⟨u, operand, htext, spelled, hu, resolved⟩ := exists_literal literal
    exact ⟨u.text, htext, fun env => Condition.evaluate_equation hx (hu .eq) spelled (resolved env)⟩

/-- A number is read behind a tab, a trace with two variables is read back, and a variable is compared
with the value that it was given. -/
theorem Value.notations_agree_counter :
    (∃ t, (Value.int (-7)).text = .ok t ∧ read ("\t" ++ t ++ " ") = .ok (.int (-7))) ∧
    (∃ text, Trace.render [⟨"Start", .state, none, none, none⟩] none
        ⟨[("n", .int 12), ("done", .bool true)]⟩ = .ok text ∧
      Command.readVariables (Trace.valueLines text) =
        .ok ⟨[("n", .int 12), ("done", .bool true)]⟩) ∧
    (∃ t, (Value.int 12).text = .ok t ∧
      Action.run (some ("n" ++ " = " ++ t)) .empty = .ok ⟨⟨[("n", .int 12)]⟩, none⟩) ∧
    ∃ t, (Value.bool true).text = .ok t ∧
      Condition.evaluate (some ("done" ++ " == " ++ t)) ⟨[("done", .bool true)]⟩ = .ok true := by
  obtain ⟨hread, htrace, haction, hcondition⟩ := notations_agree
  have hshort : ∀ {n : Nat}, n < 10 ^ 2 → n < 10 ^ maxDigits :=
    fun h => lt_of_lt_of_le h (Nat.pow_le_pow_right (by decide) (by decide))
  refine ⟨?_, ?_, ?_, ?_⟩
  · refine hread (.int (-7)) "\t" " " ?_ (by decide) (by decide)
    simp only [ints, List.mem_singleton, forall_eq]
    exact hshort (by decide)
  · have hnames : ∀ x ∈ Env.names ⟨[("n", .int 12), ("done", .bool true)]⟩,
        Command.IsVariableName x := by
      simp only [Env.names, List.map_cons, List.map_nil, List.forall_mem_cons]
      exact ⟨⟨by decide, by decide, by decide, by decide, by decide⟩,
        ⟨by decide, by decide, by decide, by decide, by decide⟩, by simp⟩
    have hints : ∀ n ∈ Env.ints ⟨[("n", .int 12), ("done", .bool true)]⟩,
        n.natAbs < 10 ^ maxDigits := by
      simp only [Env.ints, ints, List.flatMap_cons, List.flatMap_nil, List.append_nil,
        List.mem_singleton, forall_eq]
      exact hshort (by decide)
    obtain ⟨hback, htext⟩ := htrace [⟨"Start", .state, none, none, none⟩] none
      ⟨[("n", .int 12), ("done", .bool true)]⟩ (by decide) (by decide) (by decide) hnames hints
    obtain ⟨text, rendered⟩ := htext (by simp [Trace.Entry.Writable])
    exact ⟨text, rendered, (hback text rendered).2⟩
  · obtain ⟨t, ht, hrun⟩ := haction "n" 12 (by decide) (hshort (by decide))
    exact ⟨t, ht, hrun .empty⟩
  · obtain ⟨t, ht, hevaluate⟩ := hcondition "done" (.bool true) (by decide) (by simp [ints])
    exact ⟨t, ht, (hevaluate _).mpr rfl⟩

end Flowchart
