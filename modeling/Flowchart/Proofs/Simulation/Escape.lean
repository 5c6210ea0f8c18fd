import Flowchart.Proofs.Chart.Builder
import Flowchart.Proofs.Expr.Limit
import Flowchart.Proofs.Simulation.Walk

/-! # Runs that give no result

A run turns every failure into a result but one: a numeral that is too long to be read.  `Overlong`
says when the code of a node holds such a numeral at a place that its reading comes to, and
`Reached` which nodes a run comes to.  `simulate_returns` says that a run gives no result exactly if
it comes to a node of that sort.  A chart whose code has no such numeral always gives one.
-/

namespace Flowchart

/-! ## Reading code -/

/-- The numeral at which the reading of what a node holds breaks off.  An action is read as far as
it makes sense, a condition to its end. -/
inductive Content.Overlong : Content → LimitError → Prop
  | action {text e} (reading : Expr.parse text = .error (.limit e)) :
      Overlong (.process (some text)) e
  | condition {text e} (reading : tokenize text = .error (.limit e)) :
      Overlong (.decision (some text)) e

theorem Content.Overlong.ending {content : Content} {e : LimitError} (h : content.Overlong e) :
    ∃ text, (content.action? = some text ∨ content.condition? = some text) ∧
      (lex text).ending = .limit e := by
  cases h with
  | action reading => exact ⟨_, Or.inl rfl, Expr.ending_of_parse_limit reading⟩
  | condition reading => exact ⟨_, Or.inr rfl, tokenize_eq_limit_iff.mp reading⟩

theorem Content.Overlong.tooLong {content : Content} {e : LimitError} (h : content.Overlong e) :
    ∃ digits, maxDigits < digits ∧ e = .tooLongToRead digits := by
  obtain ⟨text, -, hending⟩ := h.ending
  have hfound := foundIn_lex text
  rw [hending] at hfound
  obtain ⟨_, digits, _, -, -, hlong, he⟩ := hfound
  exact ⟨digits.length, hlong, he⟩

namespace RunState

variable {c : Chart} {env₀ : Env} {s : RunState} {n : Node}

/-! ## Steps that give no result -/

theorem Choice.overlong_of_limit {condition : Option Text} {s' : RunState} {e : LimitError}
    (h : Choice s n condition s' (.error (.limit e))) :
    Condition.evaluate condition s.env = .error (.limit e) := by
  cases h with
  | overlong failed => exact failed

/-- A step gives no result exactly if it enters its node and comes to a numeral that is too long
there. -/
theorem step_eq_limit_iff {e : LimitError} :
    (s.step n).answer = .error (.limit e) ↔
      n.key.isIn s.visited = false ∧ n.content.Overlong e := by
  constructor
  · intro answer
    have hspec := step_spec s n
    rw [answer] at hspec
    generalize (s.step n).state = s' at hspec
    cases hspec with
    | overlong fresh process failed =>
      refine ⟨fresh, ?_⟩
      cases hn : n.content with
      | state _ | decision _ | generic => simp [Node.kind, hn, Content.kind] at process
      | process action =>
        have hrun : Action.run action s.env = .error e := by
          simp only [Visit.perform, Visit.content_ofNode, hn] at failed
          cases hrun : Action.run action s.env <;> simp_all [Except.map]
        obtain ⟨text, rfl, reading⟩ := Action.run_eq_error_iff.mp hrun
        exact .action reading
    | unchosen fresh decision failed =>
      obtain ⟨text, rfl, reading⟩ := Condition.evaluate_eq_limit_iff.mp failed.overlong_of_limit
      rw [decision]
      exact ⟨fresh, .condition reading⟩
  · rintro ⟨fresh, hlong⟩
    generalize hn : n.content = content at hlong
    cases hlong with
    | @action text _ reading =>
      have hrun : Action.run (some text) s.env = .error e :=
        Action.run_eq_error_iff.mpr ⟨text, rfl, reading⟩
      refine (Step.overlong fresh ?_ ?_).step_eq.2
      · rw [Node.kind, hn, Content.kind]
      · simp [Visit.perform, hn, hrun, Except.map]
    | @condition text _ reading =>
      have failed : Condition.evaluate (some text) (s.enter n).env = .error (.limit e) :=
        Condition.evaluate_eq_limit_iff.mpr ⟨text, rfl, reading⟩
      exact (Step.unchosen fresh hn (.overlong failed)).step_eq.2

/-! ## Runs that give no result -/

/-- The states that a run goes through, each with the place it comes to next. -/
inductive Reached (c : Chart) (env₀ : Env) : RunState → Nat → Prop
  | start {p} (entrance : c.entrance = .ok p) : Reached c env₀ (.start env₀) p
  | step {s p n q} (reached : Reached c env₀ s p) (node : c.node? p = some n)
      (answer : (s.step n).answer = .ok (some q)) : Reached c env₀ (s.step n).state q

theorem Loop.unique {p : Nat} {t t' : Turn Unit} (h : Loop c s p t) (h' : Loop c s p t') :
    t = t' := by
  induction h generalizing t' with
  | failed node answer =>
    cases h' with
    | failed node' answer' =>
      cases node.symm.trans node'
      cases answer.symm.trans answer'
      rfl
    | ended node' answer' | onward node' answer' _ =>
      cases node.symm.trans node'
      cases answer.symm.trans answer'
  | ended node answer =>
    cases h' with
    | ended node' _ =>
      cases node.symm.trans node'
      rfl
    | failed node' answer' | onward node' answer' _ =>
      cases node.symm.trans node'
      cases answer.symm.trans answer'
  | onward node answer _ ih =>
    cases h' with
    | onward node' answer' rest =>
      cases node.symm.trans node'
      cases answer.symm.trans answer'
      rw [ih rest]
    | failed node' answer' | ended node' answer' =>
      cases node.symm.trans node'
      cases answer.symm.trans answer'

/-- The walk from a state that a run goes through is the end of the whole walk. -/
theorem Reached.loop {p : Nat} (h : Reached c env₀ s p) {t : Turn Unit} (ht : Loop c s p t) :
    ∃ p₀ t₀, c.entrance = .ok p₀ ∧ Loop c (.start env₀) p₀ t₀ ∧ t₀.answer = t.answer := by
  induction h generalizing t with
  | start entrance => exact ⟨_, t, entrance, ht, rfl⟩
  | step _ node answer ih =>
    obtain ⟨p₀, t₀, entrance, hloop, hanswer⟩ := ih (.onward node answer ht)
    exact ⟨p₀, t₀, entrance, hloop, hanswer⟩

theorem Loop.escapes {p : Nat} {t : Turn Unit} (h : Loop c s p t) (hs : Reached c env₀ s p)
    {e : LimitError} (he : t.answer = .error (.limit e)) :
    ∃ s p n, Reached c env₀ s p ∧ c.node? p = some n ∧
      (s.step n).answer = .error (.limit e) := by
  induction h with
  | failed node answer =>
    cases he
    exact ⟨_, _, _, hs, node, answer⟩
  | ended _ _ => cases he
  | onward node answer _ ih => exact ih (hs.step node answer) he

theorem conclude_eq_error_iff {t : Turn Unit} {f : StepFailure} :
    (conclude t).answer = .error f ↔ ∃ e, f = .limit e ∧ t.answer = .error (.limit e) := by
  unfold conclude
  rcases t with ⟨state, events, (_ | l) | _⟩
  · simp
  · simp [eq_comm]
  · simp

end RunState

open RunState (Reached)

/-- A run escapes exactly if one of its steps does. -/
theorem Chart.simulate_eq_error_iff {c : Chart} (hc : c.WellFormed) {env₀ : Env}
    {f : StepFailure} :
    (c.simulate env₀).answer = .error f ↔
      ∃ e s p n, Reached c env₀ s p ∧ c.node? p = some n ∧
        (s.step n).answer = .error (.limit e) ∧ f = .limit e := by
  unfold Chart.simulate
  cases hentrance : c.entrance with
  | error e =>
    rw [RunState.run_of_error hentrance, RunState.conclude_eq_error_iff]
    constructor
    · rintro ⟨_, -, he⟩
      cases he
    · -- a run that does not begin comes nowhere
      rintro ⟨_, s, p, n, hreached, -⟩
      exfalso
      induction hreached with
      | start entrance => cases hentrance.symm.trans entrance
      | step _ _ _ ih => exact ih
  | ok p₀ =>
    obtain ⟨t, hloop, hrun⟩ := RunState.run_eq_loop hc (RunState.consistent_start c env₀) hentrance
    rw [hrun, RunState.conclude_eq_error_iff]
    constructor
    · rintro ⟨e, rfl, he⟩
      obtain ⟨s, p, n, hreached, node, answer⟩ := hloop.escapes (.start hentrance) he
      exact ⟨e, s, p, n, hreached, node, answer, rfl⟩
    · rintro ⟨e, s, p, n, hreached, node, answer, rfl⟩
      obtain ⟨p', t', hentrance', hloop', hanswer⟩ := hreached.loop (.failed node answer)
      cases hentrance.symm.trans hentrance'
      rw [hloop.unique hloop']
      exact ⟨e, rfl, hanswer⟩

/-! ## Charts whose code is short -/

/-- The code of a record: the action of a process or the condition of a decision. -/
def NodeRecord.code? (r : NodeRecord) : Option Text :=
  match r.kind with
  | .process => r.action
  | .decision => r.condition
  | .state | .generic | .other _ => none

theorem NodeRecord.code?_of_content {r : NodeRecord} {text : Text}
    (h : (Node.ofRecord r).content.action? = some text ∨
      (Node.ofRecord r).content.condition? = some text) : r.code? = some text := by
  unfold Node.ofRecord at h
  unfold NodeRecord.code?
  cases hkind : r.kind with
  | process | decision => simpa [hkind, Content.action?, Content.condition?] using h
  | state => cases hrole : r.role <;> simp [hkind, hrole, Content.action?, Content.condition?] at h
  | generic | other _ => simp [hkind, Content.action?, Content.condition?] at h

theorem Chart.placed_addAll (c : Chart) (rs : List NodeRecord) :
    (c.addAll rs).placed = c.placed ++ rs.map Node.ofRecord := by
  induction rs generalizing c with
  | nil => simp [addAll]
  | cons r rs ih =>
    have hstep : (c.addAll (r :: rs)).placed = ((c.add (Node.ofRecord r)).addAll rs).placed := rfl
    rw [hstep, ih]
    simp [add]

/-- Every node of a built chart, replaced or not, holds what some record says. -/
theorem Chart.content_of_node?_build {nodes : List NodeRecord} {links : List LinkRecord} {p : Nat}
    {n : Node} (h : (build nodes links).node? p = some n) :
    ∃ r ∈ nodes, n.content = (Node.ofRecord r).content := by
  rw [build, buildWith, node?_linkAll (wellFormed_empty.addAll nodes)] at h
  obtain ⟨m, hm, rfl⟩ := Option.map_eq_some_iff.mp h
  have hplaced := placed_addAll empty nodes
  rw [node?, hplaced] at hm
  have hmem : m ∈ nodes.map Node.ofRecord := List.mem_of_getElem? hm
  obtain ⟨r, hr, rfl⟩ := List.mem_map.mp hmem
  exact ⟨r, hr, rfl⟩

/-- A chart that performs one action on its way from the start to the end. -/
def assigningNodes (action : Text) : List NodeRecord :=
  [{ key := .int 1, kind := .state, text := "Start", role := some (.text "start") },
   { key := .int 2, kind := .process, text := "Assign", action },
   { key := .int 3, kind := .state, text := "End", role := some (.text "end") }]

/-- The links of that chart. -/
def assigningLinks : List LinkRecord :=
  [{ source := .int 1, target := .int 2 }, { source := .int 2, target := .int 3 }]

/-- A run gives no result exactly if it comes to a node it has not passed whose action or condition
holds a numeral of more than `maxDigits` digits, where the reading of that code comes to it; it then
fails for that numeral.  On a chart without such numerals every run gives a result. -/
theorem simulate_returns (nodes : List NodeRecord) (links : List LinkRecord) (env₀ : Env) :
    (∀ f, ((Chart.build nodes links).simulate env₀).answer = .error f ↔
      ∃ s p n digits, Reached (Chart.build nodes links) env₀ s p ∧
        (Chart.build nodes links).node? p = some n ∧ n.key.isIn s.visited = false ∧
        n.content.Overlong (.tooLongToRead digits) ∧ maxDigits < digits ∧
        f = .limit (.tooLongToRead digits)) ∧
    ((∀ r ∈ nodes, ∀ text, r.code? = some text → ∀ e, (lex text).ending ≠ .limit e) →
      ∃ r, ((Chart.build nodes links).simulate env₀).answer = .ok r) := by
  have hc := Chart.wellFormed_build nodes links
  refine ⟨?_, ?_⟩
  · intro f
    rw [Chart.simulate_eq_error_iff hc]
    constructor
    · rintro ⟨e, s, p, n, hreached, node, answer, rfl⟩
      obtain ⟨fresh, hlong⟩ := RunState.step_eq_limit_iff.mp answer
      obtain ⟨digits, hdigits, rfl⟩ := hlong.tooLong
      exact ⟨s, p, n, digits, hreached, node, fresh, hlong, hdigits, rfl⟩
    · rintro ⟨s, p, n, digits, hreached, node, fresh, hlong, -, rfl⟩
      exact ⟨_, s, p, n, hreached, node, RunState.step_eq_limit_iff.mpr ⟨fresh, hlong⟩, rfl⟩
  · intro hshort
    cases hanswer : ((Chart.build nodes links).simulate env₀).answer with
    | ok r => exact ⟨r, rfl⟩
    | error f =>
      obtain ⟨e, s, p, n, -, node, answer, -⟩ := (Chart.simulate_eq_error_iff hc).mp hanswer
      -- the code that holds the numeral is that of a record
      obtain ⟨text, hcode, hending⟩ := (RunState.step_eq_limit_iff.mp answer).2.ending
      obtain ⟨r, hr, hcontent⟩ := Chart.content_of_node?_build node
      rw [hcontent] at hcode
      exact absurd hending (hshort r hr text (NodeRecord.code?_of_content hcode) e)

/-- A chart that assigns a short numeral gives a result. -/
theorem simulate_returns_assigning :
    ∃ r, ((Chart.build (assigningNodes ("x = 007" : Text)) assigningLinks).simulate .empty).answer =
      .ok r := by
  refine (simulate_returns _ _ _).2 ?_
  intro r hr text hcode e hending
  simp only [assigningNodes, List.mem_cons, List.not_mem_nil, or_false] at hr
  rcases hr with rfl | rfl | rfl
  · cases hcode
  · cases hcode
    cases hending
  · cases hcode

/-! ## A chart that gives no result -/

/-- An assignment of a numeral with the given number of digits. -/
def longAssignment (digits : Nat) : Text :=
  "x = " ++ List.replicate digits (CodePoint.scalar '9')

theorem lex_longAssignment {digits : Nat} (h : maxDigits < digits) :
    (lex (longAssignment digits)).ending = .limit (.tooLongToRead digits) ∧
      (lex (longAssignment digits)).lexemes.map (·.token) = [.name "x", .assign] := by
  have hcut : ∀ ds : Text, lex ("x = " ++ ds) =
      ⟨⟨.name "x", 0, "x"⟩ :: ⟨.assign, 2, "="⟩ :: (Lexer.lexFrom 4 0 ds).lexemes,
        (Lexer.lexFrom 4 0 ds).ending⟩ := fun _ => rfl
  have hdigit : Text.isDigit (.scalar '9') = true := by decide
  obtain ⟨k, rfl⟩ : ∃ k, digits = k + 1 := ⟨digits - 1, by omega⟩
  have hfront : Lexer.front (.scalar '9') (List.replicate k (.scalar '9')) =
      .limit (.tooLongToRead (k + 1)) := by
    simp [Lexer.front, hdigit, Numeral.read, h]
  have hdigits : Lexer.lexFrom 4 0 (List.replicate (k + 1) (.scalar '9')) =
      ⟨[], .limit (.tooLongToRead (k + 1))⟩ := by
    have hspace : Lexer.isSpace (.scalar '9') = false := by decide
    simp [List.replicate_succ, Lexer.lexFrom, hspace, hfront]
  rw [longAssignment, hcut, hdigits]
  exact ⟨rfl, rfl⟩

theorem parse_longAssignment {digits : Nat} (h : maxDigits < digits) :
    Expr.parse (longAssignment digits) = .error (.limit (.tooLongToRead digits)) := by
  obtain ⟨hending, htokens⟩ := lex_longAssignment h
  rw [Expr.parse, hending, htokens]
  rfl

/-- An assignment of a numeral that is one digit too long stops the run of its chart without a
result. -/
theorem simulate_escapes_longAssignment :
    ((Chart.build (assigningNodes (longAssignment 4301)) assigningLinks).simulate .empty).answer =
      .error (.limit (.tooLongToRead 4301)) := by
  refine (Chart.simulate_eq_error_iff (Chart.wellFormed_build _ _)).mpr
    ⟨_, _, _, _, .step (.start rfl) rfl rfl, rfl, ?_, rfl⟩
  exact RunState.step_eq_limit_iff.mpr ⟨rfl, .action (parse_longAssignment (by decide))⟩

end Flowchart
