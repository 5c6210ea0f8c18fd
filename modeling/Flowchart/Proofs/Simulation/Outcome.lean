import Mathlib.Logic.ExistsUnique
import Flowchart.Proofs.Simulation.Replay

/-! # How runs end

`RunEnd` lists the ways in which a run on a built chart can end.  Each has a condition, stated by
`RunEnd.Describes`, and a report, stated by `RunEnd.Reports`.  `simulate_runEnd` says that exactly
one of the conditions holds of the result of a run and that the report is the one that belongs
to it.  Two failures of a step are not among the endings: the rules that a chart was checked for
leave no decision without its two branches, and no true branch is taken twice.
-/

namespace Flowchart

/-- The ways in which a run can end. -/
inductive RunEnd where
  | rejected
  | noStart
  | severalStarts
  | completed
  | deadEnd
  | undecided
  | repeated
deriving DecidableEq

/-- The current node of the last key on a path. -/
def EndsAt (c : Chart) (path : List Visit) (n : Node) : Prop :=
  ∃ v, path.getLast? = some v ∧ c.find? v.key = some n

namespace RunEnd

/-- When a run ends in a way, told from the chart, the last node on the path and the variables. -/
def Describes (c : Chart) (r : RunResult) : RunEnd → Prop
  | rejected => c.isValid = false
  | noStart => c.isValid = true ∧ c.nodes.filter Node.isStart = []
  | severalStarts => c.isValid = true ∧ 2 ≤ (c.nodes.filter Node.isStart).length
  | completed => ∃ v, r.path.getLast? = some v ∧ v.isEnd = true
  | deadEnd => ∃ n, EndsAt c r.path n ∧ n.kind ≠ .decision ∧ n.isEnd = false ∧ n.children = []
  | undecided => ∃ n condition e, EndsAt c r.path n ∧ n.content = .decision condition ∧
      Condition.evaluate condition r.env = .error (.condition e)
  | repeated => ∃ n q m, EndsAt c r.path n ∧ n.Exit r.env q ∧ c.node? q = some m ∧
      m.key.isIn (r.path.map (·.key)) = true

/-- Whether a run that ends so has passed no node. -/
def isEarly : RunEnd → Bool
  | rejected | noStart | severalStarts => true
  | completed | deadEnd | undecided | repeated => false

/-- The kind of the error that is reported. -/
def errorKind : RunEnd → Option Text
  | rejected => some "InvalidFlowchart"
  | noStart => some "MissingStartState"
  | severalStarts => some "MultipleStartStates"
  | completed | deadEnd => none
  | undecided => some "DecisionError"
  | repeated => some "LoopDetected"

/-- What the result of a run reports if it ends so. -/
structure Reports (k : RunEnd) (env₀ : Env) (r : RunResult) : Prop where
  isValid : r.isValid = k.errorKind.isNone
  completed : r.completed = decide (k = .completed)
  errorKind : r.error.map RunError.kind = k.errorKind
  early : k.isEarly = true → r.path = [] ∧ r.env = env₀

theorem reports_of_error {k : RunEnd} {env₀ : Env} {r : RunResult}
    (hcompleted : r.completed = decide (k = .completed))
    (herror : r.error.map RunError.kind = k.errorKind)
    (hearly : k.isEarly = true → r.path = [] ∧ r.env = env₀) : k.Reports env₀ r := by
  refine ⟨?_, hcompleted, herror, hearly⟩
  rw [← herror, RunResult.isValid, Option.isNone_map]

/-- Different endings have different reports. -/
theorem Reports.unique {k l : RunEnd} {env₀ : Env} {r : RunResult} (hk : k.Reports env₀ r)
    (hl : l.Reports env₀ r) : k = l := by
  have hcompleted := hk.completed.symm.trans hl.completed
  have herror := hk.errorKind.symm.trans hl.errorKind
  cases k <;> cases l <;>
    first | rfl | exact absurd herror (by decide) | exact absurd hcompleted (by decide)

end RunEnd

/-! ## Where a run can end -/

theorem Node.children_of_labels {n : Node} {x y : Option Text}
    (h : n.children.map (·.branch) = [x, y]) :
    ∃ a b, n.children = [a, b] ∧ a.branch = x ∧ b.branch = y := by
  obtain ⟨a, rest, hchildren, ha, hrest⟩ := List.map_eq_cons_iff.mp h
  obtain ⟨b, rfl, hb⟩ := List.map_eq_singleton_iff.mp hrest
  exact ⟨a, b, hchildren, ha, hb⟩

/-- A decision that keeps the rules has one link for each answer. -/
theorem Node.forks_of_violations {n : Node} (h : n.violations = []) (hkind : n.kind = .decision) :
    ∃ onTrue onFalse, n.Forks onTrue onFalse := by
  have hne : trueBranch ≠ falseBranch := by decide
  obtain ⟨a, b, hchildren, ha, hb⟩ : ∃ a b, (n.children = [a, b] ∨ n.children = [b, a]) ∧
      a.branch = some trueBranch ∧ b.branch = some falseBranch := by
    have hlabels := ((Node.violations_eq_nil_iff n).mp h).1 hkind
    rcases List.perm_pair.mp hlabels with hmap | hmap
    · obtain ⟨a, b, hchildren, ha, hb⟩ := Node.children_of_labels hmap
      exact ⟨a, b, Or.inl hchildren, ha, hb⟩
    · obtain ⟨b, a, hchildren, hb, ha⟩ := Node.children_of_labels hmap
      exact ⟨a, b, Or.inr hchildren, ha, hb⟩
  refine ⟨a.place, b.place, ?_, ?_⟩
  · rcases hchildren with hchildren | hchildren <;>
      simp [Node.branches, hchildren, ha, hb, hne.symm]
  · rcases hchildren with hchildren | hchildren <;>
      simp [Node.branches, hchildren, ha, hb, hne]

theorem Node.kind_of_isStart {n : Node} (h : n.isStart = true) : n.kind ≠ .decision := by
  intro hkind
  obtain ⟨condition, hn⟩ := Node.content_of_kind_decision hkind
  simp [Node.isStart, hn, Content.hasRole] at h

namespace Reaches

variable {nodes : List NodeRecord} {links : List LinkRecord} {env₀ env : Env} {path : List Visit}
  {n : Node}

theorem getLast? {c : Chart} (h : Reaches c env₀ path env n) :
    path.getLast? = some (Visit.ofNode n) := by
  obtain ⟨path', env', p, -, -, -, -, rfl⟩ := h
  exact List.getLast?_concat

theorem find? (h : Reaches (Chart.build nodes links) env₀ path env n) :
    (Chart.build nodes links).find? n.key = some n := by
  obtain ⟨path', env', p, trail, node, -, -, -⟩ := h
  exact (Chart.wellFormed_build nodes links).find?_key trail.mem_places node

theorem endsAt (h : Reaches (Chart.build nodes links) env₀ path env n) :
    EndsAt (Chart.build nodes links) path n :=
  ⟨Visit.ofNode n, h.getLast?, h.find?⟩

theorem eq_of_endsAt (h : Reaches (Chart.build nodes links) env₀ path env n) {m : Node}
    (hm : EndsAt (Chart.build nodes links) path m) : m = n := by
  obtain ⟨v, hlast, hfind⟩ := hm
  rw [h.getLast?] at hlast
  cases hlast
  rw [Visit.key_ofNode, h.find?] at hfind
  exact (Option.some.inj hfind).symm

/-- A decision that a run reaches has one link for each answer. -/
theorem forks (h : Reaches (Chart.build nodes links) env₀ path env n)
    (hvalid : (Chart.build nodes links).isValid = true)
    (hlength : path.length ≤ (Chart.build nodes links).size) (hkind : n.kind = .decision) :
    ∃ onTrue onFalse, n.Forks onTrue onFalse := by
  have hc := Chart.wellFormed_build nodes links
  rcases (Chart.isValid_iff _).mp hvalid with hsize | ⟨hrules, -⟩
  -- a chart with one key is not checked, but a run on it passes no node but its start state
  · obtain ⟨path', env', p, trail, node, -, -, rfl⟩ := h
    cases trail with
    | start entrance =>
      have hstart : p ∈ (Chart.build nodes links).starts := by
        rw [(RunState.entrance_ok entrance).2]
        exact List.mem_cons_self
      have hrole := (List.mem_filter.mp hstart).2
      rw [node, Option.any_some] at hrole
      exact absurd hkind (Node.kind_of_isStart hrole)
    | pass =>
      simp only [List.length_append, List.length_singleton] at hlength
      omega
  · exact Node.forks_of_violations (hrules n (hc.mem_nodes_iff.mpr h.find?)) hkind

end Reaches

/-! ## A run halts in one way -/

theorem Node.Exit.firstChild? {n : Node} {env : Env} {q : Nat} (h : n.Exit env q)
    (plain : n.kind ≠ .decision) : n.firstChild? = some q := by
  cases h with
  | branch decision _ _ => exact absurd (Node.kind_of_content decision) plain
  | link _ _ first => exact first

theorem Node.Exit.decided {n : Node} {env : Env} {q : Nat} {condition : Option Text}
    (h : n.Exit env q) (decision : n.content = .decision condition) :
    ∃ answer, Condition.evaluate condition env = .ok answer := by
  cases h with
  | branch decision' decided _ =>
    cases decision.symm.trans decision'
    exact ⟨_, decided⟩
  | link plain _ _ => exact absurd (Node.kind_of_content decision) plain

namespace Halts

variable {c : Chart} {path : List Visit} {env : Env} {n : Node} {b b' : Bool}
  {e e' : Option RunError}

/-- A run is completed at the end states and nowhere else. -/
theorem isEnd (h : Halts c path env n b e) : n.isEnd = b := by
  cases h with
  | completed final => exact final
  | deadEnd _ inner _ => exact inner
  | undecided decision _ => exact Node.isEnd_of_content decision
  | mismatched decision _ =>
    obtain ⟨condition, hn⟩ := Node.content_of_kind_decision decision
    exact Node.isEnd_of_content hn
  | repeated exit _ _ => exact exit.isEnd

/-- The node, the variables and the path decide how a run halts. -/
theorem unique (hforks : n.kind = .decision → ∃ onTrue onFalse, n.Forks onTrue onFalse)
    (h : Halts c path env n b e) (h' : Halts c path env n b' e') : b = b' ∧ e = e' := by
  -- whether the run is completed is decided by the node; the rest is about the error
  have hb : b = b' := h.isEnd.symm.trans h'.isEnd
  subst hb
  refine ⟨rfl, ?_⟩
  cases h with
  | completed _ =>
    cases h' with
    | completed _ => rfl
  | deadEnd plain _ last =>
    cases h' with
    | deadEnd _ _ _ => rfl
    | undecided decision _ => exact absurd (Node.kind_of_content decision) plain
    | mismatched decision _ => exact absurd decision plain
    | repeated exit _ _ =>
      rw [exit.firstChild? plain] at last
      cases last
  | undecided decision failed =>
    cases h' with
    | deadEnd plain _ _ => exact absurd (Node.kind_of_content decision) plain
    | undecided decision' failed' =>
      cases decision.symm.trans decision'
      cases failed.symm.trans failed'
      rfl
    | mismatched decision' unfit => exact absurd (hforks decision') unfit
    | repeated exit _ _ =>
      obtain ⟨answer, decided⟩ := exit.decided decision
      cases failed.symm.trans decided
  | mismatched decision unfit => exact absurd (hforks decision) unfit
  | repeated exit _ _ =>
    cases h' with
    | deadEnd plain _ last =>
      rw [exit.firstChild? plain] at last
      cases last
    | undecided decision failed =>
      obtain ⟨answer, decided⟩ := exit.decided decision
      cases failed.symm.trans decided
    | mismatched decision unfit => exact absurd (hforks decision) unfit
    | repeated _ _ _ => rfl

end Halts

/-! ## Conditions and reports -/

section

variable {nodes : List NodeRecord} {links : List LinkRecord} {env₀ : Env} {r : RunResult} {n : Node}

theorem Reaches.describes (h : Reaches (Chart.build nodes links) env₀ r.path r.env n)
    (hforks : n.kind = .decision → ∃ onTrue onFalse, n.Forks onTrue onFalse)
    {b : Bool} {e : Option RunError}
    (hhalts : Halts (Chart.build nodes links) r.path r.env n b e) :
    ∃ k, RunEnd.Describes (Chart.build nodes links) r k := by
  cases hhalts with
  | completed final => exact ⟨.completed, Visit.ofNode n, h.getLast?, final⟩
  | deadEnd plain inner last =>
    have hchildren : n.children = [] := by simpa [Node.firstChild?] using last
    exact ⟨.deadEnd, n, h.endsAt, plain, inner, hchildren⟩
  | undecided decision failed => exact ⟨.undecided, n, _, _, h.endsAt, decision, failed⟩
  | mismatched decision unfit => exact absurd (hforks decision) unfit
  | repeated exit node seen => exact ⟨.repeated, n, _, _, h.endsAt, exit, node, seen⟩

/-- Each condition about the last node is a way to halt there, with the report that belongs to
it. -/
theorem Reaches.halts (h : Reaches (Chart.build nodes links) env₀ r.path r.env n) {k : RunEnd}
    (hk : k.Describes (Chart.build nodes links) r) (hlate : k.isEarly = false) :
    ∃ e, Halts (Chart.build nodes links) r.path r.env n (decide (k = .completed)) e ∧
      e.map RunError.kind = k.errorKind := by
  cases k with
  | rejected | noStart | severalStarts => cases hlate
  | completed =>
    obtain ⟨v, hlast, final⟩ := hk
    rw [h.getLast?] at hlast
    cases hlast
    exact ⟨none, .completed final, rfl⟩
  | deadEnd =>
    obtain ⟨m, hm, plain, inner, hchildren⟩ := hk
    cases h.eq_of_endsAt hm
    exact ⟨none, .deadEnd plain inner (by rw [Node.firstChild?, hchildren]; rfl), rfl⟩
  | undecided =>
    obtain ⟨m, condition, e, hm, decision, failed⟩ := hk
    cases h.eq_of_endsAt hm
    exact ⟨some (.decision n.text e), .undecided decision failed, rfl⟩
  | repeated =>
    obtain ⟨m, q, next, hm, exit, node, seen⟩ := hk
    cases h.eq_of_endsAt hm
    exact ⟨some .loop, .repeated exit node seen, rfl⟩

/-- If one of the early conditions holds, then no run begins. -/
theorem RunEnd.entrance_of_isEarly {c : Chart} {k : RunEnd} (hk : k.Describes c r)
    (hearly : k.isEarly = true) : ∃ e, c.entrance = .error e ∧ some e.kind = k.errorKind := by
  have hlength := Chart.length_filter_isStart_nodes c
  unfold Chart.entrance Chart.findStart
  cases k with
  | completed | deadEnd | undecided | repeated => cases hearly
  | rejected =>
    have hvalid : c.isValid = false := hk
    exact ⟨.invalidChart, by simp [hvalid], rfl⟩
  | noStart =>
    obtain ⟨hvalid, hnone⟩ := hk
    rw [hnone, List.length_nil, eq_comm, List.length_eq_zero_iff] at hlength
    exact ⟨.missingStart, by simp [hvalid, hlength], rfl⟩
  | severalStarts =>
    obtain ⟨hvalid, hmany⟩ := hk
    rw [hlength] at hmany
    refine ⟨.multipleStarts, ?_, rfl⟩
    match hstarts : c.starts with
    | [] | [_] => simp [hstarts] at hmany
    | _ :: _ :: _ => simp [hvalid]

/-- If no run begins, then one of the early conditions holds. -/
theorem RunEnd.describes_of_entrance {c : Chart} {e : RunError} (h : c.entrance = .error e) :
    ∃ k, RunEnd.Describes c r k := by
  have hlength := Chart.length_filter_isStart_nodes c
  rcases RunState.entrance_error h with ⟨hvalid, -⟩ | ⟨hvalid, hnone, -⟩ | ⟨hvalid, hmany, -⟩
  · exact ⟨.rejected, hvalid⟩
  · rw [hnone] at hlength
    exact ⟨.noStart, hvalid, List.length_eq_zero_iff.mp hlength⟩
  · exact ⟨.severalStarts, hvalid, by omega⟩

theorem RunEnd.isEarly_of_path_eq_nil {c : Chart} {k : RunEnd} (hk : k.Describes c r)
    (hpath : r.path = []) : k.isEarly = true := by
  have hlast : ∀ v, r.path.getLast? ≠ some v := by simp [hpath]
  cases k with
  | rejected | noStart | severalStarts => rfl
  | completed =>
    obtain ⟨v, hv, -⟩ := hk
    exact absurd hv (hlast v)
  | deadEnd =>
    obtain ⟨n, ⟨v, hv, -⟩, -⟩ := hk
    exact absurd hv (hlast v)
  | undecided =>
    obtain ⟨n, condition, e, ⟨v, hv, -⟩, -⟩ := hk
    exact absurd hv (hlast v)
  | repeated =>
    obtain ⟨n, q, m, ⟨v, hv, -⟩, -⟩ := hk
    exact absurd hv (hlast v)

end

/-- The result of a run on a built chart meets exactly one of the conditions, and reports what
belongs to it. -/
theorem simulate_runEnd (nodes : List NodeRecord) (links : List LinkRecord) (env₀ : Env)
    {r : RunResult} (h : ((Chart.build nodes links).simulate env₀).answer = .ok r) :
    (∃! k, RunEnd.Describes (Chart.build nodes links) r k) ∧
      ∀ k, RunEnd.Describes (Chart.build nodes links) r k → RunEnd.Reports k env₀ r := by
  suffices hmain : (∃ k, RunEnd.Describes (Chart.build nodes links) r k) ∧
      ∀ k, RunEnd.Describes (Chart.build nodes links) r k → RunEnd.Reports k env₀ r by
    obtain ⟨⟨k, hk⟩, hreports⟩ := hmain
    -- no two conditions hold at once, because they have different reports
    exact ⟨⟨k, hk, fun l hl => (hreports l hl).unique (hreports k hk)⟩, hreports⟩
  have hc := Chart.wellFormed_build nodes links
  rcases Chart.simulate_trail hc h with
    ⟨e, hentrance, rfl⟩ | ⟨⟨p, hp⟩, n, hreaches, hhalts⟩
  · refine ⟨RunEnd.describes_of_entrance hentrance, ?_⟩
    intro k hk
    have hearly := RunEnd.isEarly_of_path_eq_nil hk rfl
    obtain ⟨e', hentrance', hkind⟩ := RunEnd.entrance_of_isEarly hk hearly
    cases hentrance.symm.trans hentrance'
    refine RunEnd.reports_of_error ?_ hkind fun _ => ⟨rfl, rfl⟩
    cases k with
    | completed => cases hearly
    | rejected | noStart | severalStarts | deadEnd | undecided | repeated => rfl
  · have hlength := RunState.length_path_run_le hc (RunState.consistent_start _ env₀) h
    have hforks := hreaches.forks (RunState.entrance_ok hp).1 hlength
    refine ⟨hreaches.describes hforks hhalts, ?_⟩
    intro k hk
    have hlate : k.isEarly = false := by
      by_contra hearly
      obtain ⟨e, hentrance, -⟩ := RunEnd.entrance_of_isEarly hk (by simpa using hearly)
      cases hp.symm.trans hentrance
    -- the condition is a way to halt, and the run halts in one way only
    obtain ⟨e, hhalts', hkind⟩ := hreaches.halts hk hlate
    obtain ⟨hcompleted, herror⟩ := hhalts.unique hforks hhalts'
    refine RunEnd.reports_of_error hcompleted (by rw [herror]; exact hkind) ?_
    rw [hlate]
    exact fun hearly => absurd hearly Bool.false_ne_true

/-- With a positive number the countdown is led back to where it came from, and with zero to its
end. -/
theorem simulate_runEnd_countdown :
    (∃ r, ((Chart.build countdownNodes countdownLinks).simulate ⟨[("x", .int 5)]⟩).answer = .ok r ∧
      RunEnd.Describes (Chart.build countdownNodes countdownLinks) r .repeated ∧
      RunEnd.Reports .repeated ⟨[("x", .int 5)]⟩ r) ∧
    ∃ r, ((Chart.build countdownNodes countdownLinks).simulate ⟨[("x", .int 0)]⟩).answer = .ok r ∧
      RunEnd.Describes (Chart.build countdownNodes countdownLinks) r .completed ∧
      RunEnd.Reports .completed ⟨[("x", .int 0)]⟩ r := by
  refine ⟨⟨_, rfl, ?_⟩, ⟨_, rfl, ?_⟩⟩
  · refine (and_iff_left_of_imp ((simulate_runEnd _ _ _ rfl).2 _)).mpr ?_
    exact ⟨_, _, _, ⟨_, rfl, rfl⟩, .branch rfl rfl rfl, rfl, rfl⟩
  · refine (and_iff_left_of_imp ((simulate_runEnd _ _ _ rfl).2 _)).mpr ?_
    exact ⟨_, rfl, rfl⟩

end Flowchart
