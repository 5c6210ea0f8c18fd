import Mathlib.Data.List.TakeWhile
import Flowchart.Command.Run
import Flowchart.Proofs.Command.Variables
import Flowchart.Proofs.Report.Trace
import Flowchart.Proofs.Simulation.Escape
import Flowchart.Proofs.Simulation.Evolution

/-! # Reporting a run on the command line

A run that gives a result is reported by its trace, which is refused if an integer in it is too long
to be written.  Such an integer was in the role of a state or was computed on the way: what the
command line accepts and what expressions spell out can be written, and so can quotients of such
integers.  `simulate_reported` says when the report is printed and what happens otherwise, and
`simulate_unreported_squaring` is a run that comes to its end and cannot be reported.
-/

namespace Flowchart

/-! ## Integers that a run computes -/

/-- The integers that are sums, differences or products computed on a path. -/
inductive Computed (env₀ : Env) (path : List Visit) : Int → Prop
  | update {before v env text x op operand a b n} (passed : before ++ [v] <+: path)
      (replayed : replay env₀ before = .ok env) (process : v.content = .process (some text))
      (parsed : Expr.parse text = .ok (.update x op operand)) (undivided : op ≠ .div)
      (current : env.get? x = some (.int a)) (resolved : operand.resolve env = .ok (.int b))
      (applied : ArithOp.apply? op a b = some n) : Computed env₀ path n

theorem Computed.mono {env₀ : Env} {path path' : List Visit} (hpath : path <+: path') {n : Int}
    (h : Computed env₀ path n) : Computed env₀ path' n := by
  cases h with
  | update passed replayed process parsed undivided current resolved applied =>
    exact .update (passed.trans hpath) replayed process parsed undivided current resolved applied

/-- An update by an operation that is not division computes an integer; a quotient is no longer than
its dividend. -/
theorem Action.Effect.isWritable_ints {env₀ env env' : Env} {path : List Visit} {v : Visit}
    (hreplay : replay env₀ path = .ok env)
    (heffect : Action.Effect env v.content.action? env')
    (hcomputed : ∀ n, Computed env₀ (path ++ [v]) n → Numeral.isWritable n = true)
    (henv : ∀ n ∈ env.ints, Numeral.isWritable n = true) :
    ∀ n ∈ env'.ints, Numeral.isWritable n = true := by
  generalize haction : v.content.action? = action at heffect
  intro n hn
  cases heffect with
  | unchanged => exact henv n hn
  | @assigned text x operand u parsed resolved =>
    rcases Env.mem_ints_set hn with hn | hn
    · cases u with
      | bool b => simp [Value.ints] at hn
      | int m =>
        cases List.mem_singleton.mp hn
        cases operand with
        | bool b => cases resolved
        | int k =>
          cases resolved
          exact Expr.isWritable_of_parse parsed
        | name y =>
          exact henv n (Env.mem_ints_of_get? (Operand.resolve_name_eq_ok.mp resolved))
    · exact henv n hn
  | @updated text x op operand a b m parsed current resolved applied =>
    rcases Env.mem_ints_set hn with hn | hn
    · cases List.mem_singleton.mp hn
      by_cases hdiv : op = .div
      · subst hdiv
        obtain ⟨-, rfl⟩ : b ≠ 0 ∧ a.tdiv b = n := by
          simpa [divide?, ArithOp.apply?] using applied
        exact Numeral.isWritable_tdiv a b (henv a (Env.mem_ints_of_get? current))
      · exact hcomputed n (.update (List.prefix_refl _) hreplay
          (Content.process_of_action? haction) parsed hdiv current resolved applied)
    · exact henv n hn

theorem isWritable_ints_of_replay {env₀ env : Env} {path : List Visit}
    (h : replay env₀ path = .ok env) (henv₀ : ∀ n ∈ env₀.ints, Numeral.isWritable n = true)
    (hcomputed : ∀ n, Computed env₀ path n → Numeral.isWritable n = true) :
    ∀ n ∈ env.ints, Numeral.isWritable n = true := by
  refine replay_induction (motive := fun path env =>
    (∀ n, Computed env₀ path n → Numeral.isWritable n = true) →
      ∀ n ∈ env.ints, Numeral.isWritable n = true) (fun _ => henv₀) ?_ h hcomputed
  intro path env v env' hreplay ih heffect hcomputed
  refine heffect.isWritable_ints hreplay hcomputed (ih fun n hn => ?_)
  exact hcomputed n (hn.mono (List.prefix_append path [v]))

/-! ## Integers in roles -/

theorem Trail.node_of_mem {c : Chart} {env₀ env : Env} {path : List Visit} {p : Nat}
    (h : Trail c env₀ path env p) {v : Visit} (hv : v ∈ path) :
    ∃ q n, c.node? q = some n ∧ v = Visit.ofNode n := by
  induction h with
  | start => simp at hv
  | @pass path env p n env' q _ node _ _ _ ih =>
    rcases List.mem_append.mp hv with hv | hv
    · exact ih hv
    · exact ⟨p, n, node, List.mem_singleton.mp hv⟩

theorem Chart.node_of_mem_path {c : Chart} (hc : c.WellFormed) {env₀ : Env} {r : RunResult}
    (h : (c.simulate env₀).answer = .ok r) {v : Visit} (hv : v ∈ r.path) :
    ∃ q n, c.node? q = some n ∧ v = Visit.ofNode n := by
  rcases Chart.simulate_trail hc h with ⟨e, -, rfl⟩ | ⟨-, n, hreaches, -⟩
  · simp [RunResult.stopped, RunState.start] at hv
  · obtain ⟨path, env, p, trail, node, -, -, hpath⟩ := hreaches
    rw [hpath] at hv
    rcases List.mem_append.mp hv with hv | hv
    · exact trail.node_of_mem hv
    · exact ⟨p, n, node, List.mem_singleton.mp hv⟩

theorem NodeRecord.role_of_mem_ints {record : NodeRecord} {v : Visit} {n : Int}
    (hv : v.content = (Node.ofRecord record).content) (hn : n ∈ v.ints) :
    ∃ role, record.role = some role ∧ n ∈ role.ints := by
  rw [Visit.ints, hv] at hn
  unfold Node.ofRecord at hn
  cases hkind : record.kind with
  | process | decision | generic | other _ => simp [hkind, Content.role?] at hn
  | state =>
    cases hrole : record.role with
    | none => simp [hkind, hrole, Content.role?, normalRole, Json.ints] at hn
    | some role =>
      refine ⟨role, rfl, ?_⟩
      simp only [hkind, hrole, Content.role?] at hn
      split at hn
      · exact hn
      · simp [normalRole, Json.ints] at hn

/-! ## The report -/

/-- Whether all integers that the trace of a run shows can be written. -/
def RunResult.Writable (r : RunResult) : Prop :=
  ∀ n ∈ r.shownInts, Numeral.isWritable n = true

theorem RunResult.writable_of_computed {nodes : List NodeRecord} {links : List LinkRecord}
    {env₀ : Env} {r : RunResult} (h : ((Chart.build nodes links).simulate env₀).answer = .ok r)
    (henv₀ : ∀ n ∈ env₀.ints, Numeral.isWritable n = true)
    (hroles : ∀ record ∈ nodes, ∀ role, record.role = some role →
      ∀ n ∈ role.ints, Numeral.isWritable n = true)
    (hcomputed : ∀ n, Computed env₀ r.path n → Numeral.isWritable n = true) : r.Writable := by
  have hc := Chart.wellFormed_build nodes links
  intro n hn
  unfold shownInts at hn
  split at hn
  · simp at hn
  · rcases List.mem_append.mp hn with hn | hn
    · obtain ⟨v, hv, hn⟩ := List.mem_flatMap.mp hn
      obtain ⟨p, m, node, rfl⟩ := Chart.node_of_mem_path hc h hv
      obtain ⟨record, hrecord, hcontent⟩ := Chart.content_of_node?_build node
      obtain ⟨role, hrole, hn⟩ := NodeRecord.role_of_mem_ints hcontent hn
      exact hroles record hrecord role hrole n hn
    · exact isWritable_ints_of_replay (Chart.replay_simulate hc h) henv₀ hcomputed n hn

namespace Command

theorem readAssignments_map_some {items : List Text} {env : Env}
    (h : readVariables items = .ok env) : readAssignments (items.map some) = .ok env := by
  have htake : (items.map some).takeWhile Option.isSome = items.map some := by
    rw [List.takeWhile_eq_self_iff]
    simp
  simp [readAssignments, htake, List.filterMap_map, h]

theorem simulate_answer {c : Chart} {items : List Text} {env₀ : Env} {r : RunResult}
    (hitems : readVariables items = .ok env₀) (h : (c.simulate env₀).answer = .ok r) :
    (simulate c (items.map some)).answer = reportRun r := by
  simp [simulate, readAssignments_map_some hitems, h]

theorem reportRun_cases (r : RunResult) :
    (∃ e, r.path = [] ∧ r.error = some e ∧
      reportRun r = .ok { status := statusFailed, out := line ("Error: " ++ e.message) }) ∨
    reportRun r = report (if r.error.isNone then statusOk else statusFailed) r.trace := by
  cases hpath : r.path with
  | cons v path => exact Or.inr (by simp [reportRun, hpath])
  | nil =>
    cases herror : r.error with
    | none => exact Or.inr (by simp [reportRun, hpath, herror])
    | some e => exact Or.inl ⟨e, rfl, rfl, by simp [reportRun, hpath, herror]⟩

theorem reportRun_of_writable {r : RunResult} (h : r.Writable) :
    ∃ text output, r.trace = .ok text ∧ reportRun r = .ok output ∧
      output.status = (if r.error.isNone then statusOk else statusFailed) ∧
      (r.path ≠ [] → output.out = line text) := by
  obtain ⟨text, htext⟩ := r.shows_trace.ok h
  rcases reportRun_cases r with ⟨e, hpath, herror, hreport⟩ | hreport
  · exact ⟨text, _, htext, hreport, by simp [herror], fun hne => absurd hpath hne⟩
  · rw [htext] at hreport
    exact ⟨text, _, htext, hreport, rfl, fun _ => rfl⟩

theorem reportRun_of_not_writable {r : RunResult} (h : ¬ r.Writable) :
    r.trace = .error .tooLongToWrite ∧
      reportRun r = .error (.crash (.limit .tooLongToWrite)) := by
  simp only [RunResult.Writable, not_forall, Bool.not_eq_true] at h
  obtain ⟨n, hn, hlong⟩ := h
  have htrace := r.shows_trace.error n hn hlong
  refine ⟨htrace, ?_⟩
  rcases reportRun_cases r with ⟨e, hpath, -, -⟩ | hreport
  · simp [RunResult.shownInts, hpath] at hn
  · rw [hreport, htrace]
    rfl

/-- A run that gives a result is reported, with the status that tells whether it stopped early, if
the integers that its trace shows can be written; else the program breaks off.  They can be written
if those in the roles of the records can be, and the sums, differences and products on the path. -/
theorem simulate_reported (nodes : List NodeRecord) (links : List LinkRecord) (items : List Text)
    {env₀ : Env} {r : RunResult} (hitems : readVariables items = .ok env₀)
    (h : ((Chart.build nodes links).simulate env₀).answer = .ok r) :
    (r.Writable → ∃ text output, r.trace = .ok text ∧
      (simulate (Chart.build nodes links) (items.map some)).answer = .ok output ∧
      output.status = (if r.error.isNone then statusOk else statusFailed) ∧
      (r.path ≠ [] → output.out = line text)) ∧
    (¬ r.Writable → r.trace = .error .tooLongToWrite ∧
      (simulate (Chart.build nodes links) (items.map some)).answer =
        .error (.crash (.limit .tooLongToWrite))) ∧
    ((∀ record ∈ nodes, ∀ role, record.role = some role →
        ∀ n ∈ role.ints, Numeral.isWritable n = true) →
      (∀ n, Computed env₀ r.path n → Numeral.isWritable n = true) → r.Writable) := by
  rw [simulate_answer hitems h]
  refine ⟨reportRun_of_writable, reportRun_of_not_writable, ?_⟩
  exact RunResult.writable_of_computed h (isWritable_of_readVariables hitems)

end Command

/-! ## Squaring -/

/-- A chart that squares a variable some number of times. -/
def squaringNodes (times : Nat) : List NodeRecord :=
  { key := .int 0, kind := .state, text := "Start", role := some (.text "start") } ::
    (List.range times).map (fun i =>
      { key := .int (i + 1), kind := .process, text := "Square",
        action := some ("x * x" : Text) }) ++
    [{ key := .int (times + 1), kind := .state, text := "End", role := some (.text "end") }]

/-- The links of that chart. -/
def squaringLinks (times : Nat) : List LinkRecord :=
  (List.range (times + 1)).map fun i => { source := .int i, target := .int (i + 1) }

theorem squaring_outcome :
    ((Chart.build (squaringNodes 13) (squaringLinks 13)).simulate ⟨[("x", .int 10)]⟩).answer.map
      (fun r => (r.completed, r.error, r.trace)) = .ok (true, none, .error .tooLongToWrite) := by
  decide +kernel

namespace Command

theorem readVariables_ten : readVariables ["x=10"] = .ok ⟨[("x", .int 10)]⟩ := by
  decide +kernel

/-- Squared once, ten is a hundred, and the run is reported. -/
theorem simulate_reported_squaring :
    ∃ r, ((Chart.build (squaringNodes 1) (squaringLinks 1)).simulate ⟨[("x", .int 10)]⟩).answer =
        .ok r ∧ r.env = ⟨[("x", .int 100)]⟩ ∧ r.Writable ∧
      ∃ text output, r.trace = .ok text ∧
        (simulate (Chart.build (squaringNodes 1) (squaringLinks 1))
          [some ("x=10" : Text)]).answer = .ok output ∧
        output.status = statusOk ∧ (r.path ≠ [] → output.out = line text) := by
  obtain ⟨hreported, -⟩ := simulate_reported (squaringNodes 1) (squaringLinks 1) _
    readVariables_ten rfl
  have hwritable : ∀ n ∈ [(100 : Int)], Numeral.isWritable n = true := by decide +kernel
  exact ⟨_, rfl, rfl, hwritable, hreported hwritable⟩

/-- Squared thirteen times, ten has more digits than can be written: the run comes to its end, and
the program breaks off without a report. -/
theorem simulate_unreported_squaring :
    ∃ r, readVariables ["x=10"] = .ok ⟨[("x", .int 10)]⟩ ∧
      ((Chart.build (squaringNodes 13) (squaringLinks 13)).simulate ⟨[("x", .int 10)]⟩).answer =
        .ok r ∧
      r.completed = true ∧ r.error = none ∧ r.trace = .error .tooLongToWrite ∧
      (simulate (Chart.build (squaringNodes 13) (squaringLinks 13))
        [some ("x=10" : Text)]).answer = .error (.crash (.limit .tooLongToWrite)) := by
  have houtcome := squaring_outcome
  cases hrun : ((Chart.build (squaringNodes 13) (squaringLinks 13)).simulate
      ⟨[("x", .int 10)]⟩).answer with
  | error e => simp [hrun, Except.map] at houtcome
  | ok r =>
    simp only [hrun, Except.map, Except.ok.injEq, Prod.mk.injEq] at houtcome
    obtain ⟨hcompleted, herror, htrace⟩ := houtcome
    refine ⟨r, readVariables_ten, rfl, hcompleted, herror, htrace, ?_⟩
    rcases reportRun_cases r with ⟨e, -, he, -⟩ | hreport
    · rw [herror] at he
      cases he
    · rw [htrace] at hreport
      exact (simulate_answer readVariables_ten hrun).trans hreport

end Command

end Flowchart
