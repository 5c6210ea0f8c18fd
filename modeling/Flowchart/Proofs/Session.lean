import Flowchart.Session
import Flowchart.Proofs.Chart.Builder
import Flowchart.Proofs.Chart.Edit
import Flowchart.Proofs.Simulation.Walk

/-! # Sessions

In a session the chart may be edited between the steps of a run, commands may fail, and a run may be
started again in the middle.  A link may lead to a node that was replaced, so a run can pass nodes
that are on the chart no more.  Still the invariant of runs holds after every list of commands,
because a replaced node leaves its key behind: `Session.Sound` carries it from command to command,
and `session_invariant` says what follows.
-/

namespace Flowchart

namespace Session

open RunState (Consistent TakenVisited Loop conclude)

variable {s : Session}

/-! ## What the commands do -/

theorem connect_eq_ok {source target : Key} {branch : Option Text} {s' : Session}
    (h : s.connect source target branch = .ok s') :
    ∃ p q, s.chart.place? source = some p ∧ s.chart.place? target = some q ∧
      s' = { s with chart := s.chart.connect p q branch } := by
  unfold connect place at h
  cases hp : s.chart.place? source with
  | none => simp [hp, bind, Except.bind] at h
  | some p =>
    cases hq : s.chart.place? target with
    | none => simp [hp, hq, bind, Except.bind] at h
    | some q =>
      simp only [hp, hq, bind, Except.bind, pure, Except.pure, Except.ok.injEq] at h
      exact ⟨p, q, rfl, rfl, h.symm⟩

theorem decision_eq_ok {key : Key} {n : Node} {condition : Option Text}
    (h : s.decision key = .ok (n, condition)) :
    s.chart.find? key = some n ∧ n.content = .decision condition := by
  unfold decision node at h
  cases hn : s.chart.find? key with
  | none => simp [hn, bind, Except.bind] at h
  | some m =>
    cases hcontent : m.content with
    | decision c =>
      simp only [hn, hcontent, bind, Except.bind, pure, Except.pure, Except.ok.injEq,
        Prod.mk.injEq] at h
      obtain ⟨rfl, rfl⟩ := h
      exact ⟨rfl, hcontent⟩
    | state _ | process _ | generic => simp [hn, hcontent, bind, Except.bind] at h

theorem connect_eq_error {source target : Key} {branch : Option Text} {e : Error}
    (h : s.connect source target branch = .error e) : ∃ k, e = .missingKey k := by
  unfold connect place at h
  cases hp : s.chart.place? source with
  | none =>
    simp only [hp, bind, Except.bind, Except.error.injEq] at h
    exact ⟨source, h.symm⟩
  | some p =>
    cases hq : s.chart.place? target with
    | none =>
      simp only [hp, hq, bind, Except.bind, Except.error.injEq] at h
      exact ⟨target, h.symm⟩
    | some q => simp [hp, hq, bind, Except.bind, pure, Except.pure] at h

theorem decision_eq_error {key : Key} {e : Error} (h : s.decision key = .error e) :
    (∃ k, e = .missingKey k) ∨ e = .notADecision := by
  unfold decision node at h
  cases hn : s.chart.find? key with
  | none =>
    simp only [hn, bind, Except.bind, Except.error.injEq] at h
    exact Or.inl ⟨key, h.symm⟩
  | some n =>
    cases hcontent : n.content with
    | decision c => simp [hn, hcontent, bind, Except.bind, pure, Except.pure] at h
    | state _ | process _ | generic =>
      simp only [hn, hcontent, bind, Except.bind, Except.error.injEq] at h
      exact Or.inr h.symm

/-- What a command can do to a session.  Of an edit it matters only that the chart stays well formed
and keeps its keys. -/
inductive Effect (s : Session) : Command → Session → Prop
  | unchanged {command} : Effect s command s
  | edited {command chart} (wellFormed : s.chart.WellFormed → chart.WellFormed)
      (keys : ∀ k : Key, k.isIn s.chart.keys = true → k.isIn chart.keys = true) :
      Effect s command { s with chart }
  | restarted {env} : Effect s (.restart env) { s with run := .start env }
  | stepped {key n} (node : s.chart.find? key = some n) :
      Effect s (.step key) { s with run := (s.run.step n).state }
  | chosen {key n condition} (node : s.chart.find? key = some n)
      (decision : n.content = .decision condition) :
      Effect s (.choose key) { s with run := (s.run.choose n condition).state }
  | finished : Effect s .finish { s with run := (s.run.run s.chart).state }

theorem perform_effect (s : Session) (command : Command) :
    Effect s command (s.perform command).1 := by
  cases command with
  | add record =>
    refine .edited (fun hc => hc.add rfl) fun _ hk => ?_
    rw [Chart.isIn_keys_add, hk, Bool.true_or]
  | link record =>
    cases hl : s.chart.link record with
    | none =>
      simp only [perform, hl]
      exact .unchanged
    | some c =>
      simp only [perform, hl]
      have hkeys : c.keys = s.chart.keys := by
        rw [Chart.keys, Chart.keys, (Chart.index_links_of_link hl).1]
      refine .edited (fun hc => hc.link hl) fun _ hk => ?_
      rw [hkeys]
      exact hk
  | connect source target branch =>
    cases hs : s.connect source target branch with
    | error e =>
      simp only [perform, hs]
      exact .unchanged
    | ok s' =>
      simp only [perform, hs]
      obtain ⟨p, q, -, hq, rfl⟩ := connect_eq_ok hs
      refine .edited (fun hc => hc.connect (hc.lt_of_place? hq) p branch) fun _ hk => ?_
      rw [Chart.keys_connect]
      exact hk
  | relabel place child branch =>
    cases hc : s.chart.relabel place child branch with
    | none =>
      simp only [perform, hc]
      exact .unchanged
    | some c =>
      simp only [perform, hc]
      refine .edited (fun h => h.relabel hc) fun _ hk => ?_
      rw [Chart.relabel_eq_some hc]
      exact hk
  | restart env => exact .restarted
  | step key =>
    cases hn : s.chart.find? key with
    | none =>
      simp only [perform, node, hn]
      exact .unchanged
    | some n =>
      simp only [perform, node, hn]
      exact .stepped hn
  | choose key =>
    cases hdecision : s.decision key with
    | error e =>
      simp only [perform, hdecision]
      exact .unchanged
    | ok found =>
      simp only [perform, hdecision]
      obtain ⟨hn, hcontent⟩ := decision_eq_ok hdecision
      exact .chosen hn hcontent
  | finish => exact .finished

/-- A command edits the chart or leaves it alone. -/
theorem chart_perform (s : Session) (command : Command) :
    (s.perform command).1.chart = s.chart ∨ ∃ e, (s.perform command).1.chart = (s.chart.edit e).1 := by
  cases command with
  | add record => exact Or.inr ⟨.add record, rfl⟩
  | link record =>
    refine Or.inr ⟨.link record, ?_⟩
    cases hl : s.chart.link record with
    | none => simp only [perform, Chart.edit, hl]
    | some c => simp only [perform, Chart.edit, hl]
  | connect source target branch =>
    cases hs : s.connect source target branch with
    | error e => simp [perform, hs]
    | ok s' =>
      obtain ⟨p, q, hp, hq, rfl⟩ := connect_eq_ok hs
      refine Or.inr ⟨.connect source target branch, ?_⟩
      simp only [perform, Chart.edit, hs, hp, hq]
  | relabel place child branch =>
    refine Or.inr ⟨.relabel place child branch, ?_⟩
    cases hc : s.chart.relabel place child branch with
    | none => simp only [perform, Chart.edit, hc]
    | some c => simp only [perform, Chart.edit, hc]
  | restart env => exact Or.inl rfl
  | step key | choose key =>
    refine Or.inl ?_
    simp only [perform]
    split <;> rfl
  | finish => exact Or.inl rfl

/-! ## The invariant -/

/-- The invariant of sessions. -/
structure Sound (s : Session) : Prop where
  chart : s.chart.WellFormed
  run : Consistent s.chart s.run

theorem sound_ofChart {c : Chart} (hc : c.WellFormed) : (ofChart c).Sound :=
  ⟨hc, RunState.consistent_start c .empty⟩

theorem Sound.perform (h : s.Sound) (command : Command) : (s.perform command).1.Sound := by
  have heffect := s.perform_effect command
  generalize (s.perform command).1 = s' at heffect
  cases heffect with
  | unchanged => exact h
  | edited wellFormed keys => exact ⟨wellFormed h.chart, h.run.mono keys⟩
  | restarted => exact ⟨h.chart, RunState.consistent_start s.chart _⟩
  | @stepped key n node =>
    obtain ⟨p, -, hnode, -⟩ := h.chart.node_of_find? node
    exact ⟨h.chart, h.run.step (h.chart.keyed p n hnode)⟩
  | chosen _ _ => exact ⟨h.chart, h.run.choose _⟩
  | finished =>
    -- the nodes that a run passes need not be current, but their keys are in use
    exact ⟨h.chart, h.run.run h.chart⟩

/-! ## Histories -/

/-- Whether a command asks a decision for its branch without passing it. -/
def asks (s : Session) : Command → Bool
  | .choose key => (s.chart.find? key).any fun n => n.kind = .decision
  | _ => false

/-- A session that remembers whether a decision was asked since its run began. -/
structure History where
  session : Session
  asked : Bool

namespace History

/-- A history on a chart that is built from records; no records give the empty chart. -/
def ofRecords (nodes : List NodeRecord) (links : List LinkRecord) : History :=
  ⟨Session.ofChart (Chart.build nodes links), false⟩

/-- Carries out a command. -/
def next (h : History) (command : Command) : History where
  session := (h.session.perform command).1
  asked :=
    match command with
    | .restart _ => false
    | command => h.asked || h.session.asks command

/-- Carries out commands in turn. -/
def after (h : History) (commands : List Command) : History :=
  commands.foldl next h

end History

theorem takenVisited_perform (hs : s.Sound) (h : TakenVisited s.run) {command : Command}
    (hcommand : s.asks command = false) : TakenVisited (s.perform command).1.run := by
  have heffect := s.perform_effect command
  generalize (s.perform command).1 = s' at heffect
  cases heffect with
  | unchanged | edited _ _ => exact h
  | restarted => exact RunState.takenVisited_start _
  | @stepped key n node => exact h.step n
  | chosen node decision => simp [asks, node, Node.kind_of_content decision] at hcommand
  | finished => exact RunState.run_preserves hs.chart hs.run (fun _ _ n _ h => h.step n) h

theorem History.sound_after (nodes : List NodeRecord) (links : List LinkRecord)
    (commands : List Command) :
    ((ofRecords nodes links).after commands).session.Sound ∧
      (((ofRecords nodes links).after commands).asked = false →
        TakenVisited ((ofRecords nodes links).after commands).session.run) := by
  -- a history may begin in the middle of a run, so the induction is over all sound sessions
  suffices hstep : ∀ h : History, h.session.Sound ∧ (h.asked = false → TakenVisited h.session.run) →
      (h.after commands).session.Sound ∧
        ((h.after commands).asked = false → TakenVisited (h.after commands).session.run) from
    hstep _ ⟨sound_ofChart (Chart.wellFormed_build nodes links),
      fun _ => RunState.takenVisited_start .empty⟩
  induction commands with
  | nil => exact fun _ h => h
  | cons command commands ih =>
    rintro h ⟨hsound, htaken⟩
    refine ih (h.next command) ⟨hsound.perform command, ?_⟩
    intro hasked
    -- only a new run can make up for a question that was asked
    cases command with
    | restart env => exact RunState.takenVisited_start env
    | add _ | link _ | connect _ _ _ | relabel _ _ _ | step _ | choose _ | finish =>
      obtain ⟨hbefore, hnow⟩ := Bool.or_eq_false_iff.mp hasked
      exact takenVisited_perform hsound (htaken hbefore) hnow

/-- The chart of a session is one that was edited, so that whatever holds of edited charts holds of
it: running a chart does not change it. -/
theorem History.chart_after (h : History) (commands : List Command) :
    ∃ edits, (h.after commands).session.chart = h.session.chart.edited edits := by
  induction commands generalizing h with
  | nil => exact ⟨[], rfl⟩
  | cons command commands ih =>
    obtain ⟨edits, hedits⟩ := ih (h.next command)
    rcases h.session.chart_perform command with hsame | ⟨e, he⟩
    · exact ⟨edits, hedits.trans (by rw [← hsame]; rfl)⟩
    · exact ⟨e :: edits, hedits.trans (by rw [Chart.edited_cons, ← he]; rfl)⟩

/-- Whether the reply to a command says that a true branch was to be taken twice. -/
def Retraverses : Except Error Reply → Prop
  | .error (.step (.stop (.branchRetraversal _))) => True
  | .ok (.result r) => ∃ label, r.error = some (.branchRetraversal label)
  | _ => False

/-- Of all failures only one says so. -/
theorem Retraverses.of_error {e : Error} (h : Retraverses (.error e)) :
    ∃ label, e = .step (.stop (.branchRetraversal label)) := by
  unfold Retraverses at h
  split at h
  · rename_i label heq
    exact ⟨label, Except.error.inj heq⟩
  · rename_i heq
    cases heq
  · exact h.elim

theorem not_retraverses_perform (hs : s.Sound) (h : TakenVisited s.run) {command : Command}
    (hcommand : s.asks command = false) : ¬ Retraverses (s.perform command).2 := by
  cases command with
  | add record | restart env => exact id
  | link record =>
    simp only [perform]
    split <;> exact id
  | connect source target branch =>
    cases hresult : s.connect source target branch with
    | ok s' => simp [perform, hresult, Retraverses]
    | error e =>
      simp only [perform, hresult]
      obtain ⟨k, rfl⟩ := connect_eq_error hresult
      exact id
  | relabel place child branch =>
    simp only [perform]
    split <;> exact id
  | step key =>
    cases hn : s.chart.find? key with
    | none =>
      simp only [perform, node, hn]
      exact id
    | some n =>
      simp only [perform, node, hn, follow]
      cases hanswer : (s.run.step n).answer with
      | ok next => exact id
      | error e =>
        intro hretraverses
        obtain ⟨label, hlabel⟩ := hretraverses.of_error
        cases hlabel
        exact h.not_retraversed n label hanswer
  | choose key =>
    cases hdecision : s.decision key with
    | error e =>
      simp only [perform, hdecision]
      rcases decision_eq_error hdecision with ⟨k, rfl⟩ | rfl
      · exact id
      · exact id
    | ok found =>
      obtain ⟨hn, hcontent⟩ := decision_eq_ok hdecision
      simp [asks, hn, Node.kind_of_content hcontent] at hcommand
  | finish =>
    simp only [perform, follow]
    cases hanswer : (s.run.run s.chart).answer with
    | error e =>
      obtain ⟨l, rfl⟩ := RunState.run_error hanswer
      exact id
    | ok r =>
      rintro ⟨label, hlabel⟩
      exact RunState.run_not_retraversed hs.chart hs.run h hanswer label hlabel

/-- After any commands, whether they failed or not: no key is on the path twice, the keys on the
path are those that count as visited, all of them are keys of the chart, and the run is completed
exactly if it passed an end state; and a run from here would come to an end.  If no decision was
asked without being passed, only visited decisions were left by their true branch, and no command
but such a question is told that a true branch would be taken twice. -/
theorem session_invariant (nodes : List NodeRecord) (links : List LinkRecord)
    (commands : List Command) :
    let history := (History.ofRecords nodes links).after commands
    let chart := history.session.chart
    let run := history.session.run
    Key.Distinct (run.path.map (·.key)) ∧
    (∀ k : Key, k.isIn run.visited = true ↔ k.isIn (run.path.map (·.key)) = true) ∧
    (∀ v ∈ run.path, chart.contains v.key = true) ∧ run.path.length ≤ chart.size ∧
    (run.completed = true ↔ ∃ v ∈ run.path, v.isEnd = true) ∧
    (∀ p, chart.entrance = .ok p → ∃ t, Loop chart run p t ∧ run.run chart = conclude t) ∧
    (history.asked = false →
      (∀ k ∈ run.trueTaken, k.isIn run.visited = true) ∧
      ∀ command, history.session.asks command = false →
        ¬ Retraverses (history.session.perform command).2) := by
  intro history chart run
  obtain ⟨hsound, htaken⟩ := History.sound_after nodes links commands
  refine ⟨hsound.run.distinct, ?_, ?_, hsound.run.length_path_le, ?_, ?_, ?_⟩
  · intro k
    rw [hsound.run.visited_eq]
  · intro v hv
    rw [Chart.contains_eq_isIn]
    exact hsound.run.keyed v hv
  · rw [hsound.run.completed_eq, List.any_eq_true]
  · intro p hp
    exact RunState.run_eq_loop hsound.chart hsound.run hp
  · intro hasked
    exact ⟨htaken hasked, fun _ => not_retraverses_perform hsound (htaken hasked)⟩

-- the theorem covers histories that begin on the empty chart
example : (History.ofRecords [] []).session = Session.ofChart .empty := rfl

end Session

end Flowchart
