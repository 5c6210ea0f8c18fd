import Flowchart.Proofs.Report.Rename
import Flowchart.Proofs.Simulation.Alike
import Flowchart.Proofs.Simulation.Replay
import Flowchart.Report.Trace

/-! # Runs on a chart with renamed keys

A run asks of a key only whether it was passed before.  So a run on the renamed chart passes the
same places, and only the names on its path differ.  `simulate_rename` puts together what renaming
does to a chart: nothing at all to the rules and the reports, and to a run nothing but those names.
-/

namespace Flowchart

/-- Two places that are one place on a chart. -/
def Chart.OnePlace (c : Chart) (p p' : Nat) : Prop :=
  p = p' ∧ p < c.placed.length

theorem Node.leadsAlike_rename (f : Key → Key) {c : Chart} {n : Node}
    (hled : ∀ e ∈ n.children, e.place < c.placed.length) :
    n.LeadsAlike f c.OnePlace (n.rename f) := by
  refine ⟨rfl, rfl, rfl, ?_, ?_⟩
  · intro _
    have hfirst : (n.rename f).firstChild? = n.firstChild? := rfl
    rw [hfirst, Node.firstChild?]
    cases hes : n.children with
    | nil => exact .none
    | cons e es => exact .some ⟨rfl, hled e (by rw [hes]; exact List.mem_cons_self)⟩
  · intro _ label _
    have hbranches : (n.rename f).branches (some label) = n.branches (some label) := rfl
    rw [hbranches, List.forall₂_same]
    intro p hp
    obtain ⟨e, he, rfl⟩ := List.mem_map.mp hp
    exact ⟨rfl, hled e (List.mem_filter.mp he).1⟩

namespace Chart

variable {f : Key → Key} {K : Set Key} {c : Chart}

theorem entrance_rename (hf : Key.Faithful f K) (hc : c.KeysIn K) :
    (c.rename f).entrance = c.entrance := by
  rw [entrance, entrance, isValid, isValid, violations_rename hf hc, findStart, findStart,
    starts_rename]

theorem agree_entrance_rename (hf : Key.Faithful f K) (hc : c.KeysIn K) (hwf : c.WellFormed) :
    Agree c.OnePlace c.entrance (c.rename f).entrance := by
  rw [entrance_rename hf hc]
  cases hstart : c.entrance with
  | error e => exact .error e
  | ok p => exact .ok ⟨rfl, RunState.entrance_lt hwf hstart⟩

/-- A run on the renamed chart has the result of a run on the chart, with other names on its
path. -/
theorem simulate_rename_answer (hf : Key.Faithful f K) (hc : c.KeysIn K) (hwf : c.WellFormed)
    (env : Env) :
    ((c.rename f).simulate env).answer = (c.simulate env).answer.map (RunResult.rename f) := by
  refine simulate_of_leadsAlike hf (size_rename f c).symm (agree_entrance_rename hf hc hwf) ?_ env
  rintro - p p' ⟨rfl, hlt⟩
  obtain ⟨n, hn⟩ := node?_of_lt hlt
  refine ⟨n, n.rename f, hn, ?_, hc.node? hn, Node.leadsAlike_rename f (hwf.led p n hn)⟩
  rw [node?_rename, hn, Option.map_some]

end Chart

@[simp] theorem RunResult.trace_rename (f : Key → Key) (r : RunResult) :
    (r.rename f).trace = r.trace := by
  have hpath : (r.rename f).path.map Trace.Entry.ofVisit = r.path.map Trace.Entry.ofVisit := by
    simp only [RunResult.rename, List.map_map]
    rfl
  rw [trace, trace, hpath]
  rfl

/-- Keys are only names.  If a renaming is faithful on the keys of the records, then the chart of the
renamed records breaks the same rules in the same order and has the same measures, outline and
script, and a run on it has the same trace and the same result, with the keys on its path renamed. -/
theorem simulate_rename {f : Key → Key} {nodes : List NodeRecord} {links : List LinkRecord}
    (hf : Key.Faithful f {k | k ∈ recordKeys nodes links}) (env₀ : Env) :
    let c := Chart.build nodes links
    let c' := Chart.build (nodes.map (NodeRecord.rename f)) (links.map (LinkRecord.rename f))
    c'.violations.map Violation.message = c.violations.map Violation.message ∧
    (c'.size = c.size ∧ c'.decisionCount = c.decisionCount ∧ c'.maxDepth = c.maxDepth ∧
      c'.branchingFactor = c.branchingFactor ∧ c'.cyclomaticNumber = c.cyclomaticNumber) ∧
    c'.outline = c.outline ∧
    (∀ g : Script.Generator, g.generate c' = g.generate c) ∧
    (c'.simulate env₀).answer = (c.simulate env₀).answer.map (RunResult.rename f) ∧
    (c'.simulate env₀).answer.map RunResult.trace =
      (c.simulate env₀).answer.map RunResult.trace := by
  intro c c'
  have hc : c.KeysIn {k | k ∈ recordKeys nodes links} := Chart.keysIn_build
  have hwf : c.WellFormed := Chart.wellFormed_build nodes links
  have hbuild : c' = c.rename f := Chart.build_rename hf
  have hanswer := Chart.simulate_rename_answer hf hc hwf env₀
  rw [hbuild]
  refine ⟨?_, ⟨?_, ?_, ?_, ?_, ?_⟩, ?_, ?_, hanswer, ?_⟩
  · rw [Chart.violations_rename hf hc]
  · exact Chart.size_rename f c
  · exact Chart.decisionCount_rename f c
  · exact Chart.maxDepth_rename hf hc
  · exact Chart.branchingFactor_rename f c
  · exact Chart.cyclomaticNumber_rename f c
  · exact Chart.outline_rename hf hc
  · exact Script.Generator.generate_rename f c
  · rw [hanswer]
    cases (c.simulate env₀).answer with
    | error e => rfl
    | ok r => exact congrArg Except.ok (RunResult.trace_rename f r)

/-- Renames the keys of the countdown to a null, an empty text, a false and a number. -/
def countdownRenaming (k : Key) : Key :=
  if k.same (.int 1) then .null
  else if k.same (.int 2) then .text ""
  else if k.same (.int 3) then .bool false
  else .int 7

/-- The countdown runs the same with keys that count as absent elsewhere. -/
theorem simulate_rename_countdown :
    ∃ r, ((Chart.build countdownNodes countdownLinks).simulate ⟨[("x", .int 5)]⟩).answer = .ok r ∧
      r.path.map (·.key) = [.int 1, .int 2, .int 3] ∧
      ((Chart.build (countdownNodes.map (NodeRecord.rename countdownRenaming))
        (countdownLinks.map (LinkRecord.rename countdownRenaming))).simulate
          ⟨[("x", .int 5)]⟩).answer = .ok (r.rename countdownRenaming) ∧
      (r.rename countdownRenaming).path.map (·.key) = [.null, .text "", .bool false] :=
  ⟨_, rfl, rfl, (simulate_rename (by
    have hfaithful : ∀ a ∈ recordKeys countdownNodes countdownLinks,
        ∀ b ∈ recordKeys countdownNodes countdownLinks,
          (countdownRenaming a).same (countdownRenaming b) = a.same b := by decide
    exact hfaithful) _).2.2.2.2.1, rfl⟩

end Flowchart
