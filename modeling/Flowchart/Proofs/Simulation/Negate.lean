import Flowchart.Proofs.Chart.Negate
import Flowchart.Proofs.Condition
import Flowchart.Proofs.Simulation.Alongside
import Flowchart.Proofs.Simulation.Replay

/-! # Runs through a decision that was turned around

A decision whose condition is replaced by its complement, and whose labels are exchanged, is left to
the same place as before.  That one run then remembers a true branch which the other does not
remember makes no difference, because no node is passed twice.  The reports differ where they name
the relation, but not in their kind.
-/

namespace Flowchart

/-- Errors of the same kind. -/
def RunError.SameKind (e e' : RunError) : Prop :=
  e'.kind = e.kind

/-- Visits to nodes of the same key. -/
def Visit.SameKey (v v' : Visit) : Prop :=
  v'.key = v.key

namespace Node

theorem forks_negate {n : Node} {condition : Text} {onTrue onFalse : Nat} :
    (n.negate condition).Forks onTrue onFalse ↔ n.Forks onFalse onTrue := by
  rw [Forks, Forks, branches_negate, branches_negate, swapLabel_true, swapLabel_false, and_comm]

theorem passAlike_refl (n : Node) : n.PassAlike Visit.SameKey Eq RunError.SameKind n := by
  refine ⟨rfl, rfl, rfl, ?_⟩
  rintro env _ rfl
  cases n.pass env with
  | ok x => exact .ok ⟨rfl, rfl⟩
  | error e =>
    cases e with
    | stop e => exact .stop rfl
    | limit e => exact .limit e

/-- A decision is passed as before if its condition becomes the complement and its labels are
exchanged. -/
theorem passAlike_negate {n : Node} {text text' x : Text} {op : RelOp} {operand : Operand}
    (hn : n.content = .decision (some text))
    (hparse : Expr.parse text = .ok (.comparison x op operand))
    (hparse' : Expr.parse text' = .ok (.comparison x op.complement operand)) :
    n.PassAlike Visit.SameKey Eq RunError.SameKind (n.negate text') := by
  have hn' : (n.negate text').content = .decision (some text') := rfl
  refine ⟨rfl, ?_, rfl, ?_⟩
  · rw [isEnd_of_content hn, isEnd_of_content hn']
  rintro env _ rfl
  rw [pass_of_decision hn, pass_of_decision hn']
  have heval := Condition.evaluate_of_parse hparse env
  have heval' := Condition.evaluate_of_parse hparse' env
  have hopposed := Expr.compare_complement env x op operand
  generalize Expr.compare env x op operand = answer,
    Expr.compare env x op.complement operand = answer' at hopposed heval heval'
  cases hopposed with
  | failures e e' =>
    rw [decide_of_undecided heval, decide_of_undecided heval']
    exact .stop rfl
  | answers b =>
    by_cases hforks : ∃ onTrue onFalse, n.Forks onTrue onFalse
    · obtain ⟨onTrue, onFalse, forks⟩ := hforks
      rw [decide_of_forks forks heval, decide_of_forks (forks_negate.mpr forks) heval']
      cases b with
      | true => exact .ok ⟨rfl, rfl⟩
      | false => exact .ok ⟨rfl, rfl⟩
    · have hforks' : ¬ ∃ onTrue onFalse, (n.negate text').Forks onTrue onFalse := by
        rintro ⟨onTrue, onFalse, forks⟩
        exact hforks ⟨onFalse, onTrue, forks_negate.mp forks⟩
      rw [decide_of_not_forks hforks heval, decide_of_not_forks hforks' heval']
      exact .stop rfl

end Node

theorem Chart.entrance_negated {nodes : List NodeRecord} {links : List LinkRecord} {d : NodeRecord}
    (hkeys : Key.Distinct (nodes.map (·.key))) (hd : d ∈ nodes) (hkind : d.kind = .decision)
    (condition : Text) :
    (build (nodes.map (·.withCondition d.key condition)) (links.map (·.swapFrom d.key))).entrance =
      (build nodes links).entrance :=
  RunState.entrance_congr (isValid_negated hkeys hd hkind condition)
    (starts_recoded (forall₂_withCondition d.key condition nodes)
      (LinkRecord.relabels_swapFrom d.key))

/-- A decision can be turned around.  If the condition of a decision is a comparison, and it is
replaced by the comparison with the complementary relation, and the labels true and false are
exchanged on all links that leave the decision, then a run passes nodes of the same keys, ends with
the same variables, and completes or stops as before, with an error of the same kind if it stops.
Where one of the two runs gives no result, the other one gives none. -/
theorem simulate_negated {nodes : List NodeRecord} (links : List LinkRecord) {d : NodeRecord}
    {text text' x : Text} {op : RelOp} {operand : Operand}
    (hkeys : Key.Distinct (nodes.map (·.key))) (hd : d ∈ nodes) (hkind : d.kind = .decision)
    (hcondition : d.condition = some text)
    (hparse : Expr.parse text = .ok (.comparison x op operand))
    (hparse' : Expr.parse text' = .ok (.comparison x op.complement operand)) (env : Env) :
    Agree (fun r r' : RunResult =>
        r'.isValid = r.isValid ∧ r'.completed = r.completed ∧
        r'.error.map RunError.kind = r.error.map RunError.kind ∧ r'.env = r.env ∧
        r'.path.map (·.key) = r.path.map (·.key))
      ((Chart.build nodes links).simulate env).answer
      ((Chart.build (nodes.map (·.withCondition d.key text'))
        (links.map (·.swapFrom d.key))).simulate env).answer := by
  have hrecoded := forall₂_withCondition d.key text' nodes
  have hnodes : ∀ p ∈ (Chart.build nodes links).places, ∀ n,
      (Chart.build nodes links).node? p = some n →
        ∃ n', (Chart.build (nodes.map (·.withCondition d.key text'))
            (links.map (·.swapFrom d.key))).node? p = some n' ∧
          n.PassAlike Visit.SameKey Eq RunError.SameKind n' := by
    intro p hp n hn
    rw [Chart.node?_recoded hrecoded links _ hp hn]
    have hfind := (Chart.wellFormed_build nodes links).find?_key hp hn
    have hnegated := Chart.find?_negated hkeys hd hkind text' hfind
    split at hnegated
    · obtain ⟨hcontent, hnegated⟩ := hnegated
      rw [hcondition] at hcontent
      exact ⟨_, hnegated, Node.passAlike_negate hcontent hparse hparse'⟩
    · exact ⟨n, hnegated, n.passAlike_refl⟩
  have hends := simulate_of_passAlike (E := RunError.SameKind) (fun _ => rfl)
    (Chart.index_recoded hrecoded links _) (Chart.entrance_negated hkeys hd hkind text')
    (fun _ => hnodes) (rfl : env = env)
  refine hends.imp fun r r' hr => ?_
  have herror := hr.map_error (f := RunError.kind) fun _ _ hkind => hkind
  have hpath := hr.map_path (f := (·.key)) fun _ _ hkey => hkey
  exact ⟨hr.isValid, hr.completed, herror, hr.env.symm, hpath⟩

/-- The countdown comes to its end as before if it asks whether it is over instead of whether there
is more. -/
theorem simulate_negated_countdown :
    ∃ r r', ((Chart.build countdownNodes countdownLinks).simulate
        ⟨[("x", .int 1)]⟩).answer = .ok r ∧
      ((Chart.build (countdownNodes.map (·.withCondition (.int 3) "x <= 0"))
        (countdownLinks.map (·.swapFrom (.int 3)))).simulate ⟨[("x", .int 1)]⟩).answer = .ok r' ∧
      r.completed = true ∧ r'.completed = true ∧ r'.env = r.env ∧
      r'.path.map (·.key) = r.path.map (·.key) := by
  have hkeys : Key.Distinct (countdownNodes.map (·.key)) := by
    unfold Key.Distinct
    decide
  have hd : countdownNodes[2] ∈ countdownNodes := List.getElem_mem _
  have hparse : Expr.parse "x > 0" = .ok (.comparison "x" .gt (.int 0)) := rfl
  have hparse' : Expr.parse "x <= 0" = .ok (.comparison "x" RelOp.gt.complement (.int 0)) := rfl
  have hagree := simulate_negated countdownLinks hkeys hd rfl rfl hparse hparse' ⟨[("x", .int 1)]⟩
  cases hagree with
  | ok related =>
    obtain ⟨-, hcompleted, -, henv, hpath⟩ := related
    exact ⟨_, _, rfl, rfl, rfl, hcompleted, henv, hpath⟩

end Flowchart
