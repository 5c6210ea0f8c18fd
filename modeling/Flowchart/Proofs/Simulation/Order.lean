import Flowchart.Proofs.Chart.Order
import Flowchart.Proofs.Simulation.Alike
import Flowchart.Proofs.Simulation.Outcome

/-! # Runs do not depend on the order of records

A node is left by its first link, so a run could depend on the order in which links were made.  It
does not, because a chart is run only if it keeps the rules, and then no node has two links to
choose from.  The one chart that is not checked, that of a single key, has nowhere to go but back.
-/

namespace Flowchart

/-! ## Nodes with no choice of links -/

namespace Node.Resembles

variable {R : Nat → Nat → Prop} {n n' : Node}

theorem branches (h : n.Resembles R n') (label : Option Text) :
    Matching R (n.branches label) (n'.branches label) := by
  have hfilter := h.children.filter (p := (·.branch = label)) (q := (·.branch = label))
    fun e e' he => by rw [he.1]
  exact hfilter.map fun _ _ he => he.2

theorem leadsAlike_of_violations (h : n.Resembles R n') (hrules : n.violations = []) :
    n.LeadsAlike id R n' := by
  refine ⟨h.key.symm, h.text.symm, h.content.symm, ?_, ?_⟩
  · intro plain
    have hshort := ((Node.violations_eq_nil_iff n).mp hrules).2.1 plain
    have hchildren := h.children.forall₂ hshort
    unfold Node.firstChild?
    generalize n.children = es, n'.children = es' at hchildren
    cases hchildren with
    | nil => exact .none
    | cons he _ => exact .some he.2
  · intro decision label hlabel
    obtain ⟨onTrue, onFalse, htrue, hfalse⟩ := Node.forks_of_violations hrules decision
    refine (h.branches (some label)).forall₂ ?_
    rcases hlabel with rfl | rfl
    · rw [htrue]
      rfl
    · rw [hfalse]
      rfl

theorem leadsAlike_of_forall (h : n.Resembles R n') (plain : n.kind ≠ .decision)
    (hall : ∀ e ∈ n.children, ∀ e' ∈ n'.children, R e.place e'.place) : n.LeadsAlike id R n' := by
  refine ⟨h.key.symm, h.text.symm, h.content.symm, ?_, fun decision => absurd decision plain⟩
  intro _
  have hlength := h.children.length_eq
  unfold Node.firstChild?
  match hes : n.children, hes' : n'.children with
  | [], [] => exact .none
  | e :: es, e' :: es' =>
    exact .some (hall e (by rw [hes]; exact List.mem_cons_self) e'
      (by rw [hes']; exact List.mem_cons_self))
  | [], _ :: _ | _ :: _, [] => simp [hes, hes'] at hlength

end Node.Resembles

/-! ## Runs on charts of reordered records -/

theorem Chart.eq_of_mem_places {c : Chart} (hsize : c.size ≤ 1) {p q : Nat} (hp : p ∈ c.places)
    (hq : q ∈ c.places) : p = q := by
  have hlength : c.places.length ≤ 1 := by
    rw [places, List.length_map]
    exact hsize
  generalize c.places = ps at hp hq hlength
  rcases ps with _ | ⟨a, _ | ⟨b, rest⟩⟩
  · cases hp
  · rw [List.mem_singleton.mp hp, List.mem_singleton.mp hq]
  · simp at hlength

namespace Reordered

open Chart (build SamePlace)

variable {nodes nodes' : List NodeRecord} {links links' : List LinkRecord}

theorem matching_places (h : Reordered nodes nodes' links links') {ks ks' : List Key}
    (hks : ks.Perm ks') :
    Matching (SamePlace (build nodes links) (build nodes' links'))
      (ks.filterMap (build nodes links).place?) (ks'.filterMap (build nodes' links').place?) := by
  simpa using
    Chart.matching_filterMap_place? h.contains id (fun _ => id) (fun _ _ _ hp => hp) hks

theorem starts (h : Reordered nodes nodes' links links') :
    Matching (SamePlace (build nodes links) (build nodes' links')) (build nodes links).starts
      (build nodes' links').starts := by
  have hany : ∀ o : Option Node, o.any Node.isStart = (o.map Node.isStart).getD false := by
    rintro (_ | _) <;> rfl
  rw [Chart.starts_eq_filterMap (Chart.wellFormed_build _ _),
    Chart.starts_eq_filterMap (Chart.wellFormed_build _ _)]
  simp only [hany, h.map_find? fun _ _ hn => hn.isStart]
  exact h.matching_places (h.keys.filter _)

theorem entrance (h : Reordered nodes nodes' links links') :
    Agree (SamePlace (build nodes links) (build nodes' links')) (build nodes links).entrance
      (build nodes' links').entrance := by
  have hstarts := h.starts
  unfold Chart.entrance Chart.findStart
  rw [h.isValid]
  split
  · have hlength := hstarts.length_eq
    match hs : (build nodes links).starts, hs' : (build nodes' links').starts with
    | [], [] => exact .error _
    | [p], [p'] =>
      rw [hs, hs'] at hstarts
      have hplaces := hstarts.forall₂ (Nat.le_refl 1)
      exact .ok (by simpa using hplaces)
    | _ :: _ :: _, _ :: _ :: _ => exact .error _
    | [], _ :: _ | _ :: _, [] | [_], _ :: _ :: _ | _ :: _ :: _, [_] => simp [hs, hs'] at hlength
  · exact .error _

/-- On a chart with a single key all places are the same. -/
theorem samePlace_of_size (h : Reordered nodes nodes' links links')
    (hsize : (build nodes links).size ≤ 1) {p p' : Nat} (hp : p ∈ (build nodes links).places)
    (hp' : p' ∈ (build nodes' links').places) :
    SamePlace (build nodes links) (build nodes' links') p p' := by
  obtain ⟨⟨k, _⟩, hmem, rfl⟩ := List.mem_map.mp hp
  have hplace := Chart.place?_of_mem_index (Chart.wellFormed_build nodes links).keys_distinct hmem
  have hcontains : (build nodes' links').contains k = true := by
    rw [← h.contains, Chart.contains, hplace]
    rfl
  obtain ⟨q, hq⟩ := Option.isSome_iff_exists.mp hcontains
  rw [h.size] at hsize
  rw [Chart.eq_of_mem_places hsize hp' (Chart.mem_places_of_place? hq)]
  exact ⟨k, hplace, hq⟩

/-- Nodes of the same key are left alike on a chart that is run. -/
theorem leadsAlike (h : Reordered nodes nodes' links links') {start : Nat}
    (hstart : (build nodes links).entrance = .ok start) {p p' : Nat} {n n' : Node}
    (hp : p ∈ (build nodes links).places) (hp' : p' ∈ (build nodes' links').places)
    (node : (build nodes links).node? p = some n) (node' : (build nodes' links').node? p' = some n')
    (hn : n.Resembles (SamePlace (build nodes links) (build nodes' links')) n') :
    n.LeadsAlike id (SamePlace (build nodes links) (build nodes' links')) n' := by
  obtain ⟨hvalid, hstarts⟩ := RunState.entrance_ok hstart
  rcases (Chart.isValid_iff _).mp hvalid with hsize | ⟨hrules, -⟩
  · -- the only node is the start state, and all its links lead back to it
    have hplain : n.kind ≠ .decision := by
      apply Node.kind_of_isStart
      have hmem : start ∈ (build nodes links).starts := by
        rw [hstarts]
        exact List.mem_cons_self
      obtain ⟨hplace, hrole⟩ := List.mem_filter.mp hmem
      rw [← Chart.eq_of_mem_places hsize hp hplace, node, Option.any_some] at hrole
      exact hrole
    refine hn.leadsAlike_of_forall hplain ?_
    intro e he e' he'
    exact h.samePlace_of_size hsize (Chart.child_mem_places hp node he)
      (Chart.child_mem_places hp' node' he')
  · exact hn.leadsAlike_of_violations (hrules n (Chart.mem_nodes.mpr ⟨p, hp, node⟩))

theorem simulate (h : Reordered nodes nodes' links links') (env : Env) :
    ((build nodes links).simulate env).answer = ((build nodes' links').simulate env).answer := by
  have hanswer := simulate_of_leadsAlike (Key.faithful_id Set.univ) h.size h.entrance ?_ env
  · rw [hanswer, RunResult.rename_id, Except.map_id, id]
  · rintro ⟨start, hstart⟩ p p' ⟨k, hp, hp'⟩
    obtain ⟨n, node, -⟩ := (Chart.wellFormed_build nodes links).node_of_place? hp
    have hfind : (build nodes links).find? k = some n := by rw [Chart.find?, hp]; exact node
    obtain ⟨n', hfind', hn⟩ := h.resembles hfind
    have node' : (build nodes' links').node? p' = some n' := by
      rw [Chart.find?, hp'] at hfind'
      exact hfind'
    have hleads := h.leadsAlike hstart (Chart.mem_places_of_place? hp)
      (Chart.mem_places_of_place? hp') node node' hn
    exact ⟨n, n', node, node', Set.mem_univ _, hleads⟩

end Reordered

/-- If no key is used twice, then neither the order of the node records nor that of the link records
matters: the check finds the same violations, in some order, and a run has the same result, or fails
to give one for the same reason. -/
theorem simulate_reordered {nodes nodes' : List NodeRecord} {links links' : List LinkRecord}
    (hkeys : Key.Distinct (nodes.map (·.key))) (hnodes : nodes.Perm nodes')
    (hlinks : links.Perm links') (env₀ : Env) :
    (Chart.build nodes links).isValid = (Chart.build nodes' links').isValid ∧
    ((Chart.build nodes links).violations.map Violation.message).Perm
      ((Chart.build nodes' links').violations.map Violation.message) ∧
    ((Chart.build nodes links).simulate env₀).answer =
      ((Chart.build nodes' links').simulate env₀).answer := by
  have h : Reordered nodes nodes' links links' := ⟨hkeys, hnodes, hlinks⟩
  exact ⟨h.isValid, h.violations.map _, h.simulate env₀⟩

/-- The countdown gets stuck in its loop from its records in reverse, too. -/
theorem simulate_reordered_countdown :
    ∃ r, ((Chart.build countdownNodes countdownLinks).simulate ⟨[("x", .int 5)]⟩).answer = .ok r ∧
      r.error = some .loop ∧
      ((Chart.build countdownNodes.reverse countdownLinks.reverse).simulate
        ⟨[("x", .int 5)]⟩).answer = .ok r :=
  ⟨_, rfl, rfl,
    (simulate_reordered (by unfold Key.Distinct; decide) (List.reverse_perm _).symm
      (List.reverse_perm _).symm _).2.2.symm⟩

end Flowchart
