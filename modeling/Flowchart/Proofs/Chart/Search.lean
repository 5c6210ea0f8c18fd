import Mathlib.Logic.Relation
import Mathlib.Order.Bounds.Defs
import Flowchart.Proofs.Chart.Depth
import Flowchart.Proofs.Chart.Edit

/-! # The search for the depth with a stack

`depthFrom` is a recursion that goes as deep as the chart.  The same search can be done by a loop
that holds the way it is on as a stack of frames, each with the links that it did not follow yet, and
a set of the keys on the way, from which a key is taken when the loop turns back.  `explores` says
what the loop makes of the links of one frame, whatever lies below it.  From it follows that the loop
ends on every chart, also on one with cycles, and ends with the number of nodes on a longest way
without a repeated key.
-/

namespace Flowchart.Chart

/-- A node on the way, with the links that were not followed yet and the greatest depth that was
found beyond the others. -/
structure Frame where
  node : Node
  pending : List Child
  best : Nat

/-- A state of the search. -/
structure Search where
  /-- The keys on the way. -/
  onPath : List Key
  /-- The last node on the way. -/
  top : Frame
  /-- The nodes before it, from the last to the first. -/
  below : List Frame

namespace Search

/-- A turn of the loop, which goes on or ends with the depth.  A node without links is not put on the
stack. -/
def turn (c : Chart) (s : Search) : Search ⊕ Nat :=
  match s.top.pending with
  | [] =>
    let depth := 1 + s.top.best
    match s.below with
    | [] => .inr depth
    | parent :: below =>
      .inl {
        onPath := s.onPath.filter fun k => !k.same s.top.node.key
        top := { parent with best := max parent.best depth }
        below }
  | e :: pending =>
    let top := { s.top with pending }
    match c.node? e.place with
    | none => .inl { s with top }
    | some m =>
      if m.key.isIn s.onPath then .inl { s with top }
      else if m.children.isEmpty then .inl { s with top := { top with best := max top.best 1 } }
      else .inl {
        onPath := m.key :: s.onPath
        top := ⟨m, m.children, 0⟩
        below := top :: s.below }

/-- The loop, as far as it comes in a number of turns. -/
def run (c : Chart) : Nat → Search → Option Nat
  | 0, _ => none
  | turns + 1, s =>
    match s.turn c with
    | .inl s' => run c turns s'
    | .inr depth => some depth

end Search

/-- The depth as the loop finds it, if a number of turns is enough. -/
def searchDepth (c : Chart) (turns : Nat) : Option Nat :=
  match c.starts with
  | [] => some 0
  | start :: _ =>
    match c.node? start with
    | none => some 0
    | some root =>
      if root.children.isEmpty then some 1
      else Search.run c turns ⟨[root.key], ⟨root, root.children, 0⟩, []⟩

namespace Search

variable {c : Chart} {s s' : Search}

/-- One state comes after another by some number of turns. -/
def Leads (c : Chart) : Search → Search → Prop :=
  Relation.ReflTransGen fun s s' => s.turn c = .inl s'

theorem exists_run_of_leads (h : Leads c s s') {depth : Nat} (ends : s'.turn c = .inr depth) :
    ∃ turns, run c turns s = some depth := by
  induction h using Relation.ReflTransGen.head_induction_on with
  | refl => exact ⟨1, by simp [run, ends]⟩
  | head hturn _ ih =>
    obtain ⟨turns, hrun⟩ := ih
    exact ⟨turns + 1, by simp [run, hturn, hrun]⟩

/-- The loop can end in one way only. -/
theorem run_unique {turns turns' depth depth' : Nat} (h : run c turns s = some depth)
    (h' : run c turns' s = some depth') : depth = depth' := by
  induction turns generalizing s turns' with
  | zero => cases h
  | succ turns ih =>
    cases turns' with
    | zero => cases h'
    | succ turns' =>
      cases hturn : s.turn c with
      | inl next =>
        simp only [run, hturn] at h h'
        exact ih h h'
      | inr found =>
        simp only [run, hturn] at h h'
        exact Option.some.inj (h.symm.trans h')

/-! ## The keys on the way -/

/-- The keys on the way are different keys of the chart, and only `fuel` keys more are left. -/
structure Room (c : Chart) (onPath : List Key) (fuel : Nat) : Prop where
  distinct : Key.Distinct onPath
  used : ∀ k ∈ onPath, k.isIn c.keys = true
  left : c.size ≤ onPath.length + fuel

/-- Where there is a key that is not on the way, some fuel is left. -/
theorem Room.cons {onPath : List Key} {fuel : Nat} (room : Room c onPath fuel) {k : Key}
    (fresh : k.isIn onPath = false) (used : k.isIn c.keys = true) :
    ∃ fuel', fuel = fuel' + 1 ∧ Room c (k :: onPath) fuel' := by
  have hdistinct : Key.Distinct (k :: onPath) := by
    refine List.pairwise_cons.mpr ⟨fun a ha => ?_, room.distinct⟩
    rw [Key.same_comm]
    exact Key.not_same_of_isIn (Key.isIn_of_mem ha) fresh
  have hused : ∀ a ∈ k :: onPath, a.isIn c.keys = true := List.forall_mem_cons.mpr ⟨used, room.used⟩
  have hsize := Chart.length_le_size hdistinct hused
  have hleft := room.left
  rw [List.length_cons] at hsize
  obtain ⟨fuel', rfl⟩ : ∃ n, fuel = n + 1 := ⟨fuel - 1, by omega⟩
  exact ⟨fuel', rfl, hdistinct, hused, by rw [List.length_cons]; omega⟩

/-- Turning back from a node leaves the keys of the way to it. -/
theorem filter_cons_of_fresh {onPath : List Key} {k : Key} (fresh : k.isIn onPath = false) :
    ((k :: onPath).filter fun a => !a.same k) = onPath := by
  have hkept : ∀ a ∈ onPath, (!a.same k) = true := by simpa [Key.isIn] using fresh
  rw [List.filter_cons_of_neg (by simp), List.filter_eq_self.mpr hkept]

/-! ## The links of a node -/

/-- The loop follows the pending links of a frame as the recursion does with some fuel, and leaves
everything else as it was. -/
def Explores (c : Chart) (fuel : Nat) : Prop :=
  ∀ {onPath : List Key} (n : Node) (pending : List Child) (best : Nat) (below : List Frame),
    Room c onPath fuel →
      Leads c ⟨onPath, ⟨n, pending, best⟩, below⟩
        ⟨onPath, ⟨n, [], (pending.map (c.depthBeyond fuel onPath)).foldl max best⟩, below⟩

/-- One link, beyond which the loop needs less fuel. -/
theorem leads_link (hc : c.WellFormed) {fuel : Nat}
    (explores : ∀ fuel', fuel = fuel' + 1 → Explores c fuel') {onPath : List Key}
    (room : Room c onPath fuel) (n : Node) (e : Child) (pending : List Child) (best : Nat)
    (below : List Frame) :
    Leads c ⟨onPath, ⟨n, e :: pending, best⟩, below⟩
      ⟨onPath, ⟨n, pending, max best (c.depthBeyond fuel onPath e)⟩, below⟩ := by
  cases node : c.node? e.place with
  | none => exact .single (by simp [turn, depthBeyond, node])
  | some m =>
    by_cases seen : m.key.isIn onPath = true
    · exact .single (by simp [turn, depthBeyond, node, seen])
    · have fresh : m.key.isIn onPath = false := by simpa using seen
      obtain ⟨fuel', rfl, room'⟩ := room.cons fresh (hc.keyed _ _ node)
      rw [depthBeyond_of_fresh node fresh, depthFrom_succ node]
      by_cases leaf : m.children = []
      · exact .single (by simp [turn, node, fresh, leaf])
      · -- the node is put on the stack, its links are explored, and the loop turns back
        have hpush : Leads c ⟨onPath, ⟨n, e :: pending, best⟩, below⟩
            ⟨m.key :: onPath, ⟨m, m.children, 0⟩, ⟨n, pending, best⟩ :: below⟩ :=
          .single (by simp [turn, node, fresh, leaf])
        have hexplore := explores fuel' rfl m m.children 0 (⟨n, pending, best⟩ :: below) room'
        refine (hpush.trans hexplore).tail ?_
        simp only [turn, filter_cons_of_fresh fresh]

theorem explores_of_smaller (hc : c.WellFormed) {fuel : Nat}
    (smaller : ∀ fuel', fuel = fuel' + 1 → Explores c fuel') : Explores c fuel := by
  intro onPath n pending best below room
  induction pending generalizing best with
  | nil => exact .refl
  | cons e pending ih =>
    exact (leads_link hc smaller room n e pending best below).trans (ih _)

theorem explores (hc : c.WellFormed) (fuel : Nat) : Explores c fuel := by
  -- the fuel falls by one with each node that is put on the stack
  induction fuel with
  | zero => exact explores_of_smaller hc (by simp)
  | succ fuel explored => exact explores_of_smaller hc (by rintro _ ⟨⟩; exact explored)

end Search

/-! ## The depth -/

variable {c : Chart}

theorem WellFormed.size_pos (hc : c.WellFormed) {p : Nat} {n : Node} (node : c.node? p = some n) :
    0 < c.size := by
  have hone : Key.Distinct [n.key] := List.pairwise_singleton _ _
  have hused : ∀ k ∈ [n.key], k.isIn c.keys = true := by simpa using hc.keyed p n node
  exact Chart.length_le_size hone hused

/-- The loop ends, and it finds the depth. -/
theorem WellFormed.exists_searchDepth (hc : c.WellFormed) :
    ∃ turns, c.searchDepth turns = some c.maxDepth := by
  unfold searchDepth maxDepth
  cases c.starts with
  | nil => exact ⟨0, rfl⟩
  | cons start rest =>
    cases node : c.node? start with
    | none => exact ⟨0, by simp [node]⟩
    | some root =>
      obtain ⟨fuel, hsize⟩ : ∃ fuel, c.size = fuel + 1 :=
        ⟨c.size - 1, by have := hc.size_pos node; omega⟩
      simp only [node, hsize, depthFrom_succ node]
      by_cases leaf : root.children = []
      · exact ⟨0, by simp [leaf]⟩
      · have room : Search.Room c [root.key] fuel :=
          ⟨List.pairwise_singleton _ _, by simpa using hc.keyed _ _ node, by simp; omega⟩
        have hexplore := Search.explores hc fuel root root.children 0 [] room
        obtain ⟨turns, hrun⟩ := Search.exists_run_of_leads hexplore rfl
        exact ⟨turns, by simp [leaf, hrun]⟩

theorem searchDepth_unique {turns turns' depth depth' : Nat}
    (h : c.searchDepth turns = some depth) (h' : c.searchDepth turns' = some depth') :
    depth = depth' := by
  unfold searchDepth at h h'
  cases hstarts : c.starts with
  | nil => simp_all
  | cons start rest =>
    cases node : c.node? start with
    | none => simp_all
    | some root =>
      simp only [hstarts, node] at h h'
      by_cases leaf : root.children.isEmpty = true
      · simp_all
      · simp only [leaf] at h h'
        exact Search.run_unique h h'

/-- On a chart that was built and then edited in any way, the loop ends, and always with the depth.
The depth is zero if there is no start state, and otherwise the number of nodes on a longest way that
begins at the first one, follows links and repeats no key. -/
theorem maxDepth_isGreatest (nodes : List NodeRecord) (links : List LinkRecord)
    (edits : List Edit) :
    let c := (build nodes links).edited edits
    (∃ turns, c.searchDepth turns = some c.maxDepth) ∧
    (∀ turns depth, c.searchDepth turns = some depth → depth = c.maxDepth) ∧
    (c.starts = [] → c.maxDepth = 0) ∧
    ∀ start rest, c.starts = start :: rest →
      IsGreatest {k | ∃ ns, c.Way start ns ∧ Key.Distinct (ns.map (·.key)) ∧ ns.length = k}
        c.maxDepth := by
  intro c
  have hc : c.WellFormed := (wellFormed_build nodes links).edited edits
  obtain ⟨turns, hsearch⟩ := hc.exists_searchDepth
  refine ⟨⟨turns, hsearch⟩, fun _ _ h => searchDepth_unique h hsearch, ?_, ?_⟩
  · intro hnone
    simp [maxDepth, hnone]
  · intro start rest hstarts
    constructor
    · -- the way that consists of the start alone shows that the depth is not zero
      have hstart : start ∈ c.places := List.mem_of_mem_filter (hstarts ▸ List.mem_cons_self)
      obtain ⟨n, node⟩ := hc.node_of_mem_places hstart
      have hone : [n].length ≤ c.maxDepth :=
        (Way.stop node).length_le_maxDepth hc hstarts (List.pairwise_singleton _ _)
      obtain ⟨start', rest', ns, hstarts', hway, hkeys, hlength⟩ :=
        exists_way_maxDepth (Nat.pos_iff_ne_zero.mp hone)
      cases hstarts.symm.trans hstarts'
      exact ⟨ns, hway, hkeys, hlength⟩
    · rintro _ ⟨ns, hway, hkeys, rfl⟩
      exact hway.length_le_maxDepth hc hstarts hkeys

end Flowchart.Chart
