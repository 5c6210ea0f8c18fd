import Mathlib.Data.List.Flatten
import Mathlib.Data.List.Perm.Subperm
import Flowchart.Chart.Check
import Flowchart.Proofs.Chart.Builder

/-! # Charts that are edited

A chart may be edited in any order: nodes are placed, also under keys that are taken, links are made
with and without being listed, and labels are replaced.  `Edit.Effect` says what an edit can do, and
what is shown of edited charts is shown by cases on it.  Since a replaced node takes its links out
of the count and leaves those that lead to it behind, the listed links and the children drift apart;
`edited_invariant` says what holds all the same, and how far they drift.
-/

namespace Flowchart

namespace Chart

/-- A change to a chart.  The nodes to be linked are given by their keys.  The child to be
relabelled is given by the place of its parent, which may have been replaced. -/
inductive Edit where
  | add (record : NodeRecord)
  | link (record : LinkRecord)
  /-- Links two nodes without listing the link. -/
  | connect (source target : Key) (branch : Option Text)
  | relabel (place child : Nat) (branch : Option Text)

/-- Whether an edit makes a link, if it can be done. -/
def Edit.isLink : Edit → Bool
  | .link _ | .connect .. => true
  | .add _ | .relabel .. => false

/-- Carries out an edit and tells whether it could be done. -/
def edit (c : Chart) : Edit → Chart × Bool
  | .add record => (c.add (Node.ofRecord record), true)
  | .link record =>
    match c.link record with
    | some c' => (c', true)
    | none => (c, false)
  | .connect source target branch =>
    match c.place? source, c.place? target with
    | some s, some t => (c.connect s t branch, true)
    | _, _ => (c, false)
  | .relabel place child branch =>
    match c.relabel place child branch with
    | some c' => (c', true)
    | none => (c, false)

/-- Carries out edits in turn. -/
def edited (c : Chart) (edits : List Edit) : Chart :=
  edits.foldl (fun c e => (c.edit e).1) c

/-- The number of links that were made by edits, listed or not. -/
def linksMade (c : Chart) : List Edit → Nat
  | [] => 0
  | e :: edits => (e.isLink && (c.edit e).2).toNat + (c.edit e).1.linksMade edits

/-- No node was placed under a key that was taken. -/
def ReplacesNone (c : Chart) (edits : List Edit) : Prop :=
  ∀ before record after, edits = before ++ .add record :: after →
    (c.edited before).contains record.key = false

@[simp] theorem edited_nil (c : Chart) : c.edited [] = c := rfl

@[simp] theorem edited_cons (c : Chart) (e : Edit) (edits : List Edit) :
    c.edited (e :: edits) = (c.edit e).1.edited edits := rfl

/-! ## What an edit can do -/

/-- What becomes of a chart by an edit. -/
inductive Edit.Effect (c : Chart) : Edit → Chart → Bool → Prop
  | added {record} : Effect c (.add record) (c.add (Node.ofRecord record)) true
  | linked {record s t} (source : c.place? record.source = some s)
      (target : c.place? record.target = some t) :
      Effect c (.link record)
        { c.connect s t record.branch with links := c.links ++ [record] } true
  | unlinked {record} (missing : c.link record = none) : Effect c (.link record) c false
  | connected {j k branch s t} (source : c.place? j = some s) (target : c.place? k = some t) :
      Effect c (.connect j k branch) (c.connect s t branch) true
  | unconnected {j k branch} : Effect c (.connect j k branch) c false
  | relabelled {p i branch c'} (done : c.relabel p i branch = some c') :
      Effect c (.relabel p i branch) c' true
  | unlabelled {p i branch} : Effect c (.relabel p i branch) c false

theorem edit_effect (c : Chart) (e : Edit) : e.Effect c (c.edit e).1 (c.edit e).2 := by
  cases e with
  | add record => exact .added
  | link record =>
    cases hlink : c.link record with
    | none =>
      simp only [edit, hlink]
      exact .unlinked hlink
    | some c' =>
      simp only [edit, hlink]
      obtain ⟨s, t, hs, ht, rfl⟩ := link_eq_some hlink
      exact .linked hs ht
  | connect source target branch =>
    cases hs : c.place? source with
    | none =>
      simp only [edit, hs]
      exact .unconnected
    | some s =>
      cases ht : c.place? target with
      | none =>
        simp only [edit, hs, ht]
        exact .unconnected
      | some t =>
        simp only [edit, hs, ht]
        exact .connected hs ht
  | relabel p i branch =>
    cases hrelabel : c.relabel p i branch with
    | none =>
      simp only [edit, hrelabel]
      exact .unlabelled
    | some c' =>
      simp only [edit, hrelabel]
      exact .relabelled hrelabel

/-! ## The store -/

/-- What holds of every chart that was edited: its store is well formed, and the links it lists have
both ends. -/
structure Kept (c : Chart) : Prop where
  wellFormed : c.WellFormed
  ends : ∀ r ∈ c.links, c.contains r.source = true ∧ c.contains r.target = true

theorem kept_empty : empty.Kept :=
  ⟨wellFormed_empty, fun _ hr => by cases hr⟩

variable {c : Chart}

/-- An edit takes no key away and moves none. -/
theorem keys_prefix_edit (c : Chart) (e : Edit) : c.keys <+: (c.edit e).1.keys := by
  have heffect := c.edit_effect e
  generalize (c.edit e).1 = c', (c.edit e).2 = done at heffect
  cases heffect with
  | added =>
    rw [keys_add]
    split
    · exact List.prefix_refl _
    · exact List.prefix_append _ _
  | linked _ _ | connected _ _ =>
    rw [keys, keys]
    simp
  | relabelled done =>
    rw [relabel_eq_some done]
    exact List.prefix_refl _
  | unlinked _ | unconnected | unlabelled => exact List.prefix_refl _

theorem contains_edit {k : Key} (h : c.contains k = true) (e : Edit) :
    (c.edit e).1.contains k = true := by
  rw [contains_eq_isIn] at h ⊢
  obtain ⟨more, hmore⟩ := c.keys_prefix_edit e
  rw [← hmore, Key.isIn_append, h, Bool.true_or]

theorem WellFormed.edit (hc : c.WellFormed) (e : Edit) : (c.edit e).1.WellFormed := by
  have heffect := c.edit_effect e
  generalize (c.edit e).1 = c', (c.edit e).2 = done at heffect
  cases heffect with
  | added => exact hc.add rfl
  | @linked record s t source target =>
    exact hc.link (r := record) (by simp only [Chart.link, source, target])
  | connected _ target => exact hc.connect (hc.lt_of_place? target) _ _
  | relabelled done => exact hc.relabel done
  | unlinked _ | unconnected | unlabelled => exact hc

theorem WellFormed.edited (hc : c.WellFormed) (edits : List Edit) :
    (c.edited edits).WellFormed := by
  induction edits generalizing c with
  | nil => exact hc
  | cons e edits ih => exact ih (hc.edit e)

theorem Kept.edit (h : c.Kept) (e : Edit) : (c.edit e).1.Kept := by
  refine ⟨h.wellFormed.edit e, ?_⟩
  have hmono : ∀ r ∈ c.links,
      (c.edit e).1.contains r.source = true ∧ (c.edit e).1.contains r.target = true := fun r hr =>
    ⟨contains_edit (h.ends r hr).1 e, contains_edit (h.ends r hr).2 e⟩
  have heffect := c.edit_effect e
  generalize (c.edit e).1 = c', (c.edit e).2 = done at heffect hmono
  cases heffect with
  | added => exact hmono
  | @linked record s t source target =>
    -- the one link that is new was made because it has both ends
    intro r hr
    rcases List.mem_append.mp hr with hr | hr
    · exact hmono r hr
    · rw [List.mem_singleton.mp hr, contains, contains, place?, place?]
      simp only [index_connect]
      exact ⟨Option.isSome_iff_exists.mpr ⟨s, source⟩, Option.isSome_iff_exists.mpr ⟨t, target⟩⟩
  | @connected _ _ branch s t _ target =>
    have hlinks : (c.connect s t branch).links = c.links := by
      unfold Chart.connect
      split <;> rfl
    rw [hlinks]
    exact hmono
  | relabelled done =>
    rw [relabel_eq_some done] at hmono ⊢
    exact hmono
  | unlinked _ | unconnected | unlabelled => exact h.ends

theorem Kept.edited (h : c.Kept) (edits : List Edit) : (c.edited edits).Kept := by
  induction edits generalizing c with
  | nil => exact h
  | cons e edits ih => exact ih (h.edit e)

theorem keys_prefix_edited (c : Chart) (edits : List Edit) : c.keys <+: (c.edited edits).keys := by
  induction edits generalizing c with
  | nil => exact List.prefix_refl _
  | cons e edits ih => exact (c.keys_prefix_edit e).trans (ih (c.edit e).1)

/-! ## Counting links -/

/-- The number of links that leave nodes, whether they are current or were replaced. -/
def placedLinkCount (c : Chart) : Nat :=
  (c.placed.flatMap (·.children)).length

theorem length_flatMap_modify {f : Node → Node} {d : Nat}
    (hf : ∀ n, (f n).children.length = n.children.length + d) {ns : List Node} {p : Nat}
    (hp : p < ns.length) :
    ((ns.modify p f).flatMap (·.children)).length = (ns.flatMap (·.children)).length + d := by
  induction ns generalizing p with
  | nil => simp at hp
  | cons n ns ih =>
    cases p with
    | zero =>
      simp [hf]
      omega
    | succ p =>
      have := ih (Nat.lt_of_succ_lt_succ hp)
      simp [this]
      omega

theorem placedLinkCount_add (c : Chart) (r : NodeRecord) :
    (c.add (Node.ofRecord r)).placedLinkCount = c.placedLinkCount := by
  simp [placedLinkCount, add, Node.ofRecord]

theorem placedLinkCount_connect {s t : Nat} (hs : s < c.placed.length) (ht : t < c.placed.length)
    (b : Option Text) : (c.connect s t b).placedLinkCount = c.placedLinkCount + 1 := by
  obtain ⟨n, hn⟩ := node?_of_lt hs
  unfold connect placedLinkCount
  simp only [hn]
  refine (length_flatMap_modify (d := 0) ?_ (by simpa using ht)).trans ?_
  · exact fun _ => rfl
  · exact length_flatMap_modify (d := 1) (fun _ => by simp) hs

theorem placedLinkCount_relabel {p i : Nat} {b : Option Text} {c' : Chart}
    (h : c.relabel p i b = some c') : c'.placedLinkCount = c.placedLinkCount := by
  have hp : p < c.placed.length := by
    unfold relabel at h
    split at h
    · cases h
    · exact lt_of_node? ‹_›
  rw [relabel_eq_some h, placedLinkCount, placedLinkCount]
  exact length_flatMap_modify (d := 0) (fun _ => by simp) hp

/-- Every link that was made is held by the node it left, even if that was replaced. -/
theorem Kept.placedLinkCount_edited (h : c.Kept) (edits : List Edit) :
    (c.edited edits).placedLinkCount = c.placedLinkCount + c.linksMade edits := by
  induction edits generalizing c with
  | nil => rfl
  | cons e edits ih =>
    rw [edited_cons, ih (h.edit e), linksMade]
    have heffect := c.edit_effect e
    generalize (c.edit e).1 = c', (c.edit e).2 = done at heffect
    cases heffect with
    | added => simp [placedLinkCount_add, Edit.isLink]
    | @linked record s t source target =>
      have hcount := placedLinkCount_connect (h.wellFormed.lt_of_place? source)
        (h.wellFormed.lt_of_place? target) record.branch
      simp only [placedLinkCount] at hcount ⊢
      simp [hcount, Edit.isLink, Nat.add_assoc]
    | connected source target =>
      have hcount := placedLinkCount_connect (h.wellFormed.lt_of_place? source)
        (h.wellFormed.lt_of_place? target)
      simp [hcount, Edit.isLink, Nat.add_assoc]
    | relabelled done => simp [placedLinkCount_relabel done, Edit.isLink]
    | unlinked _ | unconnected | unlabelled => simp

/-- No two keys lead to the same place. -/
theorem WellFormed.nodup_places (hc : c.WellFormed) : c.places.Nodup := by
  have hdistinct := hc.keys_distinct
  rw [List.nodup_iff_pairwise_ne, places, List.pairwise_map]
  rw [Key.Distinct, keys, List.pairwise_map] at hdistinct
  refine hdistinct.imp_of_mem ?_
  rintro ⟨j, p⟩ ⟨k, q⟩ hj hk hdiffer rfl
  have hsame := hc.same_of_place? (place?_of_mem_index hc.keys_distinct hj)
    (place?_of_mem_index hc.keys_distinct hk)
  rw [hdiffer] at hsame
  cases hsame

theorem filterMap_node?_range (c : Chart) :
    (List.range c.placed.length).filterMap c.node? = c.placed := by
  have hmap : (List.range c.placed.length).map c.node? = c.placed.map some := by
    apply List.ext_getElem
    · simp
    · intro i _ _
      simp [node?]
  simpa [List.filterMap_map] using congrArg (List.filterMap id) hmap

/-- The links that leave current nodes are among those that leave any node. -/
theorem WellFormed.linkCount_le (hc : c.WellFormed) : c.linkCount ≤ c.placedLinkCount := by
  have hsub : c.places ⊆ List.range c.placed.length := by
    intro p hp
    obtain ⟨n, hn⟩ := hc.node_of_mem_places hp
    exact List.mem_range.mpr (lt_of_node? hn)
  obtain ⟨ps, hperm, hsublist⟩ := List.subperm_of_subset hc.nodup_places hsub
  have hplaced := (hsublist.filterMap c.node?).flatMap (·.children)
  rw [filterMap_node?_range] at hplaced
  calc c.linkCount
      = ((ps.filterMap c.node?).flatMap (·.children)).length :=
        ((hperm.filterMap c.node?).flatMap_right _).length_eq.symm
    _ ≤ c.placedLinkCount := hplaced.length_le

/-! ## Charts without replaced nodes -/

theorem setPlace_of_new {k : Key} {index : List (Key × Nat)}
    (h : k.isIn (index.map Prod.fst) = false) (p : Nat) :
    setPlace k p index = index ++ [(k, p)] := by
  induction index with
  | nil => rfl
  | cons e index ih =>
    obtain ⟨a, q⟩ := e
    rw [List.map_cons, Key.isIn_cons, Bool.or_eq_false_iff] at h
    simp [setPlace, h.1, ih h.2]

/-- Every node that was placed is the current one of its key. -/
def Unreplaced (c : Chart) : Prop :=
  c.places = List.range c.placed.length

theorem Unreplaced.edit (h : c.Unreplaced) {e : Edit}
    (hnew : ∀ record, e = .add record → c.contains record.key = false) :
    (c.edit e).1.Unreplaced := by
  have heffect := c.edit_effect e
  generalize (c.edit e).1 = c', (c.edit e).2 = done at heffect
  unfold Unreplaced places at h ⊢
  cases heffect with
  | @added record =>
    have hkey := hnew record rfl
    rw [contains_eq_isIn] at hkey
    have hindex : (c.add (Node.ofRecord record)).index =
        c.index ++ [(record.key, c.placed.length)] := setPlace_of_new hkey _
    rw [hindex, List.map_append, h, length_placed_add, List.range_succ]
    rfl
  | linked _ _ | connected _ _ => simpa using h
  | relabelled done =>
    rw [relabel_eq_some done]
    simpa using h
  | unlinked _ | unconnected | unlabelled => exact h

theorem Unreplaced.edited (h : c.Unreplaced) {edits : List Edit} (hnew : c.ReplacesNone edits) :
    (c.edited edits).Unreplaced := by
  induction edits generalizing c with
  | nil => exact h
  | cons e edits ih =>
    refine ih (h.edit ?_) ?_
    · rintro record rfl
      exact hnew [] record edits rfl
    · intro before record after hedits
      exact hnew (e :: before) record after (by rw [hedits]; rfl)

theorem Unreplaced.linkCount_eq (h : c.Unreplaced) : c.linkCount = c.placedLinkCount := by
  rw [linkCount, nodes, h, filterMap_node?_range, placedLinkCount]

/-! ## The invariant -/

/-- After any edits, whether they could be done or not: a key leads to a node of that key; the links
that are listed have both ends, so that the rule about links always looks at the source of a listed
link; every child of a node, even of one that was replaced, has a key of the chart; later edits
leave the keys as they are, in their order, and only put others behind them; a link that cannot be
made because an end is missing changes nothing; and the links that leave current nodes are at most
as many as were made, and exactly as many if no node was replaced. -/
theorem edited_invariant (edits : List Edit) :
    let c := empty.edited edits
    (∀ k p, (k, p) ∈ c.index → ∃ n, c.node? p = some n ∧ n.key.same k = true) ∧
    (∀ r ∈ c.links, c.contains r.source = true ∧ c.contains r.target = true ∧
      ∃ source, c.find? r.source = some source ∧ c.linkViolations r =
        if source.kind = .decision ∧ r.branch.all (·.isEmpty) then [.missingLabel] else []) ∧
    (∀ p n, c.node? p = some n → ∀ e ∈ n.children,
      ∃ m, c.node? e.place = some m ∧ c.contains m.key = true) ∧
    (∀ more, c.keys <+: (c.edited more).keys) ∧
    (∀ r, ((c.edit (.link r)).2 = false ↔
        c.contains r.source = false ∨ c.contains r.target = false) ∧
      ((c.edit (.link r)).2 = false → (c.edit (.link r)).1 = c)) ∧
    c.linkCount ≤ empty.linksMade edits ∧
    (empty.ReplacesNone edits → c.linkCount = empty.linksMade edits) := by
  intro c
  have hkept : c.Kept := kept_empty.edited edits
  have hcount : c.placedLinkCount = empty.linksMade edits := by
    rw [kept_empty.placedLinkCount_edited edits]
    exact Nat.zero_add _
  refine ⟨hkept.wellFormed.current, ?_, ?_, c.keys_prefix_edited, ?_, ?_, ?_⟩
  · intro r hr
    obtain ⟨hsource, htarget⟩ := hkept.ends r hr
    have hfound := hsource
    rw [← hkept.wellFormed.find?_isSome] at hfound
    obtain ⟨source, hfound⟩ := Option.isSome_iff_exists.mp hfound
    refine ⟨hsource, htarget, source, hfound, ?_⟩
    simp [linkViolations, hfound, htarget]
  · intro p n hn e he
    obtain ⟨m, hm⟩ := node?_of_lt (hkept.wellFormed.led p n hn e he)
    refine ⟨m, hm, ?_⟩
    rw [contains_eq_isIn]
    exact hkept.wellFormed.keyed e.place m hm
  · intro r
    have hmade := link_isSome c r
    cases hlink : c.link r with
    | none =>
      rw [hlink] at hmade
      simpa [edit, hlink] using Bool.and_eq_false_iff.mp hmade.symm
    | some c' =>
      rw [hlink] at hmade
      simpa [edit, hlink] using hmade.symm
  · rw [← hcount]
    exact hkept.wellFormed.linkCount_le
  · intro hnew
    rw [← hcount]
    have hempty : empty.Unreplaced := rfl
    exact (hempty.edited hnew).linkCount_eq

-- a node that is replaced takes its links out of the count
example :
    let edits : List Edit := [.add { key := .int 1, kind := .generic },
      .link { source := .int 1, target := .int 1 }, .add { key := .int 1, kind := .generic }]
    (empty.edited edits).linkCount = 0 ∧ empty.linksMade edits = 1 := by
  decide

end Chart

end Flowchart
