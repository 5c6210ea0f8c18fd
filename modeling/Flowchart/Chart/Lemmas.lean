import Flowchart.Chart.Basic

/-! # What the operations on a chart do to its nodes and its index

The two views of a chart are `node?`, which gives the node at a place, and `place?`, which gives
the place of a key.  Placing a node appends it and redirects its key; making or relabelling a link
changes nodes where they stand and leaves the index alone.
-/

namespace Flowchart.Chart

/-! ## Placing nodes -/

@[simp] theorem length_placed_add (c : Chart) (n : Node) :
    (c.add n).placed.length = c.placed.length + 1 := by
  simp [add]

@[simp] theorem links_add (c : Chart) (n : Node) : (c.add n).links = c.links := rfl

/-- Placing a node moves no other. -/
theorem node?_add_of_lt {c : Chart} {p : Nat} (h : p < c.placed.length) (n : Node) :
    (c.add n).node? p = c.node? p := by
  simp [node?, add, List.getElem?_append_left h]

/-- A node is placed behind all others. -/
@[simp] theorem node?_add_self (c : Chart) (n : Node) :
    (c.add n).node? c.placed.length = some n := by
  simp [node?, add]

theorem find?_setPlace (k k' : Key) (p : Nat) (index : List (Key × Nat)) :
    ((setPlace k p index).find? fun e => e.1.same k').map Prod.snd =
      if k.same k' then some p else (index.find? fun e => e.1.same k').map Prod.snd := by
  induction index with
  | nil => by_cases h : k.same k' = true <;> simp [setPlace, h]
  | cons e index ih =>
    obtain ⟨a, q⟩ := e
    by_cases ha : a.same k = true
    · have hk : a.same k' = k.same k' := Key.same_congr_left ha k'
      by_cases h : k.same k' = true <;> simp [setPlace, ha, hk, h]
    · by_cases hk : a.same k' = true
      · have h : ¬ k.same k' = true := fun h =>
          ha (by rw [Key.same_comm] at h; exact Key.same_trans hk h)
        simp [setPlace, ha, hk, h]
      · simp only [setPlace, ha, Bool.false_eq_true, if_false, List.find?_cons, hk]
        exact ih

/-- The key of a placed node leads to it, and the other keys lead where they led. -/
theorem place?_add (c : Chart) (n : Node) (k : Key) :
    (c.add n).place? k = if n.key.same k then some c.placed.length else c.place? k :=
  find?_setPlace n.key k c.placed.length c.index

theorem map_fst_setPlace (k : Key) (p : Nat) (index : List (Key × Nat)) :
    (setPlace k p index).map Prod.fst =
      if k.isIn (index.map Prod.fst) then index.map Prod.fst else index.map Prod.fst ++ [k] := by
  induction index with
  | nil => simp [setPlace]
  | cons e index ih =>
    obtain ⟨a, q⟩ := e
    by_cases ha : a.same k = true
    · simp [setPlace, ha]
    · simp only [setPlace, ha, Bool.false_eq_true, if_false, List.map_cons, ih, Key.isIn_cons,
        Bool.false_or]
      split <;> simp

/-- No key is lost and the order of keys is kept; a new key goes last. -/
theorem keys_add (c : Chart) (n : Node) :
    (c.add n).keys = if n.key.isIn c.keys then c.keys else c.keys ++ [n.key] :=
  map_fst_setPlace n.key c.placed.length c.index

/-! ## Making links -/

@[simp] theorem index_connect (c : Chart) (s t : Nat) (b : Option Text) :
    (c.connect s t b).index = c.index := by
  unfold connect
  split <;> rfl

@[simp] theorem place?_connect (c : Chart) (s t : Nat) (b : Option Text) (k : Key) :
    (c.connect s t b).place? k = c.place? k := by
  simp [place?]

@[simp] theorem length_placed_connect (c : Chart) (s t : Nat) (b : Option Text) :
    (c.connect s t b).placed.length = c.placed.length := by
  unfold connect
  split <;> simp

/-- A link is made exactly if both of its ends are on the chart. -/
theorem link_isSome (c : Chart) (r : LinkRecord) :
    (c.link r).isSome = (c.contains r.source && c.contains r.target) := by
  unfold link contains
  cases c.place? r.source <;> cases c.place? r.target <;> rfl

/-- Making a link leaves the index alone and lists the link last. -/
theorem index_links_of_link {c c' : Chart} {r : LinkRecord} (h : c.link r = some c') :
    c'.index = c.index ∧ c'.links = c.links ++ [r] := by
  unfold link at h
  split at h
  · cases h
    simp
  · cases h

end Flowchart.Chart
