import Flowchart.Chart.Check
import Flowchart.Proofs.Chart.Builder

/-! # Renaming the keys of a chart

A key is only a name: it says which links belong to which nodes, and which node replaces which.
`Chart.build_rename` says so.  Records with renamed keys make the renamed chart, with every node at
the place it had, if the renaming is faithful on the keys of the records.  What is read off a chart
without looking at keys is the same on the renamed one for any renaming at all.
-/

namespace Flowchart

def NodeRecord.rename (f : Key → Key) (r : NodeRecord) : NodeRecord :=
  { r with key := f r.key }

def LinkRecord.rename (f : Key → Key) (r : LinkRecord) : LinkRecord :=
  { r with source := f r.source, target := f r.target }

def Node.rename (f : Key → Key) (n : Node) : Node :=
  { n with key := f n.key, parents := n.parents.map f }

def Chart.rename (f : Key → Key) (c : Chart) : Chart where
  placed := c.placed.map (Node.rename f)
  index := c.index.map fun e => (f e.1, e.2)
  links := c.links.map (LinkRecord.rename f)

/-- All keys that occur in records. -/
def recordKeys (nodes : List NodeRecord) (links : List LinkRecord) : List Key :=
  nodes.map (·.key) ++ links.flatMap fun r => [r.source, r.target]

namespace Node

variable (f : Key → Key) (n : Node)

@[simp] theorem text_rename : (n.rename f).text = n.text := rfl

@[simp] theorem children_rename : (n.rename f).children = n.children := rfl

@[simp] theorem kind_rename : (n.rename f).kind = n.kind := rfl

@[simp] theorem isStart_rename : (n.rename f).isStart = n.isStart := rfl

@[simp] theorem violations_rename : (n.rename f).violations = n.violations := by
  -- a node without parents is told from others, but which parents it has is not asked
  have hparents : (n.rename f).parents.isEmpty = n.parents.isEmpty := List.isEmpty_map
  rw [violations, violations, hparents]
  rfl

end Node

namespace Chart

/-! ## What does not depend on keys -/

section Places

variable (f : Key → Key) (c : Chart)

@[simp] theorem size_rename : (c.rename f).size = c.size := by
  simp [size, rename]

@[simp] theorem places_rename : (c.rename f).places = c.places := by
  simp [places, rename, Function.comp_def]

@[simp] theorem node?_rename (p : Nat) : (c.rename f).node? p = (c.node? p).map (Node.rename f) := by
  simp [node?, rename]

@[simp] theorem nodes_rename : (c.rename f).nodes = c.nodes.map (Node.rename f) := by
  have hnode : (c.rename f).node? = fun p => (c.node? p).map (Node.rename f) :=
    funext (node?_rename f c)
  rw [nodes, nodes, places_rename, hnode, List.map_filterMap]

@[simp] theorem starts_rename : (c.rename f).starts = c.starts := by
  have hstart : ∀ p, ((c.rename f).node? p).any Node.isStart = (c.node? p).any Node.isStart := by
    intro p
    cases hp : c.node? p <;> simp [hp]
  simp only [starts, places_rename, hstart]

theorem connect_rename (s t : Nat) (b : Option Text) :
    (c.rename f).connect s t b = (c.connect s t b).rename f := by
  rw [connect, connect, node?_rename]
  cases c.node? s with
  | none => rfl
  | some source =>
    simp only [Option.map_some, rename, Chart.mk.injEq, and_true]
    apply List.ext_getElem?
    intro p
    simp only [List.getElem?_modify, List.getElem?_map]
    cases c.placed[p]? with
    | none => rfl
    | some n => by_cases hs : s = p <;> by_cases ht : t = p <;> simp [hs, ht, Node.rename]

end Places

/-! ## Keys on a chart -/

/-- All keys on a chart are among the given ones. -/
structure KeysIn (K : Set Key) (c : Chart) : Prop where
  keys : ∀ k ∈ c.keys, k ∈ K
  placed : ∀ n ∈ c.placed, n.key ∈ K
  links : ∀ r ∈ c.links, r.source ∈ K ∧ r.target ∈ K

variable {f : Key → Key} {K : Set Key} {c : Chart}

theorem KeysIn.empty (K : Set Key) : Chart.empty.KeysIn K where
  keys := by intro k h; cases h
  placed := by intro n h; cases h
  links := by intro r h; cases h

theorem KeysIn.index (hc : c.KeysIn K) : ∀ e ∈ c.index, e.1 ∈ K := fun _ he =>
  hc.keys _ (List.mem_map_of_mem he)

theorem KeysIn.node? (hc : c.KeysIn K) {p : Nat} {n : Node} (h : c.node? p = some n) : n.key ∈ K :=
  hc.placed n (List.mem_of_getElem? h)

theorem KeysIn.add (hc : c.KeysIn K) {n : Node} (hn : n.key ∈ K) : (c.add n).KeysIn K where
  keys := by
    rw [keys_add]
    split
    · exact hc.keys
    · intro k hk
      rcases List.mem_append.mp hk with hk | hk
      · exact hc.keys k hk
      · rw [List.mem_singleton.mp hk]
        exact hn
  placed := by
    intro m hm
    rcases List.mem_append.mp hm with hm | hm
    · exact hc.placed m hm
    · rw [List.mem_singleton.mp hm]
      exact hn
  links := hc.links

theorem KeysIn.connect (hc : c.KeysIn K) (s t : Nat) (b : Option Text) :
    (c.connect s t b).KeysIn K := by
  cases hs : c.node? s with
  | none =>
    simp only [Chart.connect, hs]
    exact hc
  | some source =>
    refine ⟨by rw [keys_connect]; exact hc.keys, ?_, ?_⟩
    · -- nodes are given children and parents, and keep their keys
      intro n hn
      obtain ⟨p, hp⟩ := List.getElem?_of_mem hn
      have hnode := node?_connect hs t b p
      rw [Chart.node?, hp] at hnode
      obtain ⟨m, hm, rfl⟩ := Option.map_eq_some_iff.mp hnode.symm
      have hkey : m.key ∈ K := hc.node? hm
      exact hkey
    · simp only [Chart.connect, hs]
      exact hc.links

theorem KeysIn.linkIfPossible (hc : c.KeysIn K) {r : LinkRecord}
    (hr : r.source ∈ K ∧ r.target ∈ K) : (c.linkIfPossible r).KeysIn K := by
  unfold Chart.linkIfPossible
  cases hlink : c.link r with
  | none => exact hc
  | some c' =>
    obtain ⟨s, t, -, -, rfl⟩ := link_eq_some hlink
    have hconnect := hc.connect s t r.branch
    refine ⟨hconnect.keys, hconnect.placed, ?_⟩
    intro r' hr'
    rcases List.mem_append.mp hr' with hr' | hr'
    · exact hc.links r' hr'
    · rw [List.mem_singleton.mp hr']
      exact hr

theorem KeysIn.addAll (hc : c.KeysIn K) {nodes : List NodeRecord}
    (hnodes : ∀ r ∈ nodes, r.key ∈ K) : (c.addAll nodes).KeysIn K := by
  induction nodes generalizing c with
  | nil => exact hc
  | cons r rs ih =>
    have hr : (Node.ofRecord r).key ∈ K := hnodes r List.mem_cons_self
    exact ih (hc.add hr) fun r' hr' => hnodes r' (List.mem_cons_of_mem _ hr')

theorem KeysIn.linkAll (hc : c.KeysIn K) {links : List LinkRecord}
    (hlinks : ∀ r ∈ links, r.source ∈ K ∧ r.target ∈ K) : (c.linkAll links).1.KeysIn K := by
  induction links generalizing c with
  | nil => exact hc
  | cons r rs ih =>
    rw [linkAll_cons]
    exact ih (hc.linkIfPossible (hlinks r List.mem_cons_self)) fun r' hr' =>
      hlinks r' (List.mem_cons_of_mem _ hr')

section Records

variable {nodes : List NodeRecord} {links : List LinkRecord}

theorem mem_recordKeys_of_node {r : NodeRecord} (hr : r ∈ nodes) :
    r.key ∈ recordKeys nodes links :=
  List.mem_append_left _ (List.mem_map_of_mem hr)

theorem mem_recordKeys_of_link {r : LinkRecord} (hr : r ∈ links) :
    r.source ∈ recordKeys nodes links ∧ r.target ∈ recordKeys nodes links := by
  have hmem : ∀ k ∈ [r.source, r.target], k ∈ recordKeys nodes links := fun k hk =>
    List.mem_append_right _ (List.mem_flatMap.mpr ⟨r, hr, hk⟩)
  exact ⟨hmem _ (by simp), hmem _ (by simp)⟩

theorem keysIn_build : (build nodes links).KeysIn {k | k ∈ recordKeys nodes links} :=
  ((KeysIn.empty _).addAll fun _ => mem_recordKeys_of_node).linkAll fun _ => mem_recordKeys_of_link

end Records

/-! ## Finding nodes by renamed keys -/

theorem find?_renamed_index (hf : Key.Faithful f K) {k : Key} (hk : k ∈ K)
    {index : List (Key × Nat)} (hindex : ∀ e ∈ index, e.1 ∈ K) :
    ((index.map fun e => (f e.1, e.2)).find? fun e => e.1.same (f k)).map Prod.snd =
      (index.find? fun e => e.1.same k).map Prod.snd := by
  induction index with
  | nil => rfl
  | cons e index ih =>
    -- an entry is hit on the renamed chart exactly if it is hit on the chart
    have he := hf e.1 (hindex e List.mem_cons_self) k hk
    have ih := ih fun e' he' => hindex e' (List.mem_cons_of_mem _ he')
    simp only [List.map_cons, List.find?_cons, he]
    split
    · rfl
    · exact ih

theorem place?_rename (hf : Key.Faithful f K) (hc : c.KeysIn K) {k : Key} (hk : k ∈ K) :
    (c.rename f).place? (f k) = c.place? k :=
  find?_renamed_index hf hk hc.index

theorem contains_rename (hf : Key.Faithful f K) (hc : c.KeysIn K) {k : Key} (hk : k ∈ K) :
    (c.rename f).contains (f k) = c.contains k := by
  rw [contains, contains, place?_rename hf hc hk]

theorem find?_rename (hf : Key.Faithful f K) (hc : c.KeysIn K) {k : Key} (hk : k ∈ K) :
    (c.rename f).find? (f k) = (c.find? k).map (Node.rename f) := by
  rw [find?, find?, place?_rename hf hc hk]
  cases c.place? k with
  | none => rfl
  | some p => exact node?_rename f c p

/-! ## Building from renamed records -/

theorem setPlace_rename (hf : Key.Faithful f K) {k : Key} (hk : k ∈ K)
    {index : List (Key × Nat)} (hindex : ∀ e ∈ index, e.1 ∈ K) (p : Nat) :
    setPlace (f k) p (index.map fun e => (f e.1, e.2)) =
      (setPlace k p index).map fun e => (f e.1, e.2) := by
  induction index with
  | nil => rfl
  | cons e index ih =>
    have he := hf e.1 (hindex e List.mem_cons_self) k hk
    have ih := ih fun e' he' => hindex e' (List.mem_cons_of_mem _ he')
    simp only [List.map_cons, setPlace, he]
    split
    · -- the entry keeps the spelling of its key, here the renamed one
      rfl
    · rw [ih]
      rfl

theorem add_rename (hf : Key.Faithful f K) (hc : c.KeysIn K) {n : Node} (hn : n.key ∈ K) :
    (c.rename f).add (n.rename f) = (c.add n).rename f := by
  have hindex := setPlace_rename hf hn hc.index c.placed.length
  simp only [add, rename, List.map_append, List.map_singleton, List.length_map, ← hindex]
  rfl

theorem addAll_rename (hf : Key.Faithful f K) (hc : c.KeysIn K) {nodes : List NodeRecord}
    (hnodes : ∀ r ∈ nodes, r.key ∈ K) :
    (c.rename f).addAll (nodes.map (NodeRecord.rename f)) = (c.addAll nodes).rename f := by
  induction nodes generalizing c with
  | nil => rfl
  | cons r rs ih =>
    have hr : (Node.ofRecord r).key ∈ K := hnodes r List.mem_cons_self
    have ih := ih (hc.add hr) fun r' hr' => hnodes r' (List.mem_cons_of_mem _ hr')
    rw [← add_rename hf hc hr] at ih
    exact ih

theorem linkIfPossible_rename (hf : Key.Faithful f K) (hc : c.KeysIn K) {r : LinkRecord}
    (hr : r.source ∈ K ∧ r.target ∈ K) :
    (c.rename f).linkIfPossible (r.rename f) = (c.linkIfPossible r).rename f := by
  have hsource : (c.rename f).place? (r.rename f).source = c.place? r.source :=
    place?_rename hf hc hr.1
  have htarget : (c.rename f).place? (r.rename f).target = c.place? r.target :=
    place?_rename hf hc hr.2
  unfold linkIfPossible link
  rw [hsource, htarget]
  cases c.place? r.source with
  | none => rfl
  | some s =>
    cases c.place? r.target with
    | none => rfl
    | some t =>
      have hbranch : (r.rename f).branch = r.branch := rfl
      simp only [Option.getD_some, hbranch, connect_rename]
      simp [rename]

theorem linkAll_rename (hf : Key.Faithful f K) (hc : c.KeysIn K) {links : List LinkRecord}
    (hlinks : ∀ r ∈ links, r.source ∈ K ∧ r.target ∈ K) :
    ((c.rename f).linkAll (links.map (LinkRecord.rename f))).1 =
      (c.linkAll links).1.rename f := by
  induction links generalizing c with
  | nil => rfl
  | cons r rs ih =>
    have hr := hlinks r List.mem_cons_self
    have ih := ih (hc.linkIfPossible hr) fun r' hr' => hlinks r' (List.mem_cons_of_mem _ hr')
    rw [List.map_cons, linkAll_cons, linkAll_cons, linkIfPossible_rename hf hc hr]
    exact ih

/-- Records with renamed keys make the chart with renamed keys. -/
theorem build_rename {nodes : List NodeRecord} {links : List LinkRecord}
    (hf : Key.Faithful f {k | k ∈ recordKeys nodes links}) :
    build (nodes.map (NodeRecord.rename f)) (links.map (LinkRecord.rename f)) =
      (build nodes links).rename f := by
  have hempty : Chart.empty.KeysIn {k | k ∈ recordKeys nodes links} := .empty _
  have hnodes : ∀ r ∈ nodes, r.key ∈ {k | k ∈ recordKeys nodes links} := fun _ =>
    mem_recordKeys_of_node
  have hadd := addAll_rename hf hempty hnodes
  have hlink := linkAll_rename hf (hempty.addAll hnodes) fun _ => mem_recordKeys_of_link
  rw [← hadd] at hlink
  exact hlink

/-! ## Violations -/

theorem linkViolations_rename (hf : Key.Faithful f K) (hc : c.KeysIn K) {r : LinkRecord}
    (hr : r.source ∈ K ∧ r.target ∈ K) :
    (c.rename f).linkViolations (r.rename f) = c.linkViolations r := by
  have hsource : (c.rename f).find? (r.rename f).source = (c.find? r.source).map (Node.rename f) :=
    find?_rename hf hc hr.1
  have htarget : (c.rename f).contains (r.rename f).target = c.contains r.target :=
    contains_rename hf hc hr.2
  unfold linkViolations
  rw [hsource, htarget]
  cases c.find? r.source with
  | none => rfl
  | some source => rfl

theorem violations_rename (hf : Key.Faithful f K) (hc : c.KeysIn K) :
    (c.rename f).violations = c.violations := by
  have hnodes : (c.rename f).nodes.flatMap Node.violations = c.nodes.flatMap Node.violations := by
    simp [List.flatMap_map]
  have hlinks : (c.rename f).links.flatMap (c.rename f).linkViolations =
      c.links.flatMap c.linkViolations := by
    have hmap : (c.rename f).links = c.links.map (LinkRecord.rename f) := rfl
    have hall := List.map_congr_left fun r hr => linkViolations_rename hf hc (hc.links r hr)
    rw [hmap, List.flatMap_map, List.flatMap_def, List.flatMap_def, hall]
  rw [violations, violations, size_rename, hnodes, hlinks]

end Chart

end Flowchart
