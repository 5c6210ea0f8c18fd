import Flowchart.Proofs.Model

/-! # What is wrong with a model

`faults` lists what is wrong with the shape of a model, in the order in which it is looked for: first
the two lists with their entries, nodes before links, then the fields of the entries, one entry after
the other.  A model without integers that are too long is refused exactly for the first of its
faults, and is loaded if it has none.  `Reports` says this of one step of the loading, and is closed
under putting steps together.
-/

namespace Flowchart

/-- Whether a value is neither a list nor an object. -/
def Json.isScalar : Json → Bool
  | .list _ | .object _ => false
  | .null | .bool _ | .int _ | .float _ | .text _ => true

namespace Model

/-- The fields of an entry that have to be single values, in the order in which they are read. -/
def Section.scalars : Section → List Text
  | .nodes => ["figure", "key"]
  | .links => ["from", "to", "branchType"]

/-! ## Models of the right shape -/

/-- The entries in one of the two lists of a model, if it is a list of objects.  What is missing or
counts as absent has no entries. -/
inductive Section.Holds (part : Section) (model : Fields) : List Fields → Prop
  | absent (h : (Json.fieldD part.name model).isTruthy = false) : Holds part model []
  | listed {entries} (h : Json.fieldD part.name model = .list (entries.map .object)) :
      Holds part model entries

/-- Entries of which no field that has to be a single value is a list or an object. -/
def Section.Flat (part : Section) (entries : List Fields) : Prop :=
  ∀ entry ∈ entries, ∀ field ∈ part.scalars, (Json.fieldD field entry).isScalar = true

/-- A model with entries of the right shape. -/
def WellShaped (model : Json) (nodes links : List Fields) : Prop :=
  ∃ fields, model = .object fields ∧ Section.nodes.Holds fields nodes ∧
    Section.links.Holds fields links ∧ Section.nodes.Flat nodes ∧ Section.links.Flat links

/-- A record that was read from an entry of the list of nodes. -/
structure NodeFrom (entry : Fields) (r : NodeRecord) : Prop where
  key : Key.ofJson? (Json.fieldD "key" entry) = some r.key
  kind : ∃ figure, Key.ofJson? (Json.fieldD "figure" entry) = some figure ∧
    r.kind = Kind.ofFigure figure
  text : (if (Json.fieldD "text" entry).isTruthy then (Json.fieldD "text" entry).display
    else .ok unnamed) = .ok r.text

/-- A record that was read from an entry of the list of links. -/
structure LinkFrom (entry : Fields) (r : LinkRecord) : Prop where
  source : Key.ofJson? (Json.fieldD "from" entry) = some r.source
  target : Key.ofJson? (Json.fieldD "to" entry) = some r.target
  branch : ∃ k, Key.ofJson? (Json.fieldD "branchType" entry) = some k ∧
    branchLabel k = .ok r.branch

/-! ## Faults -/

/-- What is wrong with an item of a list that is to be an object. -/
def Section.itemFaults (part : Section) (index : Nat) : Json → List LoadError
  | .object _ => []
  | v => [.entryNotAnObject part index v.kindName]

/-- What is wrong with the value in the place of a list, or with its items. -/
def Section.listFaults (part : Section) : Json → List LoadError
  | .list items => items.zipIdx.flatMap fun (item, index) => part.itemFaults index item
  | v => if v.isTruthy then [.notAList part v.kindName] else []

/-- What is wrong with a field that has to be a single value. -/
def Section.scalarFaults (part : Section) (index : Nat) (entry : Fields) (field : Text) :
    List LoadError :=
  let v := Json.fieldD field entry
  if v.isScalar then [] else [.fieldNotScalar part index field v.kindName]

/-- What is wrong with the fields of an entry. -/
def Section.entryFaults (part : Section) (index : Nat) : Json → List LoadError
  | .object entry => part.scalars.flatMap (part.scalarFaults index entry)
  | _ => []

/-- What is wrong with the fields of the entries of a list. -/
def Section.fieldFaults (part : Section) : Json → List LoadError
  | .list items => items.zipIdx.flatMap fun (item, index) => part.entryFaults index item
  | _ => []

/-- What is wrong with a model. -/
def faults : Json → List LoadError
  | .object fields =>
    let nodes := Json.fieldD Section.nodes.name fields
    let links := Json.fieldD Section.links.name fields
    Section.nodes.listFaults nodes ++ Section.links.listFaults links ++
      Section.nodes.fieldFaults nodes ++ Section.links.fieldFaults links
  | v => [.notAnObject v.kindName]

/-- The place that a report on the shape of a model is about. -/
def LoadError.place? : LoadError → Option Text
  | .notAnObject _ => some "flowchart model"
  | .notAList part _ => some ("'" ++ part.name ++ "'")
  | .entryNotAnObject part index _ => some (part.entry index)
  | .fieldNotScalar part index field _ => some (part.entry index ++ "." ++ field)
  | .limit _ => none

/-- A report that begins with the place that it is about. -/
def LoadError.Located (e : LoadError) : Prop :=
  ∃ place, e.place? = some place ∧ place <+: e.message

theorem LoadError.located_of_place? {e : LoadError} {place : Text} (h : e.place? = some place) :
    e.Located := by
  refine ⟨place, h, ?_⟩
  cases e with
  | limit _ => cases h
  | notAnObject found =>
    cases h
    have hstart : Text.ofString "flowchart model" <+:
        Text.ofString "flowchart model must be a JSON object, got " := by decide
    exact hstart.trans (List.prefix_append _ found)
  | notAList part found =>
    cases h
    have hquote : Text.ofString "'" <+: Text.ofString "' must be a list, got " := by decide
    simp only [message, List.append_assoc, List.prefix_append_right_inj]
    exact hquote.trans (List.prefix_append _ found)
  | entryNotAnObject _ _ _ | fieldNotScalar _ _ _ _ =>
    cases h
    simp only [message, List.append_assoc, List.prefix_append_right_inj, List.prefix_append]

theorem Section.located_of_mem_listFaults {part : Section} {v : Json} {e : LoadError}
    (h : e ∈ part.listFaults v) : e.Located := by
  cases v with
  | list items =>
    obtain ⟨⟨item, index⟩, -, h⟩ := List.mem_flatMap.mp h
    cases item with
    | object _ => cases h
    | null | bool _ | int _ | float _ | text _ | list _ =>
      obtain rfl := List.mem_singleton.mp h
      exact LoadError.located_of_place? rfl
  | null | bool _ | int _ | float _ | text _ | object _ =>
    simp only [listFaults] at h
    split at h
    · obtain rfl := List.mem_singleton.mp h
      exact LoadError.located_of_place? rfl
    · cases h

theorem Section.located_of_mem_fieldFaults {part : Section} {v : Json} {e : LoadError}
    (h : e ∈ part.fieldFaults v) : e.Located := by
  cases v with
  | null | bool _ | int _ | float _ | text _ | object _ => cases h
  | list items =>
    obtain ⟨⟨item, index⟩, -, h⟩ := List.mem_flatMap.mp h
    cases item with
    | null | bool _ | int _ | float _ | text _ | list _ => cases h
    | object entry =>
      obtain ⟨field, -, h⟩ := List.mem_flatMap.mp h
      simp only [scalarFaults] at h
      split at h
      · cases h
      · obtain rfl := List.mem_singleton.mp h
        exact LoadError.located_of_place? rfl

theorem located_of_mem_faults {model : Json} {e : LoadError} (h : e ∈ faults model) :
    e.Located := by
  cases model with
  | null | bool _ | int _ | float _ | text _ | list _ =>
    obtain rfl := List.mem_singleton.mp h
    exact LoadError.located_of_place? rfl
  | object fields =>
    simp only [faults, List.mem_append] at h
    rcases h with ((h | h) | h) | h
    · exact Section.located_of_mem_listFaults h
    · exact Section.located_of_mem_listFaults h
    · exact Section.located_of_mem_fieldFaults h
    · exact Section.located_of_mem_fieldFaults h

/-! ## Steps of the loading -/

/-- A step that fails with the first of the given faults, or, if there is none, gives a result of
which `P` holds. -/
def Reports {α : Type} (fs : List LoadError) (P : α → Prop) (x : Except LoadError α) : Prop :=
  match fs with
  | [] => ∃ a, x = .ok a ∧ P a
  | e :: _ => x = .error e

namespace Reports

variable {α β : Type} {fs gs : List LoadError} {P : α → Prop} {Q : β → Prop}
  {x : Except LoadError α} {f : α → Except LoadError β}

theorem ok {a : α} (h : P a) : Reports [] P (.ok a) :=
  ⟨a, rfl, h⟩

theorem bind (h : Reports fs P x) (next : ∀ a, P a → Reports gs Q (f a)) :
    Reports (fs ++ gs) Q (x >>= f) := by
  cases fs with
  | nil =>
    obtain ⟨a, rfl, ha⟩ := h
    exact next a ha
  | cons e fs =>
    cases h
    rfl

theorem map (h : Reports fs P x) {g : α → β} (hg : ∀ a, P a → Q (g a)) :
    Reports fs Q (do let a ← x; return g a) := by
  have hbind := h.bind (f := fun a => .ok (g a)) fun a ha => Reports.ok (hg a ha)
  rwa [List.append_nil] at hbind

theorem imp {P' : α → Prop} (h : Reports fs P x) (hP : ∀ a, P a → P' a) : Reports fs P' x := by
  cases fs with
  | nil => exact h.imp fun a ha => ⟨ha.1, hP a ha.2⟩
  | cons e fs => exact h

theorem error_iff (h : Reports fs P x) {e : LoadError} : x = .error e ↔ fs.head? = some e := by
  cases fs with
  | nil =>
    obtain ⟨a, rfl, -⟩ := h
    simp
  | cons e' fs =>
    cases h
    simp

theorem of_ok (h : Reports fs P x) {a : α} (hx : x = .ok a) : P a := by
  cases fs with
  | nil =>
    obtain ⟨a', rfl, ha⟩ := h
    cases hx
    exact ha
  | cons e fs => cases h.symm.trans hx

end Reports

/-! ## Values -/

theorem reports_scalar (part : Section) (index : Nat) (entry : Fields) (field : Text) :
    Reports (part.scalarFaults index entry field)
      (fun k => Key.ofJson? (Json.fieldD field entry) = some k)
      (scalar part index field entry) := by
  unfold Section.scalarFaults scalar
  generalize Json.fieldD field entry = v
  cases v with
  | list _ | object _ => rfl
  | null | bool _ | int _ | float _ | text _ => exact ⟨_, rfl, rfl⟩

/-- Values without integers that are too long. -/
def Short (v : Json) : Prop :=
  ∀ n ∈ v.ints, Numeral.isWritable n = true

theorem Short.exists_label {v : Json} (short : Short v) :
    ∃ s, v.display = .ok s ∧ label v = .ok s := by
  obtain ⟨s, hs⟩ := v.shows_display.ok short
  exact ⟨s, hs, by rw [label, hs]; rfl⟩

theorem Short.of_mem {items : List Json} (short : Short (.list items)) {v : Json}
    (h : v ∈ items) : Short v := by
  induction items with
  | nil => cases h
  | cons w items ih =>
    have hints : ∀ n ∈ w.ints ++ Json.intsOfItems items, Numeral.isWritable n = true := short
    rcases List.mem_cons.mp h with rfl | h
    · exact fun n hn => hints n (List.mem_append_left _ hn)
    · exact ih (fun n hn => hints n (List.mem_append_right _ hn)) h

theorem Short.fieldD {fields : Fields} (short : Short (.object fields)) (name : Text) :
    Short (Json.fieldD name fields) := by
  unfold Json.fieldD Json.field?
  induction fields with
  | nil => simp [Short, Json.ints]
  | cons field fields ih =>
    obtain ⟨name', w⟩ := field
    have hints : ∀ n ∈ w.ints ++ Json.intsOfFields fields, Numeral.isWritable n = true := short
    rw [List.lookup_cons]
    split
    · exact fun n hn => hints n (List.mem_append_left _ hn)
    · exact ih fun n hn => hints n (List.mem_append_right _ hn)

theorem reports_label {v : Json} (short : Short v) :
    Reports [] (fun s => v.display = .ok s) (label v) := by
  obtain ⟨s, hs, hlabel⟩ := short.exists_label
  exact ⟨s, hlabel, hs⟩

theorem reports_optionalText {v : Json} (short : Short v) :
    Reports [] (fun _ => True) (optionalText v) := by
  cases v with
  | null | text s => exact ⟨_, rfl, trivial⟩
  | bool _ | int _ | float _ | list _ | object _ =>
    exact (reports_label short).bind fun s _ => .ok trivial

theorem reports_branchLabel {v : Json} (short : Short v) {k : Key} (hk : Key.ofJson? v = some k) :
    Reports [] (fun branch => branchLabel k = .ok branch) (branchLabel k) := by
  have hshort : Short k.toJson := by
    cases v <;> cases hk <;> exact short
  obtain ⟨s, -, hlabel⟩ := hshort.exists_label
  cases k with
  | null | text _ | bool _ => exact ⟨_, rfl, rfl⟩
  | int _ | float _ =>
    simp only [branchLabel, hlabel]
    exact ⟨_, rfl, rfl⟩

/-! ## Entries -/

theorem reports_loadNode {entry : Fields} (short : Short (.object entry)) (index : Nat) :
    Reports (Section.nodes.entryFaults index (.object entry)) (NodeFrom entry)
      (loadNode false index entry) := by
  have htext : Reports []
      (fun s => (if (Json.fieldD "text" entry).isTruthy then (Json.fieldD "text" entry).display
        else .ok unnamed) = .ok s)
      (if (Json.fieldD "text" entry).isTruthy then label (Json.fieldD "text" entry)
        else .ok unnamed) := by
    split
    · exact reports_label (short.fieldD "text")
    · exact .ok rfl
  simp only [loadNode, ite_bind, Section.entryFaults, Section.scalars, List.flatMap_cons,
    List.flatMap_nil, List.append_nil, Bool.false_and, Bool.false_eq_true, if_false]
  -- the faults of the two keys are met in this order, and what is read between them has none
  refine (reports_scalar .nodes index entry "figure").bind fun figure hfigure => ?_
  refine htext.bind fun text htext => ?_
  refine (reports_optionalText (short.fieldD "action")).bind fun action _ => ?_
  refine (reports_optionalText (short.fieldD "condition")).bind fun condition _ => ?_
  exact (reports_scalar .nodes index entry "key").map fun key hkey =>
    ⟨hkey, ⟨figure, hfigure, rfl⟩, htext⟩

theorem reports_loadLink {entry : Fields} (short : Short (.object entry)) (index : Nat) :
    Reports (Section.links.entryFaults index (.object entry)) (LinkFrom entry)
      (loadLink index entry) := by
  simp only [loadLink, Section.entryFaults, Section.scalars, List.flatMap_cons, List.flatMap_nil]
  refine (reports_scalar .links index entry "from").bind fun source hsource => ?_
  refine (reports_scalar .links index entry "to").bind fun target htarget => ?_
  refine (reports_scalar .links index entry "branchType").bind fun k hk => ?_
  exact (reports_branchLabel (short.fieldD "branchType") hk).map fun branch hbranch =>
    ⟨hsource, htarget, k, hk, hbranch⟩

theorem reports_loadAll {α : Type} {load : Nat → Fields → Except LoadError α}
    {faultsAt : Nat → Json → List LoadError} {P : Fields → α → Prop} {entries : List Fields}
    (h : ∀ entry ∈ entries, ∀ index,
      Reports (faultsAt index (.object entry)) (P entry) (load index entry)) (index : Nat) :
    Reports (((entries.map .object).zipIdx index).flatMap fun (item, i) => faultsAt i item)
      (List.Forall₂ P entries) (loadAll load index entries) := by
  induction entries generalizing index with
  | nil => exact .ok .nil
  | cons entry entries ih =>
    obtain ⟨hentry, hentries⟩ := List.forall_mem_cons.mp h
    rw [List.map_cons, List.zipIdx_cons, List.flatMap_cons]
    refine (hentry index).bind fun r hr => ?_
    exact (ih hentries (index + 1)).map fun rs hrs => .cons hr hrs

theorem reports_entries (part : Section) (index : Nat) (items : List Json) :
    Reports ((items.zipIdx index).flatMap fun (item, i) => part.itemFaults i item)
      (fun es => items = es.map .object) (entries part index items) := by
  induction items generalizing index with
  | nil => exact .ok rfl
  | cons item items ih =>
    cases item with
    | object fields => exact (ih (index + 1)).map fun es hes => by rw [hes]; rfl
    | null | bool _ | int _ | float _ | text _ | list _ => rfl

theorem reports_sectionEntries (part : Section) (model : Fields) :
    Reports (part.listFaults (Json.fieldD part.name model)) (part.Holds model)
      (sectionEntries part model) := by
  have absent : (Json.fieldD part.name model).isTruthy = false → part.Holds model [] := .absent
  have listed : ∀ es, Json.fieldD part.name model = .list (es.map .object) → part.Holds model es :=
    fun _ => .listed
  unfold sectionEntries
  generalize Json.fieldD part.name model = v at absent listed
  cases v with
  | list items =>
    cases items with
    | nil => exact .ok (absent rfl)
    | cons item items =>
      exact (reports_entries part 0 (item :: items)).imp fun es hes =>
        listed es (congrArg Json.list hes)
  | object fields =>
    cases fields with
    | nil => exact .ok (absent rfl)
    | cons field fields => rfl
  | null => exact .ok (absent rfl)
  | bool b =>
    cases b with
    | false => exact .ok (absent rfl)
    | true => rfl
  | int _ | float _ | text _ =>
    simp only [Section.listFaults]
    split
    · rfl
    · exact .ok (absent (by simp_all))

/-! ## Models -/

theorem Section.Holds.short {part : Section} {model : Fields} {entries : List Fields}
    (h : part.Holds model entries) (short : Short (.object model)) :
    ∀ entry ∈ entries, Short (.object entry) := by
  cases h with
  | absent _ => nofun
  | listed h =>
    have hlist := short.fieldD part.name
    rw [h] at hlist
    exact fun entry hentry => hlist.of_mem (List.mem_map_of_mem hentry)

theorem fieldFaults_of_falsy (part : Section) {v : Json} (h : v.isTruthy = false) :
    part.fieldFaults v = [] := by
  cases v with
  | list items =>
    obtain rfl : items = [] := by simpa [Json.isTruthy] using h
    rfl
  | null | bool _ | int _ | float _ | text _ | object _ => rfl

theorem Section.Holds.reports_loadAll {part : Section} {model : Fields} {entries : List Fields}
    (h : part.Holds model entries) {α : Type} {load : Nat → Fields → Except LoadError α}
    {P : Fields → α → Prop}
    (hload : ∀ entry ∈ entries, ∀ index,
      Reports (part.entryFaults index (.object entry)) (P entry) (load index entry)) :
    Reports (part.fieldFaults (Json.fieldD part.name model)) (List.Forall₂ P entries)
      (loadAll load 0 entries) := by
  cases h with
  | absent h =>
    rw [fieldFaults_of_falsy part h]
    exact .ok .nil
  | listed h =>
    rw [h]
    exact Model.reports_loadAll hload 0

theorem reports_load {model : Json} (short : Short model) :
    Reports (faults model)
      (fun records => ∃ fields nodes links, model = .object fields ∧
        Section.nodes.Holds fields nodes ∧ Section.links.Holds fields links ∧
        List.Forall₂ NodeFrom nodes records.nodes ∧ List.Forall₂ LinkFrom links records.links)
      (load false model) := by
  cases model with
  | object fields =>
    simp only [load, faults, List.append_assoc]
    refine (reports_sectionEntries .nodes fields).bind fun nodes hnodes => ?_
    refine (reports_sectionEntries .links fields).bind fun links hlinks => ?_
    have hnodeRecords := hnodes.reports_loadAll fun entry hentry =>
      reports_loadNode (hnodes.short short entry hentry)
    have hlinkRecords := hlinks.reports_loadAll fun entry hentry =>
      reports_loadLink (hlinks.short short entry hentry)
    refine hnodeRecords.bind fun nodeRecords hnodeRecords => ?_
    exact hlinkRecords.map fun linkRecords hlinkRecords =>
      ⟨fields, nodes, links, rfl, hnodes, hlinks, hnodeRecords, hlinkRecords⟩
  | null | bool _ | int _ | float _ | text _ | list _ => rfl

/-! ## Accepted models -/

theorem Section.Holds.listFaults_eq_nil {part : Section} {model : Fields} {entries : List Fields}
    (h : part.Holds model entries) : part.listFaults (Json.fieldD part.name model) = [] := by
  cases h with
  | absent h =>
    generalize Json.fieldD part.name model = v at h
    cases v with
    | list items =>
      obtain rfl : items = [] := by simpa [Json.isTruthy] using h
      rfl
    | null | bool _ | int _ | float _ | text _ | object _ => simp [listFaults, h]
  | listed h =>
    rw [h]
    refine List.flatMap_eq_nil_iff.mpr ?_
    rintro ⟨item, index⟩ hitem
    obtain ⟨entry, -, rfl⟩ := List.mem_map.mp (List.fst_mem_of_mem_zipIdx hitem)
    rfl

theorem Section.Holds.fieldFaults_eq_nil {part : Section} {model : Fields} {entries : List Fields}
    (h : part.Holds model entries) (flat : part.Flat entries) :
    part.fieldFaults (Json.fieldD part.name model) = [] := by
  cases h with
  | absent h => exact fieldFaults_of_falsy part h
  | listed h =>
    rw [h]
    refine List.flatMap_eq_nil_iff.mpr ?_
    rintro ⟨item, index⟩ hitem
    obtain ⟨entry, hentry, rfl⟩ := List.mem_map.mp (List.fst_mem_of_mem_zipIdx hitem)
    refine List.flatMap_eq_nil_iff.mpr fun field hfield => ?_
    simp [scalarFaults, flat entry hentry field hfield]

theorem WellShaped.faults_eq_nil {model : Json} {nodes links : List Fields}
    (h : WellShaped model nodes links) : faults model = [] := by
  obtain ⟨fields, rfl, hnodes, hlinks, hflatNodes, hflatLinks⟩ := h
  simp [faults, hnodes.listFaults_eq_nil, hlinks.listFaults_eq_nil,
    hnodes.fieldFaults_eq_nil hflatNodes, hlinks.fieldFaults_eq_nil hflatLinks]

theorem isScalar_of_key {v : Json} {k : Key} (h : Key.ofJson? v = some k) : v.isScalar = true := by
  cases v with
  | list _ | object _ => cases h
  | null | bool _ | int _ | float _ | text _ => rfl

theorem flat_of_forall₂ {part : Section} {α : Type} {P : Fields → α → Prop}
    (hP : ∀ entry r, P entry r →
      ∀ field ∈ part.scalars, (Json.fieldD field entry).isScalar = true)
    {entries : List Fields} {records : List α} (h : List.Forall₂ P entries records) :
    part.Flat entries := by
  induction h with
  | nil => nofun
  | cons hr _ ih => exact List.forall_mem_cons.mpr ⟨hP _ _ hr, ih⟩

/-- A model without integers that are too long is loaded exactly if its shape is right: it is an
object, in the place of each of its lists there is nothing, a value that counts as absent, or a list
of objects, and no field that has to be a single value is a list or an object.  Then the records are
read from the entries, one from each and in order.  Any other model is refused for the first of its
faults, in a report that begins with the place of the fault. -/
theorem load_exact (model : Json) (short : ∀ n ∈ model.ints, Numeral.isWritable n = true) :
    ((∃ records, load false model = .ok records) ↔ ∃ nodes links, WellShaped model nodes links) ∧
    (∀ records, load false model = .ok records → ∃ nodes links, WellShaped model nodes links ∧
      List.Forall₂ NodeFrom nodes records.nodes ∧ List.Forall₂ LinkFrom links records.links) ∧
    (∀ e, load false model = .error e ↔ (faults model).head? = some e) ∧
    ∀ e, load false model = .error e → e.Located := by
  have hreports := reports_load short
  have hloaded : ∀ records, load false model = .ok records →
      ∃ nodes links, WellShaped model nodes links ∧
        List.Forall₂ NodeFrom nodes records.nodes ∧
        List.Forall₂ LinkFrom links records.links := by
    intro records h
    obtain ⟨fields, nodes, links, hfields, hnodes, hlinks, hnodeRecords, hlinkRecords⟩ :=
      hreports.of_ok h
    have hflatNodes : Section.nodes.Flat nodes := by
      refine flat_of_forall₂ (fun entry r hr => ?_) hnodeRecords
      obtain ⟨figure, hfigure, -⟩ := hr.kind
      simp [Section.scalars, isScalar_of_key hfigure, isScalar_of_key hr.key]
    have hflatLinks : Section.links.Flat links := by
      refine flat_of_forall₂ (fun entry r hr => ?_) hlinkRecords
      obtain ⟨k, hk, -⟩ := hr.branch
      simp [Section.scalars, isScalar_of_key hr.source, isScalar_of_key hr.target,
        isScalar_of_key hk]
    exact ⟨nodes, links, ⟨fields, hfields, hnodes, hlinks, hflatNodes, hflatLinks⟩, hnodeRecords,
      hlinkRecords⟩
  refine ⟨⟨?_, ?_⟩, hloaded, fun e => hreports.error_iff, fun e he => ?_⟩
  · rintro ⟨records, h⟩
    obtain ⟨nodes, links, hshape, -⟩ := hloaded records h
    exact ⟨nodes, links, hshape⟩
  · rintro ⟨nodes, links, hshape⟩
    rw [hshape.faults_eq_nil] at hreports
    obtain ⟨records, h, -⟩ := hreports
    exact ⟨records, h⟩
  · exact located_of_mem_faults (List.mem_of_head? (hreports.error_iff.mp he))

/-- An item among the links that is no object is reported before the figure of a node that is a list,
and a value that counts as absent is as good as no list. -/
theorem load_exact_misshapen :
    let node : Json := .object [("figure", .list []), ("key", .object [])]
    let twice : Json := .object [("nodes", .list [node]), ("links", .list [.int 7])]
    let once : Json := .object [("nodes", .list [node]), ("links", .bool false)]
    (∀ n ∈ twice.ints, Numeral.isWritable n = true) ∧
    (∀ n ∈ once.ints, Numeral.isWritable n = true) ∧
    load false twice = .error (.entryNotAnObject .links 0 "int") ∧
    load false once = .error (.fieldNotScalar .nodes 0 "figure" "list") := by
  intro node twice once
  have htwice : ∀ n ∈ twice.ints, Numeral.isWritable n = true := by decide +kernel
  have honce : ∀ n ∈ once.ints, Numeral.isWritable n = true := nofun
  exact ⟨htwice, honce, ((load_exact twice htwice).2.2.1 _).mpr rfl,
    ((load_exact once honce).2.2.1 _).mpr rfl⟩

end Model

end Flowchart
