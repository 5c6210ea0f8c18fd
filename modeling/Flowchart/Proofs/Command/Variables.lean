import Mathlib.Data.List.Forall2
import Mathlib.Data.List.Induction
import Flowchart.Command.Variables
import Flowchart.Proofs.Value

/-! # The language of variables on the command line

`Assigns` tells which items give a variable a value, and `Fault` what is wrong with any other item.
Both speak of the text of the item alone.  `readVariables_exact` says that items are accepted exactly
if each of them gives a variable a value, that the last item of a variable counts, and that items are
refused for what is wrong with the first one that gives none.
-/

namespace Flowchart

/-! ## Environments of bindings -/

namespace Env

theorem ofList_concat (bs : List (Text × Value)) (b : Text × Value) :
    ofList (bs ++ [b]) = (ofList bs).set b.1 b.2 := by
  simp [ofList]

/-- The variables stand in the order in which they first occur. -/
theorem names_ofList (bs : List (Text × Value)) :
    (ofList bs).names = (bs.map Prod.fst).eraseDups := by
  -- the bindings are made from the front, so the induction takes them off at the end
  induction bs using List.reverseRecOn with
  | nil => rfl
  | append_singleton bs b ih =>
    rw [ofList_concat, names_set, ih, List.map_append, List.eraseDups_append]
    have hlast : [b.1].eraseDups = [b.1] := rfl
    by_cases h : b.1 ∈ bs.map Prod.fst
    · simp [h, List.mem_eraseDups, List.removeAll]
    · simp [h, List.mem_eraseDups, List.removeAll, hlast]

/-- A variable has the value of its last binding. -/
theorem get?_ofList (bs : List (Text × Value)) (x : Text) :
    (ofList bs).get? x = bs.reverse.lookup x := by
  induction bs using List.reverseRecOn with
  | nil => rfl
  | append_singleton bs b ih =>
    rw [ofList_concat, List.reverse_append, List.reverse_singleton, List.singleton_append,
      List.lookup_cons]
    by_cases h : x = b.1
    · simp [h]
    · have h' : (x == b.1) = false := by simpa using h
      rw [get?_set_of_ne _ h, ih, h']

theorem mem_ints_ofList {bs : List (Text × Value)} {n : Int} (h : n ∈ (ofList bs).ints) :
    ∃ b ∈ bs, n ∈ b.2.ints := by
  induction bs using List.reverseRecOn with
  | nil => cases h
  | append_singleton bs b ih =>
    rw [ofList_concat] at h
    rcases mem_ints_set h with h | h
    · exact ⟨b, by simp, h⟩
    · obtain ⟨b', hb', hn⟩ := ih h
      exact ⟨b', List.mem_append_left _ hb', hn⟩

end Env

namespace Command

/-! ## Items -/

/-- An item that gives a variable a value.  The variable is named before the first equals sign of the
item, and the value stands behind it. -/
inductive Assigns : Text → Text × Value → Prop
  | intro {before after : Text} {v : Value} (first : .scalar '=' ∉ before)
      (named : ∃ c ∈ before, Text.isBlank c = false) (valued : Value.Denotes (Text.strip after) v) :
      Assigns (before ++ .scalar '=' :: after) (Text.strip before, v)

/-- What is wrong with an item that gives no variable a value. -/
inductive Fault : Text → VariableError → Prop
  | noEquals {item : Text} (h : .scalar '=' ∉ item) : Fault item (.notAnAssignment item)
  | noName {before after : Text} (first : .scalar '=' ∉ before)
      (blank : ∀ c ∈ before, Text.isBlank c = true) :
      Fault (before ++ .scalar '=' :: after) (.notAnAssignment (before ++ .scalar '=' :: after))
  | badValue {before after : Text} {e : Value.ReadError} (first : .scalar '=' ∉ before)
      (named : ∃ c ∈ before, Text.isBlank c = false) (h : Value.Fault (Text.strip after) e) :
      Fault (before ++ .scalar '=' :: after) (.badValue (Text.strip before) e)

theorem splitAtEquals?_append {name : Text} (h : .scalar '=' ∉ name) (value : Text) :
    splitAtEquals? (name ++ .scalar '=' :: value) = some (name, value) := by
  induction name with
  | nil => simp [splitAtEquals?]
  | cons c name ih =>
    have hc := List.ne_of_not_mem_cons h
    rw [List.cons_append, splitAtEquals?, if_neg hc.symm, ih (List.not_mem_of_not_mem_cons h)]
    rfl

theorem splitAtEquals?_eq_none {item : Text} (h : .scalar '=' ∉ item) :
    splitAtEquals? item = none := by
  induction item with
  | nil => rfl
  | cons c item ih =>
    have hc := List.ne_of_not_mem_cons h
    rw [splitAtEquals?, if_neg hc.symm, ih (List.not_mem_of_not_mem_cons h)]
    rfl

theorem strip_ne_nil {t : Text} (h : ∃ c ∈ t, Text.isBlank c = false) : Text.strip t ≠ [] := by
  obtain ⟨c, hc, hsolid⟩ := h
  intro hnothing
  have hblank := Text.strip_eq_nil_iff.mp hnothing c hc
  simp [hsolid] at hblank

theorem assigns_or_fault (item : Text) : (∃ b, Assigns item b) ∨ ∃ e, Fault item e := by
  by_cases hequals : .scalar '=' ∈ item
  · obtain ⟨before, after, rfl, first⟩ := List.eq_append_cons_of_mem hequals
    by_cases hblank : ∀ c ∈ before, Text.isBlank c = true
    · exact Or.inr ⟨_, .noName first hblank⟩
    have named : ∃ c ∈ before, Text.isBlank c = false := by simpa using hblank
    rcases Value.denotes_or_fault (Text.strip after) with ⟨v, hv⟩ | ⟨e, he⟩
    · exact Or.inl ⟨_, .intro first named hv⟩
    · exact Or.inr ⟨_, .badValue first named he⟩
  · exact Or.inr ⟨_, .noEquals hequals⟩

theorem readVariable_exact (item : Text) : Exact (Assigns item) (Fault item) (readVariable item) := by
  refine .of_total ?_ ?_ (assigns_or_fault item)
  · rintro b ⟨first, named, valued⟩
    have hread := ((Value.read_exact _).ok_iff _).mpr valued
    simp [readVariable, splitAtEquals?_append first, strip_ne_nil named, hread]
  · intro e h
    cases h with
    | noEquals h => simp [readVariable, splitAtEquals?_eq_none h]
    | noName first blank =>
      have hnothing := Text.strip_eq_nil_iff.mpr blank
      simp [readVariable, splitAtEquals?_append first, hnothing]
    | badValue first named h =>
      have hread := ((Value.read_exact _).error_iff _).mpr h
      simp [readVariable, splitAtEquals?_append first, strip_ne_nil named, hread]

/-! ## Lists of items -/

/-- What is wrong with the first item that gives no variable a value. -/
def FirstFault (items : List Text) (e : VariableError) : Prop :=
  ∃ before item after, items = before ++ item :: after ∧ (∀ i ∈ before, ∃ b, Assigns i b) ∧
    Fault item e

theorem readVariablesOn_of_assigns {items : List Text} {bs : List (Text × Value)}
    (h : List.Forall₂ Assigns items bs) (env : Env) :
    readVariablesOn env items = .ok (bs.foldl (fun env (x, v) => env.set x v) env) := by
  induction h generalizing env with
  | nil => rfl
  | cons hb _ ih =>
    have hitem := ((readVariable_exact _).ok_iff _).mpr hb
    simp only [readVariablesOn, hitem, bind, Except.bind]
    exact ih _

theorem readVariablesOn_of_firstFault {items : List Text} {e : VariableError}
    (h : FirstFault items e) (env : Env) : readVariablesOn env items = .error e := by
  obtain ⟨before, item, after, rfl, hbefore, hfault⟩ := h
  -- the items before the fault only change the environment, which the error does not depend on
  induction before generalizing env with
  | nil =>
    have hitem := ((readVariable_exact item).error_iff e).mpr hfault
    simp [readVariablesOn, hitem, bind, Except.bind]
  | cons i before ih =>
    obtain ⟨⟨b, hb⟩, hbefore⟩ := List.forall_mem_cons.mp hbefore
    have hitem := ((readVariable_exact i).ok_iff b).mpr hb
    simp only [List.cons_append, readVariablesOn, hitem, bind, Except.bind]
    exact ih _ hbefore

theorem assigns_or_firstFault (items : List Text) :
    (∃ bs, List.Forall₂ Assigns items bs) ∨ ∃ e, FirstFault items e := by
  induction items with
  | nil => exact Or.inl ⟨[], .nil⟩
  | cons item items ih =>
    rcases assigns_or_fault item with ⟨b, hb⟩ | ⟨e, he⟩
    · rcases ih with ⟨bs, hbs⟩ | ⟨e, before, i, after, rfl, hbefore, he⟩
      · exact Or.inl ⟨b :: bs, .cons hb hbs⟩
      · exact Or.inr ⟨e, item :: before, i, after, rfl,
          List.forall_mem_cons.mpr ⟨⟨b, hb⟩, hbefore⟩, he⟩
    · exact Or.inr ⟨e, [], item, items, rfl, nofun, he⟩

/-- The bindings of items are made in their order, from the first to the last. -/
theorem readVariables_ofList (items : List Text) :
    Exact (fun env => ∃ bs, List.Forall₂ Assigns items bs ∧ Env.ofList bs = env) (FirstFault items)
      (readVariables items) := by
  refine .of_total ?_ (fun e h => readVariablesOn_of_firstFault h _) ?_
  · rintro env ⟨bs, hbs, rfl⟩
    exact readVariablesOn_of_assigns hbs _
  · rcases assigns_or_firstFault items with ⟨bs, hbs⟩ | hfault
    · exact Or.inl ⟨_, bs, hbs, rfl⟩
    · exact Or.inr hfault

theorem exists_forall₂_iff {α β : Type} {R : α → β → Prop} {as : List α} :
    (∃ bs, List.Forall₂ R as bs) ↔ ∀ a ∈ as, ∃ b, R a b := by
  induction as with
  | nil => simp
  | cons a as ih =>
    rw [List.forall_mem_cons, ← ih]
    constructor
    · rintro ⟨_, _ | ⟨hb, hbs⟩⟩
      exact ⟨⟨_, hb⟩, _, hbs⟩
    · rintro ⟨⟨b, hb⟩, bs, hbs⟩
      exact ⟨b :: bs, .cons hb hbs⟩

/-- Every integer that is accepted on the command line can be written. -/
theorem isWritable_of_readVariables {items : List Text} {env : Env}
    (h : readVariables items = .ok env) : ∀ n ∈ env.ints, Numeral.isWritable n = true := by
  obtain ⟨bs, hbs, rfl⟩ := ((readVariables_ofList items).ok_iff env).mp h
  intro n hn
  obtain ⟨b, hb, hn⟩ := Env.mem_ints_ofList hn
  have hitems : ∀ b ∈ bs, ∃ item, Assigns item b := exists_forall₂_iff.mp ⟨items, hbs.flip⟩
  obtain ⟨item, ⟨-, -, valued⟩⟩ := hitems b hb
  exact valued.isWritable n hn

/-- Items are accepted exactly if each of them gives a variable a value.  Then every variable that is
named has the value of its last item, and the variables stand in the order of their first items.
Otherwise the items are refused for what is wrong with the first one that gives no value. -/
theorem readVariables_exact (items : List Text) :
    ((∃ env, readVariables items = .ok env) ↔ ∀ item ∈ items, ∃ b, Assigns item b) ∧
    (∀ env, readVariables items = .ok env → ∃ bs, List.Forall₂ Assigns items bs ∧
      env.names = (bs.map Prod.fst).eraseDups ∧ ∀ x, env.get? x = bs.reverse.lookup x) ∧
    ∀ e, readVariables items = .error e ↔ FirstFault items e := by
  have hexact := readVariables_ofList items
  refine ⟨?_, fun env h => ?_, hexact.error_iff⟩
  · rw [← exists_forall₂_iff]
    constructor
    · rintro ⟨env, h⟩
      obtain ⟨bs, hbs, -⟩ := (hexact.ok_iff env).mp h
      exact ⟨bs, hbs⟩
    · rintro ⟨bs, hbs⟩
      exact ⟨_, (hexact.ok_iff _).mpr ⟨bs, hbs, rfl⟩⟩
  · obtain ⟨bs, hbs, rfl⟩ := (hexact.ok_iff env).mp h
    exact ⟨bs, hbs, Env.names_ofList bs, Env.get?_ofList bs⟩

/-- A variable that is named twice keeps its place and has its last value.  Behind the first equals
sign of an item a second one is part of the value. -/
theorem readVariables_exact_repeated :
    let items : List Text := [" n = +007", "done=true\u00A0", "n=-12\t"]
    let env : Env := ⟨[("n", .int (-12)), ("done", .bool true)]⟩
    readVariables items = .ok env ∧
    (∃ bs, List.Forall₂ Assigns items bs ∧ env.names = (bs.map Prod.fst).eraseDups ∧
      ∀ x, env.get? x = bs.reverse.lookup x) ∧
    FirstFault ["n=1", "m==2", "7"] (.badValue "m" (.notAValue "=2")) := by
  intro items env
  have hread : readVariables items = .ok env := by decide +kernel
  have hrefused : readVariables ["n=1", "m==2", "7"] = .error (.badValue "m" (.notAValue "=2")) := by
    decide +kernel
  exact ⟨hread, (readVariables_exact items).2.1 env hread,
    ((readVariables_exact _).2.2 _).mp hrefused⟩

end Command

end Flowchart
