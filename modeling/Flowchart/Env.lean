import Flowchart.Value

/-! # Environments

An environment binds variables to values.  The bindings keep the order in which their variables
were first bound.
-/

namespace Flowchart

/-- The bindings of variables, in order. -/
structure Env where
  bindings : List (Text × Value)
deriving DecidableEq

namespace Env

/-- The environment without bindings. -/
def empty : Env :=
  ⟨[]⟩

/-- The value of a variable, if it is bound. -/
def get? (env : Env) (x : Text) : Option Value :=
  env.bindings.lookup x

/-- The variables, in order. -/
def names (env : Env) : List Text :=
  env.bindings.map Prod.fst

/-- Binds `x` in a list of bindings: in place if it is there, else at the end. -/
def bind (x : Text) (v : Value) : List (Text × Value) → List (Text × Value)
  | [] => [(x, v)]
  | (y, w) :: bs => if y = x then (y, v) :: bs else (y, w) :: bind x v bs

/-- Binds a variable.  A variable that was bound keeps its place, a new one goes last. -/
def set (env : Env) (x : Text) (v : Value) : Env :=
  ⟨bind x v env.bindings⟩

theorem lookup_bind_self (x : Text) (v : Value) (bs : List (Text × Value)) :
    (bind x v bs).lookup x = some v := by
  induction bs with
  | nil => simp [bind]
  | cons b bs ih =>
    obtain ⟨y, w⟩ := b
    by_cases h : y = x
    · simp [bind, h]
    · have h' : (x == y) = false := by simpa using fun e => h e.symm
      simp [bind, h, List.lookup_cons, h', ih]

theorem lookup_bind_of_ne {x y : Text} (h : y ≠ x) (v : Value) (bs : List (Text × Value)) :
    (bind x v bs).lookup y = bs.lookup y := by
  induction bs with
  | nil =>
    have h' : (y == x) = false := by simpa using h
    simp [bind, List.lookup_cons, h']
  | cons b bs ih =>
    obtain ⟨z, w⟩ := b
    by_cases hz : z = x
    · subst hz
      have h' : (y == z) = false := by simpa using h
      simp [bind, List.lookup_cons, h']
    · simp [bind, hz, List.lookup_cons, ih]

/-- A variable has the value it was bound to last. -/
@[simp] theorem get?_set_self (env : Env) (x : Text) (v : Value) :
    (env.set x v).get? x = some v :=
  lookup_bind_self x v env.bindings

/-- Binding a variable leaves the other ones as they are. -/
theorem get?_set_of_ne (env : Env) {x y : Text} (h : y ≠ x) (v : Value) :
    (env.set x v).get? y = env.get? y :=
  lookup_bind_of_ne h v env.bindings

@[simp] theorem get?_empty (x : Text) : empty.get? x = none := rfl

theorem map_fst_bind (x : Text) (v : Value) (bs : List (Text × Value)) :
    (bind x v bs).map Prod.fst =
      if x ∈ bs.map Prod.fst then bs.map Prod.fst else bs.map Prod.fst ++ [x] := by
  induction bs with
  | nil => simp [bind]
  | cons b bs ih =>
    obtain ⟨y, w⟩ := b
    by_cases h : y = x
    · simp [bind, h]
    · have h' : ¬ x = y := fun e => h e.symm
      simp only [bind, h, if_false, List.map_cons, ih, List.mem_cons, h', false_or]
      split <;> simp

/-- No variable is lost and the order of variables is kept; a new one goes last. -/
theorem names_set (env : Env) (x : Text) (v : Value) :
    (env.set x v).names = if x ∈ env.names then env.names else env.names ++ [x] :=
  map_fst_bind x v env.bindings

theorem mem_names_iff {env : Env} {x : Text} : x ∈ env.names ↔ ∃ v, env.get? x = some v := by
  obtain ⟨bs⟩ := env
  simp only [names, get?]
  induction bs with
  | nil => simp
  | cons b bs ih =>
    obtain ⟨y, w⟩ := b
    by_cases h : x = y
    · simp [h]
    · have h' : (x == y) = false := by simpa using h
      simp only [List.map_cons, List.mem_cons, h, false_or, List.lookup_cons, h', ih]

theorem mem_bind {x y : Text} {v w : Value} {bs : List (Text × Value)} (h : (y, w) ∈ bind x v bs) :
    w = v ∨ (y, w) ∈ bs := by
  induction bs with
  | nil => simp_all [bind]
  | cons b bs ih =>
    obtain ⟨z, u⟩ := b
    by_cases hz : z = x
    · simp only [bind, hz, if_true, List.mem_cons, Prod.mk.injEq] at h
      rcases h with ⟨-, hw⟩ | h
      · exact Or.inl hw
      · exact Or.inr (List.mem_cons_of_mem _ h)
    · simp only [bind, hz, if_false, List.mem_cons] at h
      rcases h with h | h
      · exact Or.inr (h ▸ List.mem_cons_self)
      · exact (ih h).imp_right (List.mem_cons_of_mem _)

/-- The environment of a list of bindings, of which a later one replaces an earlier one. -/
def ofList (bs : List (Text × Value)) : Env :=
  bs.foldl (fun env (x, v) => env.set x v) empty

end Env

/-- The value of an operand.  The only operand without a value is a variable that is not bound;
its name is the error. -/
def Operand.resolve (env : Env) : Operand → Except Text Value
  | .int n => .ok (.int n)
  | .bool b => .ok (.bool b)
  | .name x =>
    match env.get? x with
    | some v => .ok v
    | none => .error x

theorem Operand.resolve_name_eq_ok {env : Env} {x : Text} {v : Value} :
    (Operand.name x).resolve env = .ok v ↔ env.get? x = some v := by
  rw [resolve]
  cases env.get? x <;> simp

end Flowchart
