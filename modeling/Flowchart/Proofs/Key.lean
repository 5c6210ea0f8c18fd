import Flowchart.Key
import Mathlib.Data.Set.Defs

/-! # Lists of different keys

Keys are compared by what they stand for, so "no key twice" is not `List.Nodup`.  `Key.Distinct`
is the notion that goes with `Key.same`; through `Key.identity` it becomes `Nodup` again, and
`Key.Distinct.length_le` counts with it.  In the same way a renaming of keys is not asked to be
injective: `Key.Faithful` asks it to respect `Key.same` in both directions.
-/

namespace Flowchart.Key

theorem isIn_iff_mem {k : Key} {ks : List Key} :
    k.isIn ks = true ↔ k.identity ∈ ks.map identity := by
  simp [isIn, same_iff]

/-- A key that occurs in a list occurs there under any other spelling. -/
theorem isIn_congr {a b : Key} (h : a.same b = true) (ks : List Key) : a.isIn ks = b.isIn ks := by
  rw [Bool.eq_iff_iff, isIn_iff_mem, isIn_iff_mem, same_iff.mp h]

theorem isIn_of_mem {k : Key} {ks : List Key} (h : k ∈ ks) : k.isIn ks = true :=
  isIn_iff_mem.mpr (List.mem_map_of_mem h)

theorem not_same_of_isIn {a b : Key} {ks : List Key} (ha : a.isIn ks = true)
    (hb : b.isIn ks = false) : a.same b = false := by
  rw [← Bool.not_eq_true]
  intro hsame
  rw [isIn_congr hsame, hb] at ha
  cases ha

/-- The keys of a list are pairwise different. -/
def Distinct (ks : List Key) : Prop :=
  ks.Pairwise fun a b => a.same b = false

@[simp] theorem distinct_nil : Distinct [] := List.Pairwise.nil

theorem distinct_iff_nodup {ks : List Key} : Distinct ks ↔ (ks.map identity).Nodup := by
  rw [List.nodup_iff_pairwise_ne, List.pairwise_map]
  simp [Distinct, same]

theorem distinct_concat {ks : List Key} {k : Key} :
    Distinct (ks ++ [k]) ↔ Distinct ks ∧ k.isIn ks = false := by
  simp [Distinct, List.pairwise_append, isIn]

/-- Different keys that all occur in a list are at most as many as the list is long. -/
theorem Distinct.length_le {ks ls : List Key} (h : Distinct ks)
    (hsub : ∀ k ∈ ks, k.isIn ls = true) : ks.length ≤ ls.length := by
  have hsubset : ks.map identity ⊆ ls.map identity := by
    intro i hi
    obtain ⟨k, hk, rfl⟩ := List.mem_map.mp hi
    exact isIn_iff_mem.mp (hsub k hk)
  simpa using List.Nodup.length_le_of_subset (distinct_iff_nodup.mp h) hsubset

/-- A list of different keys has at most one element exactly if all its keys are the same. -/
theorem Distinct.length_le_one_iff {ks : List Key} (h : Distinct ks) :
    ks.length ≤ 1 ↔ ∀ a ∈ ks, ∀ b ∈ ks, a.same b = true := by
  match ks, h with
  | [], _ => simp
  | [a], _ => simp
  | a :: b :: rest, h =>
    have hab : a.same b = false := (List.pairwise_cons.mp h).1 b List.mem_cons_self
    constructor
    · intro hlen
      simp at hlen
    · intro hall
      have := hall a List.mem_cons_self b (List.mem_cons_of_mem _ List.mem_cons_self)
      simp [hab] at this

/-! ## Renamings -/

/-- A renaming that takes two of the given keys to the same key exactly if they are the same. -/
def Faithful (f : Key → Key) (K : Set Key) : Prop :=
  ∀ a ∈ K, ∀ b ∈ K, (f a).same (f b) = a.same b

theorem faithful_id (K : Set Key) : Faithful id K := fun _ _ _ _ => rfl

theorem Faithful.isIn_map {f : Key → Key} {K : Set Key} (hf : Faithful f K) {k : Key} (hk : k ∈ K)
    {ks : List Key} (hks : ∀ a ∈ ks, a ∈ K) : (f k).isIn (ks.map f) = k.isIn ks := by
  induction ks with
  | nil => rfl
  | cons a ks ih =>
    have ha := hf a (hks a List.mem_cons_self) k hk
    have ih := ih fun b hb => hks b (List.mem_cons_of_mem _ hb)
    rw [List.map_cons, isIn_cons, isIn_cons, ha, ih]

end Flowchart.Key
