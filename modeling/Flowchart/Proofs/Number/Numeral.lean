import Mathlib.Data.Nat.Digits.Defs
import Flowchart.Env
import Flowchart.Proofs.Expr.Grammar

/-! # Integers that can be written

Reading and writing are limited to the same number of digits, so whatever was read can be written
again, as the numerals in expressions show.  A quotient needs no more digits than its dividend.  Sums,
differences and products can need more.
-/

namespace Flowchart

/-! ## Numerals -/

theorem Text.digitValue_lt (c : CodePoint) : digitValue c < 10 := by
  unfold digitValue digitValue?
  cases digitSpans.find? (·.covers c) with
  | none => simp
  | some s => simpa using Nat.mod_lt _ (by decide)

namespace Numeral

theorem value_eq_ofDigits (ds : List Nat) : value ds = Nat.ofDigits 10 ds.reverse := by
  simp only [value, Nat.ofDigits_eq_foldr, List.foldr_reverse, Nat.cast_id, Nat.add_comm]

theorem value_lt {ds : List Nat} (h : ∀ d ∈ ds, d < 10) : value ds < 10 ^ ds.length := by
  rw [value_eq_ofDigits, ← List.length_reverse]
  exact Nat.ofDigits_lt_base_pow_length (by decide) fun d hd => h d (List.mem_reverse.mp hd)

theorem isWritable_iff {n : Int} : isWritable n = true ↔ n.natAbs < 10 ^ maxDigits := by
  rw [isWritable, decide_eq_true_eq, Nat.pow_eq]

theorem isWritable_of_natAbs_le {m n : Int} (h : m.natAbs ≤ n.natAbs) (hn : isWritable n = true) :
    isWritable m = true :=
  isWritable_iff.mpr (lt_of_le_of_lt h (isWritable_iff.mp hn))

theorem isWritable_neg (n : Int) (h : isWritable n = true) : isWritable (-n) = true :=
  isWritable_of_natAbs_le (Int.natAbs_neg n).le h

theorem isWritable_tdiv (a b : Int) (h : isWritable a = true) : isWritable (a.tdiv b) = true := by
  refine isWritable_of_natAbs_le ?_ h
  rw [Int.natAbs_tdiv]
  exact Nat.div_le_self _ _

theorem read_eq_ok_iff {ds : List Nat} {n : Nat} :
    read ds = .ok n ↔ ds.length ≤ maxDigits ∧ n = value ds := by
  unfold read
  split
  · simp only [reduceCtorEq, false_iff]
    omega
  · simp only [Except.ok.injEq]
    exact ⟨fun h => ⟨by omega, h.symm⟩, fun h => h.2.symm⟩

/-- What can be read can be written. -/
theorem isWritable_of_read {cs : Text} {n : Nat} (h : read (cs.map Text.digitValue) = .ok n) :
    isWritable n = true := by
  obtain ⟨hlength, rfl⟩ := read_eq_ok_iff.mp h
  have hvalue : value (cs.map Text.digitValue) < 10 ^ (cs.map Text.digitValue).length := by
    apply value_lt
    intro d hd
    obtain ⟨c, -, rfl⟩ := List.mem_map.mp hd
    exact Text.digitValue_lt c
  rw [isWritable_iff, Int.natAbs_natCast]
  exact lt_of_lt_of_le hvalue (Nat.pow_le_pow_right (by decide) hlength)

end Numeral

/-! ## Values of variables -/

/-- The integer that a value is, if it is one. -/
def Value.ints : Value → List Int
  | .int n => [n]
  | .bool _ => []

/-- The integers among the values of variables. -/
def Env.ints (env : Env) : List Int :=
  env.bindings.flatMap (·.2.ints)

theorem Env.mem_ints_set {env : Env} {x : Text} {v : Value} {n : Int}
    (h : n ∈ (env.set x v).ints) : n ∈ v.ints ∨ n ∈ env.ints := by
  obtain ⟨⟨y, w⟩, hmem, hn⟩ := List.mem_flatMap.mp h
  rcases mem_bind hmem with rfl | hmem
  · exact Or.inl hn
  · exact Or.inr (List.mem_flatMap.mpr ⟨_, hmem, hn⟩)

theorem Env.mem_ints_of_get? {env : Env} {x : Text} {n : Int} (h : env.get? x = some (.int n)) :
    n ∈ env.ints := by
  obtain ⟨before, after, hbindings, -⟩ := List.lookup_eq_some_iff.mp h
  refine List.mem_flatMap.mpr ⟨(x, .int n), ?_, List.mem_singleton.mpr rfl⟩
  rw [hbindings]
  simp

/-! ## Numerals in expressions -/

namespace Lexer

theorem isWritable_of_front {c : CodePoint} {cs : Text} {n length : Nat}
    (h : front c cs = .lexeme (.int n) length) : Numeral.isWritable n = true := by
  unfold front at h
  split at h
  · cases hread : Numeral.read ((c :: cs.takeWhile Text.isDigit).map Text.digitValue) with
    | error e => simp only [hread, reduceCtorEq] at h
    | ok m =>
      simp only [hread, Front.lexeme.injEq, Token.int.injEq] at h
      exact h.1 ▸ Numeral.isWritable_of_read hread
  · split at h
    · simp only [Front.lexeme.injEq, word] at h
      split at h
      · cases h.1
      · split at h <;> cases h.1
    · split at h
      · rename_i hoperator
        simp only [Front.lexeme.injEq] at h
        obtain ⟨rfl, -⟩ := h
        unfold operator? at hoperator
        split at hoperator <;> cases hoperator
      · cases h

theorem isWritable_of_lexFrom {position skip : Nat} {cs : Text} {l : Lexeme} {n : Nat}
    (h : l ∈ (lexFrom position skip cs).lexemes) (hint : l.token = .int n) :
    Numeral.isWritable n = true := by
  induction cs generalizing position skip with
  | nil => simp [lexFrom] at h
  | cons c cs ih =>
    cases skip with
    | succ skip => exact ih h
    | zero =>
      rw [lexFrom] at h
      split at h
      · exact ih h
      · split at h
        · rename_i hfront
          rcases List.mem_cons.mp h with rfl | h
          · cases hint
            exact isWritable_of_front hfront
          · exact ih h
        · simp at h
        · simp at h

end Lexer

/-- An integer that is assigned by an expression can be written. -/
theorem Expr.isWritable_of_parse {text x : Text} {n : Nat}
    (h : parse text = .ok (.assignment x (.int n))) : Numeral.isWritable n = true := by
  obtain ⟨-, hsentence⟩ := sentence_of_parse h
  generalize htokens : (lex text).lexemes.map (·.token) = ts at hsentence
  cases hsentence with
  | assignInt =>
    have hmem : Token.int n ∈ (lex text).lexemes.map (·.token) := by simp [htokens]
    obtain ⟨l, hl, hint⟩ := List.mem_map.mp hmem
    exact Lexer.isWritable_of_lexFrom hl hint

end Flowchart
