import Mathlib.Algebra.Group.Nat.Defs
import Flowchart.Proofs.Text.Lines
import Flowchart.Text.Quoted

/-! # Quoted texts that are read back

A literal is read up to the first of its quotes that is not escaped.  The quoted text is a literal
that is read as the text, whatever stands behind it, and it has no control character in it.
-/

namespace Flowchart

theorem CodePoint.value_lt (c : CodePoint) : c.value < 0x110000 := by
  cases c with
  | scalar c =>
    have hvalid : c.toNat.isValidChar := c.valid
    simp only [value]
    rcases hvalid with h | ⟨-, h⟩ <;> omega
  | surrogate offset =>
    simp only [value]
    omega

namespace Text

/-! ## Hexadecimal digits -/

theorem hexValue?_digitChar : ∀ d < 16, hexValue? (.scalar (Nat.digitChar d)) = some d := by
  decide

@[simp] theorem length_hexDigits (width n : Nat) : (hexDigits width n).length = width := by
  induction width generalizing n with
  | zero => rfl
  | succ width ih => simp [hexDigits, ih]

theorem value_of_mem_hexDigits {width n : Nat} {c : CodePoint} (h : c ∈ hexDigits width n) :
    0x20 ≤ c.value := by
  induction width generalizing n with
  | zero => cases h
  | succ width ih =>
    rcases List.mem_append.mp h with h | h
    · exact ih h
    · have hdigit : ∀ d < 16, 0x20 ≤ (CodePoint.scalar (Nat.digitChar d)).value := by decide
      cases List.mem_singleton.mp h
      exact hdigit (n % 16) (Nat.mod_lt n (by decide))

/-- The number of which a text of hexadecimal digits is the numeral. -/
def hexNumber? (ds : Text) : Option Nat :=
  (ds.mapM hexValue?).map fun values => values.foldl (fun n d => 16 * n + d) 0

theorem hexNumber?_append {ds : Text} {d : CodePoint} {n v : Nat} (hds : hexNumber? ds = some n)
    (hd : hexValue? d = some v) : hexNumber? (ds ++ [d]) = some (16 * n + v) := by
  unfold hexNumber? at hds ⊢
  obtain ⟨values, hvalues, rfl⟩ := Option.map_eq_some_iff.mp hds
  simp [List.mapM_append, hvalues, hd]

theorem hexNumber?_hexDigits (width n : Nat) :
    hexNumber? (hexDigits width n) = some (n % 16 ^ width) := by
  induction width generalizing n with
  | zero =>
    rw [Nat.pow_zero, Nat.mod_one]
    rfl
  | succ width ih =>
    have hlast := hexValue?_digitChar (n % 16) (Nat.mod_lt n (by decide))
    rw [hexDigits, hexNumber?_append (ih (n / 16)) hlast, Nat.pow_succ, Nat.mul_comm (16 ^ width),
      Nat.mod_mul, Nat.add_comm]

/-! ## Literals -/

namespace Quoted

/-- The code point that is written by its number in `width` digits, and the length of its escape. -/
def numbered? (width : Nat) (cs : Text) : Option (CodePoint × Nat) :=
  if width ≤ cs.length then
    match hexNumber? (cs.take width) with
    | some n => if n < 0x110000 then some (.ofNat n, width + 1) else none
    | none => none
  else none

/-- The code point that an escape stands for, and the length of the escape without its backslash. -/
def unescape? : Text → Option (CodePoint × Nat)
  | .scalar '\\' :: _ => some ('\\', 1)
  | .scalar '\x27' :: _ => some ('\x27', 1)
  | .scalar '"' :: _ => some ('"', 1)
  | .scalar 'n' :: _ => some ('\n', 1)
  | .scalar 'r' :: _ => some ('\r', 1)
  | .scalar 't' :: _ => some ('\t', 1)
  | .scalar 'x' :: cs => numbered? 2 cs
  | .scalar 'u' :: cs => numbered? 4 cs
  | .scalar 'U' :: cs => numbered? 8 cs
  | _ => none

/-- Reads the rest of a literal, after skipping `skip` characters of an escape: its text up to the
first `quote` that is not escaped, and what stands behind that quote. -/
def readFrom (quote : CodePoint) (skip : Nat) : Text → Option (Text × Text)
  | [] => none
  | c :: cs =>
    match skip with
    | skip + 1 => readFrom quote skip cs
    | 0 =>
      if c = quote then some ([], cs)
      else if c = '\\' then
        match unescape? cs with
        | some (d, length) => (readFrom quote length cs).map fun (t, rest) => (d :: t, rest)
        | none => none
      else (readFrom quote 0 cs).map fun (t, rest) => (c :: t, rest)

/-- Reads the literal with which a text begins: its text, and what stands behind it. -/
def read? : Text → Option (Text × Text)
  | [] => none
  | c :: cs => if c = '\x27' ∨ c = '"' then readFrom c 0 cs else none

theorem readFrom_skip (quote : CodePoint) (n : Nat) (cs : Text) :
    readFrom quote n cs = readFrom quote 0 (cs.drop n) := by
  induction cs generalizing n with
  | nil => simp [readFrom]
  | cons c cs ih =>
    cases n with
    | zero => rfl
    | succ n => rw [List.drop_succ_cons, readFrom, ih]

theorem numbered?_hexDigits {c : CodePoint} {width : Nat} (h : c.value < 16 ^ width) (rest : Text) :
    numbered? width (hexDigits width c.value ++ rest) = some (c, width + 1) := by
  have htake : (hexDigits width c.value ++ rest).take width = hexDigits width c.value := by
    rw [List.take_append_of_le_length (by simp), List.take_of_length_le (by simp)]
  simp [numbered?, htake, hexNumber?_hexDigits, Nat.mod_eq_of_lt h, c.value_lt]

variable {quote c : CodePoint} {rest : Text}

theorem readFrom_backslash {e : Text} (hquote : quote ≠ '\\')
    (he : unescape? (e ++ rest) = some (c, e.length)) :
    readFrom quote 0 (.scalar '\\' :: (e ++ rest)) =
      (readFrom quote 0 rest).map fun (t, rest) => (c :: t, rest) := by
  rw [readFrom, if_neg hquote.symm, if_pos rfl, he]
  simp only [readFrom_skip quote e.length, List.drop_left]

/-- An escaped code point is read back in front of what follows it. -/
theorem readFrom_escape (hquote : quote = '\x27' ∨ quote = '"') :
    readFrom quote 0 (escape quote c ++ rest) =
      (readFrom quote 0 rest).map fun (t, rest) => (c :: t, rest) := by
  have hbackslash : quote ≠ '\\' := by rcases hquote with rfl | rfl <;> decide
  have hescape : ∀ e : Text, unescape? (e ++ rest) = some (c, e.length) →
      readFrom quote 0 (.scalar '\\' :: (e ++ rest)) =
        (readFrom quote 0 rest).map fun (t, rest) => (c :: t, rest) :=
    fun _ => readFrom_backslash hbackslash
  unfold escape
  split
  · rename_i h
    rw [Bool.or_eq_true, decide_eq_true_eq, decide_eq_true_eq] at h
    -- behind a backslash the quote and the backslash stand for themselves
    rcases h with rfl | rfl
    · rcases hquote with rfl | rfl
      · exact hescape ['\x27'] rfl
      · exact hescape ['"'] rfl
    · exact hescape ['\\'] rfl
  · rename_i hplain
    rw [Bool.or_eq_true, decide_eq_true_eq, decide_eq_true_eq, not_or] at hplain
    split
    · subst c; exact hescape ['t'] rfl
    split
    · subst c; exact hescape ['n'] rfl
    split
    · subst c; exact hescape ['r'] rfl
    split
    · simp [readFrom, hplain]
    have hnumbered := fun width (h : c.value < 16 ^ width) => numbered?_hexDigits h rest
    split
    · rename_i h
      exact hescape ('x' :: hexDigits 2 c.value) (by simpa [unescape?] using hnumbered 2 h)
    split
    · rename_i h
      exact hescape ('u' :: hexDigits 4 c.value) (by simpa [unescape?] using hnumbered 4 h)
    · have hvalue := c.value_lt
      exact hescape ('U' :: hexDigits 8 c.value)
        (by simpa [unescape?] using hnumbered 8 (by omega))

theorem quoteFor_eq (t : Text) : quoteFor t = '\x27' ∨ quoteFor t = '"' := by
  unfold quoteFor
  split
  · exact Or.inr rfl
  · exact Or.inl rfl

theorem readFrom_flatMap_escape (hquote : quote = '\x27' ∨ quote = '"') (t rest : Text) :
    readFrom quote 0 (t.flatMap (escape quote) ++ quote :: rest) = some (t, rest) := by
  induction t with
  | nil => simp [readFrom]
  | cons c t ih => rw [List.flatMap_cons, List.append_assoc, readFrom_escape hquote, ih, Option.map_some]

/-- A quoted text is read as that text, up to the quote that closes it. -/
theorem read?_quoted (t rest : Text) : read? (quoted t ++ rest) = some (t, rest) := by
  have hquote := quoteFor_eq t
  simp only [quoted, List.cons_append, List.append_assoc, List.nil_append, read?, if_pos hquote]
  exact readFrom_flatMap_escape hquote t rest

/-! ## Control characters -/

theorem value_of_isPrintable (h : isPrintable c = true) : 0x20 ≤ c.value := by
  unfold isPrintable at h
  split at h
  · exact of_decide_eq_true h
  · omega

theorem inline_escape (hquote : quote = '\x27' ∨ quote = '"') : Inline (escape quote c) := by
  have hnumbered : ∀ (opening : Text) width, Inline opening →
      Inline (opening ++ hexDigits width c.value) :=
    fun _ _ hopening => hopening.append fun _ => value_of_mem_hexDigits
  unfold escape
  split
  · rename_i h
    rw [Bool.or_eq_true, decide_eq_true_eq, decide_eq_true_eq] at h
    rcases h with rfl | rfl
    · rcases hquote with rfl | rfl <;> decide
    · decide
  iterate 3
    split
    · decide
  split
  · rename_i hprintable
    intro d hd
    cases List.mem_singleton.mp hd
    exact value_of_isPrintable hprintable
  split
  · exact hnumbered ['\\', 'x'] 2 (by decide)
  split
  · exact hnumbered ['\\', 'u'] 4 (by decide)
  · exact hnumbered ['\\', 'U'] 8 (by decide)

/-- A quoted text is written on one line. -/
theorem inline_quoted (t : Text) : Inline (quoted t) := by
  have hquote := quoteFor_eq t
  have hends : Inline [quoteFor t] := by rcases hquote with h | h <;> rw [h] <;> decide
  have hescaped : Inline (t.flatMap (escape (quoteFor t))) := by
    intro d hd
    obtain ⟨c, -, hc⟩ := List.mem_flatMap.mp hd
    exact inline_escape hquote d hc
  exact (hends.append hescaped).append hends

end Quoted

end Text

end Flowchart
