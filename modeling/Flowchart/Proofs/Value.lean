import Flowchart.Proofs.Number.Numeral
import Flowchart.Proofs.Text.Lines

/-! # Values that are read back

`Denotes` tells what a text stands for, and `Fault` why it stands for nothing; reading is exact for
both.  A numeral is written with the digits it is read from, so a number comes back as it was: the
text of a value is read as that value, with whatever blanks around it.
-/

namespace Flowchart

/-! ## Numerals -/

namespace Numeral

theorem value_of_isAsciiDigit {ds : Text} (h : ∀ d ∈ ds, Text.isAsciiDigit d = true) :
    value (ds.map Text.digitValue) = Nat.ofDigits 10 (ds.map fun d => d.value - 0x30).reverse := by
  have hvalues : ds.map Text.digitValue = ds.map fun d => d.value - 0x30 :=
    List.map_congr_left fun d hd => Text.digitValue_of_isAsciiDigit (h d hd)
  rw [value_eq_ofDigits, hvalues]

theorem exists_digit_of_mem_text {n : Nat} {c : CodePoint} (h : c ∈ text n) :
    ∃ a : Char, a.isDigit = true ∧ c = .scalar a := by
  obtain ⟨a, ha, rfl⟩ := Text.mem_ofChars.mp h
  exact ⟨a, Nat.isDigit_of_mem_toDigits (by decide) (by decide) ha, rfl⟩

theorem isAsciiDigit_of_mem_text {n : Nat} {c : CodePoint} (h : c ∈ text n) :
    Text.isAsciiDigit c = true := by
  obtain ⟨a, ha, rfl⟩ := exists_digit_of_mem_text h
  exact Text.isAsciiDigit_scalar ha

theorem text_ne_nil (n : Nat) : text n ≠ [] := by
  simp [text, digits, Text.ofChars, Nat.toDigits_ne_nil]

theorem length_text_le {n : Nat} (h : n < 10 ^ maxDigits) : (text n).length ≤ maxDigits := by
  rw [text, Text.ofChars, List.length_map]
  exact (Nat.length_toDigits_le_iff (by decide) (by decide)).mpr h

/-- The digits of a number have that number as their value. -/
theorem value_text (n : Nat) : value ((text n).map Text.digitValue) = n := by
  have hvalues : (text n).map Text.digitValue = (digits n).map fun c => c.toNat - '0'.toNat := by
    rw [text, Text.ofChars, List.map_map]
    apply List.map_congr_left
    intro c hc
    exact Text.digitValue_scalar (Nat.isDigit_of_mem_toDigits (by decide) (by decide) hc)
  rw [hvalues, value, List.foldl_map, digits, ← Nat.ofDigitChars_eq_foldl]
  exact Nat.ofDigitChars_ten_toDigits

theorem read_text {n : Nat} (h : n < 10 ^ maxDigits) :
    read ((text n).map Text.digitValue) = .ok n := by
  have hlength : ¬ maxDigits < ((text n).map Text.digitValue).length := by
    rw [List.length_map, not_lt]
    exact length_text_le h
  rw [read, if_neg hlength, value_text]

theorem write_eq_ok_iff {n : Int} {t : Text} :
    write n = .ok t ↔ n.natAbs < 10 ^ maxDigits ∧ t = signed n := by
  unfold write
  split
  · rename_i h
    simp [isWritable_iff.mp h, eq_comm]
  · rename_i h
    simp [← isWritable_iff, h]

/-- A numeral is made of ASCII digits behind a minus sign at most. -/
theorem value_of_mem_signed {n : Int} {c : CodePoint} (h : c ∈ signed n) :
    c.value = 0x2D ∨ 0x30 ≤ c.value ∧ c.value ≤ 0x39 := by
  have hdigit : ∀ {m : Nat}, c ∈ text m → 0x30 ≤ c.value ∧ c.value ≤ 0x39 := by
    intro m hm
    simpa [Text.isAsciiDigit] using isAsciiDigit_of_mem_text hm
  unfold signed at h
  split at h
  · rcases List.mem_cons.mp h with rfl | h
    · exact Or.inl rfl
    · exact Or.inr (hdigit h)
  · exact Or.inr (hdigit h)

end Numeral

/-! ## Exact results -/

/-- A computation that gives exactly what `P` says, and fails exactly for the reason that `Q` says. -/
structure Exact {α ε : Type} (P : α → Prop) (Q : ε → Prop) (x : Except ε α) : Prop where
  ok_iff (a : α) : x = .ok a ↔ P a
  error_iff (e : ε) : x = .error e ↔ Q e

/-- If there is always a result or a reason, no other ones have to be ruled out. -/
theorem Exact.of_total {α ε : Type} {P : α → Prop} {Q : ε → Prop} {x : Except ε α}
    (ok : ∀ a, P a → x = .ok a) (error : ∀ e, Q e → x = .error e)
    (total : (∃ a, P a) ∨ ∃ e, Q e) : Exact P Q x := by
  rcases total with ⟨a, ha⟩ | ⟨e, he⟩
  · have hx := ok a ha
    refine ⟨fun b => ⟨fun h => ?_, ok b⟩, fun e => ⟨fun h => ?_, error e⟩⟩
    · cases hx.symm.trans h
      exact ha
    · cases hx.symm.trans h
  · have hx := error e he
    refine ⟨fun a => ⟨fun h => ?_, ok a⟩, fun d => ⟨fun h => ?_, error d⟩⟩
    · cases hx.symm.trans h
    · cases hx.symm.trans h
      exact he

/-! ## Texts that are read -/

namespace Value

/-- A text of digits with a sign before them, which may be missing. -/
inductive Signed (ds : Text) : Bool → Text → Prop
  | unsigned : Signed ds false ds
  | plus : Signed ds false (.scalar '+' :: ds)
  | minus : Signed ds true (.scalar '-' :: ds)

/-- A text of an integer, however long: ASCII digits, at least one, and their sign. -/
structure IsNumeral (t : Text) (negative : Bool) (ds : Text) : Prop where
  signed : Signed ds negative t
  nonempty : ds ≠ []
  digits : ∀ d ∈ ds, Text.isAsciiDigit d = true

/-- The integer whose digits and sign are given. -/
def decimal (negative : Bool) (ds : Text) : Int :=
  let magnitude : Nat := Nat.ofDigits 10 (ds.map fun d => d.value - 0x30).reverse
  if negative then -(magnitude : Int) else magnitude

/-- What a text without blanks around it stands for. -/
inductive Denotes : Text → Value → Prop
  | yes : Denotes "true" (.bool true)
  | no : Denotes "false" (.bool false)
  | int {t : Text} {negative : Bool} {ds : Text} (numeral : IsNumeral t negative ds)
      (short : ds.length ≤ maxDigits) : Denotes t (.int (decimal negative ds))

/-- Why a text without blanks around it stands for no value. -/
inductive Fault (t : Text) : ReadError → Prop
  | notAValue (noWord : t ≠ "true" ∧ t ≠ "false")
      (noNumeral : ∀ negative ds, ¬ IsNumeral t negative ds) : Fault t (.notAValue t)
  | limit {negative : Bool} {ds : Text} (numeral : IsNumeral t negative ds)
      (long : maxDigits < ds.length) : Fault t (.limit (.tooLongToRead ds.length))

theorem splitSign_of_digits {ds : Text} (h : ∀ c ∈ ds, Text.isAsciiDigit c = true) :
    splitSign ds = (false, ds) := by
  unfold splitSign
  split
  · exact absurd (h _ List.mem_cons_self) (by decide)
  · exact absurd (h _ List.mem_cons_self) (by decide)
  · rfl

theorem signed_splitSign (t : Text) : Signed (splitSign t).2 (splitSign t).1 t := by
  unfold splitSign
  split
  · exact .minus
  · exact .plus
  · exact .unsigned

variable {t ds : Text} {negative : Bool}

theorem IsNumeral.splitSign_eq (h : IsNumeral t negative ds) : splitSign t = (negative, ds) := by
  cases h.signed with
  | unsigned => exact splitSign_of_digits h.digits
  | plus | minus => rfl

theorem readInt?_eq_none_iff : readInt? t = none ↔ ∀ negative ds, ¬ IsNumeral t negative ds := by
  constructor
  · intro hnone negative ds h
    have hdigits : ds.all Text.isAsciiDigit = true := List.all_eq_true.mpr h.digits
    simp [readInt?, h.splitSign_eq, h.nonempty, hdigits] at hnone
  · intro h
    by_contra hsome
    -- otherwise what stands behind the sign is a text of digits
    simp only [readInt?, ite_eq_right_iff, reduceCtorEq, imp_false, not_not, Bool.and_eq_true,
      Bool.not_eq_true', List.isEmpty_eq_false_iff, List.all_eq_true] at hsome
    exact h _ _ ⟨signed_splitSign t, hsome.1, hsome.2⟩

theorem IsNumeral.readInt?_eq (h : IsNumeral t negative ds) :
    readInt? t = some (if maxDigits < ds.length then .error (.tooLongToRead ds.length)
      else .ok (decimal negative ds)) := by
  have hdigits : ds.all Text.isAsciiDigit = true := List.all_eq_true.mpr h.digits
  have hnonempty : ds.isEmpty = false := List.isEmpty_eq_false_iff.mpr h.nonempty
  have hvalue := Numeral.value_of_isAsciiDigit h.digits
  simp only [readInt?, h.splitSign_eq, hdigits, hnonempty, Numeral.read, List.length_map]
  by_cases hlong : maxDigits < ds.length
  · simp [hlong]
  · simp [hlong, hvalue, decimal]

/-- A numeral is neither of the two words. -/
theorem IsNumeral.ne_word (h : IsNumeral t negative ds) : t ≠ "true" ∧ t ≠ "false" := by
  -- without a sign all of its characters would be digits
  have hword : ∀ w : Text, splitSign w = (false, w) →
      ¬ (∀ d ∈ w, Text.isAsciiDigit d = true) → t ≠ w := by
    rintro w hsplit hletter rfl
    obtain ⟨-, rfl⟩ := Prod.mk.inj (hsplit.symm.trans h.splitSign_eq)
    exact hletter h.digits
  exact ⟨hword "true" rfl (by decide), hword "false" rfl (by decide)⟩

theorem denotes_or_fault (t : Text) : (∃ v, Denotes t v) ∨ ∃ e, Fault t e := by
  by_cases htrue : t = "true"
  · rw [htrue]
    exact Or.inl ⟨_, .yes⟩
  by_cases hfalse : t = "false"
  · rw [hfalse]
    exact Or.inl ⟨_, .no⟩
  by_cases hnumeral : ∃ negative ds, IsNumeral t negative ds
  · obtain ⟨negative, ds, h⟩ := hnumeral
    rcases le_or_gt ds.length maxDigits with hshort | hlong
    · exact Or.inl ⟨_, .int h hshort⟩
    · exact Or.inr ⟨_, .limit h hlong⟩
  · exact Or.inr ⟨_, .notAValue ⟨htrue, hfalse⟩ fun negative ds h => hnumeral ⟨negative, ds, h⟩⟩

/-- A text is read as what it stands for without the blanks around it, and refused if it stands for
nothing. -/
theorem read_exact (t : Text) : Exact (Denotes (Text.strip t)) (Fault (Text.strip t)) (read t) := by
  refine .of_total ?_ ?_ (denotes_or_fault _)
  · intro v h
    generalize hstrip : Text.strip t = s at h
    cases h with
    | yes => simp [read, hstrip]
    | no => simp [read, hstrip]
    | int numeral short =>
      simp [read, hstrip, numeral.ne_word, numeral.readInt?_eq, not_lt.mpr short]
  · intro e h
    cases h with
    | notAValue noWord noNumeral =>
      simp [read, noWord, readInt?_eq_none_iff.mpr noNumeral]
    | limit numeral long => simp [read, numeral.ne_word, numeral.readInt?_eq, long]

/-- An integer that a text stands for can be written. -/
theorem Denotes.isWritable {v : Value} (h : Denotes t v) :
    ∀ n ∈ v.ints, Numeral.isWritable n = true := by
  cases h with
  | yes | no => nofun
  | @int _ negative ds numeral short =>
    have hread : Numeral.read (ds.map Text.digitValue) = .ok (Numeral.value (ds.map Text.digitValue)) :=
      Numeral.read_eq_ok_iff.mpr ⟨by simpa using short, rfl⟩
    have hwritable := Numeral.isWritable_of_read hread
    rw [Numeral.value_of_isAsciiDigit numeral.digits] at hwritable
    simp only [ints, List.mem_singleton, forall_eq, decimal]
    split
    · exact Numeral.isWritable_neg _ hwritable
    · exact hwritable

/-! ## Texts that are written -/

theorem text_eq_ok_iff {v : Value} {t : Text} :
    v.text = .ok t ↔ (∃ n : Int, v = .int n ∧ n.natAbs < 10 ^ maxDigits ∧ t = Numeral.signed n) ∨
      v = .bool true ∧ t = "true" ∨ v = .bool false ∧ t = "false" := by
  cases v with
  | int n => simp [text, Numeral.write_eq_ok_iff]
  | bool b => cases b <;> simp [text, eq_comm]

/-- No character of the text of a value is blank, nor one by which items or lines are split. -/
theorem value_of_mem_text {v : Value} {t : Text} (h : v.text = .ok t) {c : CodePoint}
    (hc : c ∈ t) : 0x20 < c.value ∧ c.value < 0x7F ∧ c.value ≠ 0x3D := by
  rcases text_eq_ok_iff.mp h with ⟨n, rfl, -, rfl⟩ | ⟨rfl, rfl⟩ | ⟨rfl, rfl⟩
  · have := Numeral.value_of_mem_signed hc
    omega
  · revert c
    decide
  · revert c
    decide

theorem trimmed_text {v : Value} {t : Text} (h : v.text = .ok t) : Text.Trimmed t := by
  have hblank : ∀ c ∈ t, Text.isBlank c = false := by
    intro c hc
    have := value_of_mem_text h hc
    exact Text.isBlank_eq_false (by omega) (by omega)
  exact ⟨fun c hc => hblank c (List.mem_of_head? hc), fun c hc => hblank c (List.mem_of_getLast? hc)⟩

theorem isNumeral_signed (n : Int) :
    IsNumeral (Numeral.signed n) (decide (n < 0)) (Numeral.text n.natAbs) := by
  refine ⟨?_, Numeral.text_ne_nil _, fun _ => Numeral.isAsciiDigit_of_mem_text⟩
  by_cases h : n < 0
  · simpa [Numeral.signed, h] using Signed.minus
  · simpa [Numeral.signed, h] using Signed.unsigned

theorem decimal_text (n : Int) : decimal (decide (n < 0)) (Numeral.text n.natAbs) = n := by
  have hdigits : ∀ d ∈ Numeral.text n.natAbs, Text.isAsciiDigit d = true :=
    fun _ => Numeral.isAsciiDigit_of_mem_text
  rw [decimal, ← Numeral.value_of_isAsciiDigit hdigits, Numeral.value_text]
  by_cases h : n < 0
  · simp only [h, decide_true, if_true]
    omega
  · simp only [h, decide_false, Bool.false_eq_true, if_false]
    omega

theorem denotes_text {v : Value} {t : Text} (h : v.text = .ok t) : Denotes t v := by
  rcases text_eq_ok_iff.mp h with ⟨n, rfl, hn, rfl⟩ | ⟨rfl, rfl⟩ | ⟨rfl, rfl⟩
  · have hdenotes := Denotes.int (isNumeral_signed n) (Numeral.length_text_le hn)
    rwa [decimal_text] at hdenotes
  · exact .yes
  · exact .no

/-- The text of a value is read as that value, with any blanks around it. -/
theorem read_text {v : Value} {t before after : Text} (h : v.text = .ok t)
    (hbefore : ∀ c ∈ before, Text.isBlank c = true) (hafter : ∀ c ∈ after, Text.isBlank c = true) :
    read (before ++ t ++ after) = .ok v := by
  rw [(read_exact _).ok_iff, Text.strip_append (trimmed_text h) hbefore hafter]
  exact denotes_text h

end Value

end Flowchart
