import Mathlib.Data.List.TakeWhile
import Flowchart.Text.Blank
import Flowchart.Text.Digit
import Flowchart.Text.LowerCase

/-! # Lines, blanks and digits

What was put together from lines comes apart into the same lines, if none of them holds a line feed,
and then it has as many line feeds as lines.  Blanks around a text that is `Trimmed` are what is
stripped from it, and lower case brings no blank in.  The ASCII digits are decimal digits with their
own values, and no letter is a digit or blank.
-/

namespace Flowchart

/-- A number that is none of a code point is taken for that of the null character. -/
theorem CodePoint.value_ofNat (n : Nat) : (ofNat n).value = n ∨ (ofNat n).value = 0 := by
  unfold ofNat
  split
  · left
    simp only [value]
    omega
  · by_cases hvalid : n.isValidChar
    · rw [value, Char.ofNat, dif_pos hvalid]
      exact Or.inl rfl
    · rw [value, Char.ofNat, dif_neg hvalid]
      exact Or.inr rfl

namespace Text

theorem mem_ofChars {c : CodePoint} {cs : List Char} :
    c ∈ ofChars cs ↔ ∃ a ∈ cs, CodePoint.scalar a = c := by
  simp [ofChars]

/-! ## Lines -/

/-- The lines of a text; the last one has no line feed behind it. -/
def lines (t : Text) : List Text :=
  t.splitOn '\n'

theorem lines_append (s t : Text) : lines (s ++ .scalar '\n' :: t) = lines s ++ lines t :=
  List.splitOn_append_cons_self s t

theorem lines_of_not_mem {t : Text} (h : .scalar '\n' ∉ t) : lines t = [t] :=
  List.splitOn_eq_singleton h

theorem lines_joinWith {ls : List Text} (nonempty : ls ≠ []) (h : ∀ l ∈ ls, .scalar '\n' ∉ l) :
    lines (joinWith "\n" ls) = ls := by
  induction ls with
  | nil => exact absurd rfl nonempty
  | cons l ls ih =>
    obtain ⟨hl, hls⟩ := List.forall_mem_cons.mp h
    cases ls with
    | nil => exact lines_of_not_mem hl
    | cons l' ls =>
      have hjoin : joinWith "\n" (l :: l' :: ls) = l ++ .scalar '\n' :: joinWith "\n" (l' :: ls) := by
        simp [joinWith, ofString, ofChars]
      rw [hjoin, lines_append, lines_of_not_mem hl, ih (by simp) hls, List.singleton_append]

/-- The lines of a list, each with a line feed behind it. -/
def unlines (ls : List Text) : Text :=
  ls.flatMap fun l => l ++ [.scalar '\n']

theorem unlines_append (ls ls' : List Text) : unlines (ls ++ ls') = unlines ls ++ unlines ls' :=
  List.flatMap_append

/-- Behind the line feed at the end stands an empty line. -/
theorem lines_unlines {ls : List Text} (h : ∀ l ∈ ls, .scalar '\n' ∉ l) :
    lines (unlines ls) = ls ++ [[]] := by
  induction ls with
  | nil => rfl
  | cons l ls ih =>
    obtain ⟨hl, hls⟩ := List.forall_mem_cons.mp h
    have hcons : unlines (l :: ls) = l ++ .scalar '\n' :: unlines ls := by simp [unlines]
    rw [hcons, lines_append, lines_of_not_mem hl, ih hls, List.singleton_append, List.cons_append]

theorem joinWith_append_lineFeed {ls : List Text} (nonempty : ls ≠ []) :
    joinWith "\n" ls ++ "\n" = unlines ls := by
  induction ls with
  | nil => exact absurd rfl nonempty
  | cons l ls ih =>
    cases ls with
    | nil => simp [joinWith, unlines, ofString, ofChars]
    | cons l' ls =>
      rw [joinWith, List.append_assoc, ih (List.cons_ne_nil _ _)]
      · simp [unlines, ofString, ofChars]
      · exact List.cons_ne_nil _ _

theorem count_lineFeed_unlines {ls : List Text} (h : ∀ l ∈ ls, .scalar '\n' ∉ l) :
    (unlines ls).count (.scalar '\n') = ls.length := by
  induction ls with
  | nil => rfl
  | cons l ls ih =>
    obtain ⟨hl, hls⟩ := List.forall_mem_cons.mp h
    have hrest := ih hls
    simp only [unlines] at hrest
    simp [unlines, List.count_eq_zero_of_not_mem hl, hrest]

/-- The texts without ASCII control characters, each of which stays on one line. -/
def Inline (t : Text) : Prop :=
  ∀ c ∈ t, 0x20 ≤ c.value

instance : DecidablePred Inline :=
  fun t => inferInstanceAs (Decidable (∀ c ∈ t, 0x20 ≤ c.value))

theorem Inline.append {s t : Text} (hs : Inline s) (ht : Inline t) : Inline (s ++ t) := by
  intro c hc
  exact (List.mem_append.mp hc).elim (hs c) (ht c)

theorem Inline.joinWith {separator : Text} (hseparator : Inline separator) {ts : List Text}
    (h : ∀ t ∈ ts, Inline t) : Inline (joinWith separator ts) := by
  induction ts with
  | nil => nofun
  | cons t ts ih =>
    obtain ⟨ht, hts⟩ := List.forall_mem_cons.mp h
    cases ts with
    | nil => exact ht
    | cons t' ts => exact (ht.append hseparator).append (ih hts)

theorem Inline.not_mem {t : Text} (h : Inline t) {c : CodePoint} (hc : c.value < 0x20) : c ∉ t :=
  fun hmem => Nat.not_lt.mpr (h c hmem) hc

theorem Inline.lineFeed_not_mem {t : Text} (h : Inline t) : .scalar '\n' ∉ t :=
  h.not_mem (by decide)

/-! ## Blanks -/

/-- A text with no blank at its ends. -/
structure Trimmed (t : Text) : Prop where
  head : ∀ c ∈ t.head?, isBlank c = false
  last : ∀ c ∈ t.getLast?, isBlank c = false

/-- Blanks around a trimmed text are stripped off, and nothing else is. -/
theorem strip_append {before t after : Text} (trimmed : Trimmed t)
    (hbefore : ∀ c ∈ before, isBlank c = true) (hafter : ∀ c ∈ after, isBlank c = true) :
    strip (before ++ t ++ after) = t := by
  have hreversed : ∀ c ∈ after.reverse, isBlank c = true := by simpa using hafter
  rw [strip, List.append_assoc, List.dropWhile_append_of_pos hbefore]
  cases t with
  | nil =>
    -- the blanks behind the text are then taken for blanks in front of it
    have hnothing : (after ++ []).dropWhile isBlank = [] := by
      rw [List.dropWhile_append_of_pos hafter]
      rfl
    rw [List.append_nil] at hnothing
    simp [hnothing]
  | cons c cs =>
    have hhead : isBlank c = false := trimmed.head c rfl
    rw [List.cons_append, List.dropWhile_cons_of_neg (by simp [hhead]), ← List.cons_append,
      List.reverse_append, List.dropWhile_append_of_pos hreversed]
    -- read backwards, the text begins with its last character
    have hlast : ∀ d ∈ (c :: cs).reverse.head?, isBlank d = false := by
      rw [List.head?_reverse]
      exact trimmed.last
    cases hreverse : (c :: cs).reverse with
    | nil => simp at hreverse
    | cons d ds =>
      rw [hreverse] at hlast
      rw [List.dropWhile_cons_of_neg (by simp [hlast d rfl]), ← hreverse, List.reverse_reverse]

/-- Only of a text of blanks nothing is left. -/
theorem strip_eq_nil_iff {t : Text} : strip t = [] ↔ ∀ c ∈ t, isBlank c = true := by
  constructor
  · intro h
    have hall : ∀ c ∈ t.dropWhile isBlank, isBlank c = true := by
      simpa [strip, List.dropWhile_eq_nil_iff] using h
    intro c hc
    rw [← List.takeWhile_append_dropWhile (p := isBlank) (l := t)] at hc
    rcases List.mem_append.mp hc with hc | hc
    · exact List.all_eq_true.mp List.all_takeWhile c hc
    · exact hall c hc
  · intro h
    have hnothing : strip (t ++ [] ++ []) = [] := strip_append ⟨nofun, nofun⟩ h nofun
    simpa using hnothing

/-! ## Lower case -/

/-- The lower-case forms of the capitals of a run lie apart from the blanks. -/
theorem capitalRuns_apart : ∀ r ∈ capitalRuns, ∀ s ∈ blankSpans,
    r.last + r.shift < s.first ∨ (s.last : Int) < r.first + r.shift := by
  decide +kernel

theorem isBlank_eq_false_iff {c : CodePoint} :
    isBlank c = false ↔ ∀ s ∈ blankSpans, c.value < s.first ∨ s.last < c.value := by
  simp only [isBlank, Span.covered, Span.covers, List.any_eq_false, Bool.and_eq_true,
    decide_eq_true_eq]
  constructor <;> intro h s hs <;> have := h s hs <;> omega

theorem CapitalRun.isBlank_lower {r : CapitalRun} (hr : r ∈ capitalRuns) {c : CodePoint}
    (hc : r.covers c = true) : isBlank (r.lower c) = false := by
  simp only [CapitalRun.covers, Bool.and_eq_true, decide_eq_true_eq] at hc
  rw [isBlank_eq_false_iff]
  intro s hs
  have hapart := capitalRuns_apart r hr s hs
  have hpositive : 0 < s.first := (by decide : ∀ s ∈ blankSpans, 0 < s.first) s hs
  rcases CodePoint.value_ofNat (c.value + r.shift).toNat with hvalue | hvalue
  · rw [CapitalRun.lower, hvalue]
    omega
  · rw [CapitalRun.lower, hvalue]
    exact Or.inl hpositive

theorem isBlank_of_mem_lowerChar {before after : Text} {c d : CodePoint} (hc : isBlank c = false)
    (hd : d ∈ lowerChar before c after) : isBlank d = false := by
  unfold lowerChar at hd
  split at hd
  · revert d
    decide
  split at hd
  · split at hd <;> cases List.mem_singleton.mp hd <;> decide
  split at hd
  · rename_i r hr
    cases List.mem_singleton.mp hd
    exact CapitalRun.isBlank_lower (List.mem_of_find?_eq_some hr) (by simpa using List.find?_some hr)
  · cases List.mem_singleton.mp hd
    exact hc

theorem isBlank_of_mem_lower {t : Text} (h : ∀ c ∈ t, isBlank c = false) :
    ∀ c ∈ lower t, isBlank c = false := by
  suffices hafter : ∀ before, ∀ c ∈ lowerAfter before t, isBlank c = false from hafter []
  induction t with
  | nil => nofun
  | cons c t ih =>
    obtain ⟨hc, ht⟩ := List.forall_mem_cons.mp h
    intro before d hd
    rcases List.mem_append.mp hd with hd | hd
    · exact isBlank_of_mem_lowerChar hc hd
    · exact ih ht (c :: before) d hd

/-! ## Classes of characters -/

theorem takeWhile_append_of_head {α : Type} {p : α → Bool} {xs rest : List α}
    (hxs : ∀ x ∈ xs, p x = true) (hrest : ∀ x ∈ rest.head?, p x = false) :
    (xs ++ rest).takeWhile p = xs := by
  rw [List.takeWhile_append_of_pos hxs]
  cases rest with
  | nil => simp
  | cons y rest => simp [hrest y rfl]

theorem isBlank_eq_false {c : CodePoint} (low : 0x20 < c.value) (high : c.value < 0x85) :
    isBlank c = false := by
  simp [isBlank, blankSpans, Span.covered, Span.covers]
  omega

theorem digitSpans_first : ∀ s ∈ digitSpans, s = ⟨0x30, 0x39⟩ ∨ 0x660 ≤ s.first := by
  decide

/-- The only decimal digits before U+0660 are the ASCII digits. -/
theorem digitValue?_of_lt {c : CodePoint} (h : c.value < 0x660) :
    digitValue? c = if isAsciiDigit c then some (c.value - 0x30) else none := by
  unfold digitValue? isAsciiDigit
  split
  · rename_i hdigit
    simp only [Bool.and_eq_true, decide_eq_true_eq] at hdigit
    have hcovers : Span.covers ⟨0x30, 0x39⟩ c = true := by simp [Span.covers, hdigit]
    simp only [digitSpans, List.find?_cons, hcovers, Option.map_some, Option.some.injEq]
    omega
  · rename_i hdigit
    rw [Option.map_eq_none_iff, List.find?_eq_none]
    intro s hs hcovers
    simp only [Span.covers, Bool.and_eq_true, decide_eq_true_eq] at hcovers hdigit
    rcases digitSpans_first s hs with rfl | hfirst
    · exact hdigit hcovers
    · omega

theorem isAsciiDigit_scalar {c : Char} (h : c.isDigit = true) : isAsciiDigit c = true := by
  simp only [Char.isDigit, Bool.and_eq_true, decide_eq_true_eq, ge_iff_le,
    UInt32.le_iff_toNat_le] at h
  rw [isAsciiDigit, Bool.and_eq_true]
  exact ⟨decide_eq_true h.1, decide_eq_true h.2⟩

theorem digitValue_of_isAsciiDigit {c : CodePoint} (h : isAsciiDigit c = true) :
    digitValue c = c.value - 0x30 := by
  have hrange : c.value < 0x660 := by
    simp only [isAsciiDigit, Bool.and_eq_true, decide_eq_true_eq] at h
    omega
  rw [digitValue, digitValue?_of_lt hrange, if_pos h, Option.getD_some]

theorem digitValue?_scalar {c : Char} (h : c.isDigit = true) :
    digitValue? c = some (c.toNat - '0'.toNat) := by
  have hdigit := isAsciiDigit_scalar h
  have hrange : (CodePoint.scalar c).value < 0x660 := by
    simp only [isAsciiDigit, Bool.and_eq_true, decide_eq_true_eq] at hdigit
    omega
  rw [digitValue?_of_lt hrange, if_pos hdigit]
  rfl

theorem digitValue_scalar {c : Char} (h : c.isDigit = true) :
    digitValue c = c.toNat - '0'.toNat := by
  rw [digitValue, digitValue?_scalar h, Option.getD_some]

theorem isDigit_scalar {c : Char} (h : c.isDigit = true) : isDigit c = true := by
  rw [isDigit, digitValue?_scalar h, Option.isSome_some]

end Text

end Flowchart
