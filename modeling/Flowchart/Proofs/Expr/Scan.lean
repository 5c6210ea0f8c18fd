import Flowchart.Proofs.Expr.Limit
import Flowchart.Proofs.Expr.Spelling
import Flowchart.Proofs.Number.Numeral

/-! # The cutting of a text into lexemes

`Scans` tells how the lexer goes through a text, by positions: over a space, over a lexeme, or to the
place where it stops.  From it follows, by induction along the scan, that the lexer stops exactly at
the first character that no expression can hold where it stands, and that what it makes of a text
without one is `Cut`: nothing but spaces is left out, and no lexeme could be longer.
-/

namespace Flowchart

namespace Lexer

/-! ## Characters of expressions -/

/-- Whether a character can stand in an expression before the character `next`. -/
def Legal (c : CodePoint) (next : Option CodePoint) : Prop :=
  isSpace c = true ∨ isNameStart c = true ∨ Text.isDigit c = true ∨
    c ∈ Text.ofString "+-*/=<>" ∨ c = '!' ∧ next = some (.scalar '=')

/-- Whether the character at a position can stand there, if there is one. -/
def LegalAt (text : Text) (i : Nat) : Prop :=
  ∀ c, text[i]? = some c → Legal c text[i + 1]?

theorem head?_eq_equals_iff {cs : Text} :
    cs.head? = some (.scalar '=') ↔ ∃ rest, cs = .scalar '=' :: rest := by
  cases cs <;> simp

theorem operator?_isSome_iff {c : CodePoint} {cs : Text} :
    (operator? c cs).isSome = true ↔
      c ∈ Text.ofString "+-*/=<>" ∨ c = '!' ∧ cs.head? = some (.scalar '=') := by
  rw [head?_eq_equals_iff]
  unfold operator?
  split <;> simp_all [Text.ofString, Text.ofChars]

theorem Legal.next {c : CodePoint} {next next' : Option CodePoint} (h : Legal c next)
    (hnext : next = some (.scalar '=') → next' = some (.scalar '=')) : Legal c next' := by
  rcases h with h | h | h | h | ⟨h, hpair⟩
  · exact Or.inl h
  · exact Or.inr (Or.inl h)
  · exact Or.inr (Or.inr (Or.inl h))
  · exact Or.inr (Or.inr (Or.inr (Or.inl h)))
  · exact Or.inr (Or.inr (Or.inr (Or.inr ⟨h, hnext hpair⟩)))

theorem legal_of_isNameChar {c : CodePoint} (h : isNameChar c = true) (next : Option CodePoint) :
    Legal c next := by
  rcases isNameChar_iff.mp h with hstart | ⟨hlow, hhigh⟩
  · exact Or.inr (Or.inl hstart)
  · have hascii : Text.isAsciiDigit c = true := by
      simp [Text.isAsciiDigit, hlow, hhigh]
    have hdigit : Text.isDigit c = true := by
      rw [Text.isDigit, Text.digitValue?_of_lt (by omega), if_pos hascii]
      rfl
    exact Or.inr (Or.inr (Or.inl hdigit))

theorem IsWord.isNameChar {w : Text} (h : IsWord w) : ∀ c ∈ w, isNameChar c = true := by
  cases w with
  | nil => exact h.elim
  | cons c cs => exact List.forall_mem_cons.mpr ⟨isNameChar_iff.mpr (Or.inl h.1), h.2⟩

end Lexer

open Lexer

/-! ## Lexemes -/

/-- Whether a token is what the lexer reads from `chars`, where `next` follows: `chars` spell it, and
with `next` they would not spell a longer token. -/
def Token.ReadFrom (chars : Text) (next : Option CodePoint) : Token → Prop
  | .name x => chars = x ∧ IsName x ∧ ∀ c ∈ next, isNameChar c = false
  | .bool b => chars = (if b then "true" else "false" : Text) ∧ ∀ c ∈ next, isNameChar c = false
  | .int n => chars ≠ [] ∧ (∀ c ∈ chars, Text.isDigit c = true) ∧
      n = Nat.ofDigits 10 (chars.map Text.digitValue).reverse ∧
      ∀ c ∈ next, Text.isDigit c = false
  | .arith op => chars = op.symbol
  | .assign => chars = "=" ∧ next ≠ some (.scalar '=')
  | .rel op => chars = op.symbol ∧ (chars.length = 1 → next ≠ some (.scalar '='))

/-- The positions of a lexeme's characters. -/
def Lexeme.Covers (l : Lexeme) (i : Nat) : Prop :=
  l.position ≤ i ∧ i < l.position + l.chars.length

/-- A lexeme whose characters stand in a text where it says, and are the token that it says. -/
structure Lexeme.StandsIn (l : Lexeme) (text : Text) : Prop where
  chars_ne_nil : l.chars ≠ []
  here : l.chars <+: text.drop l.position
  read : l.token.ReadFrom l.chars text[l.position + l.chars.length]?

namespace Lexer

theorem head?_dropWhile {p : CodePoint → Bool} (cs : Text) :
    ∀ c ∈ (cs.dropWhile p).head?, p c = false := by
  intro c hc
  have h := List.head?_dropWhile_not p cs
  rw [Option.mem_def.mp hc] at h
  exact h

theorem readFrom_word {c : CodePoint} {cs : Text} (hc : isNameStart c = true)
    {next : Option CodePoint} (hnext : ∀ d ∈ next, isNameChar d = false) :
    (word (c :: cs.takeWhile isNameChar)).ReadFrom (c :: cs.takeWhile isNameChar) next := by
  have hword : IsWord (c :: cs.takeWhile isNameChar) :=
    ⟨hc, fun d hd => List.all_eq_true.mp List.all_takeWhile d hd⟩
  unfold word
  split
  · exact ⟨‹_›, hnext⟩
  · split
    · exact ⟨‹_›, hnext⟩
    · exact ⟨rfl, ⟨hword, ‹_›, ‹_›⟩, hnext⟩

theorem readFrom_operator {c : CodePoint} {cs : Text} {t : Token} {n : Nat}
    (h : operator? c cs = some (t, n)) :
    ∃ chars rest, c :: cs = chars ++ rest ∧ chars.length = n ∧ chars ≠ [] ∧
      t.ReadFrom chars rest.head? := by
  have hapart : (∀ rest, cs = .scalar '=' :: rest → False) → cs.head? ≠ some (.scalar '=') := by
    intro hne hhead
    obtain ⟨rest, hrest⟩ := head?_eq_equals_iff.mp hhead
    exact hne rest hrest
  unfold operator? at h
  -- first the pairs, then the signs that begin a pair, then the others
  split at h <;> cases h
  case h_1 | h_2 | h_3 | h_4 => exact ⟨[_, _], _, rfl, rfl, by simp, rfl, by simp⟩
  case h_5 hne => exact ⟨[_], cs, rfl, rfl, by simp, rfl, hapart hne⟩
  case h_6 hne | h_7 hne => exact ⟨[_], cs, rfl, rfl, by simp, rfl, fun _ => hapart hne⟩
  case h_8 | h_9 | h_10 | h_11 => exact ⟨[_], cs, rfl, rfl, by simp, rfl⟩

/-- What the lexer finds at the front of a text. -/
theorem readFrom_of_front {c : CodePoint} {cs : Text} {t : Token} {n : Nat}
    (h : front c cs = .lexeme t n) :
    ∃ chars rest, c :: cs = chars ++ rest ∧ chars.length = n ∧ chars ≠ [] ∧
      t.ReadFrom chars rest.head? := by
  unfold front at h
  split at h
  · rename_i hdigit
    cases hread : Numeral.read ((c :: cs.takeWhile Text.isDigit).map Text.digitValue) with
    | error e => simp only [hread, reduceCtorEq] at h
    | ok m =>
      simp only [hread, Front.lexeme.injEq] at h
      obtain ⟨rfl, rfl⟩ := h
      obtain ⟨-, rfl⟩ := Numeral.read_eq_ok_iff.mp hread
      refine ⟨_, cs.dropWhile Text.isDigit, ?_, rfl, List.cons_ne_nil _ _, List.cons_ne_nil _ _,
        ?_, ?_, head?_dropWhile cs⟩
      · rw [List.cons_append, List.takeWhile_append_dropWhile]
      · exact List.forall_mem_cons.mpr
          ⟨hdigit, fun d hd => List.all_eq_true.mp List.all_takeWhile d hd⟩
      · exact Numeral.value_eq_ofDigits _
  · split at h
    · rename_i hstart
      simp only [Front.lexeme.injEq] at h
      obtain ⟨rfl, rfl⟩ := h
      refine ⟨_, cs.dropWhile isNameChar, ?_, rfl, List.cons_ne_nil _ _,
        readFrom_word hstart (head?_dropWhile cs)⟩
      rw [List.cons_append, List.takeWhile_append_dropWhile]
    · split at h <;> cases h
      exact readFrom_operator ‹_›

theorem not_legal_of_front {c : CodePoint} {cs : Text} (hspace : ¬ isSpace c = true)
    (h : front c cs = .illegal) : ¬ Legal c cs.head? := by
  unfold front at h
  split at h
  · simp only at h
    split at h <;> cases h
  · split at h
    · cases h
    · split at h
      · cases h
      · rename_i hdigit hstart _ hoperator
        rintro (h | h | h | h)
        · exact hspace h
        · exact hstart h
        · exact hdigit h
        · have hsome := operator?_isSome_iff.mpr h
          rw [hoperator] at hsome
          cases hsome

/-! ## Legal characters of lexemes -/

theorem legal_of_mem_symbols {c : CodePoint} (h : c ∈ Text.ofString "+-*/=<>")
    (next : Option CodePoint) : Legal c next :=
  Or.inr (Or.inr (Or.inr (Or.inl h)))

/-- The characters of a lexeme can stand where they stand; of an exclamation mark the sign of equality
behind it is part of the lexeme. -/
theorem legal_of_readFrom {t : Token} {chars : Text} {next : Option CodePoint}
    (h : t.ReadFrom chars next) : ∀ k, LegalAt chars k := by
  have hsymbol : (∀ c ∈ chars, c ∈ Text.ofString "+-*/=<>") → ∀ k, LegalAt chars k :=
    fun hmem k c hc => legal_of_mem_symbols (hmem c (List.mem_of_getElem? hc)) _
  have hname : (∀ c ∈ chars, isNameChar c = true) → ∀ k, LegalAt chars k :=
    fun hmem k c hc => legal_of_isNameChar (hmem c (List.mem_of_getElem? hc)) _
  cases t with
  | name x =>
    obtain ⟨rfl, hx, -⟩ := h
    exact hname hx.1.isNameChar
  | bool b =>
    obtain ⟨rfl, -⟩ := h
    exact hname (by cases b <;> decide)
  | int n => exact fun k c hc => Or.inr (Or.inr (Or.inl (h.2.1 c (List.mem_of_getElem? hc))))
  | arith op =>
    obtain rfl : chars = op.symbol := h
    exact hsymbol (by cases op <;> decide)
  | assign =>
    obtain ⟨rfl, -⟩ := h
    exact hsymbol (by decide)
  | rel op =>
    obtain ⟨rfl, -⟩ := h
    cases op with
    | eq | lt | le | gt | ge => exact hsymbol (by decide)
    | ne =>
      -- the one operator with a character that is legal only before another
      intro k c hc
      match k, hc with
      | 0, hc =>
        cases hc
        exact Or.inr (Or.inr (Or.inr (Or.inr ⟨rfl, rfl⟩)))
      | 1, hc =>
        cases hc
        exact legal_of_mem_symbols (by decide) _

end Lexer

namespace Lexeme.StandsIn

variable {l : Lexeme} {text : Text}

theorem getElem? (h : l.StandsIn text) {k : Nat} {c : CodePoint} (hc : l.chars[k]? = some c) :
    text[l.position + k]? = some c := by
  obtain ⟨rest, hrest⟩ := h.here
  rw [← List.getElem?_drop, ← hrest]
  exact List.getElem?_append_left (List.getElem?_eq_some_iff.mp hc).1 ▸ hc

theorem legalAt (h : l.StandsIn text) {i : Nat} (hi : l.Covers i) : LegalAt text i := by
  obtain ⟨k, rfl⟩ := Nat.exists_eq_add_of_le hi.1
  have hk : k < l.chars.length := Nat.lt_of_add_lt_add_left hi.2
  intro c hc
  have hchar := h.getElem? (List.getElem?_eq_getElem hk)
  obtain rfl := Option.some.inj (hchar.symm.trans hc)
  exact (legal_of_readFrom h.read k _ (List.getElem?_eq_getElem hk)).next h.getElem?

end Lexeme.StandsIn

/-! ## Scans -/

namespace Lexer

/-- How the lexer goes through a text from a position on. -/
inductive Scans (text : Text) : Nat → Lexed → Prop
  | ended {p : Nat} (h : text.length ≤ p) : Scans text p ⟨[], .endOfText⟩
  | space {p : Nat} {lexed : Lexed} {c : CodePoint} (hc : text[p]? = some c)
      (hspace : isSpace c = true) (rest : Scans text (p + 1) lexed) : Scans text p lexed
  | lexeme {l : Lexeme} {lexed : Lexed} (stands : l.StandsIn text)
      (rest : Scans text (l.position + l.chars.length) lexed) :
      Scans text l.position ⟨l :: lexed.lexemes, lexed.ending⟩
  | illegal {p : Nat} {c : CodePoint} (hc : text[p]? = some c)
      (hillegal : ¬ Legal c text[p + 1]?) : Scans text p ⟨[], .illegal c p⟩
  | limit {p : Nat} (e : LimitError) : Scans text p ⟨[], .limit e⟩

theorem standsIn_of_front {text : Text} {p : Nat} {c : CodePoint} {cs : Text} {t : Token} {n : Nat}
    (hdrop : text.drop p = c :: cs) (hfront : front c cs = .lexeme t n) :
    Lexeme.StandsIn ⟨t, p, (c :: cs).take n⟩ text ∧ ((c :: cs).take n).length = n := by
  obtain ⟨chars, rest, htext, rfl, hne, hread⟩ := readFrom_of_front hfront
  have hnext : rest.head? = text[p + chars.length]? := by
    rw [← List.head?_drop, ← List.drop_drop, hdrop, htext, List.drop_left]
  rw [htext, List.take_left]
  refine ⟨⟨hne, ⟨rest, ?_⟩, ?_⟩, rfl⟩
  · rw [← htext, hdrop]
  · rw [← hnext]
    exact hread

theorem scans_lexFrom (text : Text) (p : Nat) : Scans text p (lexFrom p 0 (text.drop p)) := by
  -- by what the text begins with at `p`: each turn but the last leaves less of it
  cases hdrop : text.drop p with
  | nil => exact .ended (List.drop_eq_nil_iff.mp hdrop)
  | cons c cs =>
    have hc : text[p]? = some c := by
      rw [← List.head?_drop, hdrop]
      rfl
    have hp : p < text.length := (List.getElem?_eq_some_iff.mp hc).1
    have hcs : cs = text.drop (p + 1) := by
      rw [← List.drop_drop, hdrop]
      rfl
    rw [lexFrom]
    split
    · rename_i hspace
      rw [hcs]
      exact .space hc hspace (scans_lexFrom text (p + 1))
    · rename_i hspace
      split
      · rename_i t n hfront
        obtain ⟨hstands, hlength⟩ := standsIn_of_front hdrop hfront
        have hpos : 0 < n := hlength ▸ List.length_pos_iff.mpr hstands.chars_ne_nil
        have hrest : lexFrom (p + 1) (n - 1) cs = lexFrom (p + n) 0 (text.drop (p + n)) := by
          rw [lexFrom_skip, hcs, List.drop_drop, Nat.add_assoc, Nat.add_sub_cancel' hpos]
        have hscans := scans_lexFrom text (p + n)
        simp only [hrest]
        refine .lexeme hstands ?_
        rwa [hlength]
      · rename_i hfront
        refine .illegal hc ?_
        rw [← List.head?_drop, ← hcs]
        exact not_legal_of_front hspace hfront
      · exact .limit _
termination_by text.length - p

end Lexer

/-- Whether a reading that ended so went on beyond a position. -/
def Ending.Passes (i : Nat) : Ending → Prop
  | .endOfText => True
  | .illegal _ position => i < position
  | .limit _ => False

namespace Lexer

namespace Scans

variable {text : Text} {p : Nat} {lexed : Lexed}

/-- What the lexer has passed can stand where it stands. -/
theorem legalAt (h : Scans text p lexed) {i : Nat} (hi : p ≤ i) (passed : lexed.ending.Passes i) :
    LegalAt text i := by
  induction h with
  | ended hend =>
    intro c hc
    have := (List.getElem?_eq_some_iff.mp hc).1
    omega
  | @space p lexed c hc hspace _ ih =>
    rcases Nat.eq_or_lt_of_le hi with rfl | hi
    · intro d hd
      cases hc.symm.trans hd
      exact Or.inl hspace
    · exact ih hi passed
  | @lexeme l lexed stands _ ih =>
    by_cases hcovers : i < l.position + l.chars.length
    · exact stands.legalAt ⟨hi, hcovers⟩
    · exact ih (Nat.not_lt.mp hcovers) passed
  | illegal => exact absurd passed (Nat.not_lt.mpr hi)
  | limit => exact passed.elim

theorem not_legal (h : Scans text p lexed) {c : CodePoint} {q : Nat}
    (hending : lexed.ending = .illegal c q) : text[q]? = some c ∧ ¬ Legal c text[q + 1]? := by
  induction h with
  | ended | limit => cases hending
  | space _ _ _ ih | lexeme _ _ ih => exact ih hending
  | illegal hc hillegal =>
    cases hending
    exact ⟨hc, hillegal⟩

theorem standsIn (h : Scans text p lexed) :
    ∀ l ∈ lexed.lexemes, p ≤ l.position ∧ l.StandsIn text := by
  induction h with
  | ended | illegal | limit => exact fun _ hl => absurd hl List.not_mem_nil
  | space _ _ _ ih =>
    intro l hl
    obtain ⟨hp, hstands⟩ := ih l hl
    exact ⟨Nat.le_of_succ_le hp, hstands⟩
  | lexeme stands _ ih =>
    refine List.forall_mem_cons.mpr ⟨⟨Nat.le_refl _, stands⟩, fun l hl => ?_⟩
    obtain ⟨hp, hstands⟩ := ih l hl
    exact ⟨(Nat.le_add_right _ _).trans hp, hstands⟩

theorem apart (h : Scans text p lexed) :
    lexed.lexemes.Pairwise fun a b => a.position + a.chars.length ≤ b.position := by
  induction h with
  | ended | illegal | limit => exact List.Pairwise.nil
  | space _ _ _ ih => exact ih
  | lexeme _ rest ih => exact List.pairwise_cons.mpr ⟨fun l hl => (rest.standsIn l hl).1, ih⟩

/-- What a reading to the end of the text leaves out are spaces. -/
theorem between (h : Scans text p lexed) (hending : lexed.ending = .endOfText) {i : Nat}
    {c : CodePoint} (hi : p ≤ i) (hc : text[i]? = some c)
    (uncovered : ∀ l ∈ lexed.lexemes, ¬ l.Covers i) : isSpace c = true := by
  induction h with
  | ended hend =>
    have := (List.getElem?_eq_some_iff.mp hc).1
    omega
  | @space p lexed d hd hspace _ ih =>
    rcases Nat.eq_or_lt_of_le hi with rfl | hi
    · cases hd.symm.trans hc
      exact hspace
    · exact ih hending hi uncovered
  | lexeme _ _ ih =>
    obtain ⟨hhead, htail⟩ := List.forall_mem_cons.mp uncovered
    exact ih hending (Nat.not_lt.mp fun hlt => hhead ⟨hi, hlt⟩) htail
  | illegal | limit => cases hending

end Scans

end Lexer

/-! ## The tokens of a text -/

/-- A text as it is cut into lexemes: from left to right, each in its place, with nothing but spaces
around them. -/
structure Cut (text : Text) (ls : List Lexeme) : Prop where
  increasing : ls.Pairwise fun a b => a.position < b.position
  standsIn : ∀ l ∈ ls, l.StandsIn text
  apart : ls.Pairwise fun a b => a.position + a.chars.length ≤ b.position
  between : ∀ i c, text[i]? = some c → (∀ l ∈ ls, ¬ l.Covers i) → isSpace c = true

theorem cut_lex {text : Text} (h : (lex text).ending = .endOfText) :
    Cut text (lex text).lexemes := by
  have hscans : Scans text 0 (lex text) := scans_lexFrom text 0
  have hstands : ∀ l ∈ (lex text).lexemes, l.StandsIn text := fun l hl => (hscans.standsIn l hl).2
  refine ⟨?_, hstands, hscans.apart, fun i c hc => hscans.between h (Nat.zero_le i) hc⟩
  refine hscans.apart.imp_of_mem fun {a b} ha _ hab => ?_
  have := List.length_pos_iff.mpr (hstands a ha).chars_ne_nil
  omega

/-- A character that cannot stand where it stands, behind characters that all can. -/
def FirstIllegal (text : Text) (i : Nat) (c : CodePoint) : Prop :=
  text[i]? = some c ∧ ¬ Legal c text[i + 1]? ∧ ∀ j < i, LegalAt text j

theorem lex_ending_eq_illegal_iff {text : Text} (readable : Readable text) {i : Nat}
    {c : CodePoint} : (lex text).ending = .illegal c i ↔ FirstIllegal text i c := by
  have hscans : Scans text 0 (lex text) := scans_lexFrom text 0
  constructor
  · intro hending
    obtain ⟨hc, hillegal⟩ := hscans.not_legal hending
    refine ⟨hc, hillegal, fun j hj => hscans.legalAt (Nat.zero_le j) ?_⟩
    rwa [hending]
  · rintro ⟨hc, hillegal, hbefore⟩
    have hpasses : ¬ (lex text).ending.Passes i :=
      fun passed => hillegal (hscans.legalAt (Nat.zero_le i) passed c hc)
    cases hending : (lex text).ending with
    | endOfText => exact absurd (hending ▸ trivial) hpasses
    | limit e => exact absurd hending (readable e)
    | illegal d q =>
      obtain ⟨hd, hqillegal⟩ := hscans.not_legal hending
      rw [hending] at hpasses
      -- neither of the two places can be before the other
      have hq : q = i := by
        rcases Nat.lt_trichotomy q i with hlt | heq | hlt
        · exact absurd (hbefore q hlt d hd) hqillegal
        · exact heq
        · exact absurd hlt hpasses
      subst hq
      cases hc.symm.trans hd
      rfl

theorem lex_ending_eq_endOfText_iff {text : Text} (readable : Readable text) :
    (lex text).ending = .endOfText ↔ ∀ i, LegalAt text i := by
  have hscans : Scans text 0 (lex text) := scans_lexFrom text 0
  constructor
  · intro hending i
    exact hscans.legalAt (Nat.zero_le i) (hending ▸ trivial)
  · intro hlegal
    cases hending : (lex text).ending with
    | endOfText => rfl
    | limit e => exact absurd hending (readable e)
    | illegal c q =>
      obtain ⟨hc, hillegal⟩ := hscans.not_legal hending
      exact absurd (hlegal q c hc) hillegal

theorem tokenize_eq_ok_iff {text : Text} {ls : List Lexeme} :
    tokenize text = .ok ls ↔ (lex text).ending = .endOfText ∧ ls = (lex text).lexemes := by
  unfold tokenize
  cases hending : (lex text).ending <;> simp [hending, eq_comm]

theorem tokenize_eq_error_iff {text : Text} {e : ExprError} :
    tokenize text = .error e ↔ (lex text).ending ≠ .endOfText ∧ e = (lex text).ending.failure := by
  unfold tokenize
  cases hending : (lex text).ending <;> simp [hending, eq_comm]

/-- A text without a numeral that is too long is cut into lexemes exactly if all its characters can
stand where they stand: spaces, letters, digits, operators, and an exclamation mark before a sign of
equality.  Otherwise the first one that cannot is reported with its position.  The lexemes are the
text without spaces, each in its place and as long as it can be. -/
theorem tokenize_exact (text : Text) (readable : Readable text) :
    ((∃ ls, tokenize text = .ok ls) ↔ ∀ i, LegalAt text i) ∧
    (∀ e, tokenize text = .error e ↔ ∃ i c, FirstIllegal text i c ∧
      e = .malformed (.illegalCharacter c i) ∧
      e.message = "Illegal character '" ++ [c] ++ "' at position " ++ Numeral.text i) ∧
    ∀ ls, tokenize text = .ok ls → Cut text ls := by
  refine ⟨?_, ?_, ?_⟩
  · simp only [tokenize_eq_ok_iff, exists_and_left, exists_eq, and_true]
    exact lex_ending_eq_endOfText_iff readable
  · intro e
    rw [tokenize_eq_error_iff]
    constructor
    · rintro ⟨hne, rfl⟩
      cases hending : (lex text).ending with
      | endOfText => exact absurd hending hne
      | limit l => exact absurd hending (readable l)
      | illegal c i => exact ⟨i, c, (lex_ending_eq_illegal_iff readable).mp hending, rfl, rfl⟩
    · rintro ⟨i, c, hfirst, rfl, -⟩
      rw [(lex_ending_eq_illegal_iff readable).mpr hfirst]
      exact ⟨nofun, rfl⟩
  · intro ls hok
    obtain ⟨hending, rfl⟩ := tokenize_eq_ok_iff.mp hok
    exact cut_lex hending

/-- A digit of another script ends a name and begins a numeral, a word is a truth value only as a
whole, and of two signs of equality the second is part of the first; an exclamation mark on its own is
reported, not the character behind it that no expression holds. -/
theorem tokenize_exact_mixed :
    Cut "trues٣==7" [⟨.name "trues", 0, "trues"⟩, ⟨.int 3, 5, "٣"⟩, ⟨.rel .eq, 6, "=="⟩,
      ⟨.int 7, 8, "7"⟩] ∧
    FirstIllegal "n ! $" 2 '!' := by
  have hok : tokenize "trues٣==7" = .ok [⟨.name "trues", 0, "trues"⟩, ⟨.int 3, 5, "٣"⟩,
      ⟨.rel .eq, 6, "=="⟩, ⟨.int 7, 8, "7"⟩] := by decide
  have herror : tokenize "n ! $" = .error (.malformed (.illegalCharacter '!' 2)) := by decide
  refine ⟨(tokenize_exact _ (by decide)).2.2 _ hok, ?_⟩
  obtain ⟨i, c, hfirst, he, -⟩ := ((tokenize_exact _ (by decide)).2.1 _).mp herror
  cases he
  exact hfirst

end Flowchart
