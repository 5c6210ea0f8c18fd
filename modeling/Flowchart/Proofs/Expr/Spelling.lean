import Flowchart.Proofs.Expr.Grammar
import Flowchart.Proofs.Value

/-! # Spelled expressions

The text of a token is read as that token, if what follows cannot be taken for more of it.  In an
expression a word or a numeral is next to an operator or to spaces, so the parts of an expression
are read back whether there are spaces between them or not.  `Expr.parse_printed` says so of every
expression that has a text.
-/

namespace Flowchart

namespace Lexer

/-! ## Classes of characters -/

theorem isSpace_iff {c : CodePoint} :
    isSpace c = true ↔ c.value = 0x20 ∨ c.value = 0x09 ∨ c.value = 0x0D ∨ c.value = 0x0A := by
  have hvalue : ∀ a : Char, c = .scalar a ↔ c.value = a.toNat := by
    intro a
    constructor
    · rintro rfl
      rfl
    · intro h
      rw [← CodePoint.ofNat_value c, h]
      exact CodePoint.ofNat_value (.scalar a)
  simp only [isSpace, Bool.or_eq_true, decide_eq_true_eq, hvalue, or_assoc]
  rfl

theorem isNameStart_iff {c : CodePoint} :
    isNameStart c = true ↔ 0x41 ≤ c.value ∧ c.value ≤ 0x5A ∨ 0x61 ≤ c.value ∧ c.value ≤ 0x7A ∨
      c.value = 0x5F := by
  cases c with
  | surrogate offset =>
    simp only [isNameStart, CodePoint.value, Bool.false_eq_true, false_iff]
    omega
  | scalar c =>
    have halpha : c.isAlpha = (c.isUpper || c.isLower) := rfl
    have hupper : c.isUpper = decide (0x41 ≤ c.toNat ∧ c.toNat ≤ 0x5A) := rfl
    have hlower : c.isLower = (decide (0x61 ≤ c.toNat) && decide (c.toNat ≤ 0x7A)) := rfl
    have hunderscore : c = '_' ↔ c.toNat = 0x5F := by
      rw [Char.ext_iff, ← UInt32.toNat_inj]
      rfl
    simp [isNameStart, CodePoint.value, halpha, hupper, hlower, hunderscore, or_assoc]

theorem isNameChar_iff {c : CodePoint} :
    isNameChar c = true ↔ isNameStart c = true ∨ 0x30 ≤ c.value ∧ c.value ≤ 0x39 := by
  cases c with
  | surrogate offset =>
    simp only [isNameChar, isNameStart, CodePoint.value, Bool.false_eq_true, false_or, false_iff]
    omega
  | scalar c =>
    simp only [isNameChar, isNameStart, Char.isAlphanum, Char.isDigit, Bool.or_eq_true,
      Bool.and_eq_true, decide_eq_true_eq, ge_iff_le, UInt32.le_iff_toNat_le]
    exact or_right_comm

theorem isDigit_eq_false {c : CodePoint} (range : c.value < 0x660)
    (h : c.value < 0x30 ∨ 0x39 < c.value) : Text.isDigit c = false := by
  have hdigit : ¬ Text.isAsciiDigit c = true := by
    simp only [Text.isAsciiDigit, Bool.and_eq_true, decide_eq_true_eq]
    omega
  rw [Text.isDigit, Text.digitValue?_of_lt range, if_neg hdigit]
  rfl

/-! ## Reading lexeme by lexeme -/

/-- A text that is read to its end as a sequence of tokens, wherever it stands. -/
def Reads (text : Text) (ts : List Token) : Prop :=
  ∀ position, (lexFrom position 0 text).lexemes.map (·.token) = ts ∧
    (lexFrom position 0 text).ending = .endOfText

namespace Reads

variable {rest : Text} {ts : List Token}

theorem nil : Reads [] [] :=
  fun _ => ⟨rfl, rfl⟩

theorem space {c : CodePoint} (hc : isSpace c = true) (h : Reads rest ts) :
    Reads (c :: rest) ts := by
  intro position
  rw [lexFrom, if_pos hc]
  exact h (position + 1)

theorem spaces {w : Text} (hw : ∀ c ∈ w, isSpace c = true) (h : Reads rest ts) :
    Reads (w ++ rest) ts := by
  induction w with
  | nil => exact h
  | cons c w ih =>
    obtain ⟨hc, hw⟩ := List.forall_mem_cons.mp hw
    exact (ih hw).space hc

/-- A text that begins with a lexeme is read as the token of the lexeme and what follows it. -/
theorem lexeme {c : CodePoint} {cs : Text} {t : Token} (hc : isSpace c = false)
    (hfront : front c (cs ++ rest) = .lexeme t (cs.length + 1)) (h : Reads rest ts) :
    Reads (c :: cs ++ rest) (t :: ts) := by
  intro position
  have hdrop := lexFrom_skip (position + 1) cs.length (cs ++ rest)
  rw [List.drop_left] at hdrop
  obtain ⟨htokens, hending⟩ := h (position + 1 + cs.length)
  rw [List.cons_append, lexFrom, if_neg (by simp [hc])]
  simp only [hfront, Nat.add_sub_cancel, hdrop, List.map_cons, htokens, true_and]
  exact hending

end Reads

/-! ## Words -/

/-- What the lexer takes for a name or for a truth value. -/
def IsWord : Text → Prop
  | [] => False
  | c :: cs => isNameStart c = true ∧ ∀ d ∈ cs, isNameChar d = true

instance : DecidablePred IsWord
  | [] => inferInstanceAs (Decidable False)
  | c :: cs => inferInstanceAs (Decidable (isNameStart c = true ∧ ∀ d ∈ cs, isNameChar d = true))

/-- What the lexer takes for a name. -/
def IsName (x : Text) : Prop :=
  IsWord x ∧ x ≠ "true" ∧ x ≠ "false"

instance : DecidablePred IsName :=
  fun x => inferInstanceAs (Decidable (IsWord x ∧ x ≠ "true" ∧ x ≠ "false"))

theorem word_of_isName {x : Text} (h : IsName x) : word x = .name x := by
  rw [word, if_neg h.2.1, if_neg h.2.2]

theorem Reads.word {w rest : Text} {ts : List Token} (hw : IsWord w)
    (apart : ∀ c ∈ rest.head?, isNameChar c = false) (h : Reads rest ts) :
    Reads (w ++ rest) (Lexer.word w :: ts) := by
  cases w with
  | nil => exact hw.elim
  | cons c cs =>
    obtain ⟨hstart, hchars⟩ := hw
    have hvalue := isNameStart_iff.mp hstart
    have hspace : isSpace c = false := by
      rw [Bool.eq_false_iff, Ne, isSpace_iff]
      omega
    have hdigit : Text.isDigit c = false := isDigit_eq_false (by omega) (by omega)
    have hword : (cs ++ rest).takeWhile isNameChar = cs := Text.takeWhile_append_of_head hchars apart
    refine h.lexeme hspace ?_
    simp [front, hdigit, hstart, hword]

/-! ## Numerals -/

theorem Reads.numeral {n : Nat} {rest : Text} {ts : List Token} (hn : n < 10 ^ maxDigits)
    (apart : ∀ c ∈ rest.head?, Text.isDigit c = false) (h : Reads rest ts) :
    Reads (Numeral.text n ++ rest) (.int n :: ts) := by
  have hdigits : ∀ c ∈ Numeral.text n, Text.isDigit c = true := by
    intro c hc
    obtain ⟨a, ha, rfl⟩ := Numeral.exists_digit_of_mem_text hc
    exact Text.isDigit_scalar ha
  have hread := Numeral.read_text hn
  have hascii := fun c => Numeral.isAsciiDigit_of_mem_text (n := n) (c := c)
  cases htext : Numeral.text n with
  | nil => exact absurd htext (Numeral.text_ne_nil n)
  | cons c cs =>
    rw [htext] at hdigits hread hascii
    obtain ⟨hdigit, hdigits⟩ := List.forall_mem_cons.mp hdigits
    have hvalue := hascii c List.mem_cons_self
    simp only [Text.isAsciiDigit, Bool.and_eq_true, decide_eq_true_eq] at hvalue
    have hspace : isSpace c = false := by
      rw [Bool.eq_false_iff, Ne, isSpace_iff]
      omega
    have hnumeral : (cs ++ rest).takeWhile Text.isDigit = cs :=
      Text.takeWhile_append_of_head hdigits apart
    rw [List.map_cons] at hread
    refine h.lexeme hspace ?_
    simp [front, hdigit, hnumeral, hread]

/-! ## Operators -/

theorem operator?_of_head {rest : Text} (apart : ∀ c ∈ rest.head?, c ≠ '=') :
    operator? '=' rest = some (.assign, 1) ∧ operator? '<' rest = some (.rel .lt, 1) ∧
      operator? '>' rest = some (.rel .gt, 1) := by
  cases rest with
  | nil => exact ⟨rfl, rfl, rfl⟩
  | cons c rest =>
    have hc : c ≠ '=' := apart c rfl
    simp [operator?, hc]

/-- An operator is read back, unless what follows makes it one of two characters. -/
theorem Reads.operator {t : Token} {operator : Expr.Operator} {rest : Text} {ts : List Token}
    (ht : Expr.operator? t = some operator) (apart : ∀ c ∈ rest.head?, c ≠ '=')
    (h : Reads rest ts) : Reads (t.text ++ rest) (t :: ts) := by
  have hsymbol : ∀ {c : CodePoint} {t : Token}, isSpace c = false → Text.isDigit c = false →
      isNameStart c = false → Lexer.operator? c rest = some (t, 1) →
      Reads ([c] ++ rest) (t :: ts) := by
    intro c t hspace hdigit hstart hoperator
    exact h.lexeme hspace (by simp [front, hdigit, hstart, hoperator])
  have hpair : ∀ {c d : CodePoint} {t : Token}, isSpace c = false →
      front c ([d] ++ rest) = .lexeme t 2 → Reads ([c, d] ++ rest) (t :: ts) :=
    fun hspace hfront => h.lexeme hspace hfront
  obtain ⟨hassign, hlt, hgt⟩ := operator?_of_head apart
  cases t with
  | name _ | int _ | bool _ => cases ht
  | assign => exact hsymbol rfl rfl rfl hassign
  | arith op => cases op <;> exact hsymbol rfl rfl rfl rfl
  | rel op =>
    cases op with
    | lt => exact hsymbol rfl rfl rfl hlt
    | gt => exact hsymbol rfl rfl rfl hgt
    | eq => exact hpair rfl rfl
    | ne => exact hpair rfl rfl
    | le => exact hpair rfl rfl
    | ge => exact hpair rfl rfl

theorem isNameChar_of_operator {t : Token} {operator : Expr.Operator}
    (ht : Expr.operator? t = some operator) (rest : Text) :
    ∀ c ∈ (t.text ++ rest).head?, isNameChar c = false := by
  cases t with
  | name _ | int _ | bool _ => cases ht
  | assign =>
    rintro _ ⟨⟩
    rfl
  | arith op | rel op => cases op <;> rintro _ ⟨⟩ <;> rfl

end Lexer

/-! ## Operands -/

/-- Tokens whose text is one that the lexer reads as that token. -/
def Token.Spelled : Token → Prop
  | .name x => Lexer.IsName x
  | .int n => n < 10 ^ maxDigits
  | .bool _ | .assign | .arith _ | .rel _ => True

namespace Lexer

variable {u : Token} {operator : Expr.Operator} {v : Operand}

theorem Reads.operand (hu : Expr.operand? operator u = some v) (spelled : u.Spelled)
    {rest : Text} {ts : List Token} (apartName : ∀ c ∈ rest.head?, isNameChar c = false)
    (apartNumeral : ∀ c ∈ rest.head?, Text.isDigit c = false) (h : Reads rest ts) :
    Reads (u.text ++ rest) (u :: ts) := by
  cases u with
  | assign | arith _ | rel _ => cases hu
  | int n => exact h.numeral spelled apartNumeral
  | name y =>
    have hword := h.word spelled.1 apartName
    rwa [word_of_isName spelled] at hword
  | bool b =>
    cases b with
    | true => exact h.word (w := "true") (by decide) apartName
    | false => exact h.word (w := "false") (by decide) apartName

theorem ne_equals_of_operand (hu : Expr.operand? operator u = some v) (spelled : u.Spelled)
    (rest : Text) : ∀ c ∈ (u.text ++ rest).head?, c ≠ '=' := by
  cases u with
  | assign | arith _ | rel _ => cases hu
  | bool b => cases b <;> rintro _ ⟨⟩ <;> decide
  | int n =>
    cases htext : Numeral.text n with
    | nil => exact absurd htext (Numeral.text_ne_nil n)
    | cons d ds =>
      have hdigit : Text.isAsciiDigit d = true := by
        apply Numeral.isAsciiDigit_of_mem_text (n := n)
        rw [htext]
        exact List.mem_cons_self
      rw [Token.text, htext]
      rintro c ⟨⟩ rfl
      cases hdigit
  | name y =>
    cases y with
    | nil => exact spelled.1.elim
    | cons d ds =>
      have hstart : isNameStart d = true := spelled.1.1
      rintro c ⟨⟩ rfl
      cases hstart

/-! ## Expressions -/

theorem forall_head?_append {α : Type} {P : α → Prop} {xs ys : List α} (hxs : ∀ x ∈ xs, P x)
    (hys : ∀ y ∈ ys.head?, P y) : ∀ x ∈ (xs ++ ys).head?, P x := by
  cases xs with
  | nil => exact hys
  | cons x xs =>
    rintro _ ⟨⟩
    exact hxs x List.mem_cons_self

theorem isNameChar_of_isSpace {c : CodePoint} (h : isSpace c = true) : isNameChar c = false := by
  have := isSpace_iff.mp h
  rw [Bool.eq_false_iff, Ne, isNameChar_iff, isNameStart_iff]
  omega

theorem isDigit_of_isSpace {c : CodePoint} (h : isSpace c = true) : Text.isDigit c = false := by
  have := isSpace_iff.mp h
  exact isDigit_eq_false (by omega) (by omega)

theorem ne_equals_of_isSpace {c : CodePoint} (h : isSpace c = true) : c ≠ '=' := by
  rintro rfl
  cases h

end Lexer

/-- An expression is read back from the texts of its parts, with any spaces around them. -/
theorem Expr.parse_spelled {x : Text} (hx : Lexer.IsName x) {t u : Token} {operator : Operator}
    {operand : Operand} (ht : operator? t = some operator) (hu : operand? operator u = some operand)
    (spelled : u.Spelled) {w₀ w₁ w₂ w₃ : Text}
    (spaces : ∀ w ∈ [w₀, w₁, w₂, w₃], ∀ c ∈ w, Lexer.isSpace c = true) :
    parse (w₀ ++ (x ++ (w₁ ++ (t.text ++ (w₂ ++ (u.text ++ w₃)))))) =
      .ok (ofParts x operator operand) := by
  simp only [List.mem_cons, List.not_mem_nil, or_false, forall_eq_or_imp, forall_eq] at spaces
  obtain ⟨hw₀, hw₁, hw₂, hw₃⟩ := spaces
  -- from the end of the text to its start, each part with all that follows it
  have hend : Lexer.Reads w₃ [] := by simpa using Lexer.Reads.nil.spaces hw₃
  have hoperand : Lexer.Reads (u.text ++ w₃) [u] := by
    refine hend.operand hu spelled ?_ ?_
    · exact fun c hc => Lexer.isNameChar_of_isSpace (hw₃ c (List.mem_of_head? hc))
    · exact fun c hc => Lexer.isDigit_of_isSpace (hw₃ c (List.mem_of_head? hc))
  have hoperator : Lexer.Reads (t.text ++ (w₂ ++ (u.text ++ w₃))) [t, u] := by
    refine (hoperand.spaces hw₂).operator ht ?_
    exact Lexer.forall_head?_append (fun c hc => Lexer.ne_equals_of_isSpace (hw₂ c hc))
      (Lexer.ne_equals_of_operand hu spelled w₃)
  have hname : Lexer.Reads (x ++ (w₁ ++ (t.text ++ (w₂ ++ (u.text ++ w₃))))) [.name x, t, u] := by
    rw [← Lexer.word_of_isName hx]
    refine (hoperator.spaces hw₁).word hx.1 ?_
    exact Lexer.forall_head?_append (fun c hc => Lexer.isNameChar_of_isSpace (hw₁ c hc))
      (Lexer.isNameChar_of_operator ht _)
  obtain ⟨htokens, hending⟩ := (hname.spaces hw₀) 0
  rw [parse, lex, htokens, hending]
  exact ofTokens_sentence (sentence_operand x ht hu)

/-! ## Printed expressions -/

/-- Whether a code point is an ASCII letter or an underscore. -/
def CodePoint.IsLetter (c : CodePoint) : Prop :=
  0x41 ≤ c.value ∧ c.value ≤ 0x5A ∨ 0x61 ≤ c.value ∧ c.value ≤ 0x7A ∨ c.value = 0x5F

instance : DecidablePred CodePoint.IsLetter :=
  fun c => inferInstanceAs (Decidable (0x41 ≤ c.value ∧ c.value ≤ 0x5A ∨
    0x61 ≤ c.value ∧ c.value ≤ 0x7A ∨ c.value = 0x5F))

/-- Words that begin with a letter and go on with letters and digits. -/
def Text.IsWord : Text → Prop
  | [] => False
  | c :: cs => c.IsLetter ∧ ∀ d ∈ cs, d.IsLetter ∨ 0x30 ≤ d.value ∧ d.value ≤ 0x39

instance : DecidablePred Text.IsWord
  | [] => inferInstanceAs (Decidable False)
  | c :: cs => inferInstanceAs (Decidable
      (c.IsLetter ∧ ∀ d ∈ cs, d.IsLetter ∨ 0x30 ≤ d.value ∧ d.value ≤ 0x39))

/-- Words that can name a variable. -/
def Text.IsIdentifier (x : Text) : Prop :=
  x.IsWord ∧ x ≠ "true" ∧ x ≠ "false"

instance : DecidablePred Text.IsIdentifier :=
  fun x => inferInstanceAs (Decidable (x.IsWord ∧ x ≠ "true" ∧ x ≠ "false"))

/-- The lexer takes exactly the identifiers for names. -/
theorem Lexer.isName_iff {x : Text} : IsName x ↔ x.IsIdentifier := by
  have hword : IsWord x ↔ x.IsWord := by
    cases x with
    | nil => exact Iff.rfl
    | cons c cs =>
      simp only [IsWord, Text.IsWord, isNameChar_iff, isNameStart_iff]
      exact Iff.rfl
  rw [IsName, Text.IsIdentifier, hword]

/-- The token that an operand is written as. -/
def Operand.token : Operand → Token
  | .int n => .int n
  | .bool b => .bool b
  | .name x => .name x

namespace Expr

/-- The variable on the left side. -/
def subject : Expr → Text
  | .assignment x _ | .update x _ _ | .comparison x _ _ => x

/-- The token between the two sides. -/
def operatorToken : Expr → Token
  | .assignment .. => .assign
  | .update _ op _ => .arith op
  | .comparison _ op _ => .rel op

/-- The right side. -/
def operand : Expr → Operand
  | .assignment _ v | .update _ _ v | .comparison _ _ v => v

/-- The text of an expression with the given spaces before, between and behind its parts. -/
def printed (e : Expr) (w₀ w₁ w₂ w₃ : Text) : Text :=
  w₀ ++ e.subject ++ w₁ ++ e.operatorToken.text ++ w₂ ++ e.operand.token.text ++ w₃

/-- The expressions that have a text: variables are identifiers, an integer can be read, and a truth
value can only be compared with. -/
structure Printable (e : Expr) : Prop where
  subject : e.subject.IsIdentifier
  name : ∀ x, e.operand = .name x → x.IsIdentifier
  int : ∀ n, e.operand = .int n → n < 10 ^ maxDigits
  bool : ∀ b, e.operand = .bool b → e.isCondition = true

variable {e : Expr}

theorem Printable.spelled (printable : e.Printable) : e.operand.token.Spelled := by
  cases hoperand : e.operand with
  | int n => exact printable.int n hoperand
  | bool b => trivial
  | name x => exact Lexer.isName_iff.mpr (printable.name x hoperand)

/-- An expression is made of the parts that its tokens tell. -/
theorem Printable.parts (printable : e.Printable) :
    ∃ operator, operator? e.operatorToken = some operator ∧
      operand? operator e.operand.token = some e.operand ∧
      ofParts e.subject operator e.operand = e := by
  have hliteral : ∀ operator v, (∀ b, v ≠ .bool b) →
      operand? operator v.token = some v := by
    intro operator v hv
    cases v with
    | int _ | name _ => rfl
    | bool b => exact absurd rfl (hv b)
  cases e with
  | assignment x v =>
    exact ⟨.assign, rfl, hliteral _ v fun b hb => (nomatch printable.bool b hb), rfl⟩
  | update x op v =>
    exact ⟨.arith op, rfl, hliteral _ v fun b hb => (nomatch printable.bool b hb), rfl⟩
  | comparison x op v => exact ⟨.rel op, rfl, by cases v <;> rfl, rfl⟩

theorem parsesTo_of_parse {text : Text} (h : parse text = .ok e) (sort : Expr → Bool) :
    parsesTo sort text = .ok (sort e) := by
  rw [parsesTo, h]

/-- An expression is read back from its text, whatever spaces there are around its parts, if any.
So the text is that of an action or of a condition exactly if the expression is one. -/
theorem parse_printed (printable : e.Printable) {w₀ w₁ w₂ w₃ : Text}
    (spaces : ∀ w ∈ [w₀, w₁, w₂, w₃], ∀ c ∈ w, c = ' ' ∨ c = '\t' ∨ c = '\r' ∨ c = '\n') :
    parse (e.printed w₀ w₁ w₂ w₃) = .ok e ∧
      isValidAction (e.printed w₀ w₁ w₂ w₃) = .ok e.isAction ∧
      isValidCondition (e.printed w₀ w₁ w₂ w₃) = .ok e.isCondition := by
  have hspaces : ∀ w ∈ [w₀, w₁, w₂, w₃], ∀ c ∈ w, Lexer.isSpace c = true := by
    intro w hw c hc
    simpa [Lexer.isSpace, or_assoc] using spaces w hw c hc
  obtain ⟨operator, hoperator, hoperand, hparts⟩ := printable.parts
  have hsubject : Lexer.IsName e.subject := Lexer.isName_iff.mpr printable.subject
  have hparse : parse (e.printed w₀ w₁ w₂ w₃) = .ok e := by
    have hspelled := parse_spelled hsubject hoperator hoperand printable.spelled hspaces
    rw [hparts] at hspelled
    simpa only [printed, List.append_assoc] using hspelled
  exact ⟨hparse, parsesTo_of_parse hparse isAction, parsesTo_of_parse hparse isCondition⟩

/-- No spaces are needed where a name begins with a word that has a meaning of its own and the
operator has two characters. -/
theorem parse_printed_touching :
    parse "\ttrue1>=falsehood\r\n" = .ok (.comparison "true1" .ge (.name "falsehood")) ∧
      isValidAction "\ttrue1>=falsehood\r\n" = .ok false ∧
      isValidCondition "\ttrue1>=falsehood\r\n" = .ok true := by
  have hprintable : (comparison "true1" .ge (.name "falsehood")).Printable := by
    refine ⟨by decide, ?_, nofun, nofun⟩
    rintro x ⟨⟩
    decide
  have hspaces : ∀ w ∈ (["\t", [], [], "\r\n"] : List Text), ∀ c ∈ w,
      c = ' ' ∨ c = '\t' ∨ c = '\r' ∨ c = '\n' := by decide
  exact parse_printed hprintable hspaces

end Expr

end Flowchart
