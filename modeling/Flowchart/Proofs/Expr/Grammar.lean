import Flowchart.Expr.Parser

/-! # The grammar of expressions

`Sentence` lists the sequences of tokens that are expressions, and a sequence is `Viable` if some
sentence begins with it.  The reading of a text is told as a list of events: its tokens, and how
the lexer came to its end.  `parse_exact` says that a text is an expression exactly if its tokens
are a sentence with the end of the text behind it, and that otherwise the first event that does not
extend a viable sequence is the one that is reported.
-/

namespace Flowchart

/-! ## Sentences -/

/-- The sequences of tokens that are expressions, each with the expression that it is. -/
inductive Sentence : List Token → Expr → Prop
  | assignInt (x : Text) (n : Nat) :
      Sentence [.name x, .assign, .int n] (.assignment x (.int n))
  | assignName (x y : Text) :
      Sentence [.name x, .assign, .name y] (.assignment x (.name y))
  | updateInt (x : Text) (op : ArithOp) (n : Nat) :
      Sentence [.name x, .arith op, .int n] (.update x op (.int n))
  | updateName (x : Text) (op : ArithOp) (y : Text) :
      Sentence [.name x, .arith op, .name y] (.update x op (.name y))
  | compareInt (x : Text) (op : RelOp) (n : Nat) :
      Sentence [.name x, .rel op, .int n] (.comparison x op (.int n))
  | compareName (x : Text) (op : RelOp) (y : Text) :
      Sentence [.name x, .rel op, .name y] (.comparison x op (.name y))
  | compareBool (x : Text) (op : RelOp) (b : Bool) :
      Sentence [.name x, .rel op, .bool b] (.comparison x op (.bool b))

/-- The sequences with which sentences begin. -/
def Viable (ts : List Token) : Prop :=
  ∃ rest e, Sentence (ts ++ rest) e

theorem viable_nil : Viable [] :=
  ⟨_, _, .assignInt [] 0⟩

theorem viable_name (x : Text) : Viable [.name x] :=
  ⟨_, _, .assignInt x 0⟩

theorem viable_operator (x : Text) {t : Token} {operator : Expr.Operator}
    (h : Expr.operator? t = some operator) : Viable [.name x, t] := by
  cases t with
  | assign => exact ⟨_, _, .assignInt x 0⟩
  | arith op => exact ⟨_, _, .updateInt x op 0⟩
  | rel op => exact ⟨_, _, .compareInt x op 0⟩
  | name _ | int _ | bool _ => cases h

theorem sentence_operand (x : Text) {t u : Token} {operator : Expr.Operator} {operand : Operand}
    (ht : Expr.operator? t = some operator) (hu : Expr.operand? operator u = some operand) :
    Sentence [.name x, t, u] (Expr.ofParts x operator operand) := by
  cases t with
  | name _ | int _ | bool _ => cases ht
  | assign =>
    cases ht
    cases u with
    | int n => cases hu; exact .assignInt x n
    | name y => cases hu; exact .assignName x y
    | bool _ | assign | arith _ | rel _ => cases hu
  | arith op =>
    cases ht
    cases u with
    | int n => cases hu; exact .updateInt x op n
    | name y => cases hu; exact .updateName x op y
    | bool _ | assign | arith _ | rel _ => cases hu
  | rel op =>
    cases ht
    cases u with
    | int n => cases hu; exact .compareInt x op n
    | name y => cases hu; exact .compareName x op y
    | bool b => cases hu; exact .compareBool x op b
    | assign | arith _ | rel _ => cases hu

/-- The three parts of a sentence, as the parser tells them apart. -/
theorem Sentence.parts {ts : List Token} {e : Expr} (h : Sentence ts e) :
    ∃ x t u operator operand, ts = [.name x, t, u] ∧ Expr.operator? t = some operator ∧
      Expr.operand? operator u = some operand ∧ e = Expr.ofParts x operator operand := by
  cases h with
  | assignInt x n => exact ⟨x, _, _, .assign, .int n, rfl, rfl, rfl, rfl⟩
  | assignName x y => exact ⟨x, _, _, .assign, .name y, rfl, rfl, rfl, rfl⟩
  | updateInt x op n => exact ⟨x, _, _, .arith op, .int n, rfl, rfl, rfl, rfl⟩
  | updateName x op y => exact ⟨x, _, _, .arith op, .name y, rfl, rfl, rfl, rfl⟩
  | compareInt x op n => exact ⟨x, _, _, .rel op, .int n, rfl, rfl, rfl, rfl⟩
  | compareName x op y => exact ⟨x, _, _, .rel op, .name y, rfl, rfl, rfl, rfl⟩
  | compareBool x op b => exact ⟨x, _, _, .rel op, .bool b, rfl, rfl, rfl, rfl⟩

/-- A viable sequence is one of four: nothing, a variable, a variable with an operator, or a whole
sentence. -/
theorem Viable.cases {ts : List Token} (h : Viable ts) :
    ts = [] ∨ (∃ x, ts = [.name x]) ∨
      (∃ x t operator, ts = [.name x, t] ∧ Expr.operator? t = some operator) ∨
      ∃ e, Sentence ts e := by
  obtain ⟨rest, e, h⟩ := h
  obtain ⟨x, t, u, operator, operand, hparts, ht, -, -⟩ := h.parts
  match ts, hparts with
  | [], _ => exact Or.inl rfl
  | [a], hparts =>
    cases hparts
    exact Or.inr (Or.inl ⟨x, rfl⟩)
  | [a, b], hparts =>
    cases hparts
    exact Or.inr (Or.inr (Or.inl ⟨x, t, operator, rfl, ht⟩))
  | a :: b :: c :: more, hparts =>
    obtain ⟨rfl, rfl⟩ : more = [] ∧ rest = [] := by simpa using congrArg (List.drop 3) hparts
    rw [List.append_nil] at h
    exact Or.inr (Or.inr (Or.inr ⟨e, h⟩))

/-! ## Events -/

/-- What the lexer comes to, reading from left to right: a token, or its end. -/
inductive LexEvent where
  | token (t : Token)
  | ending (e : Ending)
deriving DecidableEq

/-- The events of the reading of a text: its tokens, then one ending. -/
def Lexed.events (lexed : Lexed) : List LexEvent :=
  (lexed.lexemes.map fun l => .token l.token) ++ [.ending lexed.ending]

namespace LexEvent

/-- Whether an event can follow a sequence of tokens: a token that leaves it viable, or the end of
the text behind a sentence. -/
def Extends (ts : List Token) : LexEvent → Prop
  | .token t => Viable (ts ++ [t])
  | .ending .endOfText => ∃ e, Sentence ts e
  | .ending (.illegal _ _) => False
  | .ending (.limit _) => False

/-- The error that an event is reported as. -/
def fault : LexEvent → ExprError
  | .token t => .malformed (.unexpectedToken t)
  | .ending .endOfText => .malformed .unexpectedEnd
  | .ending (.illegal c position) => .malformed (.illegalCharacter c position)
  | .ending (.limit e) => .limit e

/-- The text of the report on an event. -/
def report : LexEvent → Text
  | .token t => "Syntax error at '" ++ t.text ++ "'"
  | .ending .endOfText => "Syntax error at end of expression"
  | .ending (.illegal c position) =>
    "Illegal character '" ++ [c] ++ "' at position " ++ Numeral.text position
  | .ending (.limit e) => e.message

theorem message_fault (event : LexEvent) : event.fault.message = event.report := by
  rcases event with t | _ | _ | _ <;> rfl

@[simp] theorem fault_ending (e : Ending) : (ending e).fault = e.failure := by
  cases e <;> rfl

end LexEvent

/-- An event that is the first not to extend a viable sequence, and the tokens before it. -/
structure FirstFault (events : List LexEvent) (ts : List Token) (event : LexEvent) : Prop where
  place : ∃ rest, events = ts.map .token ++ event :: rest
  viable : Viable ts
  stuck : ¬ event.Extends ts

/-- A place among the events is a token or the ending. -/
theorem Lexed.events_eq_append {lexed : Lexed} {ts : List Token} {event : LexEvent}
    {rest : List LexEvent} (h : lexed.events = ts.map .token ++ event :: rest) :
    (∃ t us, event = .token t ∧ lexed.lexemes.map (·.token) = ts ++ t :: us) ∨
      event = .ending lexed.ending ∧ lexed.lexemes.map (·.token) = ts := by
  obtain ⟨lexemes, ending⟩ := lexed
  simp only [Lexed.events] at h ⊢
  induction ts generalizing lexemes with
  | nil =>
    cases lexemes with
    | nil =>
      simp only [List.map_nil, List.nil_append, List.cons.injEq] at h
      exact Or.inr ⟨h.1.symm, rfl⟩
    | cons l lexemes =>
      simp only [List.map_cons, List.cons_append, List.map_nil, List.nil_append,
        List.cons.injEq] at h
      exact Or.inl ⟨l.token, _, h.1.symm, rfl⟩
  | cons t ts ih =>
    cases lexemes with
    | nil => simp at h
    | cons l lexemes =>
      simp only [List.map_cons, List.cons_append, List.cons.injEq, LexEvent.token.injEq] at h
      obtain ⟨rfl, h⟩ := h
      rcases ih lexemes h with ⟨u, us, hevent, htokens⟩ | ⟨hevent, htokens⟩
      · exact Or.inl ⟨u, us, hevent, by rw [List.map_cons, htokens, List.cons_append]⟩
      · exact Or.inr ⟨hevent, by rw [List.map_cons, htokens]⟩

/-- The events of a reading go on as long as they extend what was read: to the end of a sentence,
or to a first fault. -/
theorem sentence_or_firstFault (ending : Ending) {ts : List Token} (hts : Viable ts)
    (us : List Token) :
    (ending = .endOfText ∧ ∃ e, Sentence (ts ++ us) e) ∨
      ∃ vs event, FirstFault ((ts ++ us).map .token ++ [.ending ending]) vs event := by
  -- the induction is on the tokens that were not read yet; those before them are viable
  induction us generalizing ts with
  | nil =>
    rw [List.append_nil]
    by_cases hend : (LexEvent.ending ending).Extends ts
    · cases ending with
      | endOfText => exact Or.inl ⟨rfl, hend⟩
      | illegal _ _ | limit _ => exact hend.elim
    · exact Or.inr ⟨ts, .ending ending, ⟨[], rfl⟩, hts, hend⟩
  | cons t us ih =>
    by_cases ht : Viable (ts ++ [t])
    · simpa using ih ht
    · exact Or.inr ⟨ts, .token t, ⟨us.map .token ++ [.ending ending], by simp⟩, hts, ht⟩

/-! ## Endings -/

/-- What a text holds where its reading ends: the character that is reported, at its position, or
the digits of a numeral that is too long. -/
def Ending.FoundIn (text : Text) : Ending → Prop
  | .endOfText => True
  | .illegal c position => text[position]? = some c
  | .limit e => ∃ before digits after, text = before ++ digits ++ after ∧
      (∀ c ∈ digits, Text.isDigit c = true) ∧ maxDigits < digits.length ∧
      e = .tooLongToRead digits.length

namespace Lexer

theorem front_eq_limit {c : CodePoint} {cs : Text} {e : LimitError} (h : front c cs = .limit e) :
    Text.isDigit c = true ∧ maxDigits < (c :: cs.takeWhile Text.isDigit).length ∧
      e = .tooLongToRead (c :: cs.takeWhile Text.isDigit).length := by
  unfold front at h
  split at h
  · rename_i hdigit
    simp only [Numeral.read, List.length_map] at h
    split at h
    · cases h
    · rename_i hread
      split at hread
      · rename_i hlong
        cases h
        cases hread
        exact ⟨hdigit, hlong, rfl⟩
      · cases hread
  · split at h
    · cases h
    · split at h <;> cases h

theorem foundIn_lexFrom (before : Text) (skip : Nat) (cs : Text) :
    (lexFrom before.length skip cs).ending.FoundIn (before ++ cs) := by
  -- the text before the place is carried along, so that positions count from its start
  induction cs generalizing before skip with
  | nil => exact trivial
  | cons c cs ih =>
    have hnext : ∀ skip, (lexFrom (before.length + 1) skip cs).ending.FoundIn
        (before ++ c :: cs) := by
      intro skip
      have := ih (before ++ [c]) skip
      rwa [List.length_append, List.append_assoc] at this
    cases skip with
    | succ skip => exact hnext skip
    | zero =>
      rw [lexFrom]
      split
      · exact hnext 0
      · split
        · exact hnext _
        · simp [Ending.FoundIn]
        · rename_i e hfront
          obtain ⟨hdigit, hlong, he⟩ := front_eq_limit hfront
          refine ⟨before, c :: cs.takeWhile Text.isDigit, cs.dropWhile Text.isDigit, ?_, ?_,
            hlong, he⟩
          · rw [List.append_assoc, List.cons_append, List.takeWhile_append_dropWhile]
          · intro d hd
            rcases List.mem_cons.mp hd with rfl | hd
            · exact hdigit
            · exact List.all_eq_true.mp List.all_takeWhile d hd

end Lexer

theorem foundIn_lex (text : Text) : (lex text).ending.FoundIn text :=
  Lexer.foundIn_lexFrom [] 0 text

/-! ## What the parser makes of the events -/

namespace Expr

theorem ofTokens_sentence {ts : List Token} {e : Expr} (h : Sentence ts e) :
    ofTokens ts .endOfText = .ok e := by
  cases h <;> rfl

/-- A token that does not extend a viable sequence is reported. -/
theorem ofTokens_token {ts : List Token} {t : Token} (hts : Viable ts)
    (ht : ¬ Viable (ts ++ [t])) (us : List Token) (ending : Ending) :
    ofTokens (ts ++ t :: us) ending = .error (.malformed (.unexpectedToken t)) := by
  rcases hts.cases with rfl | ⟨x, rfl⟩ | ⟨x, u, operator, rfl, hu⟩ | ⟨e, he⟩
  · cases t with
    | name x => exact absurd (viable_name x) ht
    | int _ | bool _ | arith _ | assign | rel _ => rfl
  · cases hoperator : operator? t with
    | some operator => exact absurd (viable_operator x hoperator) ht
    | none => simp [ofTokens, readOperator, hoperator]
  · cases hoperand : operand? operator t with
    | some operand => exact absurd ⟨[], _, sentence_operand x hu hoperand⟩ ht
    | none => simp [ofTokens, readOperator, readOperand, hu, hoperand]
  · obtain ⟨x, u, v, operator, operand, rfl, hu, hv, -⟩ := he.parts
    simp [ofTokens, readOperator, readOperand, readEnd, hu, hv]

/-- An ending that does not extend a viable sequence is reported. -/
theorem ofTokens_ending {ts : List Token} {ending : Ending} (hts : Viable ts)
    (hend : ¬ (LexEvent.ending ending).Extends ts) :
    ofTokens ts ending = .error ending.failure := by
  rcases hts.cases with rfl | ⟨x, rfl⟩ | ⟨x, u, operator, rfl, hu⟩ | ⟨e, he⟩
  · rfl
  · rfl
  · simp [ofTokens, readOperator, readOperand, hu]
  · obtain ⟨x, u, v, operator, operand, rfl, hu, hv, -⟩ := he.parts
    cases ending with
    | endOfText => exact absurd ⟨e, he⟩ hend
    | illegal c position => simp [ofTokens, readOperator, readOperand, readEnd, hu, hv]
    | limit l => simp [ofTokens, readOperator, readOperand, readEnd, hu, hv]

theorem parse_of_firstFault {text : Text} {ts : List Token} {event : LexEvent}
    (h : FirstFault (lex text).events ts event) : parse text = .error event.fault := by
  obtain ⟨rest, hplace⟩ := h.place
  rw [parse]
  rcases Lexed.events_eq_append hplace with ⟨t, us, rfl, htokens⟩ | ⟨rfl, htokens⟩
  · rw [htokens]
    exact ofTokens_token h.viable h.stuck us _
  · rw [htokens, LexEvent.fault_ending]
    exact ofTokens_ending h.viable h.stuck

theorem parse_of_sentence {text : Text} {ts : List Token} {e : Expr}
    (hevents : (lex text).events = ts.map .token ++ [.ending .endOfText]) (h : Sentence ts e) :
    parse text = .ok e := by
  rcases Lexed.events_eq_append hevents with ⟨t, us, ht, -⟩ | ⟨hending, htokens⟩
  · cases ht
  · rw [parse, htokens, ← LexEvent.ending.inj hending]
    exact ofTokens_sentence h

/-- Every text is a sentence or has a first fault. -/
theorem exists_sentence_or_firstFault (text : Text) :
    (∃ ts e, (lex text).events = ts.map .token ++ [.ending .endOfText] ∧ Sentence ts e) ∨
      ∃ ts event, FirstFault (lex text).events ts event := by
  have hevents : (lex text).events =
      (((lex text).lexemes.map (·.token)).map .token) ++ [.ending (lex text).ending] := by
    rw [Lexed.events, List.map_map]
    rfl
  rcases sentence_or_firstFault (lex text).ending viable_nil ((lex text).lexemes.map (·.token))
    with ⟨hend, e, he⟩ | ⟨ts, event, hfault⟩
  · rw [hend] at hevents
    exact Or.inl ⟨_, e, hevents, he⟩
  · rw [hevents]
    exact Or.inr ⟨ts, event, hfault⟩

/-- The tokens of a text that is an expression are a sentence. -/
theorem sentence_of_parse {text : Text} {e : Expr} (h : parse text = .ok e) :
    (lex text).ending = .endOfText ∧ Sentence ((lex text).lexemes.map (·.token)) e := by
  rcases exists_sentence_or_firstFault text with ⟨ts, e', hevents, he'⟩ | ⟨ts, event, hfault⟩
  · cases h.symm.trans (parse_of_sentence hevents he')
    rcases Lexed.events_eq_append hevents with ⟨t, us, ht, -⟩ | ⟨hending, htokens⟩
    · cases ht
    · exact ⟨(LexEvent.ending.inj hending).symm, by rw [htokens]; exact he'⟩
  · cases h.symm.trans (parse_of_firstFault hfault)

/-- A text is an expression exactly if its tokens are a sentence, and nothing but spaces follows
them.  Otherwise it has a first fault, which is reported; whatever stands behind the fault is all
the same.  The report names the token, or the character with its position, or says that the text
ended; the only failure that is not a fault of syntax is a numeral that is too long. -/
theorem parse_exact (text : Text) :
    (∀ e, parse text = .ok e ↔
      ∃ ts, (lex text).events = ts.map .token ++ [.ending .endOfText] ∧ Sentence ts e) ∧
    (∀ err, parse text = .error err ↔
      ∃ ts event, FirstFault (lex text).events ts event ∧ err = event.fault ∧
        err.message = event.report) ∧
    (∀ ts event, FirstFault (lex text).events ts event →
      ∀ text' rest, (lex text').events = ts.map .token ++ event :: rest →
        parse text' = parse text) ∧
    (lex text).ending.FoundIn text := by
  refine ⟨?_, ?_, ?_, foundIn_lex text⟩
  · intro e
    constructor
    · intro hparse
      rcases exists_sentence_or_firstFault text with ⟨ts, e', hevents, he'⟩ | ⟨ts, event, hfault⟩
      · cases hparse.symm.trans (parse_of_sentence hevents he')
        exact ⟨ts, hevents, he'⟩
      · cases hparse.symm.trans (parse_of_firstFault hfault)
    · rintro ⟨ts, hevents, he⟩
      exact parse_of_sentence hevents he
  · intro err
    constructor
    · intro hparse
      rcases exists_sentence_or_firstFault text with ⟨ts, e', hevents, he'⟩ | ⟨ts, event, hfault⟩
      · cases hparse.symm.trans (parse_of_sentence hevents he')
      · cases hparse.symm.trans (parse_of_firstFault hfault)
        exact ⟨ts, event, hfault, rfl, event.message_fault⟩
    · rintro ⟨ts, event, hfault, rfl, -⟩
      exact parse_of_firstFault hfault
  · intro ts event hfault text' rest hevents
    have hfault' : FirstFault (lex text').events ts event :=
      ⟨⟨rest, hevents⟩, hfault.viable, hfault.stuck⟩
    rw [parse_of_firstFault hfault, parse_of_firstFault hfault']

/-- A token out of place is reported, not the character behind it that no token begins with, and a
text that differs only behind the token gives the same report. -/
theorem parse_exact_misplaced :
    parse "n 007 $ <= 3" = .error (.malformed (.unexpectedToken (.int 7))) ∧
      parse "n 7 = = 3" = parse "n 007 $ <= 3" := by
  have hfault : FirstFault (lex "n 007 $ <= 3").events [.name "n"] (.token (.int 7)) := by
    refine ⟨⟨_, rfl⟩, viable_name _, ?_⟩
    rintro ⟨rest, e, h⟩
    cases h
  exact ⟨((parse_exact _).2.1 _).mpr ⟨_, _, hfault, rfl, rfl⟩,
    (parse_exact _).2.2.1 _ _ hfault _ _ rfl⟩

end Expr

end Flowchart
