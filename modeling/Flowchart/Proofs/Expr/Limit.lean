import Flowchart.Action
import Flowchart.Condition
import Flowchart.Proofs.Expr.Grammar

/-! # Numerals that are too long to be read

The lexer stops at a numeral of more than `maxDigits` digits, and whatever reads code stops with it:
this is the one failure that is not a matter of syntax.  An action is read only as far as it makes
sense, a condition to its end.  A text is `Readable` if its reading comes to no such numeral.
-/

namespace Flowchart

theorem Expr.ending_of_parse_limit {text : Text} {e : LimitError}
    (h : Expr.parse text = .error (.limit e)) : (lex text).ending = .limit e := by
  rcases Expr.exists_sentence_or_firstFault text with ⟨ts, e', hevents, he'⟩ | ⟨ts, event, hfault⟩
  · cases h.symm.trans (Expr.parse_of_sentence hevents he')
  · have hlimit : ExprError.limit e = event.fault :=
      Except.error.inj (h.symm.trans (Expr.parse_of_firstFault hfault))
    obtain ⟨rest, hplace⟩ := hfault.place
    rcases Lexed.events_eq_append hplace with ⟨t, us, rfl, -⟩ | ⟨rfl, -⟩
    · cases hlimit
    · generalize (lex text).ending = ending at hlimit ⊢
      cases ending with
      | endOfText | illegal _ _ => cases hlimit
      | limit e' =>
        cases hlimit
        rfl

theorem tokenize_eq_limit_iff {text : Text} {e : LimitError} :
    tokenize text = .error (.limit e) ↔ (lex text).ending = .limit e := by
  unfold tokenize
  cases hending : (lex text).ending <;> simp [hending, Ending.failure]

/-- An action fails exactly if its reading comes to a numeral that is too long. -/
theorem Action.run_eq_error_iff {action : Option Text} {env : Env} {e : LimitError} :
    Action.run action env = .error e ↔
      ∃ text, action = some text ∧ Expr.parse text = .error (.limit e) := by
  cases action with
  | none => simp [Action.run]
  | some text =>
    simp only [Action.run, Option.some.injEq, exists_eq_left']
    by_cases hempty : text.isEmpty = true
    · -- the empty text breaks off at its end, not at a numeral
      obtain rfl := List.isEmpty_iff.mp hempty
      have hparse : Expr.parse [] = .error (.malformed .unexpectedEnd) := rfl
      simp [hparse]
    · simp only [hempty, Bool.false_eq_true, if_false]
      cases hparse : Expr.parse text with
      | error fault => cases fault <;> simp
      | ok expr => cases hperform : expr.perform env <;> simp [hperform]

/-- A condition fails otherwise than by having no truth value exactly if it holds a numeral that is
too long, even behind the place where its syntax breaks. -/
theorem Condition.evaluate_eq_limit_iff {condition : Option Text} {env : Env} {e : LimitError} :
    Condition.evaluate condition env = .error (.limit e) ↔
      ∃ text, condition = some text ∧ tokenize text = .error (.limit e) := by
  cases condition with
  | none => simp [Condition.evaluate]
  | some text =>
    simp only [Condition.evaluate, Option.some.injEq, exists_eq_left']
    by_cases hempty : text.isEmpty = true
    · obtain rfl := List.isEmpty_iff.mp hempty
      have htokens : tokenize [] = .ok [] := rfl
      simp [htokens]
    · simp only [hempty, Bool.false_eq_true, if_false, Condition.evaluateText]
      cases htokens : tokenize text with
      | error fault => cases fault <;> simp
      | ok lexemes =>
        -- all tokens have been read, so that the parser meets no numeral that is too long
        have hshort : ∀ l, Expr.parse text ≠ .error (.limit l) := by
          intro l hparse
          have hending := tokenize_eq_limit_iff.mpr (Expr.ending_of_parse_limit hparse)
          cases htokens.symm.trans hending
        simp only [reduceCtorEq, iff_false]
        split
        · simp
        · cases hparse : Expr.parse text with
          | error fault =>
            cases fault with
            | malformed _ => simp
            | limit l => exact absurd hparse (hshort l)
          | ok expr =>
            cases expr with
            | comparison left op operand =>
              -- what a comparison fails with is a fault of the condition
              simp only
              cases Expr.compare env left op operand with
              | error _ => nofun
              | ok _ => nofun
            | assignment _ _ | update _ _ _ => simp

/-! ## Readable texts -/

/-- Texts of which no integer has too many digits, as far as they are cut into tokens. -/
def Readable (text : Text) : Prop :=
  ∀ e, (lex text).ending ≠ .limit e

instance (text : Text) : Decidable (Readable text) :=
  match h : (lex text).ending with
  | .endOfText => isTrue fun e he => by rw [h] at he; cases he
  | .illegal _ _ => isTrue fun e he => by rw [h] at he; cases he
  | .limit e => isFalse fun readable => readable e h

theorem Readable.parse_ne_limit {text : Text} (readable : Readable text) (e : LimitError) :
    Expr.parse text ≠ .error (.limit e) := by
  intro hparse
  exact readable e (Expr.ending_of_parse_limit hparse)

theorem Readable.tokenize_ne_limit {text : Text} (readable : Readable text) (e : LimitError) :
    tokenize text ≠ .error (.limit e) := by
  intro htokens
  exact readable e (tokenize_eq_limit_iff.mp htokens)

/-- The syntax checks give an answer on a readable text. -/
theorem Readable.parsesTo {text : Text} (readable : Readable text) (sort : Expr → Bool) :
    parsesTo sort text = .ok true ∨ parsesTo sort text = .ok false := by
  unfold Flowchart.parsesTo
  cases hparse : Expr.parse text with
  | ok e => cases hsort : sort e <;> simp [hsort]
  | error fault =>
    cases fault with
    | malformed _ => exact Or.inr rfl
    | limit e => exact absurd hparse (readable.parse_ne_limit e)

theorem parsesTo_eq_true_iff {sort : Expr → Bool} {text : Text} :
    parsesTo sort text = .ok true ↔ ∃ e, Expr.parse text = .ok e ∧ sort e = true := by
  unfold parsesTo
  cases hparse : Expr.parse text with
  | ok e => simp
  | error fault => cases fault <;> simp

end Flowchart
