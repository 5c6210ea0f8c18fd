import Flowchart.Proofs.Simulation.Walk

/-! # Two runs in lockstep

Two runs, on two charts or with two environments, are compared step by step.  `Parallel` is what
has to be shown of one step: from related states and related places it leads to related states and
related places, or fails in both runs for related reasons.  `Parallel.simulate` draws the conclusion
for whole runs: they end in related states and in the same way.  `Lockstep` asks for more, that
steps fail in both runs for the same reason.
-/

namespace Flowchart

/-- Two outcomes that fail for the same reason, or do not fail and are related. -/
inductive Agree {ε α β : Type} (R : α → β → Prop) : Except ε α → Except ε β → Prop
  | error (e : ε) : Agree R (.error e) (.error e)
  | ok {a b} (related : R a b) : Agree R (.ok a) (.ok b)

/-- Two results in which runs end in the same way and in related states. -/
inductive SameEnd (S : RunState → RunState → Prop) : RunResult → RunResult → Prop
  | stopped {s s'} (states : S s s') (e : RunError) : SameEnd S (.stopped s e) (.stopped s' e)
  | finished {s s'} (states : S s s') : SameEnd S (.finished s) (.finished s')

/-- Two outcomes of a step or a walk: both are stopped, by related errors, or come to a numeral that
is too long, or neither fails and they are related. -/
inductive Paired {α β : Type} (E : RunError → RunError → Prop) (R : α → β → Prop) :
    Except StepFailure α → Except StepFailure β → Prop
  | stop {e e'} (errors : E e e') : Paired E R (.error (.stop e)) (.error (.stop e'))
  | limit (e : LimitError) : Paired E R (.error (.limit e)) (.error (.limit e))
  | ok {a b} (related : R a b) : Paired E R (.ok a) (.ok b)

/-- Two results in which runs end with related errors or without one, and in related states. -/
inductive AlikeEnd (E : RunError → RunError → Prop) (S : RunState → RunState → Prop) :
    RunResult → RunResult → Prop
  | stopped {s s' e e'} (states : S s s') (errors : E e e') :
      AlikeEnd E S (.stopped s e) (.stopped s' e')
  | finished {s s'} (states : S s s') : AlikeEnd E S (.finished s) (.finished s')

theorem Agree.paired {α β : Type} {R : α → β → Prop} {a : Except StepFailure α}
    {b : Except StepFailure β} (h : Agree R a b) : Paired Eq R a b := by
  cases h with
  | error e =>
    cases e with
    | stop e => exact .stop rfl
    | limit e => exact .limit e
  | ok related => exact .ok related

theorem Paired.agree {α β : Type} {R : α → β → Prop} {a : Except StepFailure α}
    {b : Except StepFailure β} (h : Paired Eq R a b) : Agree R a b := by
  cases h with
  | stop errors =>
    cases errors
    exact .error _
  | limit e => exact .error _
  | ok related => exact .ok related

theorem Agree.imp {ε α β : Type} {R Q : α → β → Prop} {a : Except ε α} {b : Except ε β}
    (h : Agree R a b) (hRQ : ∀ a b, R a b → Q a b) : Agree Q a b := by
  cases h with
  | error e => exact .error e
  | ok related => exact .ok (hRQ _ _ related)

theorem AlikeEnd.sameEnd {S : RunState → RunState → Prop} {r r' : RunResult}
    (h : AlikeEnd Eq S r r') : SameEnd S r r' := by
  cases h with
  | stopped states errors =>
    cases errors
    exact .stopped states _
  | finished states => exact .finished states

namespace RunState

/-- From states related by `S` at places related by `R`, a step on one chart does what a step on
the other does, but that an error may be another one, to which `E` relates it. -/
def Parallel (c c' : Chart) (E : RunError → RunError → Prop) (S : RunState → RunState → Prop)
    (R : Nat → Nat → Prop) : Prop :=
  ∀ s s' p p', S s s' → R p p' → ∃ n n', c.node? p = some n ∧ c'.node? p' = some n' ∧
    S (s.step n).state (s'.step n').state ∧
    Paired E (Option.Rel R) (s.step n).answer (s'.step n').answer

/-- From states related by `S` at places related by `R`, a step on one chart does what a step on
the other does. -/
def Lockstep (c c' : Chart) (S : RunState → RunState → Prop) (R : Nat → Nat → Prop) : Prop :=
  ∀ s s' p p', S s s' → R p p' → ∃ n n', c.node? p = some n ∧ c'.node? p' = some n' ∧
    S (s.step n).state (s'.step n').state ∧
    Agree (Option.Rel R) (s.step n).answer (s'.step n').answer

variable {c c' : Chart} {E : RunError → RunError → Prop} {S : RunState → RunState → Prop}
  {R : Nat → Nat → Prop}

theorem Parallel.walk (h : Parallel c c' E S R) (hloop : E .loop .loop) (fuel : Nat)
    {s s' : RunState} {p p' : Nat} (hs : S s s') (hp : R p p') :
    S (walk c fuel s p).state (walk c' fuel s' p').state ∧
      Paired E Eq (walk c fuel s p).answer (walk c' fuel s' p').answer := by
  -- both walks use up their bound at the same pace, so that neither is cut short before the other
  induction fuel generalizing s s' p p' with
  | zero => exact ⟨hs, .stop hloop⟩
  | succ fuel ih =>
    obtain ⟨n, n', hn, hn', hstate, hanswer⟩ := h s s' p p' hs hp
    simp only [RunState.walk, hn, hn']
    generalize (s.step n).answer = a, (s'.step n').answer = a' at hanswer
    cases hanswer with
    | stop errors => exact ⟨hstate, .stop errors⟩
    | limit e => exact ⟨hstate, .limit e⟩
    | ok next =>
      cases next with
      | none => exact ⟨hstate, .ok rfl⟩
      | some hq => exact ih hstate hq

theorem alikeEnd_conclude {t t' : Turn Unit} (hstate : S t.state t'.state)
    (hanswer : Paired E Eq t.answer t'.answer) :
    Paired E (AlikeEnd E S) (conclude t).answer (conclude t').answer := by
  obtain ⟨state, events, answer⟩ := t
  obtain ⟨state', events', answer'⟩ := t'
  cases hanswer with
  | stop errors => exact .ok (.stopped hstate errors)
  | limit e => exact .limit e
  | ok _ => exact .ok (.finished hstate)

/-- Runs that begin together and go in parallel end alike.  How a step goes matters only if there
is one. -/
theorem Parallel.simulate (h : (∃ p, c.entrance = .ok p) → Parallel c c' E S R)
    (hE : ∀ e, E e e) (hsize : c.size = c'.size) (hentrance : Agree R c.entrance c'.entrance)
    {env env' : Env} (hs : S (.start env) (.start env')) :
    Paired E (AlikeEnd E S) (c.simulate env).answer (c'.simulate env').answer := by
  unfold Chart.simulate run
  generalize ha : c.entrance = a, c'.entrance = a' at hentrance
  cases hentrance with
  | error e => exact alikeEnd_conclude hs (.stop (hE e))
  | @ok p p' hp =>
    obtain ⟨hstate, hanswer⟩ := (h ⟨p, ha⟩).walk (hE .loop) (c.size + 1) hs hp
    rw [← hsize]
    exact alikeEnd_conclude hstate hanswer

theorem Lockstep.parallel (h : Lockstep c c' S R) : Parallel c c' Eq S R := by
  intro s s' p p' hs hp
  obtain ⟨n, n', hn, hn', hstate, hanswer⟩ := h s s' p p' hs hp
  exact ⟨n, n', hn, hn', hstate, hanswer.paired⟩

/-- Runs that begin together and go in lockstep end alike, and with the same error. -/
theorem Lockstep.simulate (h : (∃ p, c.entrance = .ok p) → Lockstep c c' S R)
    (hsize : c.size = c'.size) (hentrance : Agree R c.entrance c'.entrance) {env env' : Env}
    (hs : S (.start env) (.start env')) :
    Agree (SameEnd S) (c.simulate env).answer (c'.simulate env').answer := by
  have hends := Parallel.simulate (fun hstart => (h hstart).parallel) (fun _ => rfl) hsize
    hentrance hs
  exact hends.agree.imp fun _ _ => AlikeEnd.sameEnd

end RunState

end Flowchart
