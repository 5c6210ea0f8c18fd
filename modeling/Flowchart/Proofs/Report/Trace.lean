import Flowchart.Proofs.Number.Numeral
import Flowchart.Report.Trace

/-! # When the trace of a run can be written

A text that shows integers can be written exactly if each of these integers can.  `Shows` says this
of one text, and it is closed under putting texts together.  The integers that the trace of a run
shows are those in the roles of the states that were passed and those among the variables at the
end.
-/

namespace Flowchart

theorem bind_eq_ok_iff {α β ε : Type} {x : Except ε α} {f : α → Except ε β} {b : β} :
    (x >>= f) = .ok b ↔ ∃ a, x = .ok a ∧ f a = .ok b := by
  cases x with
  | error e => simp [bind, Except.bind]
  | ok a => simp [bind, Except.bind]

/-- A text that shows the given integers: it is written if all of them can be written, and refused
if one of them cannot. -/
structure Shows {α : Type} (ns : List Int) (x : Except LimitError α) : Prop where
  ok : (∀ n ∈ ns, Numeral.isWritable n = true) → ∃ a, x = .ok a
  error : ∀ n ∈ ns, Numeral.isWritable n = false → x = .error .tooLongToWrite

namespace Shows

variable {α β γ : Type} {ns ms : List Int} {x : Except LimitError α} {y : Except LimitError β}

theorem of_forall (h : ∀ n ∈ ns, Numeral.isWritable n = true) (a : α) :
    Shows ns (.ok a : Except LimitError α) where
  ok _ := ⟨a, rfl⟩
  error n hn hlong := by simp [h n hn] at hlong

theorem nil (a : α) : Shows [] (.ok a : Except LimitError α) :=
  of_forall (by simp) a

theorem write (n : Int) : Shows [n] (Numeral.write n) where
  ok h := ⟨Numeral.signed n, by simp [Numeral.write, h n (List.mem_singleton.mpr rfl)]⟩
  error m hm hlong := by
    cases List.mem_singleton.mp hm
    simp [Numeral.write, hlong]

theorem ok_or_error (h : Shows ns x) : (∃ a, x = .ok a) ∨ x = .error .tooLongToWrite := by
  by_cases hns : ∀ n ∈ ns, Numeral.isWritable n = true
  · exact Or.inl (h.ok hns)
  · simp only [not_forall, Bool.not_eq_true] at hns
    obtain ⟨n, hn, hlong⟩ := hns
    exact Or.inr (h.error n hn hlong)

theorem exists_ok_iff (h : Shows ns x) :
    (∃ a, x = .ok a) ↔ ∀ n ∈ ns, Numeral.isWritable n = true := by
  refine ⟨?_, h.ok⟩
  rintro ⟨a, rfl⟩ n hn
  by_contra hlong
  exact absurd (h.error n hn (by simpa using hlong)) (by simp)

theorem map (h : Shows ns x) (f : α → β) : Shows ns (do let a ← x; return f a) where
  ok hns := by
    obtain ⟨a, rfl⟩ := h.ok hns
    exact ⟨f a, rfl⟩
  error n hn hlong := by
    rw [h.error n hn hlong]
    rfl

theorem both (hx : Shows ns x) (hy : Shows ms y) (f : α → β → γ) :
    Shows (ns ++ ms) (do let a ← x; let b ← y; return f a b) where
  ok h := by
    obtain ⟨a, rfl⟩ := hx.ok fun n hn => h n (List.mem_append_left _ hn)
    obtain ⟨b, rfl⟩ := hy.ok fun n hn => h n (List.mem_append_right _ hn)
    exact ⟨f a b, rfl⟩
  error n hn hlong := by
    rcases List.mem_append.mp hn with hn | hn
    · rw [hx.error n hn hlong]
      rfl
    · -- the first text may be refused before the second one is
      rw [hy.error n hn hlong]
      rcases hx.ok_or_error with ⟨a, rfl⟩ | rfl <;> rfl

end Shows

/-! ## Values -/

theorem Value.shows_text (v : Value) : Shows v.ints v.text := by
  cases v with
  | int n => exact .write n
  | bool b => exact .nil _

namespace Json

mutual

/-- The integers in a value. -/
def ints : Json → List Int
  | .int n => [n]
  | .list items => intsOfItems items
  | .object fields => intsOfFields fields
  | .null | .bool _ | .float _ | .text _ => []

/-- The integers in the items of a list. -/
def intsOfItems : List Json → List Int
  | [] => []
  | v :: items => ints v ++ intsOfItems items

/-- The integers in the fields of an object. -/
def intsOfFields : List (Text × Json) → List Int
  | [] => []
  | (_, v) :: fields => ints v ++ intsOfFields fields

end

mutual

theorem shows_written : ∀ v : Json, Shows v.ints v.written
  | .null | .bool _ | .float _ | .text _ => .nil _
  | .int n => .write n
  | .list items => (shows_writtenItems items).map _
  | .object fields => (shows_writtenFields fields).map _

theorem shows_writtenItems : ∀ items : List Json, Shows (intsOfItems items) (writtenItems items)
  | [] => .nil _
  | v :: items => (shows_written v).both (shows_writtenItems items) _

theorem shows_writtenFields :
    ∀ fields : List (Text × Json), Shows (intsOfFields fields) (writtenFields fields)
  | [] => .nil _
  | (_, v) :: fields => (shows_written v).both (shows_writtenFields fields) _

end

theorem shows_display (v : Json) : Shows v.ints v.display := by
  cases v with
  | text s => exact .nil _
  | null | bool _ | int _ | float _ | list _ | object _ => exact shows_written _

/-- A value that counts as absent has no integer in it but zero. -/
theorem isWritable_of_not_truthy {v : Json} (h : v.isTruthy = false) :
    ∀ n ∈ v.ints, Numeral.isWritable n = true := by
  suffices hzero : ∀ n ∈ v.ints, n = 0 by
    intro n hn
    rw [hzero n hn]
    exact Numeral.isWritable_iff.mpr (Nat.pow_pos (by decide))
  cases v with
  | int m => simp_all [isTruthy, ints]
  | list items =>
    obtain rfl : items = [] := by simpa [isTruthy] using h
    simp [ints, intsOfItems]
  | object fields =>
    obtain rfl : fields = [] := by simpa [isTruthy] using h
    simp [ints, intsOfFields]
  | null | bool _ | float _ | text _ => simp [ints]

end Json

/-! ## Traces -/

/-- The integers in the role of a node that was passed. -/
def Visit.ints (v : Visit) : List Int :=
  match v.content.role? with
  | some role => role.ints
  | none => []

/-- The integers that the trace of a run shows. -/
def RunResult.shownInts (r : RunResult) : List Int :=
  if r.path.isEmpty then [] else r.path.flatMap Visit.ints ++ r.env.ints

namespace Trace

theorem shows_roleNote (role : Json) : Shows role.ints (roleNote (some role)) := by
  rw [roleNote]
  cases hpresent : role.isTruthy with
  | true => exact role.shows_display.map _
  | false => exact .of_forall (Json.isWritable_of_not_truthy hpresent) _

theorem shows_line (number : Nat) (v : Visit) :
    Shows v.ints ((Entry.ofVisit v).line number) := by
  refine Shows.map ?_ _
  unfold Entry.note Entry.ofVisit Visit.ints
  cases v.content with
  | state role => exact shows_roleNote role
  | process _ | decision _ | generic => exact .nil _

theorem shows_lines (number : Nat) (path : List Visit) :
    Shows (path.flatMap Visit.ints) (lines number (path.map Entry.ofVisit)) := by
  induction path generalizing number with
  | nil => exact .nil _
  | cons v path ih => exact (shows_line number v).both (ih (number + 1)) _

theorem shows_bindings (bs : List (Text × Value)) :
    Shows (bs.flatMap (·.2.ints)) (bindings bs) := by
  induction bs with
  | nil => exact .nil _
  | cons b bs ih =>
    obtain ⟨x, v⟩ := b
    exact (v.shows_text.map _).both ih _

end Trace

/-- The trace of a run can be written exactly if the integers it shows can. -/
theorem RunResult.shows_trace (r : RunResult) : Shows r.shownInts r.trace := by
  unfold shownInts trace Trace.render
  rw [List.isEmpty_map]
  split
  · exact .nil _
  · exact (Trace.shows_lines 1 r.path).both (Trace.shows_bindings r.env.bindings) _

end Flowchart
