import Flowchart.Proofs.Json.Quote
import Flowchart.Proofs.Report.Trace
import Flowchart.Proofs.Value

/-! # Printed values

Whatever a value holds, it is printed on one line, since control characters stand only in strings and
are escaped there.  It is printed exactly if the integers in it can be written.
-/

namespace Flowchart

/-! ## Numbers -/

theorem Numeral.inline_write {n : Int} {t : Text} (h : write n = .ok t) : t.Inline := by
  obtain ⟨-, rfl⟩ := write_eq_ok_iff.mp h
  intro c hc
  have hvalue := value_of_mem_signed hc
  omega

namespace Binary64

theorem inline_digits (n : Nat) : ∀ a ∈ Numeral.digits n, 0x20 ≤ a.toNat := by
  intro a ha
  have hmem : CodePoint.scalar a ∈ Numeral.text n := Text.mem_ofChars.mpr ⟨a, ha, rfl⟩
  have hdigit := Numeral.isAsciiDigit_of_mem_text hmem
  rw [Text.isAsciiDigit, Bool.and_eq_true, decide_eq_true_eq] at hdigit
  exact Nat.le_trans (by decide : 0x20 ≤ 0x30) hdigit.1

theorem inline_layout {ds : List Char} (h : ∀ a ∈ ds, 0x20 ≤ a.toNat) (point : Int) :
    ∀ a ∈ layout ds point, 0x20 ≤ a.toNat := by
  have hzeros : ∀ n, ∀ a ∈ List.replicate n '0', 0x20 ≤ a.toNat := by
    intro n a ha
    rw [List.eq_of_mem_replicate ha]
    decide
  have htake : ∀ n, ∀ a ∈ ds.take n, 0x20 ≤ a.toNat := fun _ a ha => h a (List.mem_of_mem_take ha)
  have hdrop : ∀ n, ∀ a ∈ ds.drop n, 0x20 ≤ a.toNat := fun _ a ha => h a (List.mem_of_mem_drop ha)
  unfold layout
  split
  · split
    · simp only [List.forall_mem_append, List.forall_mem_cons, List.cons_append]
      exact ⟨by decide, by decide, hzeros _, h⟩
    split
    · simp only [List.forall_mem_append, List.forall_mem_cons]
      exact ⟨htake _, by decide, hdrop _⟩
    · simp only [List.forall_mem_append, List.forall_mem_cons]
      exact ⟨⟨h, hzeros _⟩, by decide, by decide, nofun⟩
  · -- a fraction, unless there is a single digit, and an exponent of at least two digits
    refine List.forall_mem_append.mpr ⟨List.forall_mem_append.mpr ⟨htake _, ?_⟩,
      List.forall_mem_cons.mpr ⟨by decide, List.forall_mem_cons.mpr ⟨?_, ?_⟩⟩⟩
    · split
      · nofun
      · exact List.forall_mem_cons.mpr ⟨by decide, hdrop _⟩
    · split <;> decide
    · split
      · exact List.forall_mem_cons.mpr ⟨by decide, inline_digits _⟩
      · exact inline_digits _

theorem inline_text (x : Binary64) : x.text.Inline := by
  cases x with
  | nan => decide
  | infinite negative => cases negative <;> decide
  | finite negative m e =>
    have hsign : Text.Inline (if negative then ['-'] else []) := by cases negative <;> decide
    simp only [text]
    split
    · exact hsign.append (by decide)
    · refine hsign.append fun c hc => ?_
      obtain ⟨a, ha, rfl⟩ := Text.mem_ofChars.mp hc
      have hkept : ∀ b ∈ (dropZeros (Numeral.digits (Shortest.ofBinary m e).digits)).1,
          0x20 ≤ b.toNat := by
        intro b hb
        have hdigit := (List.dropWhile_sublist _).mem (List.mem_reverse.mp hb)
        exact inline_digits _ b (List.mem_reverse.mp hdigit)
      exact inline_layout hkept _ a ha

end Binary64

namespace Json

theorem inline_number (x : Binary64) : (number x).Inline := by
  unfold number
  split
  · decide
  · split <;> decide
  · exact x.inline_text

/-! ## Values -/

mutual

/-- A value is printed on one line. -/
theorem inline_print : ∀ (v : Json) (t : Text), v.print = .ok t → t.Inline
  | .null => by
    rintro t ⟨⟩
    decide
  | .bool b => by
    rintro t ⟨⟩
    cases b <;> decide
  | .int n => by
    intro t h
    rw [print] at h
    exact Numeral.inline_write h
  | .float x => by
    rintro t ⟨⟩
    exact inline_number x
  | .text s => by
    rintro t ⟨⟩
    exact inline_quote s
  | .list items => by
    intro t h
    rw [print, bind_eq_ok_iff] at h
    obtain ⟨parts, hitems, ⟨⟩⟩ := h
    have hparts : (Text.joinWith "," parts).Inline :=
      Text.Inline.joinWith (by decide) (inline_printItems items parts hitems)
    exact (Text.Inline.append (by decide) hparts).append (by decide)
  | .object fields => by
    intro t h
    rw [print, bind_eq_ok_iff] at h
    obtain ⟨parts, hfields, ⟨⟩⟩ := h
    have hparts : (Text.joinWith "," parts).Inline :=
      Text.Inline.joinWith (by decide) (inline_printFields fields parts hfields)
    exact (Text.Inline.append (by decide) hparts).append (by decide)

theorem inline_printItems : ∀ (items : List Json) (ts : List Text), printItems items = .ok ts →
    ∀ t ∈ ts, t.Inline
  | [] => by
    rintro ts ⟨⟩
    nofun
  | v :: items => by
    intro ts h
    simp only [printItems, bind_eq_ok_iff] at h
    obtain ⟨s, hv, ss, hitems, ⟨⟩⟩ := h
    exact List.forall_mem_cons.mpr ⟨inline_print v s hv, inline_printItems items ss hitems⟩

theorem inline_printFields : ∀ (fields : List (Text × Json)) (ts : List Text),
    printFields fields = .ok ts → ∀ t ∈ ts, t.Inline
  | [] => by
    rintro ts ⟨⟩
    nofun
  | (name, v) :: fields => by
    intro ts h
    simp only [printFields, bind_eq_ok_iff] at h
    obtain ⟨s, hv, ss, hfields, ⟨⟩⟩ := h
    have hname : (quote name ++ ":").Inline := (inline_quote name).append (by decide)
    exact List.forall_mem_cons.mpr
      ⟨hname.append (inline_print v s hv), inline_printFields fields ss hfields⟩

end

mutual

theorem shows_print : ∀ v : Json, Shows v.ints v.print
  | .null | .bool _ | .float _ | .text _ => .nil _
  | .int n => .write n
  | .list items => (shows_printItems items).map _
  | .object fields => (shows_printFields fields).map _

theorem shows_printItems : ∀ items : List Json, Shows (intsOfItems items) (printItems items)
  | [] => .nil _
  | v :: items => (shows_print v).both (shows_printItems items) _

theorem shows_printFields :
    ∀ fields : List (Text × Json), Shows (intsOfFields fields) (printFields fields)
  | [] => .nil _
  | (_, v) :: fields => (shows_print v).both (shows_printFields fields) _

end

end Json

end Flowchart
