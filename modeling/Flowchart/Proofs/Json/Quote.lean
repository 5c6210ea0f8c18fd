import Flowchart.Json.Parser
import Flowchart.Json.Printer
import Flowchart.Proofs.Text.Lines
import Flowchart.Proofs.Text.Quoted

/-! # JSON strings that are read back

A string that was written is read as the text it was written from, up to the quote that closes it.
With it the objects that hold at most one text are read back from what is printed.
-/

namespace Flowchart.Json

/-! ## Escapes -/

section Strings

variable {c : CodePoint} {rest : Text}

theorem readString_skip (start position n : Nat) (acc cs : Text) :
    readString start position n acc cs = readString start (position + n) 0 acc (cs.drop n) := by
  induction cs generalizing position n with
  | nil => simp [readString]
  | cons c cs ih =>
    cases n with
    | zero => rfl
    | succ n =>
      rw [List.drop_succ_cons, readString, ih, Nat.add_assoc, Nat.add_comm 1 n]

theorem readString_letter (start position : Nat) {e : CodePoint} (acc : Text) (he : escaped? e = some c) :
    readString start position 0 acc (.scalar '\\' :: e :: rest) =
      readString start (position + 2) 0 (c :: acc) rest := by
  have hu : e ≠ 'u' := by
    rintro rfl
    cases he
  have hskip := readString_skip start (position + 1) 1 (c :: acc) (e :: rest)
  rw [readString, if_neg (by decide), if_pos rfl, if_neg hu, he]
  · exact hskip
  · exact fun _ _ _ _ _ _ h _ => hu h

theorem hexQuad?_digitChar {a b c d : Nat} (ha : a < 16) (hb : b < 16) (hc : c < 16)
    (hd : d < 16) :
    hexQuad? (.scalar a.digitChar) (.scalar b.digitChar) (.scalar c.digitChar)
      (.scalar d.digitChar) = some (((a * 16 + b) * 16 + c) * 16 + d) := by
  simp [hexQuad?, Text.hexValue?_digitChar, ha, hb, hc, hd]

theorem readString_number (start position : Nat) (acc : Text) (hc : c.value < 0x20) (hrest : rest ≠ []) :
    readString start position 0 acc
        (.scalar '\\' :: .scalar 'u' :: (Text.hexDigits 4 c.value ++ rest)) =
      readString start (position + 6) 0 (c :: acc) rest := by
  obtain ⟨e, rest, rfl⟩ := List.exists_cons_of_ne_nil hrest
  have hquad := hexQuad?_digitChar (Nat.mod_lt (c.value / 16 / 16 / 16) (by decide : 16 > 0))
    (Nat.mod_lt (c.value / 16 / 16) (by decide : 16 > 0))
    (Nat.mod_lt (c.value / 16) (by decide : 16 > 0)) (Nat.mod_lt c.value (by decide : 16 > 0))
  have hvalue : ((c.value / 16 / 16 / 16 % 16 * 16 + c.value / 16 / 16 % 16) * 16 +
      c.value / 16 % 16) * 16 + c.value % 16 = c.value := by omega
  -- a control character is no half of a surrogate pair
  have hhalf : (decide (0xD800 ≤ c.value) && decide (c.value < 0xDC00)) = false := by
    simp only [Bool.and_eq_false_iff, decide_eq_false_iff_not]
    omega
  rw [hvalue] at hquad
  simp only [Text.hexDigits, List.nil_append, List.cons_append]
  rw [readString, if_neg (by decide), if_pos rfl, hquad]
  simp only [joinHalves, hhalf, Bool.false_eq_true, if_false, CodePoint.ofNat_value]
  exact readString_skip start (position + 1) 5 (c :: acc) _

/-- An escaped code point is read back in front of what follows it. -/
theorem readString_escape (start position : Nat) (acc : Text) (hrest : rest ≠ []) :
    ∃ position', readString start position 0 acc (escape c ++ rest) =
      readString start position' 0 (c :: acc) rest := by
  unfold escape
  have hletter : ∀ e, escaped? e = some c →
      readString start position 0 acc (.scalar '\\' :: e :: rest) =
        readString start (position + 2) 0 (c :: acc) rest :=
    fun _ => readString_letter start position acc
  split
  · subst c; exact ⟨_, hletter '"' rfl⟩
  split
  · subst c; exact ⟨_, hletter '\\' rfl⟩
  split
  · subst c; exact ⟨_, hletter 'n' rfl⟩
  split
  · subst c; exact ⟨_, hletter 'r' rfl⟩
  split
  · subst c; exact ⟨_, hletter 't' rfl⟩
  split
  · subst c; exact ⟨_, hletter 'b' rfl⟩
  split
  · subst c; exact ⟨_, hletter 'f' rfl⟩
  split
  · rename_i hvalue
    exact ⟨_, readString_number start position acc hvalue hrest⟩
  · rename_i hquote hbackslash _ _ _ _ _ hvalue
    exact ⟨position + 1, by simp [readString, hquote, hbackslash, hvalue]⟩

theorem readString_flatMap_escape (start position : Nat) (acc s rest : Text) :
    ∃ position', readString start position 0 acc (s.flatMap escape ++ .scalar '"' :: rest) =
      .ok (acc.reverse ++ s, ⟨position', rest⟩) := by
  induction s generalizing position acc with
  | nil => exact ⟨position + 1, by simp [readString]⟩
  | cons c s ih =>
    have hrest : s.flatMap escape ++ .scalar '"' :: rest ≠ [] := by simp
    obtain ⟨next, hnext⟩ : ∃ next, readString start position 0 acc
        (escape c ++ (s.flatMap escape ++ .scalar '"' :: rest)) = _ :=
      readString_escape start position acc hrest
    obtain ⟨position', hs⟩ := ih next (c :: acc)
    refine ⟨position', ?_⟩
    rw [List.flatMap_cons, List.append_assoc, hnext, hs, List.reverse_cons, List.append_assoc,
      List.singleton_append]

end Strings

/-! ## Objects with at most one text -/

theorem quote_append (s rest : Text) :
    quote s ++ rest = .scalar '"' :: (s.flatMap escape ++ .scalar '"' :: rest) := by
  simp [quote, Text.ofString, Text.ofChars]

theorem readValue_quote (unbounded : Bool) (depth fuel position : Nat) (s rest : Text) :
    ∃ position', readValue unbounded depth (fuel + 1) ⟨position, quote s ++ rest⟩ =
      .ok (.text s, ⟨position', rest⟩) := by
  obtain ⟨position', hs⟩ := readString_flatMap_escape position (position + 1) [] s rest
  refine ⟨position', ?_⟩
  simp only [quote_append, readValue, hs, bind, Except.bind]
  rfl

theorem skipSpace_of_head {position : Nat} {c : CodePoint} {rest : Text} (h : isSpace c = false) :
    Cursor.skipSpace ⟨position, c :: rest⟩ = ⟨position, c :: rest⟩ := by
  simp [Cursor.skipSpace, Cursor.advance, h]

theorem readFields_quote (unbounded : Bool) (depth fuel position : Nat) (name s rest : Text) :
    ∃ position', readFields unbounded depth (fuel + 2) []
        ⟨position, quote name ++ .scalar ':' :: (quote s ++ .scalar '\x7d' :: rest)⟩ =
      .ok (.object [(name, .text s)], ⟨position', rest⟩) := by
  obtain ⟨p₁, hname⟩ := readString_flatMap_escape position (position + 1) [] name
    (.scalar ':' :: (quote s ++ .scalar '\x7d' :: rest))
  obtain ⟨p₂, hs⟩ := readValue_quote unbounded depth fuel (p₁ + 1) s (.scalar '\x7d' :: rest)
  have hcolon : Cursor.skipSpace ⟨p₁, .scalar ':' :: (quote s ++ .scalar '\x7d' :: rest)⟩ =
      ⟨p₁, .scalar ':' :: (quote s ++ .scalar '\x7d' :: rest)⟩ := skipSpace_of_head (by decide)
  have hopened : Cursor.skipSpace ⟨p₁ + 1, quote s ++ .scalar '\x7d' :: rest⟩ =
      ⟨p₁ + 1, quote s ++ .scalar '\x7d' :: rest⟩ := by
    rw [quote_append]
    exact skipSpace_of_head (by decide)
  have hclosed : Cursor.skipSpace ⟨p₂, .scalar '\x7d' :: rest⟩ = ⟨p₂, .scalar '\x7d' :: rest⟩ :=
    skipSpace_of_head (by decide)
  refine ⟨p₂ + 1, ?_⟩
  rw [quote_append name, readFields]
  simp only [hname, hcolon, Cursor.advance, hopened, hs, hclosed, bind, Except.bind]
  rfl

/-- An object that holds one text is read back from what is printed. -/
theorem parse_field (name s : Text) :
    parse ("\x7b" ++ (quote name ++ ":" ++ quote s) ++ "\x7d") = .ok (.object [(name, .text s)]) := by
  let fields : Text := name.flatMap escape ++
    .scalar '"' :: .scalar ':' :: (quote s ++ .scalar '\x7d' :: [])
  have hfields : quote name ++ .scalar ':' :: (quote s ++ .scalar '\x7d' :: []) =
      .scalar '"' :: fields := quote_append name _
  have htext : ("\x7b" ++ (quote name ++ ":" ++ quote s) ++ "\x7d" : Text) =
      .scalar '\x7b' :: .scalar '"' :: fields := by
    rw [← hfields]
    simp [Text.ofString, Text.ofChars]
  obtain ⟨position, hread⟩ := readFields_quote false 1 (2 * fields.length + 3) 1 name s []
  rw [hfields] at hread
  have hvalue : readValue false 0 (2 * fields.length + 6)
      ⟨0, .scalar '\x7b' :: .scalar '"' :: fields⟩ =
      .ok (.object [(name, .text s)], ⟨position, []⟩) := by
    have hopened : Cursor.skipSpace ⟨1, .scalar '"' :: fields⟩ = ⟨1, .scalar '"' :: fields⟩ :=
      skipSpace_of_head (by decide)
    rw [readValue]
    simp only [Cursor.advance, Nat.zero_add, hopened]
    exact hread
  have hstart : Cursor.skipSpace ⟨0, .scalar '\x7b' :: .scalar '"' :: fields⟩ =
      ⟨0, .scalar '\x7b' :: .scalar '"' :: fields⟩ := skipSpace_of_head (by decide)
  rw [htext, parse, parseWith, hstart]
  · simp only [List.length_cons, Nat.mul_add, hvalue, bind, Except.bind]
    rfl
  · intro rest h
    cases h

/-! ## Control characters -/

theorem inline_escape (c : CodePoint) : Text.Inline (escape c) := by
  unfold escape
  iterate 7
    split
    · decide
  split
  · have hdigits : Text.Inline (Text.hexDigits 4 c.value) := fun _ => Text.value_of_mem_hexDigits
    exact Text.Inline.append (s := ['\\', 'u']) (by decide) hdigits
  · rename_i hvalue
    intro d hd
    cases List.mem_singleton.mp hd
    exact Nat.le_of_not_lt hvalue

/-- A string is written on one line. -/
theorem inline_quote (s : Text) : Text.Inline (quote s) := by
  have hquote : Text.Inline "\"" := by decide
  have hescaped : Text.Inline (s.flatMap escape) := by
    intro d hd
    obtain ⟨c, -, hc⟩ := List.mem_flatMap.mp hd
    exact inline_escape c d hc
  exact (hquote.append hescaped).append hquote

end Flowchart.Json
