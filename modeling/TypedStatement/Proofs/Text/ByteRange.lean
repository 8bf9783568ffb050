import TypedStatement.Text.ByteRange
import TypedStatement.Text.WhiteSpace

/-!
# Stretches of a text

The text in a range of bytes, and where the parts of a text that is put together lie in it: `textIn?_append` finds every
part at the bytes after those before it.
-/

namespace TypedStatement.Text
set_option autoImplicit false

/-- The characters in a range, if both its ends are boundaries between characters. -/
def ByteRange.textIn? (range : ByteRange) (text : List Char) : Option (List Char) :=
  if range.start ≤ range.stop then
    match splitAtByte range.start text with
    | some (_, after) => (splitAtByte (range.stop - range.start) after).map (·.1)
    | none => none
  else none

theorem splitAtByte_zero (text : List Char) : splitAtByte 0 text = some ([], text) := by
  rw [splitAtByte]

theorem splitAtByte_cons (c : Char) (n : Nat) (rest : List Char) :
    splitAtByte (c.utf8Size + n) (c :: rest) =
      (splitAtByte n rest).map fun (before, after) => (c :: before, after) := by
  have hpos := c.utf8Size_pos
  obtain ⟨m, hm⟩ : ∃ m, c.utf8Size + n = m + 1 := ⟨c.utf8Size + n - 1, by omega⟩
  rw [hm, splitAtByte, if_pos (by omega)]
  have hn : m + 1 - c.utf8Size = n := by omega
  rw [hn]

theorem splitAtByte_append (a b : List Char) : splitAtByte (utf8Length a) (a ++ b) = some (a, b) := by
  induction a with
  | nil => rw [utf8Length_nil, List.nil_append, splitAtByte_zero]
  | cons c a ih => rw [utf8Length_cons, List.cons_append, splitAtByte_cons, ih, Option.map_some]

/-- A text is put together at a position in one way only. -/
theorem append_inj_of_utf8Length {a b c d : List Char} (h : a ++ b = c ++ d) (hlength : utf8Length a = utf8Length c) :
    a = c ∧ b = d := by
  have hfirst := splitAtByte_append a b
  rw [h, hlength, splitAtByte_append] at hfirst
  obtain ⟨hac, hbd⟩ := Prod.mk.inj (Option.some.inj hfirst)
  exact ⟨hac.symm, hbd.symm⟩

theorem textIn?_append (before inside after : List Char) (range : ByteRange)
    (hstart : range.start = utf8Length before) (hstop : range.stop = utf8Length before + utf8Length inside) :
    range.textIn? (before ++ inside ++ after) = some inside := by
  have hsize : range.stop - range.start = utf8Length inside := by omega
  unfold ByteRange.textIn?
  rw [if_pos (by omega), hsize, hstart, List.append_assoc, splitAtByte_append before (inside ++ after)]
  dsimp only
  rw [splitAtByte_append, Option.map_some]

/-- A text is found in a range exactly if it is the part of the whole at these bytes. -/
theorem textIn?_eq_some_iff (range : ByteRange) (text inside : List Char) :
    range.textIn? text = some inside ↔ ∃ before after, text = before ++ inside ++ after ∧
      range.start = utf8Length before ∧ range.stop = utf8Length before + utf8Length inside := by
  constructor
  · intro h
    unfold ByteRange.textIn? at h
    split at h
    · rename_i hle
      split at h
      · rename_i before rest hsplit
        obtain ⟨⟨found, after⟩, hfound, rfl⟩ := Option.map_eq_some_iff.1 h
        have htext := append_of_splitAtByte hsplit
        have hrest := append_of_splitAtByte hfound
        have hbefore := utf8Length_of_splitAtByte hsplit
        have hinside := utf8Length_of_splitAtByte hfound
        refine ⟨before, after, ?_, hbefore.symm, ?_⟩
        · rw [List.append_assoc, hrest, htext]
        · dsimp only
          omega
      · exact absurd h (by simp)
    · exact absurd h (by simp)
  · rintro ⟨before, after, rfl, hstart, hstop⟩
    exact textIn?_append before inside after range hstart hstop

theorem utf8Length_pos (text : List Char) (h : text ≠ []) : 0 < utf8Length text := by
  obtain ⟨c, rest, rfl⟩ := List.exists_cons_of_ne_nil h
  have hpos := c.utf8Size_pos
  rw [utf8Length_cons]
  omega

/-- The range is not empty, lies between characters of the text, and does not begin with white space. -/
def ByteRange.IsVisible (range : ByteRange) (text : List Char) : Prop :=
  ∃ c rest, range.textIn? text = some (c :: rest) ∧ isWhiteSpace c = false

theorem isVisible_append (before inside after : List Char) (range : ByteRange) (hne : inside ≠ [])
    (hfirst : ∀ c, inside.head? = some c → isWhiteSpace c = false) (hstart : range.start = utf8Length before)
    (hstop : range.stop = utf8Length before + utf8Length inside) : range.IsVisible (before ++ inside ++ after) := by
  obtain ⟨c, rest, rfl⟩ := List.exists_cons_of_ne_nil hne
  exact ⟨c, rest, textIn?_append before (c :: rest) after range hstart hstop, hfirst c rfl⟩

end TypedStatement.Text
