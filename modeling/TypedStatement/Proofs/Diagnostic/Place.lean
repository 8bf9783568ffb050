import TypedStatement.Diagnostic
import TypedStatement.Proofs.Text.ByteRange

/-!
# Places that are shown

A range that begins with a character other than a line break has a place: the line with this character, its column there, and
as many marks as the range has characters on this line (`exists_locate`).  What is printed for a place puts the first mark under
the character (`printsPlace`).
-/

namespace TypedStatement
set_option autoImplicit false

open Text

/-! ## Lines -/

theorem not_mem_untilLineBreak (text : List Char) : '\n' ∉ untilLineBreak text := by
  have hall : (untilLineBreak text).all (· != '\n') = true := List.all_takeWhile
  rw [List.all_eq_true] at hall
  exact fun hline => absurd (hall '\n' hline) (by decide)

theorem untilLineBreak_cons (c : Char) (text : List Char) (hc : c ≠ '\n') :
    untilLineBreak (c :: text) = c :: untilLineBreak text :=
  List.takeWhile_cons_of_pos (by simpa using hc)

theorem length_untilLineBreak_pos (c : Char) (text : List Char) (hc : c ≠ '\n') :
    1 ≤ (untilLineBreak (c :: text)).length := by
  rw [untilLineBreak_cons c text hc]
  exact Nat.succ_le_succ (Nat.zero_le _)

/-- A line ends before a line break or with the text. -/
theorem exists_below (text : List Char) :
    ∃ below, text = untilLineBreak text ++ below ∧ (below = [] ∨ below.head? = some '\n') := by
  refine ⟨text.dropWhile (· != '\n'), List.takeWhile_append_dropWhile.symm, ?_⟩
  cases hbelow : text.dropWhile (· != '\n') with
  | nil => exact .inl rfl
  | cons c below =>
    have hnot := List.head?_dropWhile_not (· != '\n') text
    rw [hbelow] at hnot
    simp only [List.head?_cons, bne_eq_false_iff_eq] at hnot
    exact .inr (by rw [hnot]; rfl)

/-- A line begins after a line break or with the text. -/
theorem exists_above (text : List Char) :
    ∃ above, text = above ++ (untilLineBreak text.reverse).reverse ∧ (above = [] ∨ above.getLast? = some '\n') := by
  obtain ⟨below, hbelow, hend⟩ := exists_below text.reverse
  refine ⟨below.reverse, ?_, ?_⟩
  · rw [← List.reverse_append, ← hbelow, List.reverse_reverse]
  · rw [List.reverse_eq_nil_iff, List.getLast?_reverse]
    exact hend

theorem untilLineBreak_append (a b : List Char) :
    untilLineBreak (a ++ b) = if '\n' ∈ a then untilLineBreak a else a ++ untilLineBreak b := by
  induction a with
  | nil => rfl
  | cons c a ih =>
    by_cases hline : c = '\n'
    · simp [untilLineBreak, hline]
    · have hmem : '\n' ∈ c :: a ↔ '\n' ∈ a := by simp [Ne.symm hline]
      rw [List.cons_append, untilLineBreak_cons c _ hline, untilLineBreak_cons c a hline, ih]
      simp only [hmem]
      split <;> rfl

/-- The part of a range on its first line. -/
theorem exists_splitAtByte_line (inside after : List Char) :
    ∃ rest, splitAtByte (min (utf8Length inside) (utf8Length (untilLineBreak (inside ++ after))))
      (untilLineBreak (inside ++ after)) = some (untilLineBreak inside, rest) := by
  rw [untilLineBreak_append]
  by_cases hline : '\n' ∈ inside
  · -- the line ends in the range
    obtain ⟨below, hbelow, -⟩ := exists_below inside
    have hle : utf8Length (untilLineBreak inside) ≤ utf8Length inside := by
      have hlength := congrArg utf8Length hbelow
      rw [utf8Length_append] at hlength
      omega
    have hsplit := splitAtByte_append (untilLineBreak inside) []
    rw [List.append_nil] at hsplit
    rw [if_pos hline, Nat.min_eq_right hle]
    exact ⟨[], hsplit⟩
  · -- the range ends in the line
    have hwhole : untilLineBreak inside = inside := by
      have happend := untilLineBreak_append inside []
      rw [List.append_nil, if_neg hline] at happend
      rw [happend]
      exact List.append_nil inside
    have hle : utf8Length inside ≤ utf8Length (inside ++ untilLineBreak after) := by
      rw [utf8Length_append]
      exact Nat.le_add_right _ _
    rw [if_neg hline, Nat.min_eq_left hle, hwhole]
    exact ⟨untilLineBreak after, splitAtByte_append inside _⟩

theorem length_untilLineBreak_le (inside after : List Char) :
    (untilLineBreak inside).length ≤ (untilLineBreak (inside ++ after)).length := by
  obtain ⟨rest, hsplit⟩ := exists_splitAtByte_line inside after
  rw [← append_of_splitAtByte hsplit, List.length_append]
  exact Nat.le_add_right _ _

/-! ## Places -/

/-- The place of a range that begins with the character `c`. -/
structure Location.IsOf (location : Location) (text : List Char) (range : ByteRange) (c : Char) : Prop where
  /-- The line is one of the text, with its number, and the range begins at the column. -/
  line : ∃ above below, text = above ++ location.text.toList ++ below ∧
    (above = [] ∨ above.getLast? = some '\n') ∧ (below = [] ∨ below.head? = some '\n') ∧
    '\n' ∉ location.text.toList ∧ location.line = above.count '\n' + 1 ∧
    range.start = utf8Length (above ++ location.text.toList.take (location.column - 1))
  column : 1 ≤ location.column
  first : location.text.toList[location.column - 1]? = some c
  /-- What is marked is the part of the range on the line. -/
  marked : ∃ inside, range.textIn? text = some inside ∧ location.width = (untilLineBreak inside).length
  width : 1 ≤ location.width
  within : location.column - 1 + location.width ≤ location.text.toList.length

/-- Where a stretch of a text lies that begins with a character other than a line break. -/
theorem locate_append (before rest after : List Char) (c : Char) (hc : c ≠ '\n') (range : ByteRange)
    (hstart : range.start = utf8Length before) (hstop : range.stop = utf8Length before + utf8Length (c :: rest)) :
    locate (before ++ c :: rest ++ after) range =
      some ⟨before.count '\n' + 1, (untilLineBreak before.reverse).reverse.length + 1, (untilLineBreak (c :: rest)).length,
        String.ofList ((untilLineBreak before.reverse).reverse ++ untilLineBreak (c :: rest ++ after))⟩ := by
  obtain ⟨left, hmarked⟩ := exists_splitAtByte_line (c :: rest) after
  have hsize : range.stop - range.start = utf8Length (c :: rest) := by omega
  have hsplit : splitAtByte range.start (before ++ c :: rest ++ after) = some (before, c :: rest ++ after) := by
    rw [hstart, List.append_assoc]
    exact splitAtByte_append before _
  unfold locate
  rw [hsplit, Option.map_some, hsize]
  dsimp only
  rw [hmarked]
  dsimp only
  rw [Nat.max_eq_left (length_untilLineBreak_pos c rest hc)]

theorem exists_locate (text rest : List Char) (range : ByteRange) (c : Char)
    (h : range.textIn? text = some (c :: rest)) (hc : c ≠ '\n') :
    ∃ location, locate text range = some location ∧ location.IsOf text range c := by
  obtain ⟨before, after, htext, hstart, hstop⟩ := (textIn?_eq_some_iff range text (c :: rest)).1 h
  obtain ⟨above, habove, hbegin⟩ := exists_above before
  obtain ⟨below, hbelow, hend⟩ := exists_below (c :: rest ++ after)
  have hlocate := locate_append before rest after c hc range hstart hstop
  rw [← htext] at hlocate
  refine ⟨_, hlocate, ?_⟩
  -- the line is what stands in it before the range, and what follows up to the line break
  have hfront : '\n' ∉ (untilLineBreak before.reverse).reverse := by
    rw [List.mem_reverse]
    exact not_mem_untilLineBreak _
  generalize (untilLineBreak before.reverse).reverse = front at habove hfront
  have hback := not_mem_untilLineBreak (c :: rest ++ after)
  have hcount : before.count '\n' = above.count '\n' := by
    rw [habove, List.count_append, List.count_eq_zero_of_not_mem hfront, Nat.add_zero]
  constructor <;> simp only [String.toList_ofList, Nat.add_sub_cancel]
  · refine ⟨above, below, ?_, hbegin, hend, ?_, by rw [hcount], ?_⟩
    · calc text
          = before ++ (c :: rest ++ after) := by rw [htext, List.append_assoc]
        _ = above ++ front ++ (untilLineBreak (c :: rest ++ after) ++ below) := by rw [← hbelow, habove]
        _ = above ++ (front ++ untilLineBreak (c :: rest ++ after)) ++ below := by simp only [List.append_assoc]
    · rw [List.mem_append]
      exact fun hmem => hmem.elim hfront hback
    · rw [List.take_left, ← habove]
      exact hstart
  · exact Nat.le_add_left 1 _
  · rw [List.getElem?_append_right (Nat.le_refl _), Nat.sub_self, List.cons_append, untilLineBreak_cons c _ hc]
    rfl
  · exact ⟨c :: rest, h, rfl⟩
  · exact length_untilLineBreak_pos c rest hc
  · rw [List.length_append]
    exact Nat.add_le_add_left (length_untilLineBreak_le (c :: rest) after) _

example : locate "SELECT 1,\n  'é' \x7bid,\n i64".toList ⟨17, 26⟩ = some ⟨2, 7, 4, "  'é' \x7bid,"⟩ := by decide +kernel

/-! ## What is printed -/

/-- The text names the place, shows its line, and marks it below: the marks begin under the character of the column. -/
def PrintsPlace (origin : String) (location : Location) (text : String) : Prop :=
  ∃ headline margin bar numbered marks : String, ∃ notes : List String, ∃ gutter blank : List Char,
    text = String.join ((headline ::
      (margin ++ "--> " ++ origin ++ ":" ++ toString location.line ++ ":" ++ toString location.column) ::
      bar :: numbered :: marks :: notes).map (· ++ "\n")) ∧
    numbered.toList = gutter ++ location.text.toList ∧
    marks.toList = blank ++ List.replicate location.width '^' ∧ '^' ∉ blank ∧
    blank.length = gutter.length + (location.column - 1)

theorem printsPlace_render (diagnostic : Diagnostic) (origin template : String) (range : ByteRange) (location : Location)
    (hrange : diagnostic.range = some range) (hlocation : locate template.toList range = some location) :
    PrintsPlace origin location (diagnostic.render origin template) := by
  refine ⟨diagnostic.headline, Diagnostic.repeated ' ' (toString location.line).length,
    Diagnostic.repeated ' ' (toString location.line).length ++ " |", toString location.line ++ " | " ++ location.text,
    Diagnostic.repeated ' ' (toString location.line).length ++ " | " ++ Diagnostic.repeated ' ' (location.column - 1) ++
      Diagnostic.repeated '^' location.width,
    (diagnostic.note.map ("  = note: " ++ ·)).toList ++ (diagnostic.fixIt.map ("  = help: " ++ ·.message)).toList,
    (toString location.line).toList ++ " | ".toList,
    List.replicate (toString location.line).length ' ' ++ " | ".toList ++ List.replicate (location.column - 1) ' ',
    ?_, ?_, ?_, ?_, ?_⟩
  · unfold Diagnostic.render Diagnostic.lines
    rw [hrange, Option.bind_some, hlocation]
    simp only [Diagnostic.locationLines, List.cons_append, List.nil_append]
  · simp only [String.toList_append, List.append_assoc]
  · simp only [Diagnostic.repeated, String.toList_append, String.toList_ofList]
  · have hbar : '^' ∉ " | ".toList := by decide
    simp only [List.mem_append, List.mem_replicate, hbar, or_false]
    exact fun hmem => hmem.elim (fun hmargin => absurd hmargin.2 (by decide)) (fun hblank => absurd hblank.2 (by decide))
  · simp only [List.length_append, List.length_replicate, String.length_toList]

end TypedStatement
