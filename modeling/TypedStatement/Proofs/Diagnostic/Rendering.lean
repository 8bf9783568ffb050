import TypedStatement.Proofs.Diagnostic.Place

/-!
# Diagnostics as text

Every range has a place as soon as it begins at a character boundary of the template, wherever it ends (`shows_locate`).  The
place can be computed by cutting the template at positions in bytes, and none of these cuts can fail (`locateByCuts_eq`).  What
is printed is the line of the place with marks below it, or else no more than the origin (`render_located`).
-/

namespace TypedStatement
set_option autoImplicit false

open Text

/-! ## Lines between line breaks -/

theorem length_splitOn_lineBreak (text : List Char) : (text.splitOn '\n').length = text.count '\n' + 1 := by
  unfold List.splitOn
  induction text with
  | nil => rfl
  | cons c text ih =>
    rw [List.splitOnP_cons_eq_if_modifyHead, List.count_cons]
    split
    · rw [List.length_cons, ih]
    · rw [List.length_modifyHead, ih]

theorem splitOn_head (line below : List Char) (hline : '\n' ∉ line) (hbelow : below = [] ∨ below.head? = some '\n') :
    ((line ++ below).splitOn '\n')[0]? = some line := by
  have hnot : ∀ c ∈ line, (c == '\n') = false := by
    intro c hc
    rw [beq_eq_false_iff_ne]
    rintro rfl
    exact hline hc
  unfold List.splitOn
  cases below with
  | nil =>
    rw [List.append_nil, List.splitOnP_eq_singleton hnot]
    rfl
  | cons c below =>
    -- the rest begins with the line break that ends the line
    obtain rfl : c = '\n' := by simpa using hbelow
    rw [List.splitOnP_append_cons_of_forall_mem hnot '\n' rfl below]
    rfl

/-- A line is found among all lines by the number of line breaks above it. -/
theorem splitOn_getElem (above line below : List Char) (habove : above = [] ∨ above.getLast? = some '\n')
    (hline : '\n' ∉ line) (hbelow : below = [] ∨ below.head? = some '\n') :
    ((above ++ line ++ below).splitOn '\n')[above.count '\n']? = some line := by
  have hhead := splitOn_head line below hline hbelow
  rcases habove with rfl | hlast
  · exact hhead
  · obtain ⟨upper, rfl⟩ := List.getLast?_eq_some_iff.1 hlast
    have hsplit : (upper ++ ['\n'] ++ line ++ below).splitOn '\n' =
        upper.splitOn '\n' ++ (line ++ below).splitOn '\n' := by
      simp only [List.append_assoc, List.singleton_append]
      exact List.splitOnP_append_cons upper (line ++ below) rfl
    have hcount : (upper ++ ['\n']).count '\n' = (upper.splitOn '\n').length := by
      rw [length_splitOn_lineBreak, List.count_append]
      rfl
    rw [hsplit, hcount, List.getElem?_append_right (Nat.le_refl _), Nat.sub_self]
    exact hhead

/-! ## The line of a position -/

/-- Around a position of a text, `before` and `after` which it stands, the line: `front` and `back` are its two parts, and
`above` and `below` the rest. -/
structure IsLineAt (before after above front back below : List Char) : Prop where
  before : before = above ++ front
  after : after = back ++ below
  begins : above = [] ∨ above.getLast? = some '\n'
  ends : below = [] ∨ below.head? = some '\n'
  whole : '\n' ∉ front ++ back

/-- The number of marks below a stretch of a line, which may be none. -/
def marks : Option (List Char) → Nat
  | some (_ :: rest) => rest.length + 1
  | _ => 1

/-- The place shown for a range that begins between `before` and `after`. -/
structure Location.Shows (location : Location) (before after : List Char) (stop : Nat) : Prop where
  number : location.line = before.count '\n' + 1
  text : ((before ++ after).splitOn '\n')[before.count '\n']? = some location.text.toList
  /-- The column is counted from the begin of the line, and the marks go up to the end of the range or of the line. -/
  place : ∃ above front back below, IsLineAt before after above front back below ∧
    location.text.toList = front ++ back ∧ location.column = front.length + 1 ∧
    location.width = marks ((⟨utf8Length before, min stop (utf8Length (before ++ back))⟩ : ByteRange).textIn?
      (before ++ after))
  within : after ≠ [] → after.head? ≠ some '\n' →
    location.column - 1 + location.width ≤ location.text.toList.length

theorem splitAtByte_append_of_le (n : Nat) (text more : List Char) (h : n ≤ utf8Length text) :
    splitAtByte n (text ++ more) = (splitAtByte n text).map fun (inside, rest) => (inside, rest ++ more) := by
  induction text generalizing n with
  | nil =>
    obtain rfl := Nat.le_zero.1 h
    rw [splitAtByte_zero, splitAtByte_zero]
    rfl
  | cons c text ih =>
    cases n with
    | zero =>
      rw [splitAtByte_zero, splitAtByte_zero]
      rfl
    | succ n =>
      rw [List.cons_append, splitAtByte, splitAtByte]
      by_cases hc : c.utf8Size ≤ n + 1
      · rw [utf8Length_cons] at h
        rw [if_pos hc, if_pos hc, ih _ (by omega), Option.map_map, Option.map_map]
        rfl
      · rw [if_neg hc, if_neg hc]
        rfl

/-- What is marked is the stretch from the range's begin to its end or the end of the line. -/
theorem width_eq_marks (before back below : List Char) (stop : Nat) :
    max (match splitAtByte (min (stop - utf8Length before) (utf8Length back)) back with
      | some (inside, _) => inside.length
      | none => 0) 1 =
    marks ((⟨utf8Length before, min stop (utf8Length (before ++ back))⟩ : ByteRange).textIn?
      (before ++ (back ++ below))) := by
  have hend := utf8Length_append before back
  unfold ByteRange.textIn?
  dsimp only
  by_cases hle : utf8Length before ≤ stop
  · have hstretch : min stop (utf8Length (before ++ back)) - utf8Length before =
        min (stop - utf8Length before) (utf8Length back) := by omega
    rw [if_pos (by omega), splitAtByte_append before (back ++ below), hstretch]
    dsimp only
    rw [splitAtByte_append_of_le _ back below (by omega), Option.map_map]
    cases splitAtByte (min (stop - utf8Length before) (utf8Length back)) back with
    | none => rfl
    | some cut =>
      obtain ⟨inside, rest⟩ := cut
      cases inside with
      | nil => rfl
      | cons c inside => exact Nat.max_eq_left (Nat.succ_le_succ (Nat.zero_le _))
  · -- the range ends before it begins
    have hnone : min (stop - utf8Length before) (utf8Length back) = 0 := by omega
    rw [if_neg (by omega), hnone, splitAtByte_zero]
    rfl

theorem exists_isLineAt (before after : List Char) : ∃ above below,
    IsLineAt before after above (untilLineBreak before.reverse).reverse (untilLineBreak after) below := by
  obtain ⟨above, habove, hbegin⟩ := exists_above before
  obtain ⟨below, hbelow, hend⟩ := exists_below after
  refine ⟨above, below, habove, hbelow, hbegin, hend, ?_⟩
  rw [List.mem_append, List.mem_reverse]
  exact fun hmem => hmem.elim (not_mem_untilLineBreak _) (not_mem_untilLineBreak _)

section
variable {before after above front back below : List Char} (h : IsLineAt before after above front back below)
include h

theorem IsLineAt.count : before.count '\n' = above.count '\n' := by
  have hfront : '\n' ∉ front := fun hmem => h.whole (List.mem_append_left _ hmem)
  rw [h.before, List.count_append, List.count_eq_zero_of_not_mem hfront, Nat.add_zero]

theorem IsLineAt.append : before ++ after = above ++ (front ++ back) ++ below := by
  rw [h.before, h.after]
  simp only [List.append_assoc]

theorem IsLineAt.splitOn_getElem : ((before ++ after).splitOn '\n')[before.count '\n']? = some (front ++ back) := by
  rw [h.append, h.count]
  exact TypedStatement.splitOn_getElem above (front ++ back) below h.begins h.whole h.ends

/-- Something of the line follows, unless a line break does or nothing. -/
theorem IsLineAt.back_ne_nil (hafter : after ≠ []) (hline : after.head? ≠ some '\n') : back ≠ [] := by
  rintro rfl
  rw [h.after, List.nil_append] at hafter hline
  exact h.ends.elim hafter hline

end

theorem marks_le (before back below : List Char) (stop : Nat) (hback : back ≠ []) :
    marks ((⟨utf8Length before, min stop (utf8Length (before ++ back))⟩ : ByteRange).textIn?
      (before ++ (back ++ below))) ≤ back.length := by
  have hpositive := List.length_pos_iff.2 hback
  rw [← width_eq_marks]
  cases hcut : splitAtByte (min (stop - utf8Length before) (utf8Length back)) back with
  | none => exact hpositive
  | some cut =>
    have hlength := congrArg List.length (append_of_splitAtByte hcut)
    rw [List.length_append] at hlength
    dsimp only
    omega

/-- Every range that begins at a character boundary has the place that it should have. -/
theorem exists_shows_locate (before after : List Char) (range : ByteRange) (hstart : range.start = utf8Length before) :
    ∃ location, locate (before ++ after) range = some location ∧ location.Shows before after range.stop := by
  obtain ⟨above, below, hline⟩ := exists_isLineAt before after
  have hwidth := width_eq_marks before (untilLineBreak after) below range.stop
  rw [← hline.after] at hwidth
  unfold locate
  rw [hstart, splitAtByte_append, Option.map_some]
  dsimp only
  refine ⟨_, rfl, rfl, ?_, ⟨above, _, _, below, hline, String.toList_ofList, rfl, hwidth⟩, ?_⟩
  · rw [hline.splitOn_getElem, String.toList_ofList]
  · intro hafter hbreak
    have hle := marks_le before (untilLineBreak after) below range.stop (hline.back_ne_nil hafter hbreak)
    rw [← hline.after, ← hwidth] at hle
    rw [String.toList_ofList, List.length_append, Nat.add_sub_cancel]
    exact Nat.add_le_add_left hle _

/-- A range that begins elsewhere has no place. -/
theorem locate_eq_none (text : List Char) (range : ByteRange)
    (h : ∀ before after, text = before ++ after → range.start ≠ utf8Length before) : locate text range = none := by
  unfold locate
  cases hsplit : splitAtByte range.start text with
  | none => rfl
  | some cut =>
    exact absurd (utf8Length_of_splitAtByte hsplit).symm (h cut.1 cut.2 (append_of_splitAtByte hsplit).symm)

/-! ## Cutting at positions -/

/-- The position of the first line break, or the end of the text. -/
def firstBreak : List Char → Nat
  | [] => 0
  | c :: rest => if c = '\n' then 0 else c.utf8Size + firstBreak rest

/-- The position after the last line break, or the begin of the text. -/
def afterLastBreak : List Char → Nat
  | [] => 0
  | c :: rest => if '\n' ∈ c :: rest then c.utf8Size + afterLastBreak rest else 0

/-- The number between two bounds that is nearest to `n`; the bounds must be in order. -/
def clamp? (low high n : Nat) : Option Nat :=
  if low ≤ high then some (max low (min n high)) else none

/-- The place, computed by positions in bytes.  Parts of the text are cut out of it between two positions, which fails if they
are not in order or one is not a character boundary; only the first cut and the last may. -/
def locateByCuts (text : List Char) (range : ByteRange) : Option (Option Location) :=
  match (⟨0, range.start⟩ : ByteRange).textIn? text with
  | none => some none
  | some before => do
    let after ← (⟨range.start, utf8Length text⟩ : ByteRange).textIn? text
    let lineStart := afterLastBreak before
    let lineEnd := range.start + firstBreak after
    let line ← (⟨lineStart, lineEnd⟩ : ByteRange).textIn? text
    let front ← (⟨lineStart, utf8Length before⟩ : ByteRange).textIn? before
    let stop ← clamp? range.start lineEnd range.stop
    let marked := ((⟨range.start, stop⟩ : ByteRange).textIn? text).map List.length
    return some ⟨before.count '\n' + 1, front.length + 1, max (marked.getD 0) 1, String.ofList line⟩

theorem firstBreak_append (line below : List Char) (hline : '\n' ∉ line) (hbelow : below = [] ∨ below.head? = some '\n') :
    firstBreak (line ++ below) = utf8Length line := by
  induction line with
  | nil =>
    cases below with
    | nil => rfl
    | cons c below =>
      obtain rfl : c = '\n' := by simpa using hbelow
      rfl
  | cons c line ih =>
    rw [List.mem_cons, not_or] at hline
    rw [List.cons_append, firstBreak, if_neg (Ne.symm hline.1), ih hline.2, utf8Length_cons]

theorem afterLastBreak_append (above line : List Char) (habove : above = [] ∨ above.getLast? = some '\n')
    (hline : '\n' ∉ line) : afterLastBreak (above ++ line) = utf8Length above := by
  induction above with
  | nil =>
    cases line with
    | nil => rfl
    | cons c line => exact if_neg hline
  | cons c above ih =>
    have hlast : (c :: above).getLast? = some '\n' := habove.resolve_left (by simp)
    have hmem : '\n' ∈ c :: (above ++ line) := List.mem_append_left line (List.mem_of_getLast? hlast)
    rw [List.cons_append, afterLastBreak, if_pos hmem, utf8Length_cons, ih]
    cases above with
    | nil => exact .inl rfl
    | cons d above => exact .inr hlast

theorem marks_eq_max (stretch : Option (List Char)) : marks stretch = max ((stretch.map List.length).getD 0) 1 := by
  cases stretch with
  | none => rfl
  | some inside =>
    cases inside with
    | nil => rfl
    | cons c inside => exact (Nat.max_eq_left (Nat.succ_le_succ (Nat.zero_le _))).symm

/-- A stretch that ends before it begins is marked like an empty one. -/
theorem marks_clamped (before after : List Char) (high stop : Nat) (h : utf8Length before ≤ high) :
    marks ((⟨utf8Length before, max (utf8Length before) (min stop high)⟩ : ByteRange).textIn? (before ++ after)) =
      marks ((⟨utf8Length before, min stop high⟩ : ByteRange).textIn? (before ++ after)) := by
  by_cases hle : utf8Length before ≤ stop
  · rw [Nat.max_eq_right (by omega)]
  · have hempty : (⟨utf8Length before, utf8Length before⟩ : ByteRange).textIn? (before ++ after) = some [] :=
      (textIn?_eq_some_iff _ _ _).2 ⟨before, after, by simp, rfl, rfl⟩
    have hreversed : (⟨utf8Length before, min stop high⟩ : ByteRange).textIn? (before ++ after) = none :=
      if_neg (by dsimp only; omega)
    rw [Nat.max_eq_left (by omega), hempty, hreversed]
    rfl

/-- What stands in front of a position. -/
theorem textIn?_front_eq_some_iff (text before : List Char) (start : Nat) :
    (⟨0, start⟩ : ByteRange).textIn? text = some before ↔ ∃ after, text = before ++ after ∧ start = utf8Length before := by
  rw [textIn?_eq_some_iff]
  constructor
  · rintro ⟨front, after, htext, hfront, hstart⟩
    cases front with
    | nil => exact ⟨after, htext, hstart.trans (Nat.zero_add _)⟩
    | cons c front => exact absurd hfront (Nat.ne_of_lt (utf8Length_pos (c :: front) (by simp)))
  · rintro ⟨after, htext, hstart⟩
    exact ⟨[], after, htext, rfl, hstart.trans (Nat.zero_add _).symm⟩

/-- Cutting never fails, and gives the place. -/
theorem locateByCuts_eq (text : List Char) (range : ByteRange) : locateByCuts text range = some (locate text range) := by
  unfold locateByCuts
  split
  · rename_i hnone
    rw [locate_eq_none text range]
    intro before after htext hstart
    rw [(textIn?_front_eq_some_iff text before range.start).2 ⟨after, htext, hstart⟩] at hnone
    exact absurd hnone (by simp)
  · rename_i before hbefore
    obtain ⟨after, rfl, hstart⟩ := (textIn?_front_eq_some_iff text before range.start).1 hbefore
    obtain ⟨location, hlocate, hshows⟩ := exists_shows_locate before after range hstart
    obtain ⟨above, front, back, below, hline, htext, hcolumn, hwidth⟩ := hshows.place
    -- the template is `above ++ front ++ back ++ below`, and every cut is where two of these meet
    have hback : '\n' ∉ back := fun hmem => hline.whole (List.mem_append_right _ hmem)
    have hfront : '\n' ∉ front := fun hmem => hline.whole (List.mem_append_left _ hmem)
    have hlineStart : afterLastBreak before = utf8Length above := by
      rw [hline.before, afterLastBreak_append above front hline.begins hfront]
    have hlineEnd : range.start + firstBreak after = utf8Length (before ++ back) := by
      rw [hstart, hline.after, firstBreak_append back below hback hline.ends, utf8Length_append]
    have hrest : (⟨range.start, utf8Length (before ++ after)⟩ : ByteRange).textIn? (before ++ after) = some after :=
      (textIn?_eq_some_iff _ _ _).2 ⟨before, [], by simp, hstart, utf8Length_append before after⟩
    have hcut : (⟨utf8Length above, utf8Length (before ++ back)⟩ : ByteRange).textIn? (before ++ after) =
        some (front ++ back) :=
      (textIn?_eq_some_iff _ _ _).2 ⟨above, below, hline.append, rfl, by
        rw [hline.before, List.append_assoc, utf8Length_append above]⟩
    have hcutFront : (⟨utf8Length above, utf8Length before⟩ : ByteRange).textIn? before = some front :=
      (textIn?_eq_some_iff _ _ _).2 ⟨above, [], by rw [List.append_nil]; exact hline.before, rfl, by
        rw [hline.before, utf8Length_append]⟩
    have hle : utf8Length before ≤ utf8Length (before ++ back) := by
      rw [utf8Length_append]
      exact Nat.le_add_right _ _
    have hclamp : clamp? range.start (utf8Length (before ++ back)) range.stop =
        some (max (utf8Length before) (min range.stop (utf8Length (before ++ back)))) := by
      rw [clamp?, hstart, if_pos hle]
    rw [hlocate]
    simp only [hrest, hlineStart, hlineEnd, hcut, hcutFront, hclamp, Option.bind_eq_bind, Option.bind_some]
    rw [hstart, ← marks_eq_max, marks_clamped before after _ _ hle, ← hwidth, ← hshows.number, ← hcolumn, ← htext,
      String.ofList_toList]
    rfl

/-! ## What is printed -/

/-- The lines below the place. -/
def Diagnostic.remarks (diagnostic : Diagnostic) : List String :=
  (diagnostic.note.map ("  = note: " ++ ·)).toList ++ (diagnostic.fixIt.map ("  = help: " ++ ·.message)).toList

/-- Lines as text, each ended by a line break. -/
def printed (lines : List String) : String :=
  String.join (lines.map (· ++ "\n"))

/-- The lines that show a place: the origin with the numbers of the line and the column, the line, and the marks below it. -/
def Location.printedLines (location : Location) (origin : String) : List String :=
  let number := toString location.line
  let margin := String.ofList (List.replicate number.length ' ')
  [margin ++ "--> " ++ origin ++ ":" ++ number ++ ":" ++ toString location.column,
   margin ++ " |",
   number ++ " | " ++ location.text,
   margin ++ " | " ++ String.ofList (List.replicate (location.column - 1) ' ') ++
     String.ofList (List.replicate location.width '^')]

/-- A diagnostic is shown with the place of its range if that begins at a character boundary of the template, and without one
otherwise; no range makes a cut of the template fail. -/
theorem render_located (diagnostic : Diagnostic) (origin template : String) :
    (∀ range, locateByCuts template.toList range = some (locate template.toList range)) ∧
    (∀ range before after, diagnostic.range = some range → template.toList = before ++ after →
      range.start = utf8Length before → ∃ location : Location, location.Shows before after range.stop ∧
        diagnostic.render origin template =
          printed (diagnostic.headline :: location.printedLines origin ++ diagnostic.remarks)) ∧
    ((∀ range before after, diagnostic.range = some range → template.toList = before ++ after →
        range.start ≠ utf8Length before) →
      diagnostic.render origin template = printed (diagnostic.headline :: (" --> " ++ origin) :: diagnostic.remarks)) := by
  refine ⟨locateByCuts_eq template.toList, ?_, ?_⟩
  · intro range before after hrange htemplate hstart
    obtain ⟨location, hlocate, hshows⟩ := exists_shows_locate before after range hstart
    refine ⟨location, hshows, ?_⟩
    unfold Diagnostic.render Diagnostic.lines
    rw [hrange, Option.bind_some, htemplate, hlocate]
    rfl
  · intro hnowhere
    have hnone : diagnostic.range.bind (locate template.toList) = none := by
      cases hrange : diagnostic.range with
      | none => rfl
      | some range => exact locate_eq_none _ range fun before after => hnowhere range before after hrange
    unfold Diagnostic.render Diagnostic.lines
    rw [hnone]
    rfl

/-- A range over two lines, after a character of two bytes; and one that begins inside this character. -/
theorem render_located_brokenHole :
    let template := "SELECT 1,\n  'é' \x7bid,\n i64"
    let diagnostic : Diagnostic := ⟨.malformedTemplate, "unclosed", .error, some ⟨17, 26⟩, none, none⟩
    locateByCuts template.toList ⟨26, 17⟩ = some (locate template.toList ⟨26, 17⟩) ∧
    (∃ location : Location, location.Shows "SELECT 1,\n  'é' ".toList "\x7bid,\n i64".toList 26 ∧
      diagnostic.render "lib.rs" template = printed (diagnostic.headline :: location.printedLines "lib.rs")) ∧
    Diagnostic.render { diagnostic with range := some ⟨14, 26⟩ } "lib.rs" template =
      printed [diagnostic.headline, " --> lib.rs"] := by
  intro template diagnostic
  obtain ⟨hcuts, hplace, -⟩ := render_located diagnostic "lib.rs" template
  obtain ⟨location, hshows, hrender⟩ :=
    hplace ⟨17, 26⟩ "SELECT 1,\n  'é' ".toList "\x7bid,\n i64".toList rfl (by decide) (by decide)
  refine ⟨hcuts ⟨26, 17⟩, ⟨location, hshows, by simpa [Diagnostic.remarks, diagnostic] using hrender⟩, ?_⟩
  refine (render_located { diagnostic with range := some ⟨14, 26⟩ } "lib.rs" template).2.2 ?_
  intro range before after hrange htemplate hstart
  obtain rfl := Option.some.inj hrange
  have hinside : splitAtByte 14 template.toList = none := by decide +kernel
  rw [htemplate, show 14 = utf8Length before from hstart, splitAtByte_append] at hinside
  exact absurd hinside (by simp)

end TypedStatement
