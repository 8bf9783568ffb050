import TypedStatement.Proofs.Template.Acceptance
import TypedStatement.Proofs.Text.ByteRange

/-!
# Where segments and arguments lie in a template

The segments of a template that is accepted tile it, and the arguments of a hole lie one after the other in it, with
nothing but white space and commas between them (`scan_tiles`).

The body of a hole is laid out as `Laid` says; every fact about the ranges of its arguments is an induction on that.
-/

namespace TypedStatement.Template
set_option autoImplicit false

open Text

/-! ## What is shown -/

/-- The text is the value of the argument, or its label, a single colon and its value, perhaps with white space around
the colon. -/
def Argument.IsText (argument : Argument) (text : List Char) : Prop :=
  match argument.label with
  | none => text = argument.value.toList
  | some label => ∃ left right, isBlank left = true ∧ isBlank right = true ∧
      text = label.toList ++ left ++ ':' :: (right ++ argument.value.toList) ∧
      (right ++ argument.value.toList).head? ≠ some ':'

/-- The template shows the argument at its range. -/
structure Argument.IsShown (template : List Char) (argument : Argument) : Prop where
  nonempty : argument.range.start < argument.range.stop
  text : ∃ text, argument.range.textIn? template = some text ∧ IsTrimmed text ∧ argument.IsText text

def IsEnding (text : List Char) : Prop :=
  isBlank text = true ∨ ∃ left right, isBlank left = true ∧ isBlank right = true ∧ text = left ++ ',' :: right

/-- The template shows the hole at its range, and the arguments in it from left to right. -/
structure Hole.IsShown (template : List Char) (hole : Hole) : Prop where
  braces : ∃ inside, hole.range.textIn? template = some ('{' :: (inside ++ ['}']))
  nonempty : hole.arguments ≠ []
  shown : ∀ argument ∈ hole.arguments, argument.IsShown template
  increasing : hole.arguments.Pairwise fun a b => a.range.stop ≤ b.range.start
  front : ∀ first, hole.arguments.head? = some first → ∃ blank, isBlank blank = true ∧
    ByteRange.textIn? ⟨hole.range.start, first.range.start⟩ template = some ('{' :: blank)
  between : hole.arguments.IsChain fun a b => ∃ left right, isBlank left = true ∧ isBlank right = true ∧
    ByteRange.textIn? ⟨a.range.stop, b.range.start⟩ template = some (left ++ ',' :: right)
  back : ∀ last, hole.arguments.getLast? = some last → ∃ ending, IsEnding ending ∧
    ByteRange.textIn? ⟨last.range.stop, hole.range.stop⟩ template = some (ending ++ ['}'])

/-- The text that a segment stands for in the template. -/
def Segment.source? (template : List Char) : Segment → Option (List Char)
  | .literal text => some (doubleBraces text.toList)
  | .hole h => h.range.textIn? template

/-! ## The layout of a body -/

structure Placed (start : Nat) (core : List Char) (argument : Argument) : Prop where
  range : argument.range = ⟨start, start + utf8Length core⟩
  nonempty : core ≠ []
  trimmed : IsTrimmed core
  text : argument.IsText core

theorem placed_of_saysArgument (start : Nat) (core : List Char) (argument : Argument) (htrimmed : IsTrimmed core)
    (hne : core ≠ []) (h : SaysArgument start core argument) : Placed start core argument := by
  cases h with
  | bare _ => exact ⟨rfl, hne, htrimmed, (String.toList_ofList).symm⟩
  | labelled label value hlabelled _ =>
    obtain ⟨left, rest, htext, -, hleft, hcolon, hvalue⟩ := hlabelled
    obtain ⟨right, hright, hrest⟩ := exists_trimStart rest
    rw [← hvalue] at hrest
    refine ⟨rfl, hne, htrimmed, left, right, hleft, hright, ?_, ?_⟩
    · rw [String.toList_ofList, String.toList_ofList, ← hrest]
      exact htext
    · rw [String.toList_ofList, ← hrest]
      exact hcolon

/-- The body of a hole from byte `position` on, with its arguments. -/
inductive Laid : Nat → List Char → List Argument → Prop
  | last (position : Nat) (before core after : List Char) (argument : Argument) :
    isBlank before = true → IsEnding after → Placed (position + utf8Length before) core argument →
    Laid position (before ++ core ++ after) [argument]
  | cons (position : Nat) (before core after rest : List Char) (argument : Argument) (later : List Argument) :
    isBlank before = true → isBlank after = true → Placed (position + utf8Length before) core argument →
    Laid (position + utf8Length (before ++ core ++ after) + 1) rest later →
    Laid position (before ++ core ++ after ++ ',' :: rest) (argument :: later)

theorem exists_placed_of_holdsArgument (position : Nat) (text : List Char) (argument : Argument)
    (h : HoldsArgument ⟨position, text⟩ argument) :
    ∃ before core after, text = before ++ core ++ after ∧ isBlank before = true ∧ isBlank after = true ∧
      Placed (position + utf8Length before) core argument := by
  obtain ⟨before, core, after, htext, hbefore, hafter, htrimmed, hcore, hsays⟩ := h
  exact ⟨before, core, after, htext, hbefore, hafter, placed_of_saysArgument _ core argument htrimmed hcore hsays⟩

theorem laid_of_holdsArguments (position : Nat) (pieces : List Piece) (arguments : List Argument) (hne : pieces ≠ [])
    (hfilled : ∀ piece ∈ pieces.dropLast, isBlank piece.text = false)
    (halone : ∀ piece, pieces = [piece] → isBlank piece.text = false)
    (h : List.Forall₂ HoldsArgument ((slicesFrom position pieces).filter fun slice => !isBlank slice.text) arguments) :
    Laid position (bodyText pieces) arguments := by
  induction pieces generalizing position arguments with
  | nil => exact absurd rfl hne
  | cons piece later ih =>
    have hblank : isBlank piece.text = false := by
      cases later with
      | nil => exact halone piece rfl
      | cons next rest => exact hfilled piece List.mem_cons_self
    rw [slicesFrom, List.filter_cons_of_pos (by simp [hblank])] at h
    obtain ⟨argument, others, hfirst, hrest, rfl⟩ := List.forall₂_cons_left_iff.1 h
    obtain ⟨before, core, after, htext, hbefore, hafter, hplaced⟩ := exists_placed_of_holdsArgument _ _ _ hfirst
    cases later with
    | nil =>
      cases hrest
      rw [bodyText, htext]
      exact .last position before core after argument hbefore (.inl hafter) hplaced
    | cons next rest =>
      rw [bodyText]
      by_cases hend : rest = [] ∧ isBlank next.text = true
      · -- a comma at the end
        obtain ⟨rfl, hnext⟩ := hend
        rw [slicesFrom, List.filter_cons_of_neg (by simp [hnext])] at hrest
        cases hrest
        rw [htext, bodyText, List.append_assoc]
        exact .last position before core _ argument hbefore (.inr ⟨after, next.text, hafter, hnext, rfl⟩) hplaced
      · rw [List.dropLast_cons_of_ne_nil (by simp), List.forall_mem_cons] at hfilled
        have hnext : ∀ other, next :: rest = [other] → isBlank other.text = false := by
          intro other hother
          obtain ⟨rfl, hnil⟩ := List.cons.inj hother
          rw [← Bool.not_eq_true]
          exact fun hnext => hend ⟨hnil, hnext⟩
        have hlater := ih (position + utf8Length piece.text + 1) others (by simp) hfilled.2 hnext hrest
        rw [htext] at hlater ⊢
        exact .cons position before core after _ argument others hbefore hafter hplaced hlater

/-! ## The arguments of a layout -/

section
variable {position : Nat} {text : List Char} {arguments : List Argument}

theorem Laid.front (h : Laid position text arguments) :
    ∃ first later blank rest, arguments = first :: later ∧ text = blank ++ rest ∧ isBlank blank = true ∧
      first.range.start = position + utf8Length blank := by
  cases h with
  | last _ before core after argument hbefore _ hplaced =>
    refine ⟨argument, [], before, core ++ after, rfl, List.append_assoc _ _ _, hbefore, ?_⟩
    rw [hplaced.range]
  | cons _ before core after rest argument later hbefore _ hplaced _ =>
    refine ⟨argument, later, before, core ++ after ++ ',' :: rest, rfl, ?_, hbefore, ?_⟩
    · simp only [List.append_assoc]
    · rw [hplaced.range]

theorem Laid.back (h : Laid position text arguments) (last : Argument) (hlast : arguments.getLast? = some last) :
    ∃ front ending, text = front ++ ending ∧ IsEnding ending ∧ last.range.stop = position + utf8Length front := by
  induction h with
  | last position before core after argument _ hafter hplaced =>
    refine ⟨before ++ core, after, rfl, hafter, ?_⟩
    rw [← Option.some.inj hlast, List.getLast_singleton, hplaced.range, utf8Length_append, Nat.add_assoc]
  | cons position before core after rest argument later _ _ _ hlater ih =>
    obtain ⟨first, others, -, -, rfl, -⟩ := hlater.front
    rw [List.getLast?_cons_cons] at hlast
    obtain ⟨front, ending, rfl, hending, hstop⟩ := ih hlast
    refine ⟨before ++ core ++ after ++ ',' :: front, ending, ?_, hending, ?_⟩
    · simp only [List.append_assoc, List.cons_append]
    · have hcomma : (',').utf8Size = 1 := rfl
      rw [hstop, utf8Length_append (before ++ core ++ after), utf8Length_cons]
      omega

theorem Laid.start_le (h : Laid position text arguments) : ∀ argument ∈ arguments, position ≤ argument.range.start := by
  induction h with
  | last position before core after argument _ _ hplaced =>
    intro other hother
    rw [List.mem_singleton.1 hother, hplaced.range]
    exact Nat.le_add_right _ _
  | cons position before core after rest argument later _ _ hplaced _ ih =>
    intro other hother
    rcases List.mem_cons.1 hother with rfl | hother
    · rw [hplaced.range]
      exact Nat.le_add_right _ _
    · have hle := ih other hother
      omega

theorem Laid.increasing (h : Laid position text arguments) :
    arguments.Pairwise fun a b => a.range.stop ≤ b.range.start := by
  induction h with
  | last => exact List.pairwise_singleton _ _
  | cons position before core after rest argument later _ _ hplaced hlater ih =>
    refine List.pairwise_cons.2 ⟨?_, ih⟩
    intro other hother
    have hle := hlater.start_le other hother
    rw [utf8Length_append, utf8Length_append] at hle
    rw [hplaced.range]
    dsimp only
    omega

theorem Placed.isShown {start : Nat} {core : List Char} {argument : Argument} (h : Placed start core argument)
    (before after : List Char) (hstart : start = utf8Length before) : argument.IsShown (before ++ core ++ after) := by
  have hpos := utf8Length_pos core h.nonempty
  have hfound := textIn?_append before core after argument.range (by rw [h.range, hstart]) (by rw [h.range, hstart])
  refine ⟨?_, core, hfound, h.trimmed, h.text⟩
  rw [h.range]
  dsimp only
  omega

theorem utf8Length_past_comma (position : Nat) (before text : List Char) (h : position = utf8Length before) :
    position + utf8Length text + 1 = utf8Length (before ++ (text ++ [','])) := by
  have hcomma : utf8Length [','] = 1 := rfl
  rw [utf8Length_append, utf8Length_append, hcomma, h, Nat.add_assoc]

theorem Laid.isShown (h : Laid position text arguments) (before after : List Char)
    (hposition : position = utf8Length before) :
    ∀ argument ∈ arguments, argument.IsShown (before ++ text ++ after) := by
  induction h generalizing before with
  | last position left core right argument _ _ hplaced =>
    intro other hother
    have hshown := hplaced.isShown (before ++ left) (right ++ after) (by rw [utf8Length_append, hposition])
    simp only [List.append_assoc] at hshown ⊢
    rw [List.mem_singleton.1 hother]
    exact hshown
  | cons position left core right rest argument later _ _ hplaced _ ih =>
    intro other hother
    rcases List.mem_cons.1 hother with rfl | hother
    · have hshown := hplaced.isShown (before ++ left) (right ++ ',' :: rest ++ after)
        (by rw [utf8Length_append, hposition])
      simp only [List.append_assoc] at hshown ⊢
      exact hshown
    · have hshown := ih _ (utf8Length_past_comma position before (left ++ core ++ right) hposition) other hother
      simp only [List.append_assoc, List.cons_append, List.nil_append] at hshown ⊢
      exact hshown

theorem Laid.between (h : Laid position text arguments) (before after : List Char)
    (hposition : position = utf8Length before) :
    arguments.IsChain fun a b => ∃ left right, isBlank left = true ∧ isBlank right = true ∧
      ByteRange.textIn? ⟨a.range.stop, b.range.start⟩ (before ++ text ++ after) = some (left ++ ',' :: right) := by
  induction h generalizing before with
  | last => exact .singleton _
  | cons position left core right rest argument later _ hright hplaced hlater ih =>
    have hrest := ih _ (utf8Length_past_comma position before (left ++ core ++ right) hposition)
    obtain ⟨first, others, blank, text, rfl, rfl, hblank, hfirst⟩ := hlater.front
    have hfound := textIn?_append (before ++ left ++ core) (right ++ ',' :: blank) (text ++ after)
      ⟨argument.range.stop, first.range.start⟩
    simp only [List.append_assoc, List.cons_append, List.nil_append] at hrest hfound ⊢
    refine List.isChain_cons_cons.2 ⟨⟨right, blank, hright, hblank, hfound ?_ ?_⟩, hrest⟩
    · rw [hplaced.range, hposition, utf8Length_append, utf8Length_append, Nat.add_assoc]
    · have hsize : (',').utf8Size = 1 := rfl
      rw [hfirst, hposition]
      simp only [utf8Length_append, utf8Length_cons, hsize]
      omega

end

/-! ## Holes -/

section
variable {position : Nat} {pieces : List Piece} {hole : Hole}

theorem HoleDenotes.laid (h : HoleDenotes position pieces hole) (hbody : IsBody pieces) :
    Laid (position + 1) (bodyText pieces) hole.arguments := by
  have hne : pieces ≠ [] := by
    rintro rfl
    exact hbody.cut
  exact laid_of_holdsArguments (position + 1) pieces hole.arguments hne hbody.filled hbody.filled_alone h.arguments

variable (before after : List Char) (hposition : position = utf8Length before)

include hposition

theorem HoleDenotes.textIn? (h : HoleDenotes position pieces hole) :
    hole.range.textIn? (before ++ (Written.hole pieces).text ++ after) = some (Written.hole pieces).text := by
  apply textIn?_append before _ after hole.range
  · rw [h.range, hposition]
  · rw [h.range, hposition, Written.text, utf8Length_braces]

theorem HoleDenotes.front (h : HoleDenotes position pieces hole) (hbody : IsBody pieces) (first : Argument)
    (hfirst : hole.arguments.head? = some first) : ∃ blank, isBlank blank = true ∧
      ByteRange.textIn? ⟨hole.range.start, first.range.start⟩ (before ++ (Written.hole pieces).text ++ after) =
        some ('{' :: blank) := by
  obtain ⟨other, later, blank, rest, hcons, htext, hblank, hother⟩ := (h.laid hbody).front
  rw [hcons, List.head?_cons] at hfirst
  rw [Option.some.inj hfirst] at hother
  have hfound := textIn?_append before ('{' :: blank) (rest ++ '}' :: after) ⟨hole.range.start, first.range.start⟩
  rw [Written.text, htext]
  simp only [List.append_assoc, List.cons_append, List.nil_append] at hfound ⊢
  refine ⟨blank, hblank, hfound ?_ ?_⟩
  · rw [h.range, hposition]
  · have hopen : ('{').utf8Size = 1 := rfl
    rw [hother, hposition, utf8Length_cons, hopen, Nat.add_assoc]

theorem HoleDenotes.back (h : HoleDenotes position pieces hole) (hbody : IsBody pieces) (last : Argument)
    (hlast : hole.arguments.getLast? = some last) : ∃ ending, IsEnding ending ∧
      ByteRange.textIn? ⟨last.range.stop, hole.range.stop⟩ (before ++ (Written.hole pieces).text ++ after) =
        some (ending ++ ['}']) := by
  obtain ⟨front, ending, htext, hending, hstop⟩ := (h.laid hbody).back last hlast
  have hfound := textIn?_append (before ++ '{' :: front) (ending ++ ['}']) after ⟨last.range.stop, hole.range.stop⟩
  have hopen : ('{').utf8Size = 1 := rfl
  have hclose : utf8Length ['}'] = 1 := rfl
  rw [Written.text, htext]
  simp only [List.append_assoc, List.cons_append, List.nil_append] at hfound ⊢
  refine ⟨ending, hending, hfound ?_ ?_⟩
  · rw [hstop, hposition, utf8Length_append, utf8Length_cons, hopen, Nat.add_assoc]
  · rw [h.range, htext, hposition]
    simp only [utf8Length_append, utf8Length_cons, hopen, hclose]
    omega

theorem HoleDenotes.isShown (h : HoleDenotes position pieces hole) (hbody : IsBody pieces) :
    hole.IsShown (before ++ (Written.hole pieces).text ++ after) := by
  have hlaid := h.laid hbody
  have hinside : position + 1 = utf8Length (before ++ ['{']) := by
    have hopen : utf8Length ['{'] = 1 := rfl
    rw [utf8Length_append, hopen, hposition]
  have hsplit : before ++ (Written.hole pieces).text ++ after =
      before ++ ['{'] ++ bodyText pieces ++ ('}' :: after) := by
    simp only [Written.text, List.append_assoc, List.cons_append, List.nil_append]
  refine ⟨⟨bodyText pieces, h.textIn? before after hposition⟩, ?_, ?_, hlaid.increasing,
    h.front before after hposition hbody, ?_, h.back before after hposition hbody⟩
  · obtain ⟨first, later, -, -, hcons, -⟩ := hlaid.front
    rw [hcons]
    exact List.cons_ne_nil first later
  · rw [hsplit]
    exact hlaid.isShown _ _ hinside
  · rw [hsplit]
    exact hlaid.between _ _ hinside

end

theorem DenotesAll.exists_hole {position : Nat} {written : List Written} {items : List Item}
    (h : DenotesAll position written items) (hole : Hole) (hmem : Item.hole hole ∈ items) :
    ∃ before pieces after, written = before ++ .hole pieces :: after ∧
      HoleDenotes (position + utf8Length (writtenText before)) pieces hole := by
  induction h with
  | nil => exact absurd hmem (by simp)
  | cons position first item written items hfirst _ ih =>
    rcases List.mem_cons.1 hmem with rfl | hmem
    · cases hfirst with
      | hole pieces _ hhole => exact ⟨[], pieces, written, rfl, hhole⟩
    · obtain ⟨before, pieces, after, rfl, hhole⟩ := ih hmem
      refine ⟨first :: before, pieces, after, rfl, ?_⟩
      rw [writtenText_cons, utf8Length_append, ← Nat.add_assoc]
      exact hhole

/-! ## The whole template -/

theorem writtenText_of_chars (position : Nat) (written : List Written) (text : List Char)
    (hlegal : ∀ w ∈ written, w.IsLegal) (h : DenotesAll position written (text.map .char)) :
    writtenText written = doubleBraces text := by
  induction text generalizing position written with
  | nil =>
    cases h
    rfl
  | cons c text ih =>
    cases h with
    | cons _ first _ written _ hfirst hrest =>
      have hc : first.text = if c = '{' ∨ c = '}' then [c, c] else [c] := by
        have hfirstLegal := hlegal first List.mem_cons_self
        cases hfirst with
        | char c => rw [if_neg (not_or.2 hfirstLegal), Written.text]
        | doubled c =>
          have hbrace : c = '{' ∨ c = '}' := hfirstLegal
          rw [if_pos hbrace, Written.text]
      rw [writtenText_cons, hc, ih _ _ (fun w hw => hlegal w (List.mem_cons_of_mem _ hw)) hrest, doubleBraces,
        doubleBraces, List.flatMap_cons]

theorem source?_of_denotesAll (before after : List Char) (written : List Written) (segment : Segment)
    (hlegal : ∀ w ∈ written, w.IsLegal) (h : DenotesAll (utf8Length before) written segment.items) :
    segment.source? (before ++ writtenText written ++ after) = some (writtenText written) := by
  cases segment with
  | literal text => rw [writtenText_of_chars _ written text.toList hlegal h, Segment.source?]
  | hole hole =>
    cases h with
    | cons _ first _ rest _ hfirst hrest =>
      cases hrest
      cases hfirst with
      | hole pieces _ hhole =>
        have hsingle : writtenText [.hole pieces] = (Written.hole pieces).text := List.append_nil _
        rw [hsingle, Segment.source?]
        exact hhole.textIn? before after rfl

/-- What the segments stand for is what was written. -/
theorem exists_sources (before after : List Char) (written : List Written) (segments : List Segment)
    (hlegal : ∀ w ∈ written, w.IsLegal)
    (h : DenotesAll (utf8Length before) written (segments.flatMap Segment.items)) :
    ∃ parts, segments.mapM (Segment.source? (before ++ writtenText written ++ after)) = some parts ∧
      parts.flatten = writtenText written := by
  induction segments generalizing before written with
  | nil =>
    cases h
    exact ⟨[], rfl, rfl⟩
  | cons segment segments ih =>
    rw [List.flatMap_cons] at h
    obtain ⟨first, second, rfl, hfirst, hsecond⟩ := h.exists_append
    rw [← utf8Length_append] at hsecond
    have hsource := source?_of_denotesAll before (writtenText second ++ after) first segment
      (fun w hw => hlegal w (List.mem_append_left _ hw)) hfirst
    obtain ⟨parts, hparts, hflatten⟩ := ih (before ++ writtenText first) second
      (fun w hw => hlegal w (List.mem_append_right _ hw)) hsecond
    rw [writtenText_append]
    simp only [List.append_assoc] at hsource hparts ⊢
    refine ⟨writtenText first :: parts, ?_, ?_⟩
    · rw [List.mapM_cons, hsource, hparts]
      rfl
    · rw [List.flatten_cons, hflatten]

/-- The segments of a template that is accepted tile it, and its holes are shown in it. -/
theorem scan_tiles (template : String) (segments : List Segment) (h : scan template = .ok segments) :
    Separated segments ∧
      (∃ parts, segments.mapM (Segment.source? template.toList) = some parts ∧ parts.flatten = template.toList) ∧
      ∀ hole, Segment.hole hole ∈ segments → hole.IsShown template.toList := by
  obtain ⟨written, hwritten⟩ := (exists_isTemplate_iff template).1 ⟨segments, h⟩
  obtain ⟨hseparated, hdenotes⟩ := (scan_eq_ok_iff_means template written segments hwritten).1 h
  refine ⟨hseparated, ?_, ?_⟩
  · have hsources := exists_sources [] [] written segments hwritten.legal hdenotes
    rw [List.nil_append, List.append_nil, hwritten.text] at hsources
    exact hsources
  · intro hole hmem
    have hitem : Item.hole hole ∈ segments.flatMap Segment.items :=
      List.mem_flatMap.2 ⟨.hole hole, hmem, List.mem_cons_self⟩
    obtain ⟨before, pieces, after, rfl, hhole⟩ := hdenotes.exists_hole hole hitem
    rw [Nat.zero_add] at hhole
    have hbody : IsBody pieces := hwritten.legal (.hole pieces) (List.mem_append_right _ List.mem_cons_self)
    have hshown := hhole.isShown (writtenText before) (writtenText after) rfl hbody
    rw [← hwritten.text, writtenText_append, writtenText_cons, ← List.append_assoc]
    exact hshown

/-- A template with characters of several bytes, doubled braces on both sides of a hole, brackets and quotes. -/
def crowdedTemplate : String :=
  "é\x7b\x7b\x7b id ,\u3000t : Map<k, v>, \"\x7d,\" ,\x7d\x7d\x7d"

def crowdedSegments : List Segment :=
  [.literal "é\x7b",
    .hole ⟨[⟨none, "id", ⟨6, 8⟩⟩, ⟨some "t", "Map<k, v>", ⟨13, 26⟩⟩, ⟨none, "\"\x7d,\"", ⟨28, 32⟩⟩], ⟨4, 35⟩⟩,
    .literal "\x7d"]

theorem scan_tiles_crowded :
    scan crowdedTemplate = .ok crowdedSegments ∧ Separated crowdedSegments ∧
      (∃ parts, crowdedSegments.mapM (Segment.source? crowdedTemplate.toList) = some parts ∧
        parts.flatten = crowdedTemplate.toList) ∧
      ∀ hole, Segment.hole hole ∈ crowdedSegments → hole.IsShown crowdedTemplate.toList := by
  have hscan : scan crowdedTemplate = .ok crowdedSegments := (scan_ofList _).trans (by decide +kernel)
  exact ⟨hscan, scan_tiles crowdedTemplate crowdedSegments hscan⟩

end TypedStatement.Template
