import TypedStatement.Proofs.Template.Acceptance
import TypedStatement.Proofs.Template.Drafts
import TypedStatement.Proofs.Template.Marks

/-!
# Reading undoes writing

The text of a draft whose arguments are safe to write is read as the segments of the draft (`scan_draftText`).  An
argument is written as a piece in which it is found again (`WritesArgument`), a hole as the pieces of its arguments
(`WritesHole`), and literal text character by character.
-/

namespace TypedStatement.Template
set_option autoImplicit false

open Text

/-! ## One argument -/

namespace ArgumentDraft

theorem exists_piece (inType : Bool) (draft : ArgumentDraft) (h : draft.IsSafe inType) :
    ∃ piece : Piece, piece.text = draft.text ∧ IsPiece inType piece ∧ IsLevel inType piece := by
  obtain ⟨atoms, hatoms, hpiece, hlevel⟩ := h.level
  -- what stands in front of the value marks nothing
  obtain ⟨front, hfront, hmarks⟩ : ∃ front : List Char,
      draft.before.val ++ draft.core = front ++ draft.value.toList ∧ ∀ c ∈ front, c ∉ marks := by
    have hbefore := not_mem_marks_of_isBlank draft.before.val draft.before.property
    cases hlabel : draft.label with
    | none =>
      refine ⟨draft.before.val, ?_, hbefore⟩
      rw [core, hlabel]
    | some label =>
      refine ⟨draft.before.val ++ (label.toList ++ draft.beforeColon.val ++ ':' :: draft.afterColon.val), ?_, ?_⟩
      · rw [core, hlabel]
        simp only [List.append_assoc, List.cons_append]
      · have hname := not_mem_marks_of_isAsciiName label.toList (h.name label hlabel)
        have hleft := not_mem_marks_of_isBlank draft.beforeColon.val draft.beforeColon.property
        have hright := not_mem_marks_of_isBlank draft.afterColon.val draft.afterColon.property
        have hcolon : ':' ∉ marks := by decide
        intro c hc
        simp only [List.mem_append, List.mem_cons] at hc
        rcases hc with hc | (hc | hc) | rfl | hc
        · exact hbefore c hc
        · exact hname c hc
        · exact hleft c hc
        · exact hcolon
        · exact hright c hc
  have hafter := not_mem_marks_of_isBlank draft.after.val draft.after.property
  obtain ⟨hall, hopen⟩ := (hpiece.plain_append front hmarks).append_plain
    ((isLevel_plain_append inType front atoms hmarks).2 hlevel) draft.after.val hafter
  refine ⟨plain front ++ atoms ++ plain draft.after.val, ?_, hall, hopen⟩
  rw [pieceText_append, pieceText_append, plain_text, plain_text, hatoms, text, hfront]

theorem isTrimmed_core (inType : Bool) (draft : ArgumentDraft) (h : draft.IsSafe inType) :
    IsTrimmed draft.core ∧ draft.core ≠ [] := by
  have hvalue : draft.value.toList ≠ [] := by
    intro hnil
    exact h.nonempty (String.toList_eq_nil_iff.1 hnil)
  unfold core
  split
  · exact ⟨h.trimmed, hvalue⟩
  · rename_i label hlabel
    have hname := h.name label hlabel
    obtain ⟨first, rest, hcons⟩ := List.exists_cons_of_ne_nil (ne_nil_of_isAsciiName label.toList hname)
    refine ⟨⟨?_, ?_⟩, by simp⟩
    · intro c hc
      rw [hcons, List.cons_append, List.cons_append, List.head?_cons] at hc
      apply isWhiteSpace_head_of_isAsciiName label.toList hname c
      rw [hcons, List.head?_cons, hc]
    · intro c hc
      rw [← List.cons_append, ← List.append_assoc, List.getLast?_append_of_ne_nil _ hvalue] at hc
      exact h.trimmed.last c hc

theorem isLabelled_core (inType : Bool) (draft : ArgumentDraft) (h : draft.IsSafe inType) (label : String)
    (hlabel : draft.label = some label) : IsLabelled draft.core label.toList draft.value.toList := by
  refine ⟨draft.beforeColon.val, draft.afterColon.val ++ draft.value.toList, ?_, h.name label hlabel,
    draft.beforeColon.property, ?_, ?_⟩
  · rw [core, hlabel]
  · have hcolon := h.colon (by rw [hlabel]; simp)
    have hblank := draft.afterColon.property
    cases hgap : draft.afterColon.val with
    | nil =>
      rw [List.nil_append]
      exact hcolon
    | cons c gap =>
      rw [hgap] at hblank
      intro hhead
      rw [List.cons_append, List.head?_cons] at hhead
      have hnot : isBlank (':' :: gap) = false := rfl
      rw [Option.some.inj hhead, hnot] at hblank
      exact absurd hblank (by decide)
  · exact (trimStart_blank _ _ draft.afterColon.property h.trimmed.first).symm

theorem saysArgument (inType : Bool) (draft : ArgumentDraft) (h : draft.IsSafe inType) (position : Nat) :
    SaysArgument (position + utf8Length draft.before.val) draft.core (draft.argument position) := by
  unfold argument
  cases hlabel : draft.label with
  | none =>
    have hcore : draft.core = draft.value.toList := by rw [core, hlabel]
    rw [hcore]
    have hbare : SaysArgument (position + utf8Length draft.before.val) draft.value.toList _ := .bare (h.bare hlabel)
    rwa [String.ofList_toList] at hbare
  | some label =>
    have hvalue : draft.value.toList ≠ [] := fun hnil => h.nonempty (String.toList_eq_nil_iff.1 hnil)
    have hsays : SaysArgument (position + utf8Length draft.before.val) draft.core _ :=
      .labelled label.toList draft.value.toList (isLabelled_core inType draft h label hlabel) hvalue
    rwa [String.ofList_toList, String.ofList_toList] at hsays

theorem holdsArgument (inType : Bool) (draft : ArgumentDraft) (h : draft.IsSafe inType) (position : Nat) :
    HoldsArgument ⟨position, draft.text⟩ (draft.argument position) := by
  obtain ⟨htrimmed, hne⟩ := isTrimmed_core inType draft h
  exact ⟨draft.before.val, draft.core, draft.after.val, rfl, draft.before.property, draft.after.property, htrimmed, hne,
    saysArgument inType draft h position⟩

end ArgumentDraft

/-- The piece is the text of the argument, nothing is open at its end, and the argument is found in it. -/
structure WritesArgument (inType : Bool) (draft : ArgumentDraft) (piece : Piece) : Prop where
  text : piece.text = draft.text
  legal : IsPiece inType piece
  level : IsLevel inType piece
  filled : isBlank piece.text = false
  holds : ∀ position, HoldsArgument ⟨position, piece.text⟩ (draft.argument position)

theorem ArgumentDraft.exists_writesArgument (inType : Bool) (draft : ArgumentDraft) (h : draft.IsSafe inType) :
    ∃ piece, WritesArgument inType draft piece := by
  obtain ⟨piece, htext, hlegal, hlevel⟩ := draft.exists_piece inType h
  have hholds : ∀ position, HoldsArgument ⟨position, piece.text⟩ (draft.argument position) := by
    rw [htext]
    exact draft.holdsArgument inType h
  exact ⟨piece, htext, hlegal, hlevel, isBlank_of_holdsArgument _ _ (hholds 0), hholds⟩

/-! ## One hole -/

theorem bodyText_eq (pieces : List Piece) : bodyText pieces = commaSeparated (pieces.map Piece.text) := by
  induction pieces with
  | nil => rfl
  | cons piece later ih =>
    cases later with
    | nil => rfl
    | cons next rest =>
      rw [bodyText, ih]
      rfl

/-- The pieces of a hole that is written: one for each argument, and a blank one after a comma at the end. -/
structure WritesHole (index position : Nat) (drafts : List ArgumentDraft) (trailing : Option Padding)
    (pieces : List Piece) : Prop where
  text : pieces.map Piece.text = drafts.map ArgumentDraft.text ++ (trailing.map Subtype.val).toList
  cut : IsCut index pieces
  filled : ∀ piece ∈ pieces.dropLast, isBlank piece.text = false
  filled_alone : ∀ piece, pieces = [piece] → isBlank piece.text = false
  holds : List.Forall₂ HoldsArgument ((slicesFrom position pieces).filter fun slice => !isBlank slice.text)
    (argumentsAt position drafts)

section
variable {index : Nat} {draft : ArgumentDraft} {piece : Piece}

theorem WritesArgument.alone (h : WritesArgument (index == 1) draft piece) (position : Nat) :
    WritesHole index position [draft] none [piece] := by
  refine ⟨?_, h.legal, by simp, ?_, ?_⟩
  · rw [List.map_singleton, h.text]
    rfl
  · intro other hother
    rw [← List.head_eq_of_cons_eq hother]
    exact h.filled
  · rw [slicesFrom, slicesFrom, List.filter_cons_of_pos (by simp [h.filled]), List.filter_nil]
    exact .cons (h.holds position) .nil

theorem WritesArgument.trailing (h : WritesArgument (index == 1) draft piece) (position : Nat) (gap : Padding) :
    WritesHole index position [draft] (some gap) [piece, plain gap.val] := by
  have hgap := (isPiece_nil (index + 1 == 1)).plain_append gap.val (not_mem_marks_of_isBlank gap.val gap.property)
  rw [List.append_nil] at hgap
  have hblank : isBlank (plain gap.val).text = true := by
    rw [plain_text]
    exact gap.property
  refine ⟨?_, ⟨h.legal, h.level, hgap⟩, ?_, by simp, ?_⟩
  · rw [List.map_cons, List.map_singleton, h.text, plain_text]
    rfl
  · intro other hother
    rw [List.mem_singleton.1 hother]
    exact h.filled
  · rw [slicesFrom, slicesFrom, slicesFrom, List.filter_cons_of_pos (by simp [h.filled]),
      List.filter_cons_of_neg (by simp [hblank]), List.filter_nil]
    exact .cons (h.holds position) .nil

theorem WritesArgument.before (h : WritesArgument (index == 1) draft piece) {position : Nat}
    {drafts : List ArgumentDraft} {trailing : Option Padding} {pieces : List Piece}
    (hpieces : WritesHole (index + 1) (position + utf8Length draft.text + 1) drafts trailing pieces) :
    WritesHole index position (draft :: drafts) trailing (piece :: pieces) := by
  cases pieces with
  | nil => exact absurd hpieces.cut (by simp [IsCut])
  | cons next rest =>
    refine ⟨?_, ⟨h.legal, h.level, hpieces.cut⟩, ?_, by simp, ?_⟩
    · rw [List.map_cons, hpieces.text, h.text]
      rfl
    · rw [List.dropLast_cons_of_ne_nil (by simp)]
      intro other hother
      rcases List.mem_cons.1 hother with rfl | hother
      · exact h.filled
      · exact hpieces.filled other hother
    · have hholds := hpieces.holds
      rw [← h.text] at hholds
      rw [slicesFrom, List.filter_cons_of_pos (by simp [h.filled]), argumentsAt, ← h.text]
      exact .cons (h.holds position) hholds

end

theorem exists_writesHole (index position : Nat) (drafts : List ArgumentDraft) (trailing : Option Padding)
    (hne : drafts ≠ [])
    (h : ∀ i draft, drafts[i]? = some draft → ArgumentDraft.IsSafe (index + i == 1) draft) :
    ∃ pieces, WritesHole index position drafts trailing pieces := by
  induction drafts generalizing index position with
  | nil => exact absurd rfl hne
  | cons draft drafts ih =>
    obtain ⟨piece, hpiece⟩ := draft.exists_writesArgument (index == 1) (h 0 draft rfl)
    cases drafts with
    | nil =>
      cases trailing with
      | none => exact ⟨[piece], hpiece.alone position⟩
      | some gap => exact ⟨[piece, plain gap.val], hpiece.trailing position gap⟩
    | cons next rest =>
      have hlater : ∀ i other, (next :: rest)[i]? = some other → ArgumentDraft.IsSafe (index + 1 + i == 1) other := by
        intro i other hother
        have hindex : index + (i + 1) = index + 1 + i := by omega
        rw [← hindex]
        exact h (i + 1) other hother
      obtain ⟨pieces, hpieces⟩ := ih (index + 1) (position + utf8Length draft.text + 1) (by simp) hlater
      exact ⟨piece :: pieces, hpiece.before hpieces⟩

/-- A safe hole is written as a body of pieces that mean it. -/
theorem HoleDraft.exists_body (draft : HoleDraft) (h : draft.IsSafe) (position : Nat) :
    ∃ pieces, IsBody pieces ∧ bodyText pieces = draft.body ∧ HoleDenotes position pieces (draft.hole position) := by
  have hsafe : ∀ i argument, draft.arguments[i]? = some argument → ArgumentDraft.IsSafe (0 + i == 1) argument := by
    intro i argument hi
    rw [Nat.zero_add]
    exact h.arguments i argument hi
  obtain ⟨pieces, hpieces⟩ := exists_writesHole 0 (position + 1) draft.arguments draft.trailing h.nonempty hsafe
  have hbody : bodyText pieces = draft.body := by
    rw [bodyText_eq, hpieces.text]
    rfl
  have hvalued := (exists_arguments_iff (position + 1) pieces).1 ⟨_, hpieces.holds⟩
  refine ⟨pieces, ⟨hpieces.cut, hpieces.filled, hpieces.filled_alone, hvalued⟩, hbody, ?_, hpieces.holds⟩
  rw [hbody, ← utf8Length_braces]
  rfl

/-! ## The whole template -/

theorem exists_written_literal (position : Nat) (text : List Char) :
    ∃ written, (∀ w ∈ written, w.IsLegal) ∧ writtenText written = doubleBraces text ∧
      DenotesAll position written (text.map .char) := by
  induction text generalizing position with
  | nil => exact ⟨[], by simp, rfl, .nil position⟩
  | cons c text ih =>
    obtain ⟨first, hlegal, htext, hmeant⟩ : ∃ first : Written, first.IsLegal ∧
        first.text = (if c = '{' ∨ c = '}' then [c, c] else [c]) ∧ first.Denotes position (.char c) := by
      by_cases hbrace : c = '{' ∨ c = '}'
      · rw [if_pos hbrace]
        exact ⟨.doubled c, hbrace, rfl, .doubled c⟩
      · rw [if_neg hbrace]
        rw [not_or] at hbrace
        exact ⟨.char c, hbrace, rfl, .char c⟩
    obtain ⟨written, hall, hrest, hdenotes⟩ := ih (position + utf8Length first.text)
    refine ⟨first :: written, ?_, ?_, .cons position first _ _ _ hmeant hdenotes⟩
    · intro w hw
      rcases List.mem_cons.1 hw with rfl | hw
      · exact hlegal
      · exact hall w hw
    · rw [writtenText_cons, htext, hrest, doubleBraces, doubleBraces, List.flatMap_cons]

theorem AreSafe.tail {draft : SegmentDraft} {drafts : List SegmentDraft} (h : AreSafe (draft :: drafts)) :
    AreSafe drafts where
  nonempty text ht := h.nonempty text (List.mem_cons_of_mem _ ht)
  apart := h.apart.tail
  holes other ho := h.holes other (List.mem_cons_of_mem _ ho)

theorem separated_segmentsAt (position : Nat) (drafts : List SegmentDraft) (h : AreSafe drafts) :
    Separated (segmentsAt position drafts) := by
  induction drafts generalizing position with
  | nil => exact separated_nil
  | cons draft drafts ih =>
    have hrest := ih (position + utf8Length draft.text) h.tail
    cases draft with
    | hole draft => exact hrest.hole _
    | literal text =>
      apply hrest.literal text (h.nonempty text List.mem_cons_self)
      intro segment hsegment
      cases drafts with
      | nil => exact absurd hsegment (by simp [segmentsAt])
      | cons next drafts =>
        have hapart := (List.isChain_cons_cons.1 h.apart).1
        cases next with
        | literal other => exact absurd ⟨rfl, rfl⟩ hapart
        | hole other =>
          rw [← Option.some.inj hsegment]
          rfl

/-- Safe drafts are written in the grammar, and their segments are what is meant. -/
theorem exists_written_draftText (position : Nat) (drafts : List SegmentDraft) (h : AreSafe drafts) :
    ∃ written, (∀ w ∈ written, w.IsLegal) ∧ writtenText written = draftText drafts ∧
      DenotesAll position written ((segmentsAt position drafts).flatMap Segment.items) := by
  induction drafts generalizing position with
  | nil => exact ⟨[], by simp, rfl, .nil position⟩
  | cons draft drafts ih =>
    obtain ⟨first, hlegal, htext, hmeant⟩ : ∃ first : List Written, (∀ w ∈ first, w.IsLegal) ∧
        writtenText first = draft.text ∧ DenotesAll position first (draft.segment position).items := by
      cases draft with
      | literal text => exact exists_written_literal position text.toList
      | hole draft =>
        obtain ⟨pieces, hbody, hpieces, hhole⟩ := draft.exists_body (h.holes draft List.mem_cons_self) position
        refine ⟨[.hole pieces], ?_, ?_, ?_⟩
        · intro w hw
          rw [List.mem_singleton.1 hw]
          exact hbody
        · rw [writtenText_cons, Written.text, hpieces]
          exact List.append_nil _
        · exact .cons position _ _ _ _ (.hole pieces _ hhole) (.nil _)
    obtain ⟨written, hall, hrest, hdenotes⟩ := ih (position + utf8Length draft.text) h.tail
    refine ⟨first ++ written, ?_, ?_, ?_⟩
    · intro w hw
      rcases List.mem_append.1 hw with hw | hw
      · exact hlegal w hw
      · exact hall w hw
    · rw [writtenText_append, htext, hrest, draftText, draftText, List.flatMap_cons]
    · rw [← htext] at hdenotes
      rw [segmentsAt, List.flatMap_cons, ← htext]
      exact hmeant.append hdenotes

/-- Reading undoes writing. -/
theorem scan_draftText (drafts : List SegmentDraft) (h : AreSafe drafts) :
    scan (String.ofList (draftText drafts)) = .ok (segmentsAt 0 drafts) := by
  obtain ⟨written, hlegal, htext, hdenotes⟩ := exists_written_draftText 0 drafts h
  have htemplate : IsTemplate written (String.ofList (draftText drafts)).toList := by
    refine ⟨hlegal, ?_⟩
    rw [String.toList_ofList, htext]
  rw [scan_eq_ok_iff_means _ written _ htemplate]
  exact ⟨separated_segmentsAt 0 drafts h, hdenotes⟩

/-- A draft in which much meets: a doubled brace beside a hole, brackets with commas in a type, a brace, a comma and an
escaped quote in quotes, and a comma at the end. -/
def crowdedDraft : List SegmentDraft :=
  [.literal "é\x7b",
    .hole ⟨[⟨none, "id", ⟨[' ', '\u3000'], rfl⟩, ⟨['\t'], rfl⟩, ⟨[], rfl⟩, ⟨[], rfl⟩⟩,
      ⟨some "type_1", "Map<k, v[]>", ⟨[' '], rfl⟩, ⟨[], rfl⟩, ⟨['\n'], rfl⟩, ⟨[' '], rfl⟩⟩,
      ⟨none, "a < \"\x7d, \\\"\"", ⟨[], rfl⟩, ⟨[], rfl⟩, ⟨[], rfl⟩, ⟨[], rfl⟩⟩], some ⟨[' '], rfl⟩⟩,
    .literal "\x7d"]

theorem crowdedDraft_areSafe : AreSafe crowdedDraft where
  nonempty := by
    intro text h
    simp only [crowdedDraft, List.mem_cons, List.not_mem_nil, or_false, SegmentDraft.literal.injEq, reduceCtorEq,
      false_or] at h
    rcases h with rfl | rfl <;> decide
  apart := by
    refine .cons_cons (by decide) (.cons_cons (by decide) (.singleton _))
  holes := by
    intro draft h
    simp only [crowdedDraft, List.mem_cons, List.not_mem_nil, or_false, SegmentDraft.hole.injEq, reduceCtorEq,
      false_or] at h
    rw [h]
    refine ⟨by simp, ?_⟩
    intro index argument hargument
    match index, hargument with
    | 0, hargument =>
      obtain rfl := Option.some.inj hargument
      exact ⟨by simp, by decide, by decide, ⟨plain "id".toList, by decide, by decide, by decide⟩,
        fun _ => (splitLabel_eq_none_iff _).1 (by decide), by simp⟩
    | 1, hargument =>
      obtain rfl := Option.some.inj hargument
      exact ⟨by decide, by decide, by decide, ⟨plain "Map<k, v[]>".toList, by decide, by decide, by decide⟩,
        by simp, by decide⟩
    | 2, hargument =>
      obtain rfl := Option.some.inj hargument
      exact ⟨by simp, by decide, by decide,
        ⟨plain "a < ".toList ++ [.quoted "\x7d, \\\"".toList], by decide, by decide, by decide⟩,
        fun _ => (splitLabel_eq_none_iff _).1 (by decide), by simp⟩
    | _ + 3, hargument => exact absurd hargument (by simp)

theorem scan_draftText_crowded :
    AreSafe crowdedDraft ∧ scan (String.ofList (draftText crowdedDraft)) = .ok (segmentsAt 0 crowdedDraft) :=
  ⟨crowdedDraft_areSafe, scan_draftText crowdedDraft crowdedDraft_areSafe⟩

end TypedStatement.Template
