import TypedStatement.Proofs.Source.LiteralRules
import TypedStatement.Proofs.Template.Shift
import TypedStatement.Proofs.Template.Writing
import TypedStatement.Proofs.Text.ByteRange

/-!
# Quoted names

Every text can be written in a hole as a string literal with three characters escaped (`quoted`): nothing in it opens or closes
anything there.  So a name that a hole has as bare text can be quoted instead, and the hole is read with the literal in its
place (`exists_quoted_hole`).
-/

namespace TypedStatement.Template
set_option autoImplicit false

open Text
open Source.StringLiteral (Element IsCode IsLayout Passes Spells between hexValue? passes_letter passes_nil passes_plain)

/-! ## What is spelled is quoted -/

theorem isQuoted_append (text rest : List Char) (htext : ∀ c ∈ text, c ≠ '"' ∧ c ≠ '\\') (hrest : IsQuoted rest) :
    IsQuoted (text ++ rest) := by
  induction text with
  | nil => exact hrest
  | cons c text ih =>
    obtain ⟨hquote, hescape⟩ := htext c List.mem_cons_self
    exact .char c _ hquote hescape (ih fun d hd => htext d (List.mem_cons_of_mem _ hd))

theorem ne_of_hexValue? (c : Char) (digit : Nat) (h : hexValue? c = some digit) : c ≠ '"' ∧ c ≠ '\\' := by
  have hquote : hexValue? '"' = none := by decide
  have hescape : hexValue? '\\' = none := by decide
  constructor
  · rintro rfl
    exact absurd (hquote.symm.trans h) (by simp)
  · rintro rfl
    exact absurd (hescape.symm.trans h) (by simp)

theorem ne_of_isCode (code : List Char) (digits : List Nat) (h : IsCode 0 code digits) :
    ∀ c ∈ code, c ≠ '"' ∧ c ≠ '\\' := by
  have hdigits := ((List.forall₂_and_left _ _).1 (h.values.imp fun c digit hc => ⟨ne_of_hexValue? c digit hc, hc⟩)).1
  intro c hc
  by_cases hline : c = '_'
  · rw [hline]
    decide
  · exact hdigits c (List.mem_filter.2 ⟨hc, by simpa using hline⟩)

theorem ne_of_isLayout (layout : List Char) (h : IsLayout layout) : ∀ c ∈ layout, c ≠ '"' ∧ c ≠ '\\' := by
  induction h with
  | nil => simp
  | blank c rest hc _ ih =>
    have hfirst : ∀ d ∈ [' ', '\t', '\n'], d ≠ '"' ∧ d ≠ '\\' := by simp
    exact List.forall_mem_cons.2 ⟨hfirst c hc, ih⟩
  | lineEnd rest _ ih => exact List.forall_mem_cons.2 ⟨by decide, List.forall_mem_cons.2 ⟨by decide, ih⟩⟩

/-- The scanner gets over an element of a literal as the reader of literals does. -/
theorem isQuoted_element (element added rest : List Char) (h : Element element added) (hrest : IsQuoted rest) :
    IsQuoted (element ++ rest) := by
  cases h with
  | char c hquote _ hescape => exact .char c rest hquote hescape hrest
  | lineEnd => exact isQuoted_append ['\r', '\n'] rest (by simp) hrest
  | escape letter => exact .escape letter rest hrest
  | ascii high low first second hhigh hlow =>
    have hdigits : ∀ c ∈ [high, low], c ≠ '"' ∧ c ≠ '\\' := by
      simpa using ⟨ne_of_hexValue? high first hhigh, ne_of_hexValue? low second hlow⟩
    exact .escape 'x' _ (isQuoted_append [high, low] rest hdigits hrest)
  | codePoint code digits c hcode =>
    have hinside : ∀ c ∈ '{' :: (code ++ ['}']), c ≠ '"' ∧ c ≠ '\\' := by
      have hcode' := ne_of_isCode code digits hcode
      intro c hc
      simp only [List.mem_cons, List.mem_append, List.not_mem_nil, or_false] at hc
      rcases hc with rfl | hc | rfl
      · decide
      · exact hcode' c hc
      · decide
    exact .escape 'u' _ (isQuoted_append _ rest hinside hrest)
  | continuation layout hlayout hfirst =>
    cases layout with
    | nil => simp at hfirst
    | cons c layout =>
      have hlater := ne_of_isLayout _ hlayout
      exact .escape c _ (isQuoted_append layout rest (fun d hd => hlater d (List.mem_cons_of_mem _ hd)) hrest)

theorem isQuoted_of_spells (inside value : List Char) (h : Spells inside value) : IsQuoted inside := by
  induction h with
  | nil => exact .nil
  | cons element added inside value helement _ _ ih => exact isQuoted_element element added inside helement ih

/-! ## Quoting -/

/-- A character as it can stand between quotes. -/
def escapedChar (c : Char) : List Char :=
  if c = '\\' ∨ c = '"' then ['\\', c]
  else if c = '\r' then ['\\', 'r']
  else [c]

def escaped (text : List Char) : List Char :=
  text.flatMap escapedChar

/-- The text as a string literal: a backslash, a quote and a carriage return are escaped, all other characters stand as they
are. -/
def quoted (text : String) : String :=
  String.ofList (between (escaped text.toList))

theorem passes_escapedChar (c : Char) : Passes .plain (escapedChar c) [c] .plain := by
  unfold escapedChar
  split
  · rename_i h
    rcases h with rfl | rfl
    · exact passes_letter '\\' '\\' rfl
    · exact passes_letter '"' '"' rfl
  split
  · rename_i h
    rw [h]
    exact passes_letter 'r' '\r' rfl
  · rename_i hmark hreturn
    rw [not_or] at hmark
    exact passes_plain c hmark.2 hreturn hmark.1

theorem spells_escaped (text : List Char) : Spells (escaped text) text := by
  apply Passes.spells
  induction text with
  | nil => exact passes_nil .plain
  | cons c text ih => exact (passes_escapedChar c).append ih

theorem utf8Length_le_escaped (text : List Char) : utf8Length text ≤ utf8Length (escaped text) := by
  induction text with
  | nil => exact Nat.le_refl 0
  | cons c text ih =>
    have hc : c.utf8Size ≤ utf8Length (escapedChar c) := by
      unfold escapedChar
      split
      · simp
      split
      · rename_i h
        rw [h]
        decide
      · simp
    have hcons : escaped (c :: text) = escapedChar c ++ escaped text := rfl
    rw [hcons, utf8Length_append, utf8Length_cons]
    omega

/-- A literal is a piece by itself, whatever is quoted. -/
theorem quoted_isLevel (inType : Bool) (inside : List Char) (h : IsQuoted inside) :
    ∃ atoms : Piece, atoms.text = between inside ∧ IsPiece inType atoms ∧ IsLevel inType atoms := by
  refine ⟨[.quoted inside], List.append_nil _, ?_, ?_⟩
  · have hlegal : (Atom.quoted inside).IsLegal := h
    exact (isPiece_nil inType).append hlegal (by simp)
  · exact ⟨rfl, fun _ => rfl⟩

theorem isTrimmed_between (inside : List Char) : IsTrimmed (between inside) where
  first c hc := by
    rw [← Option.some.inj hc]
    decide
  last c hc := by
    rw [between, ← List.cons_append, List.getLast?_concat] at hc
    rw [← Option.some.inj hc]
    decide

theorem not_isLabelled_between (inside label value : List Char) : ¬ IsLabelled (between inside) label value := by
  rintro ⟨gap, rest, htext, hname, -⟩
  obtain ⟨first, label, rfl⟩ := List.exists_cons_of_ne_nil (ne_nil_of_isAsciiName label hname)
  have hfirst := isAsciiWord_of_isAsciiName _ hname first List.mem_cons_self
  rw [← (List.cons.inj htext).1] at hfirst
  exact absurd hfirst (by decide)

namespace ArgumentDraft

theorem isSafe_quoted (inType : Bool) (draft : ArgumentDraft) (text : String) (hvalue : draft.value = quoted text)
    (hname : ∀ label, draft.label = some label → isAsciiName label.toList = true) : draft.IsSafe inType := by
  have htext : draft.value.toList = between (escaped text.toList) := by rw [hvalue, quoted, String.toList_ofList]
  have hquoted := isQuoted_of_spells _ _ (spells_escaped text.toList)
  refine ⟨hname, ?_, ?_, ?_, ?_, ?_⟩
  · intro hempty
    rw [hempty] at htext
    exact absurd htext (by simp [between])
  · rw [htext]
    exact isTrimmed_between _
  · rw [htext]
    exact quoted_isLevel inType _ hquoted
  · intro _ label value
    rw [htext]
    exact not_isLabelled_between _ label value
  · rw [htext]
    simp [between]

theorem isSafe_name (inType : Bool) (draft : ArgumentDraft) (hlabel : draft.label = none)
    (hvalue : isAsciiName draft.value.toList = true) : draft.IsSafe inType := by
  have hmarks := not_mem_marks_of_isAsciiName draft.value.toList hvalue
  have hword := isAsciiWord_of_isAsciiName draft.value.toList hvalue
  have hsolid : ∀ c ∈ draft.value.toList, isWhiteSpace c = false := by
    intro c hc
    rw [← Bool.not_eq_true]
    intro hwhite
    have hnot := isAsciiWord_of_isWhiteSpace c hwhite
    rw [hword c hc] at hnot
    exact absurd hnot (by decide)
  refine ⟨by simp [hlabel], ?_, ?_, ?_, ?_, by simp [hlabel]⟩
  · intro hempty
    rw [hempty] at hvalue
    exact absurd hvalue (by decide)
  · exact ⟨fun c hc => hsolid c (List.mem_of_mem_head? hc), fun c hc => hsolid c (List.mem_of_getLast? hc)⟩
  · refine ⟨plain draft.value.toList ++ [], ?_, (isPiece_nil inType).plain_append _ hmarks, ?_⟩
    · rw [List.append_nil, plain_text]
    · exact (isLevel_plain_append inType _ [] hmarks).2 ⟨rfl, fun _ => rfl⟩
  · rintro - label value ⟨gap, rest, htext, -⟩
    have hcolon := hword ':' (by rw [htext]; simp)
    exact absurd hcolon (by decide)

/-- What stands in front of the value. -/
def front (draft : ArgumentDraft) : List Char :=
  draft.before.val ++ match draft.label with
    | none => []
    | some label => label.toList ++ draft.beforeColon.val ++ ':' :: draft.afterColon.val

theorem text_eq (draft : ArgumentDraft) : draft.text = draft.front ++ draft.value.toList ++ draft.after.val := by
  unfold text core front
  cases draft.label <;> simp

theorem argument_stop (draft : ArgumentDraft) (position : Nat) :
    (draft.argument position).range.stop = position + utf8Length (draft.front ++ draft.value.toList) := by
  unfold argument core front
  cases draft.label <;> simp <;> omega

end ArgumentDraft

theorem exists_draft_of_holdsArgument (piece : Slice) (argument : Argument) (h : HoldsArgument piece argument) :
    ∃ draft : ArgumentDraft, draft.text = piece.text ∧ draft.argument piece.start = argument ∧
      ∀ label, draft.label = some label → isAsciiName label.toList = true := by
  obtain ⟨before, core, after, htext, hbefore, hafter, -, -, hsays⟩ := h
  cases hsays with
  | bare =>
    refine ⟨⟨none, String.ofList core, ⟨before, hbefore⟩, ⟨after, hafter⟩, ⟨[], rfl⟩, ⟨[], rfl⟩⟩, ?_, ?_, by simp⟩
    · rw [htext, ArgumentDraft.text, ArgumentDraft.core, String.toList_ofList]
    · rw [ArgumentDraft.argument, ArgumentDraft.core, String.toList_ofList]
  | labelled label value hlabelled =>
    obtain ⟨gap, rest, rfl, hname, hgap, -, rfl⟩ := hlabelled
    obtain ⟨blank, hblank, hrest⟩ := exists_trimStart rest
    have hcore : ArgumentDraft.core ⟨some (String.ofList label), String.ofList (trimStart rest), ⟨before, hbefore⟩,
        ⟨after, hafter⟩, ⟨gap, hgap⟩, ⟨blank, hblank⟩⟩ = label ++ gap ++ ':' :: rest := by
      simp only [ArgumentDraft.core, String.toList_ofList, ← hrest]
    refine ⟨⟨some (String.ofList label), String.ofList (trimStart rest), ⟨before, hbefore⟩, ⟨after, hafter⟩,
      ⟨gap, hgap⟩, ⟨blank, hblank⟩⟩, ?_, ?_, ?_⟩
    · rw [htext, ArgumentDraft.text, hcore]
    · rw [ArgumentDraft.argument, hcore]
    · intro found hfound
      rw [← Option.some.inj hfound, String.toList_ofList]
      exact hname

/-! ## One hole -/

theorem scan_eq_hole_iff (text : String) (hole : Hole) :
    scan text = .ok [.hole hole] ↔
      ∃ pieces, text.toList = (Written.hole pieces).text ∧ IsBody pieces ∧ HoleDenotes 0 pieces hole := by
  constructor
  · intro h
    obtain ⟨items, hitems, hsegments⟩ := (scan_eq_ok_iff text _).1 h
    obtain ⟨-, rfl⟩ := (segmentsOf_eq_iff items _).1 hsegments
    obtain ⟨written, hlegal, htext, hdenotes⟩ := exists_written_of_scanItems 0 _ _ hitems
    cases hdenotes with
    | cons _ front _ written _ hfront hrest =>
      cases hrest
      cases hfront with
      | hole pieces _ hhole =>
        refine ⟨pieces, ?_, hlegal (.hole pieces) List.mem_cons_self, hhole⟩
        rw [← htext, writtenText_cons]
        exact List.append_nil _
  · rintro ⟨pieces, htext, hbody, hhole⟩
    have htemplate : IsTemplate [.hole pieces] text.toList := by
      refine ⟨?_, ?_⟩
      · intro written hwritten
        rw [List.mem_singleton.1 hwritten]
        exact hbody
      · rw [htext, writtenText_cons]
        exact List.append_nil _
    rw [scan_eq_ok_iff_means text _ _ htemplate]
    exact ⟨separated_nil.hole hole, .cons 0 _ _ _ _ (.hole pieces hole hhole) (.nil _)⟩

theorem HoleDraft.scan_text (draft : HoleDraft) (h : draft.IsSafe) :
    scan (String.ofList draft.text) = .ok [.hole (draft.hole 0)] := by
  obtain ⟨pieces, hbody, hpieces, hhole⟩ := draft.exists_body h 0
  refine (scan_eq_hole_iff _ _).2 ⟨pieces, ?_, hbody, hhole⟩
  rw [String.toList_ofList, HoleDraft.text, Written.text, hpieces]

/-! ## Another first argument -/

theorem exists_bodyText_cons (later : List Piece) :
    ∃ more, ∀ piece : Piece, bodyText (piece :: later) = piece.text ++ more := by
  cases later with
  | nil => exact ⟨[], fun piece => (List.append_nil _).symm⟩
  | cons next rest => exact ⟨',' :: bodyText (next :: rest), fun piece => rfl⟩

theorem IsBody.filled_head {piece : Piece} {later : List Piece} (h : IsBody (piece :: later)) :
    isBlank piece.text = false := by
  cases later with
  | nil => exact h.filled_alone piece rfl
  | cons next rest => exact h.filled piece (by simp)

/-- The first piece of a body may be another one in which nothing is left open. -/
theorem IsBody.replace_head {piece other : Piece} {later : List Piece} (h : IsBody (piece :: later))
    (hpiece : IsPiece false other) (hlevel : IsLevel false other) (hfilled : isBlank other.text = false)
    (hvalued : ¬ LacksValue other.text) : IsBody (other :: later) := by
  have hlater : ∀ p ∈ later, ¬ LacksValue p.text := fun p hp => h.valued p (List.mem_cons_of_mem _ hp)
  cases later with
  | nil =>
    refine ⟨hpiece, by simp, ?_, List.forall_mem_cons.2 ⟨hvalued, hlater⟩⟩
    intro p hp
    rw [← List.singleton_inj.1 hp]
    exact hfilled
  | cons next rest =>
    refine ⟨⟨hpiece, hlevel, h.cut.2.2⟩, ?_, by simp, List.forall_mem_cons.2 ⟨hvalued, hlater⟩⟩
    rw [List.dropLast_cons_of_ne_nil (by simp)]
    refine List.forall_mem_cons.2 ⟨hfilled, ?_⟩
    intro p hp
    apply h.filled p
    rw [List.dropLast_cons_of_ne_nil (by simp)]
    exact List.mem_cons_of_mem _ hp

theorem slicesFrom_shift (bytes start : Nat) (pieces : List Piece) :
    slicesFrom (start + bytes) pieces = (slicesFrom start pieces).map (Slice.shift bytes) := by
  induction pieces generalizing start with
  | nil => rfl
  | cons piece later ih =>
    have hnext : start + bytes + utf8Length piece.text + 1 = start + utf8Length piece.text + 1 + bytes := by omega
    rw [slicesFrom, hnext, ih]
    rfl

theorem HoldsArgument.shift {piece : Slice} {argument : Argument} (h : HoldsArgument piece argument) (bytes : Nat) :
    HoldsArgument (piece.shift bytes) (argument.shift bytes) := by
  rw [← argument?_eq_ok_some_iff] at h ⊢
  rw [argument?_shift, h]
  rfl

theorem holdsArguments_shift (bytes start : Nat) (pieces : List Piece) (arguments : List Argument)
    (h : List.Forall₂ HoldsArgument ((slicesFrom start pieces).filter fun slice => !isBlank slice.text) arguments) :
    List.Forall₂ HoldsArgument ((slicesFrom (start + bytes) pieces).filter fun slice => !isBlank slice.text)
      (arguments.map (Argument.shift bytes)) := by
  rw [slicesFrom_shift, List.filter_map, List.forall₂_map_left_iff, List.forall₂_map_right_iff]
  exact h.imp fun _ _ hholds => hholds.shift bytes

/-! ## A bare name and its literal -/

/-- The hole in which the name stands as bare text, after `lead` and before `tail`. -/
structure BareName (lead name tail : String) (hole : Hole) : Prop where
  scan : Template.scan ("\x7b" ++ lead ++ name ++ tail) = .ok [.hole hole]
  first : ∃ first, hole.arguments.head? = some first ∧ first.value = name ∧
    first.range.stop = utf8Length ("\x7b" ++ lead ++ name).toList

/-- The same arguments, but for their places and the first value, which is a literal of the first value of the other hole. -/
def Requotes (hole other : Hole) : Prop :=
  ∃ first range later bytes, hole.arguments = first :: later ∧
    other.arguments = ⟨first.label, quoted first.value, range⟩ :: later.map (Argument.shift bytes)

/-- A hole with a bare name as it is written: the draft of its first argument, and the other pieces of its body. -/
structure BareWritten (lead name tail : String) (hole : Hole) (draft : ArgumentDraft) (piece : Piece)
    (later : List Piece) : Prop where
  body : IsBody (piece :: later)
  text : piece.text = draft.text
  value : draft.value = name
  label : ∀ label, draft.label = some label → isAsciiName label.toList = true
  arguments : ∃ rest, hole.arguments = draft.argument 1 :: rest ∧ List.Forall₂ HoldsArgument
    ((slicesFrom (1 + utf8Length piece.text + 1) later).filter fun slice => !isBlank slice.text) rest
  /-- The template with another value in the place of the name. -/
  around : ∀ (value : String) (other : Piece), other.text = ArgumentDraft.text { draft with value := value } →
    ("\x7b" ++ lead ++ value ++ tail).toList = (Written.hole (other :: later)).text

theorem exists_bareWritten (lead name tail : String) (hole : Hole) (h : BareName lead name tail hole) :
    ∃ draft piece later, BareWritten lead name tail hole draft piece later := by
  obtain ⟨pieces, htext, hbody, hhole⟩ := (scan_eq_hole_iff _ hole).1 h.scan
  obtain ⟨first, hfirst, hvalue, hstop⟩ := h.first
  cases pieces with
  | nil => exact absurd hbody.cut (by simp [IsCut])
  | cons piece later =>
    have harguments := hhole.arguments
    rw [slicesFrom, List.filter_cons_of_pos (by simp [hbody.filled_head])] at harguments
    obtain ⟨held, rest, hheld, hrest, hcons⟩ := List.forall₂_cons_left_iff.1 harguments
    rw [hcons, List.head?_cons] at hfirst
    obtain rfl := Option.some.inj hfirst
    obtain ⟨draft, hdraft, hargument, hlabel⟩ := exists_draft_of_holdsArgument _ held hheld
    have hpiece : draft.text = piece.text := hdraft
    have hheldStop : held.range.stop = 1 + utf8Length (draft.front ++ draft.value.toList) := by
      rw [← hargument]
      exact draft.argument_stop 1
    have hname : draft.value = name := by
      rw [← hvalue, ← hargument]
      rfl
    refine ⟨draft, piece, later, hbody, hpiece.symm, hname, hlabel, ⟨rest, ?_, ?_⟩, ?_⟩
    · rw [hcons, ← hargument]
    · rwa [Nat.zero_add] at hrest
    · obtain ⟨more, hmore⟩ := exists_bodyText_cons later
      have hopen : ("\x7b").toList = ['{'] := rfl
      -- the lead ends where the value of the draft begins, so it is the front of the draft
      have hsplit : lead.toList ++ name.toList ++ tail.toList =
          draft.front ++ name.toList ++ (draft.after.val ++ more ++ ['}']) := by
        rw [Written.text, hmore, ← hpiece, ArgumentDraft.text_eq, hname] at htext
        simpa [String.toList_append, hopen] using htext
      have hlength : utf8Length (lead.toList ++ name.toList) = utf8Length (draft.front ++ name.toList) := by
        have hbrace : utf8Length ['{'] = 1 := rfl
        rw [hstop, hname, String.toList_append, String.toList_append, hopen, List.append_assoc, utf8Length_append,
          hbrace] at hheldStop
        omega
      obtain ⟨hfront, htail⟩ := append_inj_of_utf8Length hsplit hlength
      have hlead := List.append_cancel_right hfront
      intro value other hother
      have hsame : ArgumentDraft.front { draft with value := value } = draft.front := rfl
      rw [Written.text, hmore, hother, ArgumentDraft.text_eq, hsame]
      simp [String.toList_append, hopen, hlead, htail]

/-- A bare name may be quoted instead. -/
theorem exists_quoted_hole (lead name tail : String) (hole : Hole) (h : BareName lead name tail hole) :
    ∃ other, scan ("\x7b" ++ lead ++ quoted name ++ tail) = .ok [.hole other] ∧ Requotes hole other := by
  obtain ⟨draft, piece, later, hwritten⟩ := exists_bareWritten lead name tail hole h
  obtain ⟨rest, harguments, hrest⟩ := hwritten.arguments
  have hsafe : ArgumentDraft.IsSafe false { draft with value := quoted name } :=
    ArgumentDraft.isSafe_quoted false _ name rfl hwritten.label
  obtain ⟨other, hother⟩ := ArgumentDraft.exists_writesArgument false _ hsafe
  -- the literal is longer than the name, so what comes after it stands later
  have hle : utf8Length piece.text ≤ utf8Length other.text := by
    have hvalue : utf8Length name.toList ≤ utf8Length (quoted name).toList := by
      have hescaped := utf8Length_le_escaped name.toList
      rw [quoted, String.toList_ofList, between, utf8Length_cons, utf8Length_append]
      omega
    have hsame : ArgumentDraft.front { draft with value := quoted name } = draft.front := rfl
    rw [hwritten.text, hother.text, ArgumentDraft.text_eq, ArgumentDraft.text_eq, hsame, hwritten.value]
    simp only [utf8Length_append]
    omega
  obtain ⟨bytes, hbytes⟩ := Nat.exists_eq_add_of_le hle
  have hlater := holdsArguments_shift bytes _ later rest hrest
  have hposition : 1 + utf8Length piece.text + 1 + bytes = 1 + utf8Length other.text + 1 := by omega
  rw [hposition] at hlater
  have hholds : List.Forall₂ HoldsArgument
      ((slicesFrom 1 (other :: later)).filter fun slice => !isBlank slice.text)
      (ArgumentDraft.argument 1 { draft with value := quoted name } :: rest.map (Argument.shift bytes)) := by
    rw [slicesFrom, List.filter_cons_of_pos (by simp [hother.filled])]
    exact .cons (hother.holds 1) hlater
  have hvalued := (exists_arguments_iff 1 (other :: later)).1 ⟨_, hholds⟩
  have hbody := hwritten.body.replace_head hother.legal hother.level hother.filled (hvalued other List.mem_cons_self)
  refine ⟨⟨_, _⟩, (scan_eq_hole_iff _ _).2 ⟨other :: later, hwritten.around _ other hother.text, hbody, rfl, hholds⟩, ?_⟩
  exact ⟨draft.argument 1, _, rest, bytes, harguments, by rw [← hwritten.value]; rfl⟩

end TypedStatement.Template
