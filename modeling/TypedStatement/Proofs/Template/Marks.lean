import TypedStatement.Proofs.Template.Body
import TypedStatement.Proofs.Template.Arguments

/-!
# Characters that mark nothing

White space, names and colons open and close nothing in the body of a hole, so they can be put before and after a piece
(`IsPiece.plain_append`, `IsPiece.append_plain`).
-/

namespace TypedStatement.Template
set_option autoImplicit false

open Text

/-- The characters that mean something in the body of a hole. -/
def marks : List Char :=
  ['"', '{', '}', ',', '(', '[', ')', ']', '<', '>']

theorem not_mem_marks_of (p : Char → Bool) (hp : marks.any p = false) (c : Char) (h : p c = true) : c ∉ marks := by
  intro hc
  rw [List.any_eq_false] at hp
  exact hp c hc h

theorem not_mem_marks_of_isBlank (text : List Char) (h : isBlank text = true) : ∀ c ∈ text, c ∉ marks := by
  unfold isBlank at h
  rw [List.all_eq_true] at h
  intro c hc
  exact not_mem_marks_of isWhiteSpace rfl c (h c hc)

theorem not_mem_marks_of_isAsciiName (text : List Char) (h : isAsciiName text = true) : ∀ c ∈ text, c ∉ marks := by
  intro c hc
  exact not_mem_marks_of isAsciiWord rfl c (isAsciiWord_of_isAsciiName text h c hc)

theorem openAfter_of_not_mem (opening closing : List Char) (hopening : opening ⊆ marks) (hclosing : closing ⊆ marks)
    (n : Nat) (c : Char) (h : c ∉ marks) : openAfter opening closing n (.plain c) = n := by
  rw [openAfter, if_neg fun hc => h (hopening hc), if_neg fun hc => h (hclosing hc)]

theorem brackets_cons (c : Char) (atoms : List Atom) (h : c ∉ marks) :
    brackets (.plain c :: atoms) = brackets atoms := by
  rw [brackets, List.foldl_cons, openAfter_of_not_mem _ _ (by decide) (by decide) 0 c h, brackets]

theorem angles_cons (c : Char) (atoms : List Atom) (h : c ∉ marks) :
    angles (.plain c :: atoms) = angles atoms := by
  rw [angles, List.foldl_cons, openAfter_of_not_mem _ _ (by decide) (by decide) 0 c h, angles]

theorem isLevel_cons (inType : Bool) (c : Char) (atoms : List Atom) (h : c ∉ marks) :
    IsLevel inType (.plain c :: atoms) ↔ IsLevel inType atoms := by
  unfold IsLevel
  rw [brackets_cons c atoms h, angles_cons c atoms h]

/-! ## Pieces -/

/-- Characters as they are, outside quotes. -/
def plain (text : List Char) : Piece :=
  text.map .plain

theorem plain_text (text : List Char) : (plain text).text = text := by
  induction text with
  | nil => rfl
  | cons c text ih =>
    have htext : (plain (c :: text)).text = c :: (plain text).text := rfl
    rw [htext, ih]

theorem pieceText_append (a b : Piece) : Piece.text (a ++ b) = a.text ++ b.text := List.flatMap_append

theorem isLevel_plain_append (inType : Bool) (text : List Char) (atoms : List Atom) (h : ∀ c ∈ text, c ∉ marks) :
    IsLevel inType (plain text ++ atoms) ↔ IsLevel inType atoms := by
  induction text with
  | nil => exact Iff.rfl
  | cons c text ih =>
    have hcons : plain (c :: text) ++ atoms = .plain c :: (plain text ++ atoms) := rfl
    rw [hcons, isLevel_cons inType c _ (h c List.mem_cons_self), ih fun d hd => h d (List.mem_cons_of_mem _ hd)]

theorem isLegal_plain (c : Char) (h : c ∉ marks) : (Atom.plain c).IsLegal := by
  refine ⟨?_, ?_, ?_⟩ <;> rintro rfl <;> exact h (by decide)

theorem IsPiece.cons {inType : Bool} {atoms : List Atom} (hatoms : IsPiece inType atoms) (c : Char) (h : c ∉ marks) :
    IsPiece inType (.plain c :: atoms) := by
  refine ⟨?_, ?_⟩
  · intro atom hatom
    rcases List.mem_cons.1 hatom with rfl | hrest
    · exact isLegal_plain c h
    · exact hatoms.legal atom hrest
  · intro before after hsplit
    cases before with
    | nil =>
      have hcomma := Atom.plain.inj (List.cons.inj hsplit).1
      exact absurd (by rw [hcomma]; decide) h
    | cons first before =>
      obtain ⟨hfirst, hrest⟩ := List.cons.inj hsplit
      rw [← hfirst, isLevel_cons inType c before h]
      exact hatoms.comma before after hrest

theorem IsPiece.plain_append {inType : Bool} {atoms : List Atom} (hatoms : IsPiece inType atoms) (text : List Char)
    (h : ∀ c ∈ text, c ∉ marks) : IsPiece inType (plain text ++ atoms) := by
  induction text with
  | nil => exact hatoms
  | cons c text ih =>
    exact (ih fun d hd => h d (List.mem_cons_of_mem _ hd)).cons c (h c List.mem_cons_self)

/-- Characters that mark nothing may be added at the end of a piece, and change nothing there. -/
theorem IsPiece.append_plain {inType : Bool} {atoms : List Atom} (hatoms : IsPiece inType atoms)
    (hlevel : IsLevel inType atoms) (text : List Char) (h : ∀ c ∈ text, c ∉ marks) :
    IsPiece inType (atoms ++ plain text) ∧ IsLevel inType (atoms ++ plain text) := by
  induction text generalizing atoms with
  | nil =>
    have hnil : atoms ++ plain [] = atoms := List.append_nil atoms
    rw [hnil]
    exact ⟨hatoms, hlevel⟩
  | cons c text ih =>
    have hc := h c List.mem_cons_self
    have hcons : atoms ++ plain (c :: text) = atoms ++ [.plain c] ++ plain text := by
      rw [List.append_assoc]
      rfl
    have hnocomma : Atom.plain c = .plain ',' → ¬ IsLevel inType atoms := by
      intro hcomma
      rw [Atom.plain.inj hcomma] at hc
      exact absurd (by decide) hc
    have hnext : IsLevel inType (atoms ++ [.plain c]) := by
      unfold IsLevel
      rw [brackets_append, angles_append, openAfter_of_not_mem _ _ (by decide) (by decide) _ c hc,
        openAfter_of_not_mem _ _ (by decide) (by decide) _ c hc]
      exact hlevel
    rw [hcons]
    exact ih (hatoms.append (isLegal_plain c hc) hnocomma) hnext fun d hd => h d (List.mem_cons_of_mem _ hd)

end TypedStatement.Template
