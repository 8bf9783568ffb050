import TypedStatement.Proofs.Template.Body
import TypedStatement.Proofs.Template.Arguments

/-!
# Reading a hole

`readHole` finds a hole exactly if it is written as a body of pieces, and then it finds the hole that is meant by them
(`readHole_body`, `exists_body_of_readHole`).
-/

namespace TypedStatement.Template
set_option autoImplicit false

open Text

/-! ## Pieces and slices -/

theorem isBlank_of_lacksValue (text : List Char) (h : LacksValue text) : isBlank text = false := by
  obtain ⟨before, label, gap, after, rfl, -⟩ := h
  have hcolon : isBlank (':' :: after) = false := rfl
  rw [isBlank_append, hcolon, Bool.and_false]

theorem allFilled_slicesFrom (first : Bool) (start : Nat) (pieces : List Piece) :
    AllFilled first (slicesFrom start pieces) ↔ (∀ piece ∈ pieces.dropLast, isBlank piece.text = false) ∧
      (first = true → ∀ piece, pieces = [piece] → isBlank piece.text = false) := by
  induction pieces generalizing first start with
  | nil => simp [AllFilled, slicesFrom]
  | cons piece later ih =>
    cases later with
    | nil => simp [AllFilled, slicesFrom]
    | cons next rest =>
      have hlater := ih false (start + utf8Length piece.text + 1)
      simp only [slicesFrom] at hlater
      simp only [slicesFrom, allFilled_cons_cons]
      have hlast : (piece :: next :: rest).dropLast = piece :: (next :: rest).dropLast := rfl
      rw [hlater, hlast, List.forall_mem_cons]
      simp

/-- Every piece is blank or holds an argument, unless one is a label without a value. -/
theorem exists_arguments_iff (start : Nat) (pieces : List Piece) :
    (∃ arguments, List.Forall₂ HoldsArgument ((slicesFrom start pieces).filter fun slice => !isBlank slice.text)
      arguments) ↔ ∀ piece ∈ pieces, ¬ LacksValue piece.text := by
  induction pieces generalizing start with
  | nil => exact ⟨fun _ => by simp, fun _ => ⟨[], .nil⟩⟩
  | cons piece later ih =>
    rw [List.forall_mem_cons, ← ih (start + utf8Length piece.text + 1), slicesFrom]
    cases hblank : isBlank piece.text with
    | true =>
      rw [List.filter_cons_of_neg (by simp [hblank])]
      constructor
      · intro h
        refine ⟨?_, h⟩
        intro hlacks
        rw [isBlank_of_lacksValue piece.text hlacks] at hblank
        exact absurd hblank (by decide)
      · exact fun h => h.2
    | false =>
      have hpiece := exists_holdsArgument_iff ⟨start, piece.text⟩ hblank
      rw [List.filter_cons_of_pos (by simp [hblank]), ← hpiece]
      constructor
      · rintro ⟨arguments, hholds⟩
        cases hholds with
        | cons hfirst hrest => exact ⟨⟨_, hfirst⟩, ⟨_, hrest⟩⟩
      · rintro ⟨⟨argument, hfirst⟩, ⟨arguments, hrest⟩⟩
        exact ⟨argument :: arguments, .cons hfirst hrest⟩

theorem exists_holeDenotes (position : Nat) (pieces : List Piece) (h : IsBody pieces) :
    ∃ hole, HoleDenotes position pieces hole := by
  obtain ⟨arguments, hholds⟩ := (exists_arguments_iff (position + 1) pieces).2 h.valued
  exact ⟨⟨arguments, _⟩, rfl, hholds⟩

theorem utf8Length_braces (inside : List Char) : utf8Length ('{' :: (inside ++ ['}'])) = utf8Length inside + 2 := by
  have hopen : ('{').utf8Size = 1 := rfl
  have hclose : utf8Length ['}'] = 1 := rfl
  rw [utf8Length_cons, utf8Length_append, hopen, hclose]
  omega

/-! ## The hole that is read -/

/-- When the body is cut, what is left to read are the arguments. -/
theorem readHole_pieces (position : Nat) (pieces : List Piece) (rest : List Char) (h : IsCut 0 pieces) :
    ∃ body : Body, body.stop = position + (utf8Length (bodyText pieces) + 2) ∧ body.rest = rest ∧
      readHole position (bodyText pieces ++ '}' :: rest) =
        (readArguments ⟨position, body.stop⟩ true (slicesFrom (position + 1) pieces)).map fun arguments =>
          (⟨arguments, ⟨position, body.stop⟩⟩, body) := by
  cases pieces with
  | nil => exact absurd h (by simp [IsCut])
  | cons piece later =>
    have hcut := cutBody_pieces position 0 piece later (position + 1) rest h
    have hstop : position + 1 + utf8Length (bodyText (piece :: later)) + 1 =
        position + (utf8Length (bodyText (piece :: later)) + 2) := by omega
    rw [hstop] at hcut
    refine ⟨⟨piece.text, slicesFrom (position + 1 + utf8Length piece.text + 1) later,
      position + (utf8Length (bodyText (piece :: later)) + 2), rest⟩, rfl, rfl, ?_⟩
    unfold readHole
    rw [hcut, slicesFrom]
    dsimp only
    cases readArguments ⟨position, position + (utf8Length (bodyText (piece :: later)) + 2)⟩ true
      (⟨position + 1, piece.text⟩ :: slicesFrom (position + 1 + utf8Length piece.text + 1) later) <;> rfl

/-- A hole that is written is read as the hole that is meant. -/
theorem readHole_body (position : Nat) (pieces : List Piece) (hole : Hole) (rest : List Char) (h : IsBody pieces)
    (hmeant : HoleDenotes position pieces hole) :
    ∃ body : Body, body.stop = position + (utf8Length (bodyText pieces) + 2) ∧ body.rest = rest ∧
      readHole position (bodyText pieces ++ '}' :: rest) = .ok (hole, body) := by
  obtain ⟨body, hstop, hrest, hread⟩ := readHole_pieces position pieces rest h.cut
  have hfilled := (allFilled_slicesFrom true (position + 1) pieces).2 ⟨h.filled, fun _ => h.filled_alone⟩
  have harguments := (readArguments_eq_ok_iff ⟨position, body.stop⟩ true _ _).2 ⟨hfilled, hmeant.arguments⟩
  refine ⟨body, hstop, hrest, ?_⟩
  rw [hread, harguments, hstop, ← hmeant.range]
  rfl

/-- A hole that is read was written, and is the one that is meant. -/
theorem exists_body_of_readHole (position : Nat) (text : List Char) (hole : Hole) (body : Body)
    (h : readHole position text = .ok (hole, body)) :
    ∃ pieces, IsBody pieces ∧ HoleDenotes position pieces hole ∧ text = bodyText pieces ++ '}' :: body.rest := by
  obtain ⟨found, hfound⟩ : ∃ found, cutBody position 0 .flat (position + 1) text = .ok found := by
    cases hcut : cutBody position 0 .flat (position + 1) text with
    | ok found => exact ⟨found, rfl⟩
    | error malformed =>
      unfold readHole at h
      rw [hcut] at h
      exact absurd h (by simp)
  rw [← nestingAfter_nil (0 == 1)] at hfound
  obtain ⟨piece, later, hcut, rfl⟩ := exists_pieces_of_cutBody position 0 [] (position + 1) text found
    (isPiece_nil _) hfound
  rw [List.nil_append] at hcut
  obtain ⟨other, hstop, hrest, hread⟩ := readHole_pieces position (piece :: later) found.rest hcut
  rw [hread, map_eq_ok_iff] at h
  obtain ⟨arguments, harguments, hpair⟩ := h
  obtain ⟨rfl, rfl⟩ := Prod.mk.inj hpair
  obtain ⟨⟨hfilled, halone⟩, hholds⟩ := (readArguments_eq_ok_iff _ _ _ _).1 harguments
  have hpieces := (allFilled_slicesFrom true (position + 1) (piece :: later)).1 ⟨hfilled, halone⟩
  refine ⟨piece :: later, ⟨hcut, hpieces.1, hpieces.2 rfl, ?_⟩, ⟨?_, hholds⟩, ?_⟩
  · exact (exists_arguments_iff (position + 1) (piece :: later)).1 ⟨arguments, hholds⟩
  · rw [hstop]
  · rw [hrest]

/-- The text after the opening brace of a hole does not begin with another one. -/
theorem head_bodyText (index : Nat) (pieces : List Piece) (rest : List Char) (h : IsCut index pieces) :
    (bodyText pieces ++ '}' :: rest).head? ≠ some '{' := by
  cases pieces with
  | nil => exact absurd h (by simp [IsCut])
  | cons piece later =>
    cases piece with
    | nil => cases later <;> simp [bodyText, Piece.text]
    | cons atom piece =>
      have hlegal := h.legal _ List.mem_cons_self atom List.mem_cons_self
      rw [bodyText_cons_piece]
      cases atom with
      | plain c => simpa [Atom.text] using hlegal.2.1
      | quoted inside => simp [Atom.text]

end TypedStatement.Template
