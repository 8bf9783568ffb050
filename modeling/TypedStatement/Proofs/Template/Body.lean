import TypedStatement.Proofs.Result
import TypedStatement.Proofs.Template.Grammar

/-!
# Cutting the body of a hole

The state in which the body of a hole is read says of the atoms since the last comma just what is open after them
(`nestingAfter`).  From this every step of the reading follows: an atom that is no comma outside brackets moves the
state to the one after it, and a comma outside brackets starts the next piece.

The main statements are `cutBody_pieces` (pieces that are written are found) and `exists_pieces_of_cutBody` (what is
found was written).
-/

namespace TypedStatement.Template
set_option autoImplicit false

open Text

/-! ## What is open -/

theorem brackets_append (atoms : List Atom) (atom : Atom) :
    brackets (atoms ++ [atom]) = openAfter ['(', '['] [')', ']'] (brackets atoms) atom := by
  rw [brackets, List.foldl_append]
  rfl

theorem angles_append (atoms : List Atom) (atom : Atom) :
    angles (atoms ++ [atom]) = openAfter ['<'] ['>'] (angles atoms) atom := by
  rw [angles, List.foldl_append]
  rfl

/-- The state after the atoms of a piece. -/
def nestingAfter (inType : Bool) (atoms : List Atom) : Nesting where
  quoting := .outside
  brackets := brackets atoms
  angles := if inType then angles atoms else 0

theorem nestingAfter_nil (inType : Bool) : nestingAfter inType [] = .flat := by
  cases inType <;> rfl

theorem separates_nestingAfter (inType : Bool) (atoms : List Atom) :
    (nestingAfter inType atoms).separates = true ↔ IsLevel inType atoms := by
  cases inType <;> simp [Nesting.separates, nestingAfter, IsLevel]

/-- Outside brackets the state is the same for the next piece. -/
theorem nestingAfter_of_isLevel (inType : Bool) (atoms : List Atom) (h : IsLevel inType atoms) :
    nestingAfter inType atoms = .flat := by
  cases inType with
  | false => simp [nestingAfter, Nesting.flat, h.1]
  | true => simp [nestingAfter, Nesting.flat, h.1, h.2 rfl]

theorem step_plain (inType : Bool) (atoms : List Atom) (c : Char) (h : c ≠ '"') :
    (nestingAfter inType atoms).step inType c = nestingAfter inType (atoms ++ [.plain c]) := by
  unfold Nesting.step nestingAfter
  rw [brackets_append, angles_append]
  simp only [openAfter, List.mem_cons, List.not_mem_nil, or_false]
  rw [if_neg h]
  by_cases hopen : c = '(' ∨ c = '['
  · have hangle : ¬ c = '<' ∧ ¬ c = '>' := by rcases hopen with rfl | rfl <;> decide
    simp [hopen, hangle]
  by_cases hclose : c = ')' ∨ c = ']'
  · have hangle : ¬ c = '<' ∧ ¬ c = '>' := by rcases hclose with rfl | rfl <;> decide
    simp [hopen, hclose, hangle]
  by_cases hless : c = '<'
  · cases inType <;> simp [hless]
  by_cases hmore : c = '>'
  · cases inType <;> simp [hmore]
  · simp [hopen, hclose, hless, hmore]

theorem step_quote (inType : Bool) (atoms : List Atom) :
    (nestingAfter inType atoms).step inType '"' = { nestingAfter inType atoms with quoting := .inside } := rfl

/-- A quoted part changes nothing. -/
theorem nestingAfter_quoted (inType : Bool) (atoms : List Atom) (inside : List Char) :
    nestingAfter inType (atoms ++ [.quoted inside]) = nestingAfter inType atoms := by
  unfold nestingAfter
  rw [brackets_append, angles_append]
  rfl

/-! ## Steps of the cut -/

/-- A body with more text at the front of its first piece. -/
def Body.after (text : List Char) (body : Body) : Body :=
  { body with current := text ++ body.current }

section
variable (hole index : Nat) (nesting : Nesting) (position : Nat) (rest : List Char)

theorem cutBody_step (c : Char) (hbrace : nesting.quoting = .outside → c ≠ '{' ∧ c ≠ '}')
    (hcomma : c = ',' → ¬ nesting.separates = true) :
    cutBody hole index nesting position (c :: rest) =
      (cutBody hole index (nesting.step (index == 1) c) (position + c.utf8Size) rest).map (Body.after [c]) := by
  rw [cutBody, if_neg (fun h => (hbrace h.1).1 h.2), if_neg (fun h => (hbrace h.1).2 h.2),
    if_neg (fun h => hcomma h.2 h.1)]
  cases cutBody hole index (nesting.step (index == 1) c) (position + c.utf8Size) rest <;> rfl

theorem cutBody_comma (h : nesting.separates = true) :
    cutBody hole index nesting position (',' :: rest) =
      (cutBody hole (index + 1) nesting (position + 1) rest).map fun body =>
        { body with current := [], later := ⟨position + 1, body.current⟩ :: body.later } := by
  rw [cutBody, if_neg (fun h => absurd h.2 (by decide)), if_neg (fun h => absurd h.2 (by decide)), if_pos ⟨h, rfl⟩]
  cases cutBody hole (index + 1) nesting (position + 1) rest <;> rfl

theorem cutBody_close (h : nesting.quoting = .outside) :
    cutBody hole index nesting position ('}' :: rest) = .ok ⟨[], [], position + 1, rest⟩ := by
  rw [cutBody, if_neg (fun h => absurd h.2 (by decide)), if_pos ⟨h, rfl⟩]

end

theorem after_after (a b : List Char) (body : Body) : (body.after b).after a = body.after (a ++ b) := by
  unfold Body.after
  rw [List.append_assoc]

theorem map_after_after (a b : List Char) (result : Except Malformed Body) :
    (result.map (Body.after b)).map (Body.after a) = result.map (Body.after (a ++ b)) := by
  cases result with
  | error malformed => rfl
  | ok body =>
    simp only [Except.map]
    rw [after_after]

/-! ## Quoted parts -/

/-- A quoted part is read up to its closing quote. -/
theorem cutBody_quoted (hole index : Nat) (nesting : Nesting) (position : Nat) (inside rest : List Char)
    (h : IsQuoted inside) :
    cutBody hole index { nesting with quoting := .inside } position (inside ++ '"' :: rest) =
      (cutBody hole index { nesting with quoting := .outside } (position + (utf8Length inside + 1)) rest).map
        (Body.after (inside ++ ['"'])) := by
  induction h generalizing position with
  | nil =>
    rw [List.nil_append, cutBody_step _ _ _ _ _ _ (fun h => absurd h (by simp)) (fun h => absurd h (by decide))]
    rfl
  | char c inside hquote hescape _ ih =>
    have hstep : ({ nesting with quoting := .inside } : Nesting).step (index == 1) c =
        { nesting with quoting := .inside } := by
      simp [Nesting.step, hquote, hescape]
    rw [List.cons_append, cutBody_step _ _ _ _ _ _ (fun h => absurd h (by simp)) (by simp [Nesting.separates]), hstep,
      ih, map_after_after]
    have hposition : position + c.utf8Size + (utf8Length inside + 1) = position + (utf8Length (c :: inside) + 1) := by
      rw [utf8Length_cons]
      omega
    rw [hposition]
    rfl
  | escape c inside _ ih =>
    have hstep : ({ nesting with quoting := .inside } : Nesting).step (index == 1) '\\' =
        { nesting with quoting := .escaped } := rfl
    have hnext : ({ nesting with quoting := .escaped } : Nesting).step (index == 1) c =
        { nesting with quoting := .inside } := rfl
    rw [List.cons_append, List.cons_append,
      cutBody_step _ _ _ _ _ _ (fun h => absurd h (by simp)) (by simp [Nesting.separates]), hstep,
      cutBody_step _ _ _ _ _ _ (fun h => absurd h (by simp)) (by simp [Nesting.separates]), hnext,
      ih, map_after_after, map_after_after]
    have hposition : position + ('\\').utf8Size + c.utf8Size + (utf8Length inside + 1) =
        position + (utf8Length ('\\' :: c :: inside) + 1) := by
      rw [utf8Length_cons, utf8Length_cons]
      omega
    rw [hposition]
    rfl

/-- If the reading gets past a quoted part, the part is closed. -/
theorem exists_quoted_of_cutBody (hole index : Nat) (nesting : Nesting) (position : Nat) (text : List Char)
    (body : Body)
    (h : cutBody hole index nesting position text = .ok body) :
    (nesting.quoting = .inside → ∃ inside rest, IsQuoted inside ∧ text = inside ++ '"' :: rest) ∧
      (nesting.quoting = .escaped → ∃ c inside rest, IsQuoted inside ∧ text = c :: (inside ++ '"' :: rest)) := by
  induction text generalizing nesting position body with
  | nil => exact absurd h (by simp [cutBody])
  | cons c text ih =>
    by_cases houtside : nesting.quoting = .outside
    · rw [houtside]
      exact ⟨fun h => absurd h (by decide), fun h => absurd h (by decide)⟩
    · rw [cutBody_step _ _ _ _ _ _ (fun h => absurd h houtside) (by simp [Nesting.separates, houtside]),
        map_eq_ok_iff] at h
      obtain ⟨inner, hinner, -⟩ := h
      obtain ⟨hinside, hescaped⟩ := ih _ _ _ hinner
      refine ⟨?_, ?_⟩
      · intro hquoting
        by_cases hescape : c = '\\'
        · obtain ⟨d, inside, rest, hquoted, rfl⟩ := hescaped (by simp [Nesting.step, hquoting, hescape])
          exact ⟨c :: d :: inside, rest, hescape ▸ .escape d inside hquoted, rfl⟩
        by_cases hquote : c = '"'
        · exact ⟨[], text, .nil, by rw [hquote]; rfl⟩
        · obtain ⟨inside, rest, hquoted, rfl⟩ := hinside (by simp [Nesting.step, hquoting, hescape, hquote])
          exact ⟨c :: inside, rest, .char c inside hquote hescape hquoted, rfl⟩
      · intro hquoting
        obtain ⟨inside, rest, hquoted, rfl⟩ := hinside (by simp [Nesting.step, hquoting])
        exact ⟨c, inside, rest, hquoted, rfl⟩

/-! ## Pieces that are written are found -/

theorem cutBody_atom (hole index : Nat) (atoms : List Atom) (atom : Atom) (position : Nat) (rest : List Char)
    (hlegal : atom.IsLegal) (hcomma : atom = .plain ',' → ¬ IsLevel (index == 1) atoms) :
    cutBody hole index (nestingAfter (index == 1) atoms) position (atom.text ++ rest) =
      (cutBody hole index (nestingAfter (index == 1) (atoms ++ [atom])) (position + utf8Length atom.text) rest).map
        (Body.after atom.text) := by
  cases atom with
  | plain c =>
    have hseparates : c = ',' → ¬ (nestingAfter (index == 1) atoms).separates = true := by
      intro hc
      rw [separates_nestingAfter]
      exact hcomma (by rw [hc])
    rw [Atom.text, List.singleton_append, cutBody_step _ _ _ _ _ _ (fun _ => hlegal.2) hseparates,
      step_plain _ _ _ hlegal.1]
    rfl
  | quoted inside =>
    rw [Atom.text, List.cons_append, List.append_assoc, List.singleton_append,
      cutBody_step _ _ _ _ _ _ (fun _ => by decide) (fun h => absurd h (by decide)), step_quote,
      cutBody_quoted _ _ _ _ _ _ hlegal, map_after_after, nestingAfter_quoted]
    have hposition : position + ('"').utf8Size + (utf8Length inside + 1) =
        position + utf8Length ('"' :: (inside ++ ['"'])) := by
      rw [utf8Length_cons, utf8Length_append]
      have hquote : utf8Length ['"'] = 1 := rfl
      omega
    rw [hposition]
    rfl

theorem cutBody_piece (hole index : Nat) (atoms piece : List Atom) (position : Nat) (rest : List Char)
    (h : IsPiece (index == 1) (atoms ++ piece)) :
    cutBody hole index (nestingAfter (index == 1) atoms) position (Piece.text piece ++ rest) =
      (cutBody hole index (nestingAfter (index == 1) (atoms ++ piece)) (position + utf8Length (Piece.text piece))
        rest).map (Body.after (Piece.text piece)) := by
  induction piece generalizing atoms position with
  | nil =>
    rw [List.append_nil]
    cases hcut : cutBody hole index (nestingAfter (index == 1) atoms) position rest <;>
      simp [Piece.text, hcut, Except.map, Body.after]
  | cons atom piece ih =>
    have hsplit : atoms ++ atom :: piece = atoms ++ [atom] ++ piece := by
      rw [List.append_assoc, List.singleton_append]
    have hatom := cutBody_atom hole index atoms atom position (Piece.text piece ++ rest)
      (h.legal atom (by simp)) (fun hc => h.comma atoms piece (by rw [hc]))
    have htext : Piece.text (atom :: piece) = atom.text ++ Piece.text piece := List.flatMap_cons
    rw [htext, List.append_assoc, hatom, ih _ _ (hsplit ▸ h), map_after_after, ← hsplit, utf8Length_append,
      Nat.add_assoc]

/-- A body that is cut into pieces is found to be cut into these pieces. -/
theorem cutBody_pieces (hole index : Nat) (piece : Piece) (later : List Piece) (position : Nat) (rest : List Char)
    (h : IsCut index (piece :: later)) :
    cutBody hole index .flat position (bodyText (piece :: later) ++ '}' :: rest) =
      .ok ⟨piece.text, slicesFrom (position + utf8Length piece.text + 1) later,
        position + utf8Length (bodyText (piece :: later)) + 1, rest⟩ := by
  induction later generalizing index piece position with
  | nil =>
    have hpiece := cutBody_piece hole index [] piece position ('}' :: rest) h
    rw [nestingAfter_nil] at hpiece
    rw [bodyText, hpiece, cutBody_close _ _ _ _ _ rfl]
    simp [Except.map, Body.after, slicesFrom]
  | cons next later ih =>
    obtain ⟨hfirst, hlevel, hrest⟩ := h
    have hpiece := cutBody_piece hole index [] piece position (',' :: (bodyText (next :: later) ++ '}' :: rest)) hfirst
    rw [nestingAfter_nil] at hpiece
    have hflat : nestingAfter (index == 1) ([] ++ piece) = .flat := nestingAfter_of_isLevel _ _ hlevel
    rw [bodyText, List.append_assoc, List.cons_append, hpiece, hflat, cutBody_comma _ _ _ _ _ rfl, ih _ _ _ hrest]
    have hstop : position + utf8Length piece.text + 1 + utf8Length (bodyText (next :: later)) + 1 =
        position + utf8Length (piece.text ++ ',' :: bodyText (next :: later)) + 1 := by
      rw [utf8Length_append, utf8Length_cons]
      have hcomma : (',').utf8Size = 1 := rfl
      omega
    simp only [Except.map, Body.after, List.append_nil, slicesFrom, hstop]

/-! ## What is found was written -/

theorem isPiece_nil (inType : Bool) : IsPiece inType [] where
  legal := by simp
  comma before after h := absurd h (by simp)

theorem IsPiece.append {inType : Bool} {atoms : List Atom} {atom : Atom} (h : IsPiece inType atoms)
    (hlegal : atom.IsLegal) (hcomma : atom = .plain ',' → ¬ IsLevel inType atoms) :
    IsPiece inType (atoms ++ [atom]) := by
  refine ⟨?_, ?_⟩
  · intro other hother
    rcases List.mem_append.1 hother with hold | hnew
    · exact h.legal other hold
    · rw [List.mem_singleton.1 hnew]
      exact hlegal
  · intro before after hsplit
    -- the comma is the last atom, or stands among those before it
    rcases List.eq_nil_or_concat after with rfl | ⟨init, last, rfl⟩
    · have hlast := List.append_inj' hsplit rfl
      rw [← hlast.1]
      exact hcomma (List.singleton_inj.1 hlast.2)
    · rw [List.concat_eq_append, ← List.cons_append, ← List.append_assoc] at hsplit
      exact h.comma before init (List.append_inj' hsplit rfl).1

theorem bodyText_cons_piece (atom : Atom) (piece : Piece) (later : List Piece) :
    bodyText ((atom :: piece) :: later) = atom.text ++ bodyText (piece :: later) := by
  cases later with
  | nil => exact List.flatMap_cons
  | cons next later =>
    have htext : Piece.text (atom :: piece) = atom.text ++ Piece.text piece := List.flatMap_cons
    rw [bodyText, bodyText, htext, List.append_assoc]

/-- A body that can be cut goes on with its closing brace, a comma outside brackets, or a legal atom. -/
theorem exists_front_of_cutBody (hole index : Nat) (atoms : List Atom) (position : Nat) (text : List Char) (body : Body)
    (h : cutBody hole index (nestingAfter (index == 1) atoms) position text = .ok body) :
    (∃ rest, text = '}' :: rest) ∨ (∃ rest, text = ',' :: rest ∧ IsLevel (index == 1) atoms) ∨
      ∃ atom rest, text = Atom.text atom ++ rest ∧ atom.IsLegal ∧
        (atom = .plain ',' → ¬ IsLevel (index == 1) atoms) := by
  cases text with
  | nil => exact absurd h (by simp [cutBody])
  | cons c text =>
    by_cases hopen : c = '{'
    · rw [cutBody, if_pos ⟨rfl, hopen⟩] at h
      exact absurd h (by simp)
    by_cases hclose : c = '}'
    · exact .inl ⟨text, by rw [hclose]⟩
    by_cases hcomma : c = ',' ∧ IsLevel (index == 1) atoms
    · exact .inr (.inl ⟨text, by rw [hcomma.1], hcomma.2⟩)
    refine .inr (.inr ?_)
    by_cases hquote : c = '"'
    · have hnocomma : c = ',' → ¬ (nestingAfter (index == 1) atoms).separates = true := by
        rw [hquote]
        exact fun hc => absurd hc (by decide)
      rw [cutBody_step _ _ _ _ _ _ (fun _ => ⟨hopen, hclose⟩) hnocomma, map_eq_ok_iff, hquote, step_quote] at h
      obtain ⟨inner, hinner, -⟩ := h
      obtain ⟨inside, rest, hquoted, rfl⟩ := (exists_quoted_of_cutBody _ _ _ _ _ _ hinner).1 rfl
      refine ⟨.quoted inside, rest, ?_, hquoted, fun hc => absurd hc (by simp)⟩
      rw [hquote, Atom.text, List.cons_append, List.append_assoc, List.singleton_append]
    · exact ⟨.plain c, text, rfl, ⟨hquote, hopen, hclose⟩, fun hc hlevel => hcomma ⟨Atom.plain.inj hc, hlevel⟩⟩

theorem Atom.text_ne_nil (atom : Atom) : atom.text ≠ [] := by
  cases atom <;> simp [Atom.text]

/-- Whatever is cut off as a body is written as pieces, the first of which goes on after the given atoms. -/
theorem exists_pieces_of_cutBody (hole index : Nat) (atoms : List Atom) (position : Nat) (text : List Char)
    (body : Body)
    (hatoms : IsPiece (index == 1) atoms)
    (h : cutBody hole index (nestingAfter (index == 1) atoms) position text = .ok body) :
    ∃ piece later, IsCut index ((atoms ++ piece) :: later) ∧
      text = bodyText (piece :: later) ++ '}' :: body.rest := by
  induction hn : text.length using Nat.strong_induction_on generalizing index atoms position text body with
  | _ n ih =>
    rcases exists_front_of_cutBody hole index atoms position text body h with
      ⟨rest, rfl⟩ | ⟨rest, rfl, hlevel⟩ | ⟨atom, rest, rfl, hlegal, hcomma⟩
    · rw [cutBody_close _ _ _ _ _ rfl] at h
      refine ⟨[], [], ?_, ?_⟩
      · rw [List.append_nil]
        exact hatoms
      · rw [← Except.ok.inj h]
        rfl
    · rw [cutBody_comma _ _ _ _ _ ((separates_nestingAfter _ _).2 hlevel), map_eq_ok_iff,
        nestingAfter_of_isLevel _ _ hlevel, ← nestingAfter_nil (index + 1 == 1)] at h
      obtain ⟨inner, hinner, rfl⟩ := h
      have hshort : rest.length < n := by
        rw [← hn, List.length_cons]
        omega
      obtain ⟨piece, later, hcut, rfl⟩ := ih _ hshort (index + 1) [] _ _ _ (isPiece_nil _) hinner rfl
      rw [List.nil_append] at hcut
      refine ⟨[], piece :: later, ?_, rfl⟩
      rw [List.append_nil]
      exact ⟨hatoms, hlevel, hcut⟩
    · rw [cutBody_atom _ _ _ _ _ _ hlegal hcomma, map_eq_ok_iff] at h
      obtain ⟨result, hresult, rfl⟩ := h
      have hshort : rest.length < n := by
        have hpos := List.length_pos_iff.2 atom.text_ne_nil
        rw [← hn, List.length_append]
        omega
      obtain ⟨piece, later, hcut, rfl⟩ := ih _ hshort index (atoms ++ [atom]) _ _ _
        (hatoms.append hlegal hcomma) hresult rfl
      refine ⟨atom :: piece, later, ?_, ?_⟩
      · rw [List.append_assoc, List.singleton_append] at hcut
        exact hcut
      · rw [bodyText_cons_piece, List.append_assoc]
        rfl

/-! ## One way to cut -/

theorem IsQuoted.unique {a b r s : List Char} (ha : IsQuoted a) (hb : IsQuoted b)
    (h : a ++ '"' :: r = b ++ '"' :: s) : a = b ∧ r = s := by
  induction ha generalizing b with
  | nil =>
    cases hb with
    | nil => exact ⟨rfl, (List.cons.inj h).2⟩
    | char c b hquote => exact absurd (List.cons.inj h).1.symm hquote
    | escape c b => exact absurd (List.cons.inj h).1 (by decide)
  | char c a hquote hescape _ ih =>
    cases hb with
    | nil => exact absurd (List.cons.inj h).1 hquote
    | char d b _ _ hb =>
      obtain ⟨hab, hrs⟩ := ih hb (List.cons.inj h).2
      exact ⟨by rw [(List.cons.inj h).1, hab], hrs⟩
    | escape d b => exact absurd (List.cons.inj h).1 hescape
  | escape c a _ ih =>
    cases hb with
    | nil => exact absurd (List.cons.inj h).1 (by decide)
    | char d b _ hescape => exact absurd (List.cons.inj h).1.symm hescape
    | escape d b hb =>
      have htail := List.cons.inj (List.cons.inj h).2
      obtain ⟨hab, hrs⟩ := ih hb htail.2
      exact ⟨by rw [htail.1, hab], hrs⟩

/-- The first atom of a text can be told from the text. -/
theorem atom_unique (a b : Atom) (r s : List Char) (ha : a.IsLegal) (hb : b.IsLegal)
    (h : a.text ++ r = b.text ++ s) : a = b ∧ r = s := by
  cases a with
  | plain c =>
    cases b with
    | plain d =>
      obtain ⟨hcd, hrs⟩ := List.cons.inj h
      exact ⟨by rw [hcd], hrs⟩
    | quoted inside => exact absurd (List.cons.inj h).1 ha.1
  | quoted inside =>
    cases b with
    | plain d => exact absurd (List.cons.inj h).1.symm hb.1
    | quoted other =>
      simp only [Atom.text, List.cons_append, List.append_assoc, List.nil_append, List.cons.injEq, true_and] at h
      obtain ⟨hinside, hrs⟩ := IsQuoted.unique ha hb h
      exact ⟨by rw [hinside], hrs⟩

theorem pieceText_inj (a b : Piece) (ha : ∀ atom ∈ a, atom.IsLegal) (hb : ∀ atom ∈ b, atom.IsLegal)
    (h : a.text = b.text) : a = b := by
  induction a generalizing b with
  | nil =>
    cases b with
    | nil => rfl
    | cons atom b =>
      have hempty : Atom.text atom = [] := (List.append_eq_nil_iff.1 h.symm).1
      exact absurd hempty atom.text_ne_nil
  | cons atom a ih =>
    cases b with
    | nil =>
      have hempty : Atom.text atom = [] := (List.append_eq_nil_iff.1 h).1
      exact absurd hempty atom.text_ne_nil
    | cons other b =>
      obtain ⟨hfirst, hrest⟩ := atom_unique atom other _ _ (ha atom List.mem_cons_self) (hb other List.mem_cons_self) h
      rw [hfirst, ih b (fun x hx => ha x (List.mem_cons_of_mem _ hx)) (fun x hx => hb x (List.mem_cons_of_mem _ hx))
        hrest]

theorem IsCut.legal {index : Nat} {pieces : List Piece} (h : IsCut index pieces) :
    ∀ piece ∈ pieces, ∀ atom ∈ piece, Atom.IsLegal atom := by
  induction pieces generalizing index with
  | nil => exact absurd h (by simp [IsCut])
  | cons piece later ih =>
    cases later with
    | nil =>
      intro other hother
      rw [List.mem_singleton.1 hother]
      exact IsPiece.legal h
    | cons next later =>
      intro other hother
      rcases List.mem_cons.1 hother with rfl | hlater
      · exact h.1.legal
      · exact ih h.2.2 other hlater

theorem slicesFrom_inj (start : Nat) (a b : List Piece) (ha : ∀ piece ∈ a, ∀ atom ∈ piece, Atom.IsLegal atom)
    (hb : ∀ piece ∈ b, ∀ atom ∈ piece, Atom.IsLegal atom) (h : slicesFrom start a = slicesFrom start b) : a = b := by
  induction a generalizing start b with
  | nil =>
    cases b with
    | nil => rfl
    | cons piece b => exact absurd h (by simp [slicesFrom])
  | cons piece a ih =>
    cases b with
    | nil => exact absurd h (by simp [slicesFrom])
    | cons other b =>
      obtain ⟨hfirst, hrest⟩ := List.cons.inj h
      have hpiece := pieceText_inj piece other (ha piece List.mem_cons_self) (hb other List.mem_cons_self)
        (Slice.mk.inj hfirst).2
      rw [hpiece] at hrest ⊢
      rw [ih _ b (fun x hx => ha x (List.mem_cons_of_mem _ hx)) (fun x hx => hb x (List.mem_cons_of_mem _ hx)) hrest]

/-- A body and what follows it can be told from the text. -/
theorem body_unique (a b : List Piece) (r s : List Char) (ha : IsCut 0 a) (hb : IsCut 0 b)
    (h : bodyText a ++ '}' :: r = bodyText b ++ '}' :: s) : a = b ∧ r = s := by
  cases a with
  | nil => exact absurd ha (by simp [IsCut])
  | cons piece later =>
    cases b with
    | nil => exact absurd hb (by simp [IsCut])
    | cons other after =>
      have hcut := cutBody_pieces 0 0 piece later 0 r ha
      rw [h, cutBody_pieces 0 0 other after 0 s hb] at hcut
      obtain ⟨hcurrent, hlater, -, hrest⟩ := Body.mk.inj (Except.ok.inj hcut)
      have hpiece := pieceText_inj other piece (hb.legal other List.mem_cons_self) (ha.legal piece List.mem_cons_self)
        hcurrent
      rw [hpiece] at hlater
      have hafter := slicesFrom_inj _ after later (fun x hx => hb.legal x (List.mem_cons_of_mem _ hx))
        (fun x hx => ha.legal x (List.mem_cons_of_mem _ hx)) hlater
      exact ⟨by rw [hpiece, hafter], hrest.symm⟩

end TypedStatement.Template
