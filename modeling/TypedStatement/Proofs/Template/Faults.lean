import TypedStatement.Proofs.Template.Tiling

/-!
# Where faults lie in a template

A fault that is found in a template is about a visible stretch of it: a brace, a hole from its opening brace on, or an argument
without the white space around it (`isVisible_of_scan_error`).  Each reader gets one such statement.
-/

namespace TypedStatement.Template
set_option autoImplicit false

open Text

theorem utf8Length_append_singleton (text : List Char) (c : Char) : utf8Length (text ++ [c]) = utf8Length text + c.utf8Size := by
  rw [utf8Length_append, utf8Length_cons, utf8Length_nil, Nat.add_zero]

/-- A brace is visible, alone or with what comes after it. -/
theorem isVisible_brace (before inside after : List Char) (c : Char) (hc : c = '{' ∨ c = '}') (range : ByteRange)
    (hstart : range.start = utf8Length before) (hstop : range.stop = utf8Length (before ++ c :: inside)) :
    range.IsVisible (before ++ c :: inside ++ after) := by
  apply isVisible_append before (c :: inside) after range (List.cons_ne_nil c inside) _ hstart
  · rw [hstop, utf8Length_append]
  · intro d hd
    rw [← Option.some.inj hd]
    rcases hc with rfl | rfl <;> decide

/-! ## Holes -/

theorem isVisible_of_cutBody (front mid text : List Char) (index : Nat) (nesting : Nesting) (malformed : Malformed)
    (h : cutBody (utf8Length front) index nesting (utf8Length (front ++ '{' :: mid)) text = .error malformed) :
    malformed.range.IsVisible (front ++ '{' :: mid ++ text) := by
  -- `mid` is the part of the body that was read, which gets longer by the character that is read next
  induction text generalizing index nesting mid with
  | nil =>
    rw [cutBody] at h
    rw [← Except.error.inj h]
    exact isVisible_brace front mid [] '{' (.inl rfl) _ rfl rfl
  | cons c text ih =>
    have hnext : front ++ '{' :: mid ++ c :: text = front ++ '{' :: (mid ++ [c]) ++ text := by simp
    have hmoved : utf8Length (front ++ '{' :: (mid ++ [c])) = utf8Length (front ++ '{' :: mid) + c.utf8Size := by
      rw [← List.cons_append, ← List.append_assoc, utf8Length_append_singleton]
    rw [cutBody] at h
    split at h
    · rename_i hopen
      rw [← Except.error.inj h, hopen.2]
      have hbrace := isVisible_brace (front ++ '{' :: mid) [] text '{' (.inl rfl)
        ⟨utf8Length (front ++ '{' :: mid), utf8Length (front ++ '{' :: mid) + 1⟩ rfl
        (utf8Length_append_singleton _ '{').symm
      simpa using hbrace
    split at h
    · exact absurd h (by simp)
    split at h
    · rename_i hcomma
      split at h
      · rename_i found hfound
        rw [hnext]
        apply ih (mid ++ [c]) (index + 1) nesting
        rw [hmoved, hcomma.2, ← Except.error.inj h]
        exact hfound
      · exact absurd h (by simp)
    · split at h
      · rename_i found hfound
        rw [hnext]
        apply ih (mid ++ [c]) index (nesting.step (index == 1) c)
        rw [hmoved, ← Except.error.inj h]
        exact hfound
      · exact absurd h (by simp)

theorem argument?_eq_error (piece : Slice) (malformed : Malformed) (h : piece.argument? = .error malformed) :
    isBlank piece.text = false ∧ malformed.range = piece.trim.range := by
  unfold Slice.argument? at h
  dsimp only at h
  split at h
  · exact absurd h (by simp)
  · rename_i hfilled
    have htrim : piece.trim.text = trim piece.text := rfl
    rw [htrim, isEmpty_trim, Bool.not_eq_true] at hfilled
    split at h
    · exact absurd h (by simp)
    · split at h
      · rw [← Except.error.inj h]
        exact ⟨hfilled, rfl⟩
      · exact absurd h (by simp)

theorem isVisible_trim (before after : List Char) (piece : Slice) (hstart : piece.start = utf8Length before)
    (hfilled : isBlank piece.text = false) : piece.trim.range.IsVisible (before ++ piece.text ++ after) := by
  obtain ⟨start, text⟩ := piece
  obtain ⟨left, core, right, rfl, hleft, hright, hcore, hne⟩ := exists_core text hfilled
  have hstart : start = utf8Length before := hstart
  rw [trim_slice start left core right hleft hright hcore hne]
  have hvisible := isVisible_append (before ++ left) core (right ++ after)
    (Slice.range ⟨start + utf8Length left, core⟩) hne hcore.first (by rw [hstart, utf8Length_append]; rfl)
    (by rw [hstart, utf8Length_append]; rfl)
  simpa using hvisible

theorem mem_slicesFrom (start : Nat) (pieces : List Piece) (slice : Slice) (h : slice ∈ slicesFrom start pieces) :
    ∃ before after, bodyText pieces = before ++ slice.text ++ after ∧ slice.start = start + utf8Length before := by
  induction pieces generalizing start with
  | nil => exact absurd h (by simp [slicesFrom])
  | cons piece later ih =>
    rcases List.mem_cons.1 h with rfl | hlater
    · cases later with
      | nil => exact ⟨[], [], (List.append_nil _).symm, rfl⟩
      | cons next rest => exact ⟨[], ',' :: bodyText (next :: rest), rfl, rfl⟩
    · cases later with
      | nil => exact absurd hlater (by simp [slicesFrom])
      | cons next rest =>
        obtain ⟨before, after, htext, hstart⟩ := ih _ hlater
        refine ⟨piece.text ++ ',' :: before, after, ?_, ?_⟩
        · rw [bodyText, htext]
          simp
        · have hcomma : (',').utf8Size = 1 := rfl
          rw [hstart, utf8Length_append, utf8Length_cons]
          omega

/-- A fault of the arguments is one of the whole hole or of one argument. -/
theorem exists_fault_of_readArguments (hole : ByteRange) (first : Bool) (pieces : List Slice) (malformed : Malformed)
    (h : readArguments hole first pieces = .error malformed) :
    malformed.range = hole ∨ ∃ piece ∈ pieces, piece.argument? = .error malformed := by
  induction pieces generalizing first with
  | nil => exact absurd h (by simp [readArguments])
  | cons piece later ih =>
    rw [readArguments] at h
    split at h
    · rename_i found hfound
      rw [← Except.error.inj h]
      exact .inr ⟨piece, List.mem_cons_self, hfound⟩
    · split at h
      · rename_i found hfound
        rcases ih false (by rw [hfound, Except.error.inj h]) with hhole | ⟨other, hother, hfault⟩
        · exact .inl hhole
        · exact .inr ⟨other, List.mem_cons_of_mem _ hother, hfault⟩
      · exact absurd h (by simp)
    · split at h
      · split at h
        · rw [← Except.error.inj h]
          exact .inl rfl
        · exact absurd h (by simp)
      · rw [← Except.error.inj h]
        exact .inl rfl

theorem isVisible_of_readHole (front text : List Char) (malformed : Malformed)
    (h : readHole (utf8Length front) text = .error malformed) :
    malformed.range.IsVisible (front ++ '{' :: text) := by
  have hinside : utf8Length front + 1 = utf8Length (front ++ ['{']) := (utf8Length_append_singleton front '{').symm
  cases hcut : cutBody (utf8Length front) 0 .flat (utf8Length front + 1) text with
  | error found =>
    have hfound : found = malformed := by
      rw [readHole, hcut] at h
      exact Except.error.inj h
    rw [hinside] at hcut
    have hvisible := isVisible_of_cutBody front [] text 0 .flat found hcut
    rw [hfound, List.append_assoc] at hvisible
    exact hvisible
  | ok body =>
    rw [← nestingAfter_nil (0 == 1)] at hcut
    obtain ⟨piece, later, hpieces, htext⟩ := exists_pieces_of_cutBody _ 0 [] _ text body (isPiece_nil _) hcut
    rw [List.nil_append] at hpieces
    obtain ⟨other, hstop, -, hread⟩ := readHole_pieces (utf8Length front) (piece :: later) body.rest hpieces
    rw [← htext, h] at hread
    have harguments := (map_eq_error_iff _ _ _).1 hread.symm
    rw [htext]
    rcases exists_fault_of_readArguments _ _ _ _ harguments with hhole | ⟨slice, hslice, hfault⟩
    · -- the whole hole
      rw [hhole]
      have hvisible := isVisible_brace front (bodyText (piece :: later) ++ ['}']) body.rest '{' (.inl rfl)
        ⟨utf8Length front, other.stop⟩ rfl (by rw [hstop, utf8Length_append, utf8Length_braces])
      simpa using hvisible
    · -- one argument
      obtain ⟨hfilled, hrange⟩ := argument?_eq_error slice malformed hfault
      obtain ⟨before, after, hbody, hstart⟩ := mem_slicesFrom _ _ slice hslice
      have hslice : slice.start = utf8Length (front ++ '{' :: before) := by
        have hopen : ('{').utf8Size = 1 := rfl
        rw [hstart, utf8Length_append, utf8Length_cons, hopen]
        omega
      have hvisible := isVisible_trim (front ++ '{' :: before) (after ++ '}' :: body.rest) slice hslice hfilled
      rw [hrange, hbody]
      simpa using hvisible

/-! ## The whole template -/

theorem isVisible_of_scanItems (front text : List Char) (malformed : Malformed)
    (h : scanItems (utf8Length front) text = .error malformed) : malformed.range.IsVisible (front ++ text) := by
  induction hn : text.length using Nat.strong_induction_on generalizing front text with
  | _ n ih =>
    -- after an item that is written the fault is found in what is left
    have hlater : ∀ written item rest, text = Written.text written ++ rest → written.IsLegal →
        written.Denotes (utf8Length front) item → malformed.range.IsVisible (front ++ text) := by
      intro written item rest htext hlegal hdenotes
      rw [htext, scanItems_written _ written item rest hlegal hdenotes, map_eq_error_iff, ← utf8Length_append] at h
      have hshort : rest.length < n := by
        have hpositive := List.length_pos_of_ne_nil written.text_ne_nil
        rw [← hn, htext, List.length_append]
        omega
      have hvisible := ih rest.length hshort (front ++ written.text) rest h rfl
      rwa [htext, ← List.append_assoc]
    cases text with
    | nil =>
      rw [scanItems_nil] at h
      exact absurd h (by simp)
    | cons c text =>
      by_cases hbrace : c = '{' ∨ c = '}'
      · by_cases hdouble : text.head? = some c
        · obtain ⟨rest, rfl⟩ := List.head?_eq_some_iff.1 hdouble
          exact hlater (.doubled c) (.char c) rest rfl hbrace (.doubled c)
        · rcases hbrace with rfl | rfl
          · cases hread : readHole (utf8Length front) text with
            | error found =>
              rw [scanItems_hole_error _ text found hdouble hread] at h
              rw [← Except.error.inj h]
              exact isVisible_of_readHole front text found hread
            | ok found =>
              obtain ⟨pieces, hbody, hhole, htext⟩ := exists_body_of_readHole _ text found.1 found.2 hread
              refine hlater (.hole pieces) (.hole found.1) found.2.rest ?_ hbody (.hole pieces found.1 hhole)
              rw [htext, Written.text, List.cons_append, List.append_assoc, List.singleton_append]
          · rw [scanItems_unmatched _ text hdouble] at h
            rw [← Except.error.inj h]
            have hvisible := isVisible_brace front [] text '}' (.inr rfl)
              ⟨utf8Length front, utf8Length front + 1⟩ rfl (utf8Length_append_singleton front '}').symm
            simpa using hvisible
      · rw [not_or] at hbrace
        exact hlater (.char c) (.char c) text rfl hbrace (.char c)

theorem isVisible_of_scan_error (template : String) (malformed : Malformed) (h : scan template = .error malformed) :
    malformed.range.IsVisible template.toList :=
  isVisible_of_scanItems [] template.toList malformed ((map_eq_error_iff segmentsOf _ malformed).1 h)

/-! ## Holes that are found -/

theorem Argument.IsShown.isVisible {template : List Char} {argument : Argument} (h : argument.IsShown template) :
    argument.range.IsVisible template := by
  obtain ⟨text, htext, htrimmed, -⟩ := h.text
  obtain ⟨before, after, rfl, hstart, hstop⟩ := (textIn?_eq_some_iff argument.range template text).1 htext
  have hne : text ≠ [] := by
    rintro rfl
    have hnonempty := h.nonempty
    rw [hstart, hstop, utf8Length_nil] at hnonempty
    omega
  exact isVisible_append before text after argument.range hne htrimmed.first hstart hstop

/-- The holes of a template and their arguments are visible in it. -/
theorem isVisible_of_scan (template : String) (segments : List Segment) (h : scan template = .ok segments) (hole : Hole)
    (hmem : Segment.hole hole ∈ segments) :
    hole.range.IsVisible template.toList ∧ ∀ argument ∈ hole.arguments, argument.range.IsVisible template.toList := by
  obtain ⟨items, hitems, hsegments⟩ := (scan_eq_ok_iff template segments).1 h
  obtain ⟨-, hall⟩ := (segmentsOf_eq_iff items segments).1 hsegments
  obtain ⟨written, hlegal, htext, hdenotes⟩ := exists_written_of_scanItems 0 _ items hitems
  have hitem : Item.hole hole ∈ items := by
    rw [← hall]
    exact List.mem_flatMap.2 ⟨.hole hole, hmem, List.mem_cons_self⟩
  obtain ⟨before, pieces, after, rfl, hhole⟩ := hdenotes.exists_hole hole hitem
  rw [Nat.zero_add] at hhole
  have hbody : IsBody pieces := hlegal (.hole pieces) (List.mem_append_right _ List.mem_cons_self)
  have hshown := hhole.isShown (writtenText before) (writtenText after) rfl hbody
  rw [← htext, writtenText_append, writtenText_cons, ← List.append_assoc]
  refine ⟨?_, fun argument hargument => (hshown.shown argument hargument).isVisible⟩
  obtain ⟨inside, hbraces⟩ := hshown.braces
  exact ⟨'{', inside ++ ['}'], hbraces, by decide⟩

end TypedStatement.Template
