import TypedStatement.Proofs.Template.Shift

/-!
# Templates side by side

After an accepted template the reading of another one begins afresh: nothing that was read before it matters, except
that two literals that meet become one.  So the segments of two templates side by side are those of the first and,
later by its bytes, those of the second, and a fault of the second is found there (`scan_append`).
-/

namespace TypedStatement.Template
set_option autoImplicit false

open Text

/-- Segments followed by others, where two literals that meet become one. -/
def joinSegments : List Segment → List Segment → List Segment
  | [], later => later
  | [.literal a], .literal b :: later => .literal (a ++ b) :: later
  | first :: rest, later => first :: joinSegments rest later

theorem joinSegments_hole (hole : Hole) (rest later : List Segment) :
    joinSegments (.hole hole :: rest) later = .hole hole :: joinSegments rest later := rfl

theorem items_joinSegments (segments later : List Segment) :
    (joinSegments segments later).flatMap Segment.items =
      segments.flatMap Segment.items ++ later.flatMap Segment.items := by
  fun_induction joinSegments segments later with
  | case1 later => rfl
  | case2 a b later => simp [Segment.items]
  | case3 first rest later _ ih => simp [ih]

theorem Separated.joinSegments {segments later : List Segment} (h : Separated segments) (hlater : Separated later) :
    Separated (joinSegments segments later) := by
  fun_induction Template.joinSegments segments later with
  | case1 later => exact hlater
  | case2 a b later =>
    apply hlater.tail.literal (a ++ b)
    · intro hempty
      exact h.nonempty a List.mem_cons_self (String.append_eq_empty_iff.1 hempty).1
    · exact hlater.head_tail
  | case3 first rest later hapart ih =>
    have hrest := ih h.tail hlater
    cases first with
    | hole hole => exact hrest.hole hole
    | literal text =>
      apply hrest.literal text (h.nonempty text List.mem_cons_self)
      intro segment hsegment
      cases rest with
      | nil =>
        cases segment with
        | hole hole => rfl
        | literal b =>
          obtain ⟨more, rfl⟩ := List.head?_eq_some_iff.1 hsegment
          exact absurd rfl (hapart text b more rfl rfl)
      | cons next rest =>
        cases next with
        | literal b => exact absurd (h.head_tail (.literal b) rfl) (by simp [Segment.isLiteral])
        | hole hole =>
          rw [joinSegments_hole, List.head?_cons] at hsegment
          rw [← Option.some.inj hsegment]
          rfl

/-- The segments of items side by side. -/
theorem segmentsOf_append (items later : List Item) :
    segmentsOf (items ++ later) = joinSegments (segmentsOf items) (segmentsOf later) := by
  rw [segmentsOf_eq_iff]
  refine ⟨(separated_segmentsOf items).joinSegments (separated_segmentsOf later), ?_⟩
  rw [items_joinSegments, items_segmentsOf, items_segmentsOf]

/-- After an accepted text the reading begins afresh, so many bytes later. -/
theorem scanItems_append (text rest : List Char) (items : List Item) (h : scanItems 0 text = .ok items) :
    scanItems 0 (text ++ rest) =
      mapBoth (Malformed.shift (utf8Length text)) (fun later => items ++ later.map (Item.shift (utf8Length text)))
        (scanItems 0 rest) := by
  obtain ⟨written, hlegal, rfl, hmeant⟩ := exists_written_of_scanItems 0 text items h
  rw [scanItems_writtenText 0 written items rest hlegal hmeant, scanItems_shift]
  cases scanItems 0 rest <;> rfl

theorem scan_append (a b : String) (segments : List Segment) (h : scan a = .ok segments) :
    scan (a ++ b) =
      mapBoth (Malformed.shift (utf8Length a.toList))
        (fun later => joinSegments segments (later.map (Segment.shift (utf8Length a.toList)))) (scan b) := by
  obtain ⟨items, hitems, rfl⟩ := (scan_eq_ok_iff a segments).1 h
  unfold scan
  rw [String.toList_append, scanItems_append _ _ items hitems]
  cases scanItems 0 b.toList with
  | error malformed => rfl
  | ok later =>
    change Except.ok _ = Except.ok _
    rw [segmentsOf_append, segmentsOf_shift]

end TypedStatement.Template
