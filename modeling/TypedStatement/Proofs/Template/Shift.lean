import TypedStatement.Proofs.Template.Acceptance

/-!
# Reading from another position

A template is read in the same way wherever it stands.  When it is read from a position that is so many bytes later,
everything that is found, be it items or a fault, is the same with its range as many bytes later (`scanItems_shift`).
Each reader gets one such law, from the argument to the whole template.
-/

namespace TypedStatement.Template
set_option autoImplicit false

open Text

/-! ## Later by some bytes -/

def Slice.shift (bytes : Nat) (slice : Slice) : Slice :=
  { slice with start := slice.start + bytes }

def Argument.shift (bytes : Nat) (argument : Argument) : Argument :=
  { argument with range := argument.range.shift bytes }

def Hole.shift (bytes : Nat) (hole : Hole) : Hole :=
  ⟨hole.arguments.map (Argument.shift bytes), hole.range.shift bytes⟩

def Segment.shift (bytes : Nat) : Segment → Segment
  | .literal text => .literal text
  | .hole h => .hole (h.shift bytes)

def Item.shift (bytes : Nat) : Item → Item
  | .char c => .char c
  | .hole h => .hole (h.shift bytes)

def Body.shift (bytes : Nat) (body : Body) : Body :=
  { body with later := body.later.map (Slice.shift bytes), stop := body.stop + bytes }

/-- The same fault, and so the same message, at a later place. -/
def Malformed.shift (bytes : Nat) (malformed : Malformed) : Malformed :=
  { malformed with range := malformed.range.shift bytes }

/-! ## Arguments -/

theorem trim_shift (bytes : Nat) (slice : Slice) : (slice.shift bytes).trim = slice.trim.shift bytes := by
  simp only [Slice.trim, Slice.shift, Nat.add_right_comm]

theorem range_shift (bytes : Nat) (slice : Slice) : (slice.shift bytes).range = slice.range.shift bytes := by
  simp only [Slice.range, Slice.shift, ByteRange.shift, Nat.add_right_comm]

theorem argument?_shift (bytes : Nat) (piece : Slice) :
    (piece.shift bytes).argument? =
      mapBoth (Malformed.shift bytes) (Option.map (Argument.shift bytes)) piece.argument? := by
  have htext : (piece.trim.shift bytes).text = piece.trim.text := rfl
  unfold Slice.argument?
  simp only [trim_shift, range_shift, htext]
  split
  · rfl
  · split
    · rfl
    · split <;> rfl

theorem readArguments_shift (bytes : Nat) (hole : ByteRange) (first : Bool) (pieces : List Slice) :
    readArguments (hole.shift bytes) first (pieces.map (Slice.shift bytes)) =
      mapBoth (Malformed.shift bytes) (List.map (Argument.shift bytes)) (readArguments hole first pieces) := by
  induction pieces generalizing first with
  | nil => rfl
  | cons piece later ih =>
    simp only [List.map_cons, readArguments, argument?_shift, ih, List.isEmpty_map]
    cases piece.argument? with
    | error malformed => rfl
    | ok argument =>
      cases argument with
      | some argument => cases readArguments hole false later <;> rfl
      | none =>
        by_cases hlast : later.isEmpty = true
        · cases first <;> simp [hlast, Malformed.shift]
        · simp [hlast, Malformed.shift]

/-! ## Holes -/

theorem cutBody_shift (bytes hole index : Nat) (nesting : Nesting) (position : Nat) (text : List Char) :
    cutBody (hole + bytes) index nesting (position + bytes) text =
      mapBoth (Malformed.shift bytes) (Body.shift bytes) (cutBody hole index nesting position text) := by
  induction text generalizing index nesting position with
  | nil => rfl
  | cons c text ih =>
    have hone : position + bytes + 1 = position + 1 + bytes := Nat.add_right_comm position bytes 1
    have hsize : position + bytes + c.utf8Size = position + c.utf8Size + bytes :=
      Nat.add_right_comm position bytes c.utf8Size
    simp only [cutBody, hone, hsize, ih]
    by_cases hopen : nesting.quoting = .outside ∧ c = '{'
    · rw [if_pos hopen, if_pos hopen]
      rfl
    rw [if_neg hopen, if_neg hopen]
    by_cases hclose : nesting.quoting = .outside ∧ c = '}'
    · rw [if_pos hclose, if_pos hclose]
      rfl
    rw [if_neg hclose, if_neg hclose]
    by_cases hcomma : nesting.separates = true ∧ c = ','
    · rw [if_pos hcomma, if_pos hcomma]
      cases cutBody hole (index + 1) nesting (position + 1) text <;> rfl
    · rw [if_neg hcomma, if_neg hcomma]
      cases cutBody hole index (nesting.step (index == 1) c) (position + c.utf8Size) text <;> rfl

theorem readHole_shift (bytes hole : Nat) (text : List Char) :
    readHole (hole + bytes) text =
      mapBoth (Malformed.shift bytes) (Prod.map (Hole.shift bytes) (Body.shift bytes)) (readHole hole text) := by
  unfold readHole
  rw [Nat.add_right_comm hole bytes 1, cutBody_shift]
  cases cutBody hole 0 .flat (hole + 1) text with
  | error malformed => rfl
  | ok body =>
    have harguments := readArguments_shift bytes ⟨hole, body.stop⟩ true (⟨hole + 1, body.current⟩ :: body.later)
    have hslices : (⟨hole + 1 + bytes, body.current⟩ :: body.later.map (Slice.shift bytes) : List Slice) =
        (⟨hole + 1, body.current⟩ :: body.later).map (Slice.shift bytes) := rfl
    have hrange : (⟨hole + bytes, body.stop + bytes⟩ : ByteRange) = (⟨hole, body.stop⟩ : ByteRange).shift bytes := rfl
    simp only [mapBoth_ok, Body.shift, hslices, hrange, harguments]
    cases readArguments ⟨hole, body.stop⟩ true (⟨hole + 1, body.current⟩ :: body.later) <;> rfl

/-! ## Items and segments -/

theorem map_cons_shift (bytes : Nat) (item : Item) (result : Except Malformed (List Item)) :
    (mapBoth (Malformed.shift bytes) (List.map (Item.shift bytes)) result).map (item.shift bytes :: ·) =
      mapBoth (Malformed.shift bytes) (List.map (Item.shift bytes)) (result.map (item :: ·)) := by
  cases result <;> rfl

theorem scanItems_shift (bytes position : Nat) (text : List Char) :
    scanItems (position + bytes) text =
      mapBoth (Malformed.shift bytes) (List.map (Item.shift bytes)) (scanItems position text) := by
  induction hn : text.length using Nat.strong_induction_on generalizing position text with
  | _ n ih =>
    cases text with
    | nil => rw [scanItems_nil, scanItems_nil, mapBoth_ok, List.map_nil]
    | cons c text =>
      by_cases hbrace : c = '{' ∨ c = '}'
      · by_cases hdouble : text.head? = some c
        · obtain ⟨rest, rfl⟩ := List.head?_eq_some_iff.1 hdouble
          have hrest := ih rest.length (by simp only [← hn, List.length_cons]; omega) (position + 2) rest rfl
          rw [scanItems_doubled _ _ _ hbrace, scanItems_doubled _ _ _ hbrace, Nat.add_right_comm, hrest]
          exact map_cons_shift bytes (.char c) _
        · rcases hbrace with rfl | rfl
          · cases hread : readHole position text with
            | error malformed =>
              rw [scanItems_hole_error position text malformed hdouble hread, mapBoth_error]
              apply scanItems_hole_error _ _ _ hdouble
              rw [readHole_shift, hread, mapBoth_error]
            | ok found =>
              obtain ⟨hole, body⟩ := found
              have hshort := length_rest_lt_of_readHole hread
              have hrest := ih body.rest.length (by simp only [← hn, List.length_cons]; omega) body.stop body.rest rfl
              have hshifted : readHole (position + bytes) text = .ok (hole.shift bytes, body.shift bytes) := by
                rw [readHole_shift, hread]
                rfl
              rw [scanItems_hole position text hole body hdouble hread,
                scanItems_hole _ text _ _ hdouble hshifted, ← map_cons_shift]
              exact congrArg (Except.map _) hrest
          · rw [scanItems_unmatched _ _ hdouble, scanItems_unmatched _ _ hdouble, Nat.add_right_comm]
            rfl
      · rw [not_or] at hbrace
        have hrest := ih text.length (by simp only [← hn, List.length_cons]; omega) (position + c.utf8Size) text rfl
        rw [scanItems_char _ _ _ hbrace, scanItems_char _ _ _ hbrace, Nat.add_right_comm, hrest]
        exact map_cons_shift bytes (.char c) _

theorem literalBefore_shift (bytes : Nat) (run : List Char) (segments : List Segment) :
    literalBefore run (segments.map (Segment.shift bytes)) = (literalBefore run segments).map (Segment.shift bytes) := by
  unfold literalBefore
  split <;> rfl

theorem gather_shift (bytes : Nat) (items : List Item) :
    gather (items.map (Item.shift bytes)) = ((gather items).1, (gather items).2.map (Segment.shift bytes)) := by
  induction items with
  | nil => rfl
  | cons item items ih =>
    cases item with
    | char c => simp only [List.map_cons, Item.shift, gather, ih]
    | hole hole =>
      simp only [List.map_cons, Item.shift, gather, ih, Segment.shift, literalBefore_shift]

theorem segmentsOf_shift (bytes : Nat) (items : List Item) :
    segmentsOf (items.map (Item.shift bytes)) = (segmentsOf items).map (Segment.shift bytes) := by
  rw [segmentsOf_eq, segmentsOf_eq, gather_shift, literalBefore_shift]

end TypedStatement.Template
