import TypedStatement.Template.Scan
import Mathlib.Data.List.Chain

/-!
# Segments and items

A template is read item by item, and the characters between holes are gathered into literals.  The segments that come
out are the only ones that hold these items, have no empty literal and no two literals side by side
(`segmentsOf_eq_iff`): every literal is a longest run of characters.
-/

namespace TypedStatement.Template
set_option autoImplicit false

def Segment.isLiteral : Segment → Bool
  | .literal _ => true
  | .hole _ => false

/-- The items of a segment. -/
def Segment.items : Segment → List Item
  | .literal text => text.toList.map .char
  | .hole h => [.hole h]

/-- No literal is empty and no two literals are adjacent. -/
structure Separated (segments : List Segment) : Prop where
  nonempty : ∀ text, Segment.literal text ∈ segments → text ≠ ""
  apart : segments.IsChain fun a b => ¬ (a.isLiteral = true ∧ b.isLiteral = true)

theorem separated_nil : Separated [] :=
  ⟨by simp, .nil⟩

theorem Separated.tail {segment : Segment} {segments : List Segment} (h : Separated (segment :: segments)) :
    Separated segments :=
  ⟨fun text ht => h.nonempty text (List.mem_cons_of_mem _ ht), h.apart.tail⟩

theorem Separated.hole {segments : List Segment} (h : Separated segments) (hole : Hole) :
    Separated (.hole hole :: segments) := by
  refine ⟨?_, ?_⟩
  · intro text ht
    rcases List.mem_cons.1 ht with hfirst | hrest
    · exact absurd hfirst (by simp)
    · exact h.nonempty text hrest
  · cases segments with
    | nil => exact .singleton _
    | cons next rest => exact List.isChain_cons_cons.2 ⟨by simp [Segment.isLiteral], h.apart⟩

theorem Separated.literal {segments : List Segment} (h : Separated segments) (text : String) (hne : text ≠ "")
    (hnext : ∀ segment, segments.head? = some segment → segment.isLiteral = false) :
    Separated (.literal text :: segments) := by
  refine ⟨?_, ?_⟩
  · intro other hother
    rcases List.mem_cons.1 hother with hfirst | hrest
    · rwa [Segment.literal.inj hfirst]
    · exact h.nonempty other hrest
  · cases segments with
    | nil => exact .singleton _
    | cons next rest => exact List.isChain_cons_cons.2 ⟨by simp [hnext next rfl], h.apart⟩

/-- What follows a literal is no literal. -/
theorem Separated.head_tail {text : String} {segments : List Segment} (h : Separated (.literal text :: segments))
    (segment : Segment) (hhead : segments.head? = some segment) : segment.isLiteral = false := by
  cases segments with
  | nil => exact absurd hhead (by simp)
  | cons next rest =>
    have hnext : next = segment := by simpa using hhead
    have hapart := (List.isChain_cons_cons.1 h.apart).1
    rw [hnext] at hapart
    simpa [Segment.isLiteral] using hapart

/-! ## Gathering -/

theorem gather_chars (run : List Char) (items : List Item) :
    gather (run.map .char ++ items) = (run ++ (gather items).1, (gather items).2) := by
  induction run with
  | nil => rfl
  | cons c run ih => simp only [List.map_cons, List.cons_append, gather, ih]

theorem separated_literalBefore (run : List Char) (segments : List Segment) (h : Separated segments)
    (hnext : ∀ segment, segments.head? = some segment → segment.isLiteral = false) :
    Separated (literalBefore run segments) := by
  unfold literalBefore
  split
  · exact h
  · rename_i hrun
    apply h.literal (String.ofList run) _ hnext
    intro hempty
    rw [String.ofList_eq_empty_iff] at hempty
    exact hrun (by rw [hempty]; rfl)

theorem items_literalBefore (run : List Char) (segments : List Segment) :
    (literalBefore run segments).flatMap Segment.items = run.map .char ++ segments.flatMap Segment.items := by
  unfold literalBefore
  split
  · rename_i hrun
    rw [List.isEmpty_iff.1 hrun]
    rfl
  · rw [List.flatMap_cons, Segment.items, String.toList_ofList]

/-- The gathered segments are separated, do not begin with a literal, and hold the items after the run. -/
theorem gather_spec (items : List Item) :
    Separated (gather items).2 ∧
      (∀ segment, (gather items).2.head? = some segment → segment.isLiteral = false) ∧
      (gather items).1.map .char ++ (gather items).2.flatMap Segment.items = items := by
  induction items with
  | nil => exact ⟨separated_nil, by simp [gather], rfl⟩
  | cons item items ih =>
    obtain ⟨hseparated, hhead, hitems⟩ := ih
    cases item with
    | char c =>
      refine ⟨hseparated, hhead, ?_⟩
      simp only [gather, List.map_cons, List.cons_append, hitems]
    | hole hole =>
      refine ⟨(separated_literalBefore _ _ hseparated hhead).hole hole, ?_, ?_⟩
      · intro segment hsegment
        have hfirst : Segment.hole hole = segment := by simpa [gather] using hsegment
        rw [← hfirst]
        rfl
      · simp only [gather, List.map_nil, List.nil_append, List.flatMap_cons, items_literalBefore, hitems,
          Segment.items, List.singleton_append]

theorem segmentsOf_eq (items : List Item) : segmentsOf items = literalBefore (gather items).1 (gather items).2 := rfl

theorem separated_segmentsOf (items : List Item) : Separated (segmentsOf items) :=
  separated_literalBefore _ _ (gather_spec items).1 (gather_spec items).2.1

theorem items_segmentsOf (items : List Item) : (segmentsOf items).flatMap Segment.items = items := by
  rw [segmentsOf_eq, items_literalBefore]
  exact (gather_spec items).2.2

/-- No run stands before segments that do not begin with a literal. -/
theorem gather_run_nil (segments : List Segment)
    (hnext : ∀ segment, segments.head? = some segment → segment.isLiteral = false) :
    (gather (segments.flatMap Segment.items)).1 = [] := by
  cases segments with
  | nil => rfl
  | cons segment segments =>
    cases segment with
    | literal text => exact absurd (hnext _ rfl) (by simp [Segment.isLiteral])
    | hole hole => rfl

theorem segmentsOf_items (segments : List Segment) (h : Separated segments) :
    segmentsOf (segments.flatMap Segment.items) = segments := by
  induction segments with
  | nil => rfl
  | cons segment segments ih =>
    have hrest := ih h.tail
    rw [segmentsOf_eq] at hrest ⊢
    cases segment with
    | hole hole =>
      change literalBefore [] (.hole hole :: literalBefore (gather (segments.flatMap Segment.items)).1
        (gather (segments.flatMap Segment.items)).2) = _
      rw [hrest]
      rfl
    | literal text =>
      have hrun := gather_run_nil segments h.head_tail
      rw [hrun] at hrest
      have hsegments : (gather (segments.flatMap Segment.items)).2 = segments := hrest
      have hne : ¬ text.toList.isEmpty = true := by
        rw [List.isEmpty_iff, String.toList_eq_nil_iff]
        exact h.nonempty text List.mem_cons_self
      rw [List.flatMap_cons, Segment.items, gather_chars, hrun, hsegments, List.append_nil, literalBefore,
        if_neg hne, String.ofList_toList]

/-- The segments of items are the separated ones that hold them. -/
theorem segmentsOf_eq_iff (items : List Item) (segments : List Segment) :
    segmentsOf items = segments ↔ Separated segments ∧ segments.flatMap Segment.items = items := by
  constructor
  · rintro rfl
    exact ⟨separated_segmentsOf items, items_segmentsOf items⟩
  · rintro ⟨hseparated, rfl⟩
    exact segmentsOf_items segments hseparated

/-- A template that is given by its characters is scanned without decoding it. -/
theorem scan_ofList (text : List Char) : scan (String.ofList text) = (scanItems 0 text).map segmentsOf := by
  rw [scan, String.toList_ofList]

end TypedStatement.Template
