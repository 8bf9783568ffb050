import TypedStatement.Proofs.Model.Concatenation
import TypedStatement.Proofs.Template.Writing

/-!
# What holes say, however they are written

What a hole stands for is its kind, its name, its alias, and the scalar and the optional flag of its type.  Two holes are
alike when these agree; where they stand and how they spell their types is left open.

* `classify_eq_ok_iff` says when a hole stands for something, without following the classifier.
* `exists_alike_iff_respelled`: two holes are alike exactly if they are two ways of writing one hole (`Respelled`).
* `exists_alike_models`: templates whose holes are alike pairwise are compiled to models that are alike.
* `segmentsAt_alike`: templates that are written from drafts are such templates, whatever white space and commas at the
  ends of holes the drafts have.
-/

namespace TypedStatement
set_option autoImplicit false

open Template (Argument ArgumentDraft Hole HoleDraft Segment SegmentDraft argumentsAt scan segmentsAt)

/-! ## Alike -/

/-- The types mean the same, however they are spelled. -/
structure TypeRef.Alike (a b : TypeRef) : Prop where
  scalar : a.scalar = b.scalar
  optional : a.optional = b.optional

structure Column.Alike (a b : Column) : Prop where
  name : a.name = b.name
  aliasName : a.aliasName = b.aliasName
  type : a.type.Alike b.type

structure Bind.Alike (a b : Bind) : Prop where
  name : a.name = b.name
  type : a.type.Alike b.type

inductive Classified.Alike : Classified → Classified → Prop
  | column {a b : Column} : a.Alike b → Alike (.column a) (.column b)
  | bind {a b : Bind} : a.Alike b → Alike (.bind a) (.bind b)

/-- The same literal text, or holes that stand for what is alike. -/
inductive Template.Segment.Alike : Segment → Segment → Prop
  | literal (text : String) : Alike (.literal text) (.literal text)
  | hole {hole other : Hole} {a b : Classified} : classify hole = .ok a → classify other = .ok b → a.Alike b →
    Alike (.hole hole) (.hole other)

structure Model.Alike (a b : Model) : Prop where
  sql : a.sql = b.sql
  columns : List.Forall₂ Column.Alike a.columns b.columns
  binds : List.Forall₂ Bind.Alike a.binds b.binds

/-! ## What a hole stands for -/

/-- A hole begins with a name, labelled `bind` exactly if it is a parameter, and a type. -/
structure Opens (hole : Hole) (kind : HoleKind) (name : String) (type : TypeRef) (later : List Argument) : Prop where
  arguments : ∃ first second, hole.arguments = first :: second :: later ∧
    (first.hasLabel "bind" = true ↔ kind = .bind) ∧ literalText? first.value = some name ∧
    TypeRef.parse second.value = some type

/-- After the type of a column there is an alias, or nothing. -/
inductive GivesAlias : List Argument → Option String → Prop
  | none : GivesAlias [] none
  | some {argument : Argument} {name : String} : argument.hasLabel "as" = true →
    literalText? argument.value = some name → name ≠ "" → GivesAlias [argument] (some name)

theorem classifyAlias_eq_ok_iff (column : String) (argument : Argument) (name : String) :
    classifyAlias column argument = .ok name ↔
      argument.hasLabel "as" = true ∧ literalText? argument.value = some name ∧ name ≠ "" := by
  unfold classifyAlias
  by_cases hlabel : argument.hasLabel "as" = true
  · rw [if_pos hlabel]
    cases literalText? argument.value with
    | none => simp
    | some text =>
      by_cases hempty : text.isEmpty = true
      · have hnone : text = "" := String.isEmpty_iff.1 hempty
        simp only [hempty, if_true, reduceCtorEq, Option.some.injEq, false_iff, not_and, ne_eq]
        rintro - rfl
        simp [hnone]
      · have hsome : text ≠ "" := fun h => hempty (String.isEmpty_iff.2 h)
        simp only [hempty, if_false, Except.ok.injEq, hlabel, true_and, Option.some.injEq, Bool.false_eq_true]
        constructor
        · rintro rfl
          exact ⟨rfl, hsome⟩
        · exact And.left
  · rw [if_neg hlabel]
    simp [hlabel]

theorem classifyColumn_eq_ok_iff (range : Text.ByteRange) (name : String) (type : TypeRef) (later : List Argument)
    (column : Column) : classifyColumn range name type later = .ok column ↔
      ∃ aliasName, GivesAlias later aliasName ∧ column = ⟨name, type, aliasName, range⟩ := by
  constructor
  · intro h
    cases later with
    | nil => exact ⟨none, .none, (Except.ok.inj h).symm⟩
    | cons third later =>
      rw [classifyColumn] at h
      cases halias : classifyAlias name third with
      | error error =>
        rw [halias] at h
        exact absurd h (by simp)
      | ok aliasName =>
        rw [halias] at h
        obtain ⟨hlabel, htext, hne⟩ := (classifyAlias_eq_ok_iff name third aliasName).1 halias
        cases later with
        | nil => exact ⟨some aliasName, .some hlabel htext hne, (Except.ok.inj h).symm⟩
        | cons fourth rest => exact absurd h (by simp)
  · rintro ⟨_, halias, rfl⟩
    cases halias with
    | none => rfl
    | some hlabel htext hne =>
      rw [classifyColumn, (classifyAlias_eq_ok_iff name _ _).2 ⟨hlabel, htext, hne⟩]

/-- A hole stands for a parameter whatever follows the type, and for a column if nothing but an alias does. -/
theorem classify_eq_ok_iff (hole : Hole) (classified : Classified) :
    classify hole = .ok classified ↔ ∃ kind name type later, Opens hole kind name type later ∧
      match kind with
      | .bind => classified = .bind ⟨name, type, hole.range⟩
      | .column => ∃ aliasName, GivesAlias later aliasName ∧ classified = .column ⟨name, type, aliasName, hole.range⟩ := by
  obtain ⟨arguments, range⟩ := hole
  constructor
  · intro h
    rcases arguments with _ | ⟨first, _ | ⟨second, later⟩⟩
    · exact absurd h (by simp [classify])
    · exact absurd h (by simp [classify])
    · unfold classify at h
      dsimp only at h
      cases htype : TypeRef.parse second.value with
      | none =>
        rw [htype] at h
        exact absurd h (by simp)
      | some type =>
        rw [htype] at h
        cases hname : literalText? first.value with
        | none =>
          rw [hname] at h
          exact absurd h (by simp)
        | some name =>
          rw [hname] at h
          cases hlabel : first.hasLabel "bind" with
          | true =>
            simp only [hlabel, if_true] at h
            exact ⟨.bind, name, type, later, ⟨first, second, rfl, by simp [hlabel], hname, htype⟩,
              (Except.ok.inj h).symm⟩
          | false =>
            simp only [hlabel, Bool.false_eq_true, if_false] at h
            obtain ⟨column, hcolumn, rfl⟩ := (map_eq_ok_iff _ _ _).1 h
            obtain ⟨aliasName, halias, rfl⟩ := (classifyColumn_eq_ok_iff _ _ _ _ _).1 hcolumn
            exact ⟨.column, name, type, later, ⟨first, second, rfl, by simp [hlabel], hname, htype⟩,
              aliasName, halias, rfl⟩
  · rintro ⟨kind, name, type, later, ⟨first, second, rfl, hkind, hname, htype⟩, hclassified⟩
    unfold classify
    simp only [htype, hname]
    cases kind with
    | bind =>
      rw [hclassified]
      simp only [hkind.2 rfl, if_true]
    | column =>
      obtain ⟨aliasName, halias, rfl⟩ := hclassified
      have hlabel : first.hasLabel "bind" = false := by
        rw [← Bool.not_eq_true, hkind]
        simp
      have hcolumn := (classifyColumn_eq_ok_iff range name type later _).2 ⟨aliasName, halias, rfl⟩
      simp only [hlabel, Bool.false_eq_true, if_false, hcolumn]
      rfl

/-- Two ways of writing one hole.  The names are the same text, quoted or not, with any label but `bind`; the types are
spelled in any way; the arguments after the type of a parameter do not matter, and a column has the same alias or none. -/
inductive Respelled (hole other : Hole) : Prop
  | bind {name : String} {a b : TypeRef} {later rest : List Argument} : Opens hole .bind name a later →
    Opens other .bind name b rest → a.Alike b → Respelled hole other
  | column {name : String} {a b : TypeRef} {later rest : List Argument} {aliasName : Option String} :
    Opens hole .column name a later → Opens other .column name b rest → a.Alike b → GivesAlias later aliasName →
    GivesAlias rest aliasName → Respelled hole other

/-- Holes stand for what is alike exactly if they are two ways of writing one hole. -/
theorem exists_alike_iff_respelled (hole other : Hole) :
    (∃ a b, classify hole = .ok a ∧ classify other = .ok b ∧ a.Alike b) ↔ Respelled hole other := by
  constructor
  · rintro ⟨a, b, ha, hb, halike⟩
    obtain ⟨kind, name, type, later, hopens, ha⟩ := (classify_eq_ok_iff hole a).1 ha
    obtain ⟨mode, title, sort, rest, hother, hb⟩ := (classify_eq_ok_iff other b).1 hb
    cases kind with
    | bind =>
      subst ha
      cases mode with
      | bind =>
        subst hb
        cases halike with
        | bind h =>
          obtain rfl : name = title := h.name
          exact .bind hopens hother h.type
      | column =>
        obtain ⟨_, -, rfl⟩ := hb
        cases halike
    | column =>
      obtain ⟨aliasName, halias, rfl⟩ := ha
      cases mode with
      | bind =>
        subst hb
        cases halike
      | column =>
        obtain ⟨second, hsecond, rfl⟩ := hb
        cases halike with
        | column h =>
          obtain rfl : name = title := h.name
          obtain rfl : aliasName = second := h.aliasName
          exact .column hopens hother h.type halias hsecond
  · intro h
    cases h with
    | bind ha hb htype =>
      exact ⟨_, _, (classify_eq_ok_iff hole _).2 ⟨.bind, _, _, _, ha, rfl⟩,
        (classify_eq_ok_iff other _).2 ⟨.bind, _, _, _, hb, rfl⟩, .bind ⟨rfl, htype⟩⟩
    | column ha hb htype halias hrest =>
      exact ⟨_, _, (classify_eq_ok_iff hole _).2 ⟨.column, _, _, _, ha, _, halias, rfl⟩,
        (classify_eq_ok_iff other _).2 ⟨.column, _, _, _, hb, _, hrest, rfl⟩, .column ⟨rfl, rfl, htype⟩⟩

/-! ## Models -/

theorem Model.Alike.pushLiteral {a b : Model} (h : a.Alike b) (text : String) :
    (a.pushLiteral text).Alike (b.pushLiteral text) := by
  refine ⟨?_, h.columns, h.binds⟩
  rw [Model.pushLiteral, Model.pushLiteral, h.sql]

theorem Model.Alike.push {a b : Model} (h : a.Alike b) {c d : Classified} (hclassified : c.Alike d) :
    (a.push c).Alike (b.push d) := by
  cases hclassified with
  | column hcolumn =>
    refine ⟨?_, List.rel_append h.columns (.cons hcolumn .nil), h.binds⟩
    simp only [Model.push, Model.pushColumn, h.sql, hcolumn.name, hcolumn.aliasName]
  | bind hbind =>
    refine ⟨?_, h.columns, List.rel_append h.binds (.cons hbind .nil)⟩
    simp only [Model.push, Model.pushBind, h.sql, h.binds.length_eq]

theorem exists_alike_extend {segments others : List Segment} (h : List.Forall₂ Segment.Alike segments others)
    {a b : Model} (hmodel : a.Alike b) :
    ∃ c d, a.extend segments = .ok c ∧ b.extend others = .ok d ∧ c.Alike d := by
  induction h generalizing a b with
  | nil => exact ⟨a, b, rfl, rfl, hmodel⟩
  | cons hfirst _ ih =>
    cases hfirst with
    | literal text => exact ih (hmodel.pushLiteral text)
    | hole hfirst hsecond halike =>
      rw [Model.extend_hole _ _ hfirst, Model.extend_hole _ _ hsecond]
      exact ih (hmodel.push halike)

theorem exists_alike_models {template text : String} {segments others : List Segment} (ha : scan template = .ok segments)
    (hb : scan text = .ok others) (h : List.Forall₂ Segment.Alike segments others) :
    ∃ a b, compile template = .ok a ∧ compile text = .ok b ∧ a.Alike b := by
  rw [compile_of_scan ha, compile_of_scan hb]
  exact exists_alike_extend h ⟨rfl, .nil, .nil⟩

/-! ## Drafts -/

/-- The same literal text, or drafts of holes that are two ways of writing one hole.  The white space of the drafts and
their last commas are left open. -/
inductive Template.SegmentDraft.Alike : SegmentDraft → SegmentDraft → Prop
  | literal (text : String) : Alike (.literal text) (.literal text)
  | hole {draft other : HoleDraft} : Respelled (draft.hole 0) (other.hole 0) → Alike (.hole draft) (.hole other)

theorem Classified.Alike.shift {a b : Classified} (h : a.Alike b) (m n : Nat) : (a.shift m).Alike (b.shift n) := by
  cases h with
  | column hcolumn => exact .column ⟨hcolumn.name, hcolumn.aliasName, hcolumn.type⟩
  | bind hbind => exact .bind ⟨hbind.name, hbind.type⟩

theorem argumentsAt_shift (bytes position : Nat) (drafts : List ArgumentDraft) :
    argumentsAt (position + bytes) drafts = (argumentsAt position drafts).map (Argument.shift bytes) := by
  induction drafts generalizing position with
  | nil => rfl
  | cons draft drafts ih =>
    have hfirst : draft.argument (position + bytes) = (draft.argument position).shift bytes := by
      simp only [ArgumentDraft.argument, Argument.shift, Text.ByteRange.shift, Nat.add_right_comm]
    rw [argumentsAt, argumentsAt, List.map_cons, hfirst, ← ih, Nat.add_right_comm position bytes,
      Nat.add_right_comm _ bytes 1]

theorem hole_eq_shift (draft : HoleDraft) (position : Nat) : draft.hole position = (draft.hole 0).shift position := by
  simp only [HoleDraft.hole, Hole.shift, Text.ByteRange.shift, ← argumentsAt_shift, Nat.add_comm position, Nat.zero_add]

theorem segmentsAt_alike {drafts others : List SegmentDraft} (h : List.Forall₂ SegmentDraft.Alike drafts others)
    (m n : Nat) : List.Forall₂ Segment.Alike (segmentsAt m drafts) (segmentsAt n others) := by
  induction h generalizing m n with
  | nil => exact .nil
  | cons hfirst _ ih =>
    refine .cons ?_ (ih _ _)
    cases hfirst with
    | literal text => exact .literal text
    | @hole draft other hrespelled =>
      obtain ⟨a, b, ha, hb, halike⟩ := (exists_alike_iff_respelled _ _).2 hrespelled
      rw [SegmentDraft.segment, SegmentDraft.segment, hole_eq_shift draft, hole_eq_shift other]
      refine .hole ?_ ?_ (halike.shift m n)
      · rw [classify_shift, ha, mapBoth_ok]
      · rw [classify_shift, hb, mapBoth_ok]

end TypedStatement
