import TypedStatement.Proofs.Template.Grammar

/-!
# Drafts of templates

A draft is the list of the segments of a template together with the white space that its writer puts around arguments
and around the colons of labels, and the commas after last arguments.

* `ArgumentDraft`, `HoleDraft`, `SegmentDraft`: what is written, and its text.
* `SegmentDraft.segment`: the segment of the draft when it starts at a byte position.
* `ArgumentDraft.IsSafe`, `AreSafe`: what may be written.
-/

namespace TypedStatement.Template
set_option autoImplicit false

open Text

/-! ## Arguments -/

abbrev Padding := { text : List Char // isBlank text = true }

structure ArgumentDraft where
  label : Option String
  value : String
  /-- Before and after the argument. -/
  before : Padding
  after : Padding
  /-- Before and after the colon of the label. -/
  beforeColon : Padding
  afterColon : Padding

namespace ArgumentDraft

def core (draft : ArgumentDraft) : List Char :=
  match draft.label with
  | none => draft.value.toList
  | some label => label.toList ++ draft.beforeColon.val ++ ':' :: (draft.afterColon.val ++ draft.value.toList)

def text (draft : ArgumentDraft) : List Char :=
  draft.before.val ++ draft.core ++ draft.after.val

/-- The argument when its text starts at byte `position`. -/
def argument (position : Nat) (draft : ArgumentDraft) : Argument :=
  ⟨draft.label, draft.value, ⟨position + utf8Length draft.before.val,
    position + utf8Length draft.before.val + utf8Length draft.core⟩⟩

/-- The argument can be told from what is around it; `inType` says that it is the second of its hole. -/
structure IsSafe (inType : Bool) (draft : ArgumentDraft) : Prop where
  name : ∀ label, draft.label = some label → isAsciiName label.toList = true
  nonempty : draft.value ≠ ""
  trimmed : IsTrimmed draft.value.toList
  /-- Quotes are closed, there is no brace outside them and no comma outside quotes and brackets, and in the end no
  bracket is open. -/
  level : ∃ atoms : Piece, atoms.text = draft.value.toList ∧ IsPiece inType atoms ∧ IsLevel inType atoms
  /-- A value without a label does not look labelled. -/
  bare : draft.label = none → ∀ label value, ¬ IsLabelled draft.value.toList label value
  /-- The colon of a label stays single. -/
  colon : draft.label ≠ none → draft.value.toList.head? ≠ some ':'

end ArgumentDraft

/-! ## Holes -/

def commaSeparated : List (List Char) → List Char
  | [] => []
  | [text] => text
  | text :: next :: rest => text ++ ',' :: commaSeparated (next :: rest)

/-- The arguments of drafts that are written one after the other with commas between them, from byte `position` on. -/
def argumentsAt (position : Nat) : List ArgumentDraft → List Argument
  | [] => []
  | draft :: rest => draft.argument position :: argumentsAt (position + utf8Length draft.text + 1) rest

structure HoleDraft where
  arguments : List ArgumentDraft
  /-- White space after a comma after the last argument, if there is one. -/
  trailing : Option Padding

namespace HoleDraft

def body (draft : HoleDraft) : List Char :=
  commaSeparated (draft.arguments.map ArgumentDraft.text ++ (draft.trailing.map Subtype.val).toList)

def text (draft : HoleDraft) : List Char :=
  '{' :: (draft.body ++ ['}'])

def hole (position : Nat) (draft : HoleDraft) : Hole :=
  ⟨argumentsAt (position + 1) draft.arguments, ⟨position, position + utf8Length draft.text⟩⟩

structure IsSafe (draft : HoleDraft) : Prop where
  nonempty : draft.arguments ≠ []
  arguments : ∀ index argument, draft.arguments[index]? = some argument →
    ArgumentDraft.IsSafe (index == 1) argument

end HoleDraft

/-! ## Segments -/

inductive SegmentDraft where
  | literal (text : String)
  | hole (draft : HoleDraft)

namespace SegmentDraft

def isLiteral : SegmentDraft → Bool
  | .literal _ => true
  | .hole _ => false

def text : SegmentDraft → List Char
  | .literal text => doubleBraces text.toList
  | .hole draft => draft.text

def segment (position : Nat) : SegmentDraft → Segment
  | .literal text => .literal text
  | .hole draft => .hole (draft.hole position)

end SegmentDraft

def draftText (drafts : List SegmentDraft) : List Char :=
  drafts.flatMap SegmentDraft.text

/-- The segments of the drafts when they are written from byte `position` on. -/
def segmentsAt (position : Nat) : List SegmentDraft → List Segment
  | [] => []
  | draft :: rest => draft.segment position :: segmentsAt (position + utf8Length draft.text) rest

/-- No literal is empty, no two literals are adjacent, and the holes are safe. -/
structure AreSafe (drafts : List SegmentDraft) : Prop where
  nonempty : ∀ text, SegmentDraft.literal text ∈ drafts → text ≠ ""
  apart : drafts.IsChain fun a b => ¬ (a.isLiteral = true ∧ b.isLiteral = true)
  holes : ∀ draft, SegmentDraft.hole draft ∈ drafts → HoleDraft.IsSafe draft

end TypedStatement.Template
