import TypedStatement.Proofs.Template.Segments
import TypedStatement.Proofs.Text.WhiteSpace

/-!
# The grammar of templates

What a template looks like as it is written, said without reading it from left to right.

* A written item (`Written`) is a character, a doubled brace, or a hole with the pieces of its body.
* A piece is a list of atoms: characters outside quotes, and quoted parts.
* `Written.IsLegal` says what may be written, `Written.Denotes` what item is meant by it at a byte position, and
  `Means` which segments are meant by a list of written items.
-/

namespace TypedStatement.Template
set_option autoImplicit false

open Text

/-! ## Pieces -/

/-- What may stand between double quotes: a backslash takes the next character along, and no quote is left over. -/
inductive IsQuoted : List Char → Prop
  | nil : IsQuoted []
  | char (c : Char) (rest : List Char) : c ≠ '"' → c ≠ '\\' → IsQuoted rest → IsQuoted (c :: rest)
  | escape (c : Char) (rest : List Char) : IsQuoted rest → IsQuoted ('\\' :: c :: rest)

/-- Whether a text may stand between quotes; `escaped` says that a backslash stands before it. -/
def isQuoted (escaped : Bool) : List Char → Bool
  | [] => !escaped
  | c :: rest =>
    if escaped then isQuoted false rest
    else if c = '\\' then isQuoted true rest
    else c != '"' && isQuoted false rest

theorem isQuoted_iff (text : List Char) :
    (isQuoted false text = true ↔ IsQuoted text) ∧
      (isQuoted true text = true ↔ ∃ c rest, text = c :: rest ∧ IsQuoted rest) := by
  induction text with
  | nil => exact ⟨⟨fun _ => .nil, fun _ => rfl⟩, by simp [isQuoted]⟩
  | cons c text ih =>
    refine ⟨?_, ?_⟩
    · by_cases hescape : c = '\\'
      · rw [hescape]
        simp only [isQuoted, if_true, Bool.false_eq_true, if_false]
        rw [ih.2]
        constructor
        · rintro ⟨d, rest, rfl, hrest⟩
          exact .escape d rest hrest
        · intro h
          cases h with
          | char _ _ _ hnot => exact absurd rfl hnot
          | escape d rest hrest => exact ⟨d, rest, rfl, hrest⟩
      · simp only [isQuoted, hescape, Bool.false_eq_true, if_false, Bool.and_eq_true, bne_iff_ne, ne_eq]
        rw [ih.1]
        constructor
        · rintro ⟨hquote, hrest⟩
          exact .char c text hquote hescape hrest
        · intro h
          cases h with
          | char _ _ hquote _ hrest => exact ⟨hquote, hrest⟩
          | escape => exact absurd rfl hescape
    · simp [isQuoted, ih.1]

instance (text : List Char) : Decidable (IsQuoted text) :=
  decidable_of_iff _ (isQuoted_iff text).1

/-- A character outside quotes, or a quoted part. -/
inductive Atom where
  | plain (c : Char)
  | quoted (inside : List Char)
  deriving DecidableEq

def Atom.text : Atom → List Char
  | .plain c => [c]
  | .quoted inside => '"' :: (inside ++ ['"'])

/-- Quotes are closed, and there is no brace outside them. -/
def Atom.IsLegal : Atom → Prop
  | .plain c => c ≠ '"' ∧ c ≠ '{' ∧ c ≠ '}'
  | .quoted inside => IsQuoted inside

instance (atom : Atom) : Decidable atom.IsLegal :=
  match atom with
  | .plain c => inferInstanceAs (Decidable (c ≠ '"' ∧ c ≠ '{' ∧ c ≠ '}'))
  | .quoted inside => inferInstanceAs (Decidable (IsQuoted inside))

abbrev Piece := List Atom

def Piece.text (piece : Piece) : List Char :=
  piece.flatMap Atom.text

/-- The number of brackets that are open after an atom, when `n` were open before it.  A closing bracket too many is
ignored, and brackets in quotes do not count. -/
def openAfter (opening closing : List Char) (n : Nat) : Atom → Nat
  | .plain c => if c ∈ opening then n + 1 else if c ∈ closing then n - 1 else n
  | .quoted _ => n

/-- Round and square brackets that are open after the atoms. -/
def brackets (atoms : List Atom) : Nat :=
  atoms.foldl (openAfter ['(', '['] [')', ']']) 0

/-- Angle brackets that are open after the atoms. -/
def angles (atoms : List Atom) : Nat :=
  atoms.foldl (openAfter ['<'] ['>']) 0

/-- Nothing is open after the atoms; angle brackets count in the type only. -/
def IsLevel (inType : Bool) (atoms : List Atom) : Prop :=
  brackets atoms = 0 ∧ (inType = true → angles atoms = 0)

instance (inType : Bool) (atoms : List Atom) : Decidable (IsLevel inType atoms) :=
  inferInstanceAs (Decidable (brackets atoms = 0 ∧ (inType = true → angles atoms = 0)))

/-- The atoms are legal, and every comma among them stands inside brackets. -/
structure IsPiece (inType : Bool) (atoms : List Atom) : Prop where
  legal : ∀ atom ∈ atoms, atom.IsLegal
  comma : ∀ before after, atoms = before ++ .plain ',' :: after → ¬ IsLevel inType before

theorem isPiece_iff (inType : Bool) (atoms : List Atom) :
    IsPiece inType atoms ↔ (∀ atom ∈ atoms, atom.IsLegal) ∧
      ∀ n < atoms.length, atoms[n]? = some (.plain ',') → ¬ IsLevel inType (atoms.take n) := by
  constructor
  · rintro ⟨hlegal, hcomma⟩
    refine ⟨hlegal, ?_⟩
    intro n hn hat
    have hget := (List.getElem?_eq_some_iff.1 hat).2
    apply hcomma (atoms.take n) (atoms.drop (n + 1))
    rw [← hget, ← List.drop_eq_getElem_cons hn, List.take_append_drop]
  · rintro ⟨hlegal, hcomma⟩
    refine ⟨hlegal, ?_⟩
    rintro before after rfl
    have hfound := hcomma before.length (by simp) (by simp)
    rwa [List.take_left] at hfound

instance (inType : Bool) (atoms : List Atom) : Decidable (IsPiece inType atoms) :=
  decidable_of_iff _ (isPiece_iff inType atoms).symm

/-- A body cut at the commas outside brackets, its pieces numbered from `index` on: the second one is the type. -/
def IsCut (index : Nat) : List Piece → Prop
  | [] => False
  | [piece] => IsPiece (index == 1) piece
  | piece :: next :: rest => IsPiece (index == 1) piece ∧ IsLevel (index == 1) piece ∧ IsCut (index + 1) (next :: rest)

/-- The body of a hole, its pieces joined by commas. -/
def bodyText : List Piece → List Char
  | [] => []
  | [piece] => piece.text
  | piece :: next :: rest => piece.text ++ ',' :: bodyText (next :: rest)

/-! ## Arguments -/

/-- The text is a name, perhaps white space, a single colon, perhaps white space, and the value, which may be empty. -/
def IsLabelled (text label value : List Char) : Prop :=
  ∃ gap rest, text = label ++ gap ++ ':' :: rest ∧ isAsciiName label = true ∧ isBlank gap = true ∧
    rest.head? ≠ some ':' ∧ value = trimStart rest

/-- The argument that the core of a piece at byte `start` says. -/
inductive SaysArgument (start : Nat) (core : List Char) : Argument → Prop
  | bare : (∀ label value, ¬ IsLabelled core label value) →
    SaysArgument start core ⟨none, String.ofList core, ⟨start, start + utf8Length core⟩⟩
  | labelled (label value : List Char) : IsLabelled core label value → value ≠ [] →
    SaysArgument start core ⟨some (String.ofList label), String.ofList value, ⟨start, start + utf8Length core⟩⟩

/-- The piece holds the argument, with white space around it. -/
def HoldsArgument (piece : Slice) (argument : Argument) : Prop :=
  ∃ before core after, piece.text = before ++ core ++ after ∧ isBlank before = true ∧ isBlank after = true ∧
    IsTrimmed core ∧ core ≠ [] ∧ SaysArgument (piece.start + utf8Length before) core argument

/-- The text is a label and a single colon with nothing after it, apart from white space. -/
def LacksValue (text : List Char) : Prop :=
  ∃ before label gap after, text = before ++ label ++ gap ++ ':' :: after ∧ isBlank before = true ∧
    isAsciiName label = true ∧ isBlank gap = true ∧ isBlank after = true

/-! ## Holes -/

/-- The body of a hole: pieces between commas, none of them blank except perhaps the last of several, and none a label
without a value. -/
structure IsBody (pieces : List Piece) : Prop where
  cut : IsCut 0 pieces
  filled : ∀ piece ∈ pieces.dropLast, isBlank piece.text = false
  filled_alone : ∀ piece, pieces = [piece] → isBlank piece.text = false
  valued : ∀ piece ∈ pieces, ¬ LacksValue piece.text

/-- The pieces with the byte positions where they start. -/
def slicesFrom (start : Nat) : List Piece → List Slice
  | [] => []
  | piece :: rest => ⟨start, piece.text⟩ :: slicesFrom (start + utf8Length piece.text + 1) rest

/-- The hole that is meant by the pieces of its body when it opens at byte `position`: one argument for each piece
that is not blank. -/
structure HoleDenotes (position : Nat) (pieces : List Piece) (hole : Hole) : Prop where
  range : hole.range = ⟨position, position + (utf8Length (bodyText pieces) + 2)⟩
  arguments : List.Forall₂ HoldsArgument
    ((slicesFrom (position + 1) pieces).filter fun slice => !isBlank slice.text) hole.arguments

/-! ## Templates -/

/-- A text with every brace written twice. -/
def doubleBraces (text : List Char) : List Char :=
  text.flatMap fun c => if c = '{' ∨ c = '}' then [c, c] else [c]

/-- An item of a template as it is written. -/
inductive Written where
  | char (c : Char)
  /-- A brace written twice. -/
  | doubled (c : Char)
  | hole (pieces : List Piece)
  deriving DecidableEq

namespace Written

def text : Written → List Char
  | .char c => [c]
  | .doubled c => [c, c]
  | .hole pieces => '{' :: (bodyText pieces ++ ['}'])

def IsLegal : Written → Prop
  | .char c => c ≠ '{' ∧ c ≠ '}'
  | .doubled c => c = '{' ∨ c = '}'
  | .hole pieces => IsBody pieces

/-- The item that is meant by a written one at a byte position. -/
inductive Denotes (position : Nat) : Written → Item → Prop
  | char (c : Char) : Denotes position (.char c) (.char c)
  | doubled (c : Char) : Denotes position (.doubled c) (.char c)
  | hole (pieces : List Piece) (hole : Hole) : HoleDenotes position pieces hole →
    Denotes position (.hole pieces) (.hole hole)

end Written

/-- The items that are meant by the written ones from a byte position on. -/
inductive DenotesAll : Nat → List Written → List Item → Prop
  | nil (position : Nat) : DenotesAll position [] []
  | cons (position : Nat) (first : Written) (item : Item) (written : List Written) (items : List Item) :
    first.Denotes position item → DenotesAll (position + utf8Length first.text) written items →
    DenotesAll position (first :: written) (item :: items)

def writtenText (written : List Written) : List Char :=
  written.flatMap Written.text

/-- The text is made of legal items. -/
structure IsTemplate (written : List Written) (text : List Char) : Prop where
  legal : ∀ item ∈ written, item.IsLegal
  text : writtenText written = text

/-- The segments that are meant by the written items: the items of the segments are those meant, and every literal is a
longest run of characters. -/
structure Means (written : List Written) (segments : List Segment) : Prop where
  separated : Separated segments
  denotes : DenotesAll 0 written (segments.flatMap Segment.items)

end TypedStatement.Template
