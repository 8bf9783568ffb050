/-!
# Layout of text in lines

A layout is text with gaps, in groups.  A gap is a few blanks, or a line break.  A group that fits on the rest of its line
is written without line breaks; in another one every gap is a line break, or only those gaps after which the text would
not fit.

Sizes are measured in bytes, from a gap or from the start of a group up to the next gap that is not inside a later group.
-/

namespace TypedStatement
set_option autoImplicit false

namespace Layout

/-- When the gaps of a group that does not fit are line breaks. -/
inductive Style where
  /-- All of them. -/
  | consistent
  /-- Those after which the text would not fit. -/
  | inconsistent
  deriving DecidableEq

inductive Piece where
  | text (content : String)
  /-- Blanks, or a line break: the next line is indented by `offset` more than its group, and `before` ends the line
  before it. -/
  | gap (blanks : Nat) (offset : Int) (before : String)
  /-- A place that ends a size, and is never a line break. -/
  | seam
  /-- Pieces indented by `indent` more.  A group with more bytes than the limit does not fit. -/
  | group (indent : Int) (style : Style) (limit : Option Nat) (content : List Piece)

/-! ## Sizes -/

mutual

/-- The bytes of a piece without line breaks. -/
def Piece.width : Piece → Nat
  | .text content => content.utf8ByteSize
  | .gap blanks _ _ => blanks
  | .seam => 0
  | .group _ _ _ content => widthAll content

def widthAll : List Piece → Nat
  | [] => 0
  | piece :: rest => piece.width + widthAll rest

end

/-- The bytes up to the next gap; `after` is the number of those that follow the pieces. -/
def lead (after : Nat) : List Piece → Nat
  | [] => after
  | .gap _ _ _ :: _ => 0
  | .seam :: _ => 0
  | piece :: rest => piece.width + lead after rest

/-! ## Writing -/

/-- The number of bytes that a line should not exceed. -/
def margin : Int := 89

/-- The number of bytes that a line has at least, however far it is indented. -/
def leastSpace : Int := 60

structure Writer where
  out : String
  /-- Blanks that are written only when text follows on the line. -/
  pending : Nat
  /-- What is left of the line. -/
  space : Int

def Writer.start : Writer := ⟨"", 0, margin⟩

def Writer.text (writer : Writer) (content : String) : Writer :=
  ⟨writer.out ++ String.ofList (List.replicate writer.pending ' ') ++ content, 0,
    writer.space - content.utf8ByteSize⟩

def Writer.blanks (writer : Writer) (n : Nat) : Writer :=
  { writer with pending := writer.pending + n, space := writer.space - n }

/-- Begins a line that is indented by `indent`. -/
def Writer.newLine (writer : Writer) (before : String) (indent : Int) : Writer :=
  ⟨writer.out ++ before ++ "\n", indent.toNat, max (margin - indent) leastSpace⟩

/-- How the gaps around a piece are written. -/
inductive Mode where
  | fits
  | broken (style : Style)
  deriving DecidableEq

/-- Whether a gap before text of a size is a line break. -/
def Mode.breaks (mode : Mode) (writer : Writer) (size : Nat) : Bool :=
  match mode with
  | .fits => false
  | .broken .consistent => true
  | .broken .inconsistent => writer.space < size

mutual

/-- Writes a piece; `after` is the number of bytes up to the next gap that follows it. -/
def Piece.write (mode : Mode) (indent : Int) (after : Nat) (writer : Writer) : Piece → Writer
  | .text content => writer.text content
  | .gap blanks offset before =>
    if mode.breaks writer (blanks + after) then writer.newLine before (indent + offset) else writer.blanks blanks
  | .seam => writer
  | .group more style limit content =>
    let width := widthAll content
    if writer.space < width + after ∨ (limit.any fun most => most < width) then
      writeAll (.broken style) (indent + more) after writer content
    else writeAll .fits indent after writer content

def writeAll (mode : Mode) (indent : Int) (after : Nat) (writer : Writer) : List Piece → Writer
  | [] => writer
  | piece :: rest =>
    writeAll mode indent after (piece.write mode indent (lead after rest) writer) rest

end

/-- The text of a layout. -/
def render (pieces : List Piece) : String :=
  (writeAll (.broken .inconsistent) 0 0 .start pieces).out

/-! ## Building layouts -/

def space (blanks : Nat) : Piece := .gap blanks 0 ""

/-- A line break in every group that holds one. -/
def hardBreak (offset : Int) : Piece := .gap 65535 offset ""

def block (indent : Int) (content : List Piece) : Piece := .group indent .consistent none content

def run (indent : Int) (content : List Piece) : Piece := .group indent .inconsistent none content

/-- Items with commas between them; the last has a comma if a line break follows it, and that line is indented by
`offset` more. -/
def commaList (offset : Int) : List (List Piece) → List Piece
  | [] => []
  | [item] => item ++ [.gap 0 offset ","]
  | item :: rest => item ++ [.text ",", space 1] ++ commaList offset rest

/-- Items in a group of their own, with commas between them. -/
def indentedList (items : List (List Piece)) : Piece :=
  block 4 (space 0 :: commaList (-4) items)

def call (function : List Piece) (arguments : List (List Piece)) : List Piece :=
  function ++ [.text "(", indentedList arguments, .text ")"]

end Layout
end TypedStatement
