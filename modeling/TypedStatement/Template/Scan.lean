import TypedStatement.Template.Segment
import TypedStatement.Template.Fault
import TypedStatement.Text.Identifier
import TypedStatement.Text.WhiteSpace

/-!
# Reading a template

`scan` reads a template from left to right into segments.  Outside holes `{{` and `}}` stand for one brace each.
A hole runs from `{` to the first `}` outside its quoted parts; its body is cut into arguments at the commas that
stand outside quotes and brackets.

What a hole means is not looked at here.
-/

namespace TypedStatement.Template
set_option autoImplicit false

open Text

/-! ## Stretches of the template -/

/-- A stretch of the template: its text and the position where it starts. -/
structure Slice where
  start : Nat
  text : List Char
  deriving DecidableEq

namespace Slice

def range (slice : Slice) : ByteRange :=
  ⟨slice.start, slice.start + utf8Length slice.text⟩

/-- The stretch without white space at its two ends. -/
def trim (slice : Slice) : Slice :=
  ⟨slice.start + utf8Length (slice.text.takeWhile isWhiteSpace), Text.trim slice.text⟩

end Slice

/-! ## One argument -/

/-- `label: value` with a single colon, as its two parts; `a::b` is a path and has no label. -/
def splitLabel (text : List Char) : Option (List Char × List Char) :=
  let label := text.takeWhile isAsciiWord
  if isAsciiName label then
    match trimStart (text.dropWhile isAsciiWord) with
    | ':' :: rest => if rest.head? = some ':' then none else some (label, trimStart rest)
    | _ => none
  else none

/-- The argument that a piece of a hole's body holds; a blank piece holds none. -/
def Slice.argument? (piece : Slice) : Except Malformed (Option Argument) :=
  let inner := piece.trim
  if inner.text.isEmpty then .ok none
  else
    match splitLabel inner.text with
    | none => .ok (some ⟨none, String.ofList inner.text, inner.range⟩)
    | some (label, value) =>
      if value.isEmpty then .error ⟨.missingValue (String.ofList label), inner.range⟩
      else .ok (some ⟨some (String.ofList label), String.ofList value, inner.range⟩)

/-- The arguments of a hole from the pieces of its body.  A blank piece is allowed only after a comma, as the
last; `first` says that no piece has been read yet. -/
def readArguments (hole : ByteRange) (first : Bool) : List Slice → Except Malformed (List Argument)
  | [] => .ok []
  | piece :: later =>
    match piece.argument? with
    | .error malformed => .error malformed
    | .ok (some argument) =>
      match readArguments hole false later with
      | .error malformed => .error malformed
      | .ok arguments => .ok (argument :: arguments)
    | .ok none =>
      if later.isEmpty then
        if first then .error ⟨.emptyHole, hole⟩ else .ok []
      else .error ⟨.emptyArgument, hole⟩

/-! ## The body of a hole -/

/-- Where a position inside a hole stands with respect to double quotes. -/
inductive Quoting where
  | outside
  | inside
  /-- After a backslash inside quotes. -/
  | escaped
  deriving DecidableEq

/-- What is open at a position inside a hole. -/
structure Nesting where
  quoting : Quoting
  /-- Round and square brackets that are open. -/
  brackets : Nat
  /-- Angle brackets that are open. -/
  angles : Nat
  deriving DecidableEq

namespace Nesting

/-- Nothing is open. -/
def flat : Nesting := ⟨.outside, 0, 0⟩

/-- Whether a comma here ends an argument. -/
def separates (nesting : Nesting) : Bool :=
  nesting.quoting == .outside && nesting.brackets == 0 && nesting.angles == 0

/-- What is open after one more character.  Angle brackets count only in the type, elsewhere they compare; a
closing bracket too many is ignored. -/
def step (nesting : Nesting) (inType : Bool) (c : Char) : Nesting :=
  match nesting.quoting with
  | .escaped => { nesting with quoting := .inside }
  | .inside =>
    if c = '\\' then { nesting with quoting := .escaped }
    else if c = '"' then { nesting with quoting := .outside }
    else nesting
  | .outside =>
    if c = '"' then { nesting with quoting := .inside }
    else if c = '(' || c = '[' then { nesting with brackets := nesting.brackets + 1 }
    else if c = ')' || c = ']' then { nesting with brackets := nesting.brackets - 1 }
    else if c = '<' && inType then { nesting with angles := nesting.angles + 1 }
    else if c = '>' && inType then { nesting with angles := nesting.angles - 1 }
    else nesting

end Nesting

/-- A hole's body from some position on, cut at its commas. -/
structure Body where
  /-- What is left of the piece the position is in. -/
  current : List Char
  /-- The pieces after it. -/
  later : List Slice
  /-- The position after the closing brace. -/
  stop : Nat
  /-- The template after the closing brace. -/
  rest : List Char

/-- Cuts the body of the hole that opens at byte `hole`, from byte `position` in piece number `index` on. -/
def cutBody (hole index : Nat) (nesting : Nesting) (position : Nat) :
    List Char → Except Malformed Body
  | [] =>
    .error ⟨if nesting.quoting = .outside then .unterminatedHole else .unterminatedString, ⟨hole, position⟩⟩
  | c :: rest =>
    if nesting.quoting = .outside ∧ c = '{' then .error ⟨.nestedBrace, ⟨position, position + 1⟩⟩
    else if nesting.quoting = .outside ∧ c = '}' then .ok ⟨[], [], position + 1, rest⟩
    else if nesting.separates ∧ c = ',' then
      match cutBody hole (index + 1) nesting (position + 1) rest with
      | .error malformed => .error malformed
      | .ok body => .ok { body with current := [], later := ⟨position + 1, body.current⟩ :: body.later }
    else
      match cutBody hole index (nesting.step (index == 1) c) (position + c.utf8Size) rest with
      | .error malformed => .error malformed
      | .ok body => .ok { body with current := c :: body.current }

theorem length_rest_lt_of_cutBody {hole index : Nat} {nesting : Nesting} {position : Nat}
    {text : List Char} {body : Body} (h : cutBody hole index nesting position text = .ok body) :
    body.rest.length < text.length := by
  induction text generalizing index nesting position body with
  | nil => simp [cutBody] at h
  | cons c rest ih =>
    simp only [cutBody] at h
    split at h
    · simp at h
    split at h
    · cases h
      simp
    split at h
    · split at h
      · simp at h
      · rename_i inner hi
        cases h
        have shorter := ih hi
        exact Nat.lt_succ_of_lt shorter
    · split at h
      · simp at h
      · rename_i inner hi
        cases h
        have shorter := ih hi
        exact Nat.lt_succ_of_lt shorter

/-- The hole whose opening brace stands just before `text`, with the text after it. -/
def readHole (hole : Nat) (text : List Char) : Except Malformed (Hole × Body) :=
  match cutBody hole 0 .flat (hole + 1) text with
  | .error malformed => .error malformed
  | .ok body =>
    let range : ByteRange := ⟨hole, body.stop⟩
    match readArguments range true (⟨hole + 1, body.current⟩ :: body.later) with
    | .error malformed => .error malformed
    | .ok arguments => .ok (⟨arguments, range⟩, body)

theorem length_rest_lt_of_readHole {hole : Nat} {text : List Char} {result : Hole} {body : Body}
    (h : readHole hole text = .ok (result, body)) : body.rest.length < text.length := by
  unfold readHole at h
  split at h
  · simp at h
  · rename_i inner hi
    dsimp only at h
    split at h
    · simp at h
    · cases h
      exact length_rest_lt_of_cutBody hi

/-! ## The whole template -/

/-- An item of a template: one character of literal text, or a hole. -/
inductive Item where
  | char (c : Char)
  | hole (hole : Hole)
  deriving DecidableEq

/-- The items of a template from byte `position` on. -/
def scanItems (position : Nat) (text : List Char) : Except Malformed (List Item) :=
  match text with
  | [] => .ok []
  | c :: rest =>
    if c = '{' ∨ c = '}' then
      if rest.head? = some c then
        match scanItems (position + 2) rest.tail with
        | .error malformed => .error malformed
        | .ok items => .ok (.char c :: items)
      else if c = '}' then .error ⟨.unmatchedBrace, ⟨position, position + 1⟩⟩
      else
        match _h : readHole position rest with
        | .error malformed => .error malformed
        | .ok (hole, body) =>
          match scanItems body.stop body.rest with
          | .error malformed => .error malformed
          | .ok items => .ok (.hole hole :: items)
    else
      match scanItems (position + c.utf8Size) rest with
      | .error malformed => .error malformed
      | .ok items => .ok (.char c :: items)
termination_by text.length
decreasing_by
  · simp only [List.length_tail, List.length_cons]
    omega
  · have := length_rest_lt_of_readHole _h
    simp only [List.length_cons]
    omega
  · simp

/-- Puts a run of literal characters, unless it is empty, before the segments. -/
def literalBefore (run : List Char) (segments : List Segment) : List Segment :=
  if run.isEmpty then segments else .literal (String.ofList run) :: segments

/-- The run of literal characters the items begin with, and the segments after it. -/
def gather : List Item → List Char × List Segment
  | [] => ([], [])
  | .char c :: items =>
    let (run, segments) := gather items
    (c :: run, segments)
  | .hole hole :: items =>
    let (run, segments) := gather items
    ([], .hole hole :: literalBefore run segments)

/-- The segments of a list of items: every longest run of characters is one literal. -/
def segmentsOf (items : List Item) : List Segment :=
  let (run, segments) := gather items
  literalBefore run segments

/-- Splits a template into literal text and holes, from left to right; the first fault is reported. -/
def scan (template : String) : Except Malformed (List Segment) :=
  (scanItems 0 template.toList).map segmentsOf

end TypedStatement.Template
