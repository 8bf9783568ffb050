/-!
# Lines and pieces of a text

A line ends at a line feed, perhaps with a carriage return before it; nothing follows the last line feed.  Pieces stand
between separators, and may be empty.
-/

namespace TypedStatement.Text
set_option autoImplicit false

/-- A line, read backwards, without the carriage return at its end. -/
def endOfLine : List Char → List Char
  | '\r' :: earlier => earlier.reverse
  | reversed => reversed.reverse

/-- The lines of the text; `reversed` holds what has been read of the first one, the last character first. -/
def linesFrom (reversed : List Char) : List Char → List (List Char)
  | [] => if reversed.isEmpty then [] else [reversed.reverse]
  | '\n' :: rest => endOfLine reversed :: linesFrom [] rest
  | c :: rest => linesFrom (c :: reversed) rest

def lines (text : String) : List String :=
  (linesFrom [] text.toList).map String.ofList

/-- The pieces of the text between the separators. -/
def pieces (separator : Char) (text : String) : List String :=
  (text.toList.splitOn separator).map String.ofList

end TypedStatement.Text
