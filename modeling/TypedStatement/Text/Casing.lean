import TypedStatement.Text.AlphanumericTable
import TypedStatement.Text.CaseTable

/-!
# Letter case

Case mappings of single characters and of whole texts.  Only one mapping looks at its surroundings: a capital
sigma that ends a word.
-/

namespace TypedStatement.Text
set_option autoImplicit false

/-- A letter or a number of any script. -/
def isAlphanumeric (c : Char) : Bool :=
  if c.toNat < 0x80 then c.isAlphanum else alphabeticRanges.contains c || numericOnlyRanges.contains c

def isUppercase (c : Char) : Bool :=
  if c.toNat < 0x80 then c.isUpper else uppercaseRuns.any (·.contains c)

def isLowercase (c : Char) : Bool :=
  if c.toNat < 0x80 then c.isLower else lowercaseRuns.any (·.contains c)

def isCased (c : Char) : Bool :=
  if c.toNat < 0x80 then c.isAlpha else casedRanges.contains c

/-- Marks and signs that do not end a word when the case of its letters is looked at. -/
def isCaseIgnorable (c : Char) : Bool :=
  if c.toNat < 0x80 then ['\'', '.', ':', '^', '\x60'].contains c else caseIgnorableRanges.contains c

/-- The other case of a character above U+007F, by its expansion if it has one, else by its shift. -/
def recase (shifts : List CaseShift) (expansions : List (Nat × List Nat)) (c : Char) : List Char :=
  match expansions.find? (·.1 == c.toNat) with
  | some (_, codes) => codes.map Char.ofNat
  | none =>
    match shifts.find? (·.run.contains c) with
    | some s => [Char.ofNat ((c.toNat : Int) + s.shift).toNat]
    | none => [c]

def toLowercase (c : Char) : List Char :=
  if c.toNat < 0x80 then [c.toLower] else recase lowerShifts lowerExpansions c

def toUppercase (c : Char) : List Char :=
  if c.toNat < 0x80 then [c.toUpper] else recase upperShifts upperExpansions c

/-- Whether the nearest character that counts for case is a cased letter. -/
def meetsCased (text : List Char) : Bool :=
  match text.dropWhile isCaseIgnorable with
  | [] => false
  | c :: _ => isCased c

/-- `before` holds the characters already passed, the nearest first. -/
def lowercaseFrom (before : List Char) : List Char → List Char
  | [] => []
  | c :: rest =>
    let lowered :=
      if c == 'Σ' then [if meetsCased before && !meetsCased rest then 'ς' else 'σ'] else toLowercase c
    lowered ++ lowercaseFrom (c :: before) rest

/-- The text in lower case; a sigma that ends a word takes its final form. -/
def lowercaseText (text : List Char) : List Char :=
  lowercaseFrom [] text

/-- A text in lower case, as a string. -/
def lowercaseString (text : String) : String :=
  String.ofList (lowercaseText text.toList)

end TypedStatement.Text
