import TypedStatement.Text.Casing

/-!
# Camel case

A name is cut into words, and each word gets a capital at its front.  Words end at characters that are no letters or
digits, before a capital that follows small letters, and before the last of several capitals that small letters follow.
-/

namespace TypedStatement.Text
set_option autoImplicit false

/-- The case of the last letter of a word that has a case. -/
inductive CaseMode where
  | none
  | lower
  | upper
  deriving DecidableEq

/-- The case after one more character. -/
def CaseMode.after (mode : CaseMode) (c : Char) : CaseMode :=
  if isLowercase c then .lower else if isUppercase c then .upper else mode

/-- Cuts a piece without separators into words; `word` holds what has been read of the first one, the last character
first. -/
def wordsFrom (mode : CaseMode) (word : List Char) : List Char → List (List Char)
  | [] => []
  | [c] => [(c :: word).reverse]
  | c :: next :: rest =>
    if mode.after c = .lower ∧ isUppercase next then
      (c :: word).reverse :: wordsFrom .none [] (next :: rest)
    else if mode = .upper ∧ isUppercase c ∧ isLowercase next then
      word.reverse :: wordsFrom .none [c] (next :: rest)
    else wordsFrom (mode.after c) (c :: word) (next :: rest)

/-- The pieces between characters that are no letters or digits. -/
def alphanumericPieces (reversed : List Char) : List Char → List (List Char)
  | [] => [reversed.reverse]
  | c :: rest =>
    if isAlphanumeric c then alphanumericPieces (c :: reversed) rest
    else reversed.reverse :: alphanumericPieces [] rest

/-- The tail of a word in lower case; a sigma at its end takes its final form. -/
def lowercaseTail : List Char → List Char
  | [] => []
  | ['Σ'] => ['ς']
  | c :: rest => toLowercase c ++ lowercaseTail rest

/-- A word with a capital at its front. -/
def capitalize : List Char → List Char
  | [] => []
  | c :: rest => toUppercase c ++ lowercaseTail rest

/-- The name in camel case, with a capital at its front. -/
def camelCase (name : String) : String :=
  String.ofList (((alphanumericPieces [] name.toList).flatMap (wordsFrom .none [])).flatMap capitalize)

end TypedStatement.Text
