import TypedStatement.Text.Identifier

/-!
# Numeric literals

Where an integer or floating point literal at the start of a text ends.  Each function answers the text after the
literal, or `none` if there is no such literal.
-/

namespace TypedStatement.Source.Numeral
set_option autoImplicit false

open Text

/-- A decimal digit or an underscore. -/
def isDigitOrGap (c : Char) : Bool :=
  c.isDigit || c == '_'

/-- The text after the identifier it begins with, if it begins with one. -/
def skipWord (text : List Char) : List Char :=
  match text with
  | [] => []
  | c :: rest => if isIdentifierStart c then rest.dropWhile isIdentifierPart else text

/-- The suffix after the digits, and then no further identifier character. -/
def afterSuffix (text : List Char) : Option (List Char) :=
  match skipWord text with
  | [] => some []
  | c :: rest => if isIdentifierPart c then none else some (c :: rest)

/-! ## Floating point literals -/

/-- An exponent after its `e`; without a digit the literal ends before the `e`, if it may end there. -/
def exponent (before : Option (List Char)) (signed valued : Bool) : List Char → Option (List Char)
  | [] => if valued then some [] else before
  | c :: rest =>
    if c = '+' ∨ c = '-' then
      if valued then some (c :: rest)
      else if signed then before
      else exponent before true false rest
    else if c.isDigit then exponent before signed true rest
    else if c = '_' then exponent before signed valued rest
    else if valued then some (c :: rest)
    else before

/-- The digits of a floating point literal: there is a point, or an exponent, or both. -/
def floatDigits (text : List Char) : Option (List Char) :=
  match text with
  | [] => none
  | first :: _ =>
    if first.isDigit then
      match text.dropWhile isDigitOrGap with
      | [] => none
      | '.' :: fraction =>
        if fraction.head?.any (fun c => c == '.' || isIdentifierStart c) then none
        else
          match fraction.dropWhile isDigitOrGap with
          | [] => some []
          | c :: rest =>
            if c = 'e' ∨ c = 'E' then exponent (some (c :: rest)) false false rest else some (c :: rest)
      | c :: rest => if c = 'e' ∨ c = 'E' then exponent none false false rest else none
    else none

def float (text : List Char) : Option (List Char) :=
  (floatDigits text).bind afterSuffix

/-! ## Integer literals -/

/-- The digits of a base; `empty` says that none has been read. -/
def digitsIn (base : Nat) (empty : Bool) : List Char → Option (List Char)
  | [] => if empty then none else some []
  | c :: rest =>
    if c.isDigit then
      if c.toNat - '0'.toNat < base then digitsIn base false rest else none
    else if base = 16 ∧ (('a' ≤ c ∧ c ≤ 'f') ∨ ('A' ≤ c ∧ c ≤ 'F')) then digitsIn base false rest
    else if c = '_' then
      if empty ∧ base = 10 then none else digitsIn base empty rest
    else if empty then none
    else some (c :: rest)

/-- The digits of an integer literal, in the base that its beginning names. -/
def integerDigits : List Char → Option (List Char)
  | '0' :: 'x' :: rest => digitsIn 16 true rest
  | '0' :: 'o' :: rest => digitsIn 8 true rest
  | '0' :: 'b' :: rest => digitsIn 2 true rest
  | text => digitsIn 10 true text

def integer (text : List Char) : Option (List Char) :=
  (integerDigits text).bind afterSuffix

end TypedStatement.Source.Numeral
