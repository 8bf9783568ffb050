import TypedStatement.Source.StringLiteral
import Mathlib.Data.Nat.Init

/-!
# String literals are read back

The machine that reads literals passes over a stretch of text when it goes from one state to another and adds a value, whatever
comes after the stretch (`Passes`).  Each way of writing a character is such a stretch, and so is a whole text as it is written
between quotes (`passes_encodeBody`).
-/

namespace TypedStatement.Source.StringLiteral
set_option autoImplicit false

open Text

/-! ## Stretches of a literal -/

/-- A value with more characters at the front. -/
def prepend (value : List Char) (result : List Char × List Char) : List Char × List Char :=
  (value ++ result.1, result.2)

/-- From one state the machine gets over the text to another state, and adds the value. -/
def Passes (state : State) (text value : List Char) (state' : State) : Prop :=
  ∀ rest, read .characters state (text ++ rest) = (read .characters state' rest).map (prepend value)

theorem passes_nil (state : State) : Passes state [] [] state := by
  intro rest
  rw [List.nil_append]
  cases read .characters state rest <;> rfl

theorem Passes.append {first second third : State} {a b x y : List Char} (ha : Passes first a x second)
    (hb : Passes second b y third) : Passes first (a ++ b) (x ++ y) third := by
  intro rest
  rw [List.append_assoc, ha, hb, Option.map_map]
  congr 1
  funext result
  exact Prod.ext (List.append_assoc x y result.1).symm rfl

theorem passes_step (state state' : State) (c : Char) (added : Option Char)
    (h : step .characters state c = .next state' added) : Passes state [c] added.toList state' := by
  intro rest
  rw [List.singleton_append, read, h]
  dsimp only
  cases read .characters state' rest <;> rfl

theorem Passes.read_quote {text value : List Char} (h : Passes .plain text value .plain) (rest : List Char) :
    read .characters .plain (text ++ '"' :: rest) = some (value, rest) := by
  have hquote : read .characters .plain ('"' :: rest) = some ([], rest) := rfl
  rw [h, hquote, Option.map_some, prepend, List.append_nil]

/-! ## One character -/

section
variable (c : Char) (hquote : c ≠ '"') (hreturn : c ≠ '\r') (hescape : c ≠ '\\')
include hquote hreturn hescape

theorem step_plain_of_ne : step .characters .plain c = .next .plain (some c) := by
  simp [step, plainStep, hquote, hreturn, hescape]

theorem passes_plain : Passes .plain [c] [c] .plain :=
  passes_step .plain .plain c (some c) (step_plain_of_ne c hquote hreturn hescape)

end

/-- A backslash and the letter of a simple escape. -/
theorem passes_letter (letter c : Char) (h : escapeStep .characters letter = .next .plain (some c)) :
    Passes .plain ['\\', letter] [c] .plain :=
  (passes_step .plain .escape '\\' none rfl).append (passes_step .escape .plain letter (some c) h)

theorem passes_hexadecimalNul : Passes .plain "\\x00".toList ['\x00'] .plain := by
  have hopen : Passes .plain ['\\', 'x'] [] .hexHigh :=
    (passes_step .plain .escape '\\' none rfl).append (passes_step .escape .hexHigh 'x' none rfl)
  have hdigits : Passes .hexHigh ['0', '0'] ['\x00'] .plain :=
    (passes_step .hexHigh (.hexLow 0) '0' none rfl).append (passes_step (.hexLow 0) .plain '0' (some '\x00') rfl)
  exact hopen.append hdigits

/-! ## Code points -/

theorem digitChar_spec (digit : Nat) (h : digit < 16) :
    hexValue? digit.digitChar = some digit ∧ digit.digitChar ≠ '_' ∧ digit.digitChar ≠ '}' := by
  have hall : ∀ d < 16, hexValue? (Nat.digitChar d) = some d ∧ Nat.digitChar d ≠ '_' ∧ Nat.digitChar d ≠ '}' := by
    decide
  exact hall digit h

theorem passes_digit (digits value digit : Nat) (hdigit : digit < 16) (hdigits : digits < 6) :
    Passes (.code digits value) [digit.digitChar] [] (.code (digits + 1) (value * 16 + digit)) := by
  obtain ⟨hvalue, hline, hbrace⟩ := digitChar_spec digit hdigit
  have hnot : ¬ digits = 6 := by omega
  apply passes_step _ _ digit.digitChar none
  simp [step, codeStep, hvalue, hline, hbrace, hnot]

/-- The digits of a number are read as the number, unless there are more than six. -/
theorem passes_hexDigits (n : Nat) (h : (hexDigits n).length ≤ 6) :
    Passes (.code 0 0) (hexDigits n) [] (.code (hexDigits n).length n) := by
  unfold hexDigits at h ⊢
  induction n using Nat.strong_induction_on with
  | _ n ih =>
    by_cases hsmall : n < 16
    · rw [Nat.toDigits_of_lt_base hsmall]
      have hdigit := passes_digit 0 0 n hsmall (by decide)
      rw [Nat.zero_mul, Nat.zero_add n] at hdigit
      exact hdigit
    · have hsplit := Nat.toDigits_of_base_le (by decide : 1 < 16) (by omega : 16 ≤ n)
      have hvalue : n / 16 * 16 + n % 16 = n := Nat.div_add_mod' n 16
      rw [hsplit, List.length_append, List.length_singleton] at h ⊢
      have hfront := ih (n / 16) (by omega) (by omega)
      have hlast := passes_digit (Nat.toDigits 16 (n / 16)).length (n / 16) (n % 16) (Nat.mod_lt n (by decide)) (by omega)
      rw [hvalue] at hlast
      exact hfront.append hlast

theorem scalar?_toNat (c : Char) : scalar? c.toNat = some c := by
  have hvalid : c.toNat.isValidChar := c.valid
  rw [scalar?, dif_pos hvalid]
  rfl

theorem length_hexDigits_toNat (c : Char) : (hexDigits c.toNat).length ≤ 6 := by
  have hvalid : c.toNat.isValidChar := c.valid
  rw [hexDigits, Nat.length_toDigits_le_iff (by decide) (by decide)]
  rcases hvalid with hlow | hhigh
  · exact Nat.lt_trans hlow (by decide)
  · exact Nat.lt_trans hhigh.2 (by decide)

theorem passes_close (digits value : Nat) (c : Char) (hdigits : 0 < digits) (hscalar : scalar? value = some c) :
    Passes (.code digits value) ['}'] [c] .plain := by
  apply passes_step _ _ '}' (some c)
  simp [step, codeStep, hdigits, hscalar]

theorem passes_codePoint (c : Char) :
    Passes .plain ("\\u\x7b".toList ++ hexDigits c.toNat ++ ['}']) [c] .plain := by
  have hopen : Passes .plain "\\u\x7b".toList [] (.code 0 0) :=
    ((passes_step .plain .escape '\\' none rfl).append (passes_step .escape .codeOpen 'u' none rfl)).append
      (passes_step .codeOpen (.code 0 0) '{' none rfl)
  have hdigits := passes_hexDigits c.toNat (length_hexDigits_toNat c)
  exact (hopen.append hdigits).append (passes_close _ _ c Nat.length_toDigits_pos (scalar?_toNat c))

/-! ## The whole text -/

theorem passes_escapeChar (c : Char) : Passes .plain (escapeChar c) [c] .plain := by
  unfold escapeChar
  simp only [beq_iff_eq, Bool.or_eq_true]
  split
  · rename_i h
    rw [h]
    exact passes_letter '0' '\x00' rfl
  split
  · rename_i h
    rw [h]
    exact passes_letter 't' '\t' rfl
  split
  · rename_i h
    rw [h]
    exact passes_letter 'n' '\n' rfl
  split
  · rename_i h
    rw [h]
    exact passes_letter 'r' '\r' rfl
  split
  · rename_i h
    rcases h with rfl | rfl
    · exact passes_letter '"' '"' rfl
    · exact passes_letter '\\' '\\' rfl
  split
  · exact passes_codePoint c
  · rename_i hreturn hmark _
    rw [not_or] at hmark
    exact passes_plain c hmark.1 hreturn hmark.2

theorem passes_encodeBody (text : List Char) : Passes .plain (encodeBody text) text .plain := by
  induction text with
  | nil => exact passes_nil .plain
  | cons c text ih =>
    have hc : Passes .plain (if c = '\x00' ∧ text.head?.any (fun next => '0' ≤ next && next ≤ '7') then
        "\\x00".toList else escapeChar c) [c] .plain := by
      split
      · rename_i hnul
        rw [hnul.1]
        exact passes_hexadecimalNul
      · exact passes_escapeChar c
    rw [encodeBody]
    exact hc.append ih

end TypedStatement.Source.StringLiteral
