import Mathlib.Tactic.SplitIfs
import TypedStatement.Json.Reader
import TypedStatement.Json.Text

/-!
# Strings in JSON are read back

A character is written by itself or as an escape, and either is read as the character, whatever follows
(`stringBody_escapeChar`); so a text comes back whole from between its quotation marks (`stringBody_quoted`).  No control
character is ever written (`le_toNat_of_mem_quoteChars`).
-/

namespace TypedStatement.Json
set_option autoImplicit false

/-- What is read, with a character in front. -/
def withChar (c : Char) (read : List Char × List Char) : List Char × List Char :=
  (c :: read.1, read.2)

/-! ## One character -/

section
variable (c : Char) (rest : List Char)

attribute [local simp] stringBody

theorem stringBody_letter (letter : Char) (h : escaped? letter = some c) :
    stringBody ('\\' :: letter :: rest) = (stringBody rest).map (withChar c) := by
  have hunit : escaped? 'u' = none := rfl
  have hletter : letter ≠ 'u' := by
    rintro rfl
    rw [hunit] at h
    cases h
  simp [h, hletter]
  rfl

theorem stringBody_plain (hcontrol : ¬ c.toNat < 0x20) (hquote : c ≠ '"') (hescape : c ≠ '\\') :
    stringBody (c :: rest) = (stringBody rest).map (withChar c) := by
  simp [hcontrol, hescape]
  rfl

theorem unit?_control (n : Nat) (h : n < 0x20) : unit? '0' '0' (hexDigit (n / 16)) (hexDigit (n % 16)) = some n := by
  have hall : ∀ n < 0x20, unit? '0' '0' (hexDigit (n / 16)) (hexDigit (n % 16)) = some n := by decide
  exact hall n h

theorem stringBody_control (h : c.toNat < 0x20) :
    stringBody ('\\' :: 'u' :: '0' :: '0' :: hexDigit (c.toNat / 16) :: hexDigit (c.toNat % 16) :: rest) =
      (stringBody rest).map (withChar c) := by
  have hfirst : isFirstHalf c.toNat = false := by
    simp only [isFirstHalf, Bool.and_eq_false_iff, decide_eq_false_iff_not]
    omega
  have hsecond : isSecondHalf c.toNat = false := by
    simp only [isSecondHalf, Bool.and_eq_false_iff, decide_eq_false_iff_not]
    omega
  simp [unit?_control _ h, hfirst, hsecond]
  rfl

end

theorem shortEscape?_spec (c letter : Char) (h : shortEscape? c = some letter) :
    escaped? letter = some c ∧ 0x20 ≤ letter.toNat := by
  unfold shortEscape? at h
  split_ifs at h with hc hc hc hc hc
  all_goals
    rw [hc, ← Option.some.inj h]
    decide

theorem stringBody_escapeChar (c : Char) (rest : List Char) :
    stringBody (escapeChar c ++ rest) = (stringBody rest).map (withChar c) := by
  unfold escapeChar
  split
  · rename_i hmark
    refine stringBody_letter c rest c ?_
    rcases hmark with rfl | rfl <;> rfl
  split
  · rename_i hcontrol
    cases hshort : shortEscape? c with
    | some letter => exact stringBody_letter c rest letter (shortEscape?_spec c letter hshort).1
    | none => exact stringBody_control c rest hcontrol
  · rename_i hmark hcontrol
    rw [not_or] at hmark
    exact stringBody_plain c rest hcontrol hmark.1 hmark.2

theorem le_toNat_hexDigit (n : Nat) (h : n < 16) : 0x20 ≤ (hexDigit n).toNat := by
  have hall : ∀ n < 16, 0x20 ≤ (hexDigit n).toNat := by decide
  exact hall n h

theorem le_toNat_of_mem_escapeChar (c written : Char) (h : written ∈ escapeChar c) : 0x20 ≤ written.toNat := by
  unfold escapeChar at h
  split at h
  · rename_i hmark
    simp only [List.mem_cons, List.not_mem_nil, or_false] at h
    rcases h with rfl | rfl
    · decide
    · rcases hmark with rfl | rfl <;> decide
  split at h
  · rename_i hcontrol
    cases hshort : shortEscape? c with
    | some letter =>
      simp only [hshort, List.mem_cons, List.not_mem_nil, or_false] at h
      rcases h with rfl | rfl
      · decide
      · exact (shortEscape?_spec c _ hshort).2
    | none =>
      have hhigh := le_toNat_hexDigit (c.toNat / 16) (by omega)
      have hlow := le_toNat_hexDigit (c.toNat % 16) (by omega)
      simp only [hshort, List.mem_cons, List.not_mem_nil, or_false] at h
      rcases h with rfl | rfl | rfl | rfl | rfl | rfl
      · decide
      · decide
      · decide
      · decide
      · exact hhigh
      · exact hlow
  · rename_i hcontrol
    rw [List.mem_singleton.1 h]
    omega

/-! ## The whole text -/

theorem stringBody_quoted (text rest : List Char) :
    stringBody (text.flatMap escapeChar ++ '"' :: rest) = some (text, rest) := by
  induction text with
  | nil => rfl
  | cons c text ih =>
    rw [List.flatMap_cons, List.append_assoc, stringBody_escapeChar, ih]
    rfl

theorem quoteChars_append (text : String) (rest : List Char) :
    quoteChars text ++ rest = '"' :: (text.toList.flatMap escapeChar ++ '"' :: rest) := by
  rw [quoteChars, List.cons_append, List.append_assoc, List.singleton_append]

theorem le_toNat_of_mem_quoteChars (text : String) (c : Char) (h : c ∈ quoteChars text) : 0x20 ≤ c.toNat := by
  simp only [quoteChars, List.mem_cons, List.mem_append, List.mem_flatMap, List.not_mem_nil, or_false] at h
  rcases h with rfl | ⟨written, -, hescape⟩ | rfl
  · decide
  · exact le_toNat_of_mem_escapeChar written c hescape
  · decide

end TypedStatement.Json
