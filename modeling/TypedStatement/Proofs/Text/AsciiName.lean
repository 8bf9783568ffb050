import TypedStatement.Text.Identifier
import TypedStatement.Text.WhiteSpace

/-!
# Names in ASCII

A name is one that the pattern `[A-Za-z_][A-Za-z0-9_]*` matches (`isAsciiName_iff`).  Its characters lie in four ranges of
code points, and none is white space.
-/

namespace TypedStatement.Text
set_option autoImplicit false

/-! ## Characters -/

theorem isUpper_iff (c : Char) : c.isUpper = true ↔ 'A' ≤ c ∧ c ≤ 'Z' :=
  decide_eq_true_iff

theorem isLower_iff (c : Char) : c.isLower = true ↔ 'a' ≤ c ∧ c ≤ 'z' :=
  Bool.and_eq_true_iff.trans (and_congr decide_eq_true_iff decide_eq_true_iff)

theorem isAlpha_iff (c : Char) : c.isAlpha = true ↔ ('A' ≤ c ∧ c ≤ 'Z') ∨ 'a' ≤ c ∧ c ≤ 'z' :=
  Bool.or_eq_true_iff.trans (or_congr (isUpper_iff c) (isLower_iff c))

theorem toNat_of_isAsciiWord (c : Char) (h : isAsciiWord c = true) :
    48 ≤ c.toNat ∧ c.toNat ≤ 57 ∨ 65 ≤ c.toNat ∧ c.toNat ≤ 90 ∨ c.toNat = 95 ∨ 97 ≤ c.toNat ∧ c.toNat ≤ 122 := by
  simp only [isAsciiWord, Char.isAlphanum, Char.isDigit, isAlpha_iff, Bool.or_eq_true, Bool.and_eq_true,
    decide_eq_true_eq, beq_iff_eq] at h
  rcases h with ((hupper | hlower) | hdigit) | rfl
  · change 65 ≤ c.toNat ∧ c.toNat ≤ 90 at hupper
    omega
  · change 97 ≤ c.toNat ∧ c.toNat ≤ 122 at hlower
    omega
  · change 48 ≤ c.toNat ∧ c.toNat ≤ 57 at hdigit
    omega
  · decide

theorem isAsciiWord_of_isWhiteSpace (c : Char) (h : isWhiteSpace c = true) : isAsciiWord c = false := by
  cases hword : isAsciiWord c with
  | false => rfl
  | true =>
    have hrange := toNat_of_isAsciiWord c hword
    simp only [isWhiteSpace, Bool.or_eq_true, Bool.and_eq_true, decide_eq_true_eq, beq_iff_eq] at h
    omega

theorem isAsciiWord_of_isAsciiName (name : List Char) (h : isAsciiName name = true) :
    ∀ c ∈ name, isAsciiWord c = true := by
  cases name with
  | nil => simp
  | cons first rest =>
    simp only [isAsciiName, Bool.and_eq_true, List.all_eq_true] at h
    intro c hc
    rcases List.mem_cons.1 hc with rfl | hrest
    · have hfirst := h.1
      simp only [isAsciiWord, Char.isAlphanum, Bool.or_eq_true] at hfirst ⊢
      rcases hfirst with halpha | hline
      · exact .inl (.inl halpha)
      · exact .inr hline
    · exact h.2 c hrest

theorem ne_nil_of_isAsciiName (name : List Char) (h : isAsciiName name = true) : name ≠ [] := by
  rintro rfl
  exact absurd h (by decide)

theorem isWhiteSpace_head_of_isAsciiName (name : List Char) (h : isAsciiName name = true) (c : Char)
    (hc : name.head? = some c) : isWhiteSpace c = false := by
  rw [← Bool.not_eq_true]
  intro hwhite
  have hword := isAsciiWord_of_isAsciiName name h c (List.mem_of_mem_head? hc)
  rw [isAsciiWord_of_isWhiteSpace c hwhite] at hword
  exact absurd hword (by decide)

/-! ## The pattern -/

/-- A letter or `_`. -/
def IsLetterOrLine (c : Char) : Prop :=
  'A' ≤ c ∧ c ≤ 'Z' ∨ 'a' ≤ c ∧ c ≤ 'z' ∨ c = '_'

theorem isLetterOrLine_iff (c : Char) : IsLetterOrLine c ↔ (c.isAlpha || c == '_') = true := by
  rw [Bool.or_eq_true, isAlpha_iff, beq_iff_eq, or_assoc, IsLetterOrLine]

instance : DecidablePred IsLetterOrLine := fun c =>
  decidable_of_iff _ (isLetterOrLine_iff c).symm

theorem toNat_of_isLetterOrLine (c : Char) (h : IsLetterOrLine c) :
    65 ≤ c.toNat ∧ c.toNat ≤ 90 ∨ c.toNat = 95 ∨ 97 ≤ c.toNat ∧ c.toNat ≤ 122 := by
  rcases h with hupper | hlower | rfl
  · exact .inl hupper
  · exact .inr (.inr hlower)
  · decide

/-- The name matches `[A-Za-z_][A-Za-z0-9_]*`. -/
def IsPlainName (name : List Char) : Prop :=
  ∃ first rest, name = first :: rest ∧ IsLetterOrLine first ∧ ∀ c ∈ rest, IsLetterOrLine c ∨ '0' ≤ c ∧ c ≤ '9'

theorem isAsciiWord_iff (c : Char) : isAsciiWord c = true ↔ IsLetterOrLine c ∨ '0' ≤ c ∧ c ≤ '9' := by
  rw [isLetterOrLine_iff]
  simp only [isAsciiWord, Char.isAlphanum, Char.isDigit, Bool.or_eq_true, Bool.and_eq_true, decide_eq_true_eq, ge_iff_le]
  exact or_right_comm

theorem isAsciiName_iff (name : List Char) : isAsciiName name = true ↔ IsPlainName name := by
  cases name with
  | nil => simp [isAsciiName, IsPlainName]
  | cons first rest =>
    simp only [isAsciiName, Bool.and_eq_true, List.all_eq_true, isAsciiWord_iff, ← isLetterOrLine_iff, IsPlainName,
      List.cons.injEq]
    constructor
    · rintro ⟨hfirst, hrest⟩
      exact ⟨first, rest, ⟨rfl, rfl⟩, hfirst, hrest⟩
    · rintro ⟨_, _, ⟨rfl, rfl⟩, hfirst, hrest⟩
      exact ⟨hfirst, hrest⟩

end TypedStatement.Text
