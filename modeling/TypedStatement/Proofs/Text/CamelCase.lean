import TypedStatement.Text.CamelCase
import Mathlib.Data.List.Basic

/-!
# The first character of a name in camel case

A name in camel case begins with the upper-case form of a letter or digit (`exists_toUppercase_of_camelCase`).  That none of
these forms begins in some ranges of characters is a finite matter of the tables (`AvoidsCapitals`).
-/

namespace TypedStatement.Text
set_option autoImplicit false

/-! ## Pieces and words -/

theorem isAlphanumeric_of_mem_pieces (text reversed : List Char) (hreversed : ∀ c ∈ reversed, isAlphanumeric c = true)
    (piece : List Char) (hpiece : piece ∈ alphanumericPieces reversed text) : ∀ c ∈ piece, isAlphanumeric c = true := by
  induction text generalizing reversed with
  | nil =>
    rw [alphanumericPieces, List.mem_singleton] at hpiece
    rw [hpiece]
    simpa using hreversed
  | cons c text ih =>
    rw [alphanumericPieces] at hpiece
    split at hpiece
    · rename_i hc
      exact ih (c :: reversed) (List.forall_mem_cons.2 ⟨hc, hreversed⟩) hpiece
    · rcases List.mem_cons.1 hpiece with rfl | hlater
      · simpa using hreversed
      · exact ih [] (by simp) hlater

/-- A word has no characters but those of the text and those that were read before. -/
theorem mem_of_mem_wordsFrom (mode : CaseMode) (before text word : List Char) (hword : word ∈ wordsFrom mode before text)
    (c : Char) (hc : c ∈ word) : c ∈ before ∨ c ∈ text := by
  fun_induction wordsFrom mode before text with
  | case1 => simp at hword
  | case2 =>
    rw [List.mem_singleton] at hword
    rw [hword] at hc
    simpa [or_comm] using hc
  | case3 mode before d next rest hcut ih =>
    rcases List.mem_cons.1 hword with rfl | hlater
    · simp only [List.mem_reverse, List.mem_cons] at hc
      rcases hc with rfl | hbefore
      · exact .inr List.mem_cons_self
      · exact .inl hbefore
    · rcases ih hlater with hnone | hrest
      · exact absurd hnone (by simp)
      · exact .inr (List.mem_cons_of_mem _ hrest)
  | case4 mode before d next rest hcut hacronym ih =>
    rcases List.mem_cons.1 hword with rfl | hlater
    · exact .inl (List.mem_reverse.1 hc)
    · rcases ih hlater with hfirst | hrest
      · rw [List.mem_singleton.1 hfirst]
        exact .inr List.mem_cons_self
      · exact .inr (List.mem_cons_of_mem _ hrest)
  | case5 mode before d next rest hcut hacronym ih =>
    rcases ih hword with hread | hrest
    · rcases List.mem_cons.1 hread with rfl | hbefore
      · exact .inr List.mem_cons_self
      · exact .inl hbefore
    · exact .inr (List.mem_cons_of_mem _ hrest)

/-! ## Upper-case forms -/

theorem toNat_ofNat (n : Nat) : (Char.ofNat n).toNat = n ∨ (Char.ofNat n).toNat = 0 := by
  by_cases hvalid : n.isValidChar
  · rw [Char.ofNat, dif_pos hvalid]
    exact .inl rfl
  · rw [Char.ofNat, dif_neg hvalid]
    exact .inr rfl

theorem contains_iff (ranges : CharRanges) (c : Char) :
    ranges.contains c = true ↔ ∃ range ∈ ranges, range.1 ≤ c.toNat ∧ c.toNat ≤ range.2 := by
  simp [CharRanges.contains, List.any_eq_true]

/-- The ranges have no code point in common. -/
def Apart (a b : CharRanges) : Prop :=
  ∀ x ∈ a, ∀ y ∈ b, x.2 < y.1 ∨ y.2 < x.1

instance (a b : CharRanges) : Decidable (Apart a b) :=
  decidable_of_iff (a.all (fun x => b.all fun y => x.2 < y.1 || y.2 < x.1) = true) (by simp [Apart])

/-- The bounds are compared as numbers, without deciding a proposition for each pair. -/
theorem apart_iff (a b : CharRanges) :
    Apart a b ↔ (a.all fun x => b.all fun y => Nat.blt x.2 y.1 || Nat.blt y.2 x.1) = true := by
  simp [Apart, Nat.blt_eq]

theorem Apart.not_contains {a b : CharRanges} (h : Apart a b) (c : Char) (hc : a.contains c = true) :
    b.contains c = false := by
  obtain ⟨x, hx, hxc⟩ := (contains_iff a c).1 hc
  rw [Bool.eq_false_iff, ne_eq, contains_iff]
  rintro ⟨y, hy, hyc⟩
  rcases h x hx y hy with hbelow | habove
  · omega
  · omega

/-- What the tables say if no upper-case form of a letter or digit begins in the ranges. -/
structure AvoidsCapitals (ranges : CharRanges) : Prop where
  ascii : ∀ n < 0x80, (Char.ofNat n).isAlphanum = true → ranges.contains (Char.ofNat n).toUpper = false
  letters : Apart alphabeticRanges ranges
  numbers : Apart numericOnlyRanges ranges
  expansions : ∀ entry ∈ upperExpansions, (entry.2.map Char.ofNat).head?.any ranges.contains = false
  shifts : ∀ entry ∈ upperShifts, ∀ range ∈ ranges,
    (entry.run.last : Int) + entry.shift < range.1 ∨ (range.2 : Int) < entry.run.first + entry.shift
  positive : ∀ range ∈ ranges, 0 < range.1

section
variable {ranges : CharRanges} (h : AvoidsCapitals ranges)
include h

theorem AvoidsCapitals.not_contains_shifted (entry : CaseShift) (hentry : entry ∈ upperShifts) (source : Char)
    (hsource : entry.run.contains source = true) :
    ranges.contains (Char.ofNat ((source.toNat : Int) + entry.shift).toNat) = false := by
  simp only [CharRun.contains, Bool.and_eq_true, decide_eq_true_eq] at hsource
  rw [Bool.eq_false_iff, ne_eq, contains_iff]
  rintro ⟨range, hrange, hlow, hhigh⟩
  have hpositive := h.positive range hrange
  rcases toNat_ofNat ((source.toNat : Int) + entry.shift).toNat with hcode | hcode
  · rcases h.shifts entry hentry range hrange with hbelow | habove
    · omega
    · omega
  · omega

theorem AvoidsCapitals.not_contains_recased (source c : Char) (hplain : ranges.contains source = false)
    (hc : (recase upperShifts upperExpansions source).head? = some c) : ranges.contains c = false := by
  unfold recase at hc
  split at hc
  · rename_i codes hfound
    have hfirst := h.expansions _ (List.mem_of_find?_eq_some hfound)
    rwa [hc, Option.any_some] at hfirst
  · split at hc
    · rename_i entry hfound
      have hrun := List.find?_some hfound
      rw [← Option.some.inj hc]
      exact h.not_contains_shifted entry (List.mem_of_find?_eq_some hfound) source hrun
    · rw [← Option.some.inj hc]
      exact hplain

/-- No upper-case form of a letter or digit begins in the ranges. -/
theorem AvoidsCapitals.not_contains (source c : Char) (hsource : isAlphanumeric source = true)
    (hc : (toUppercase source).head? = some c) : ranges.contains c = false := by
  unfold isAlphanumeric at hsource
  unfold toUppercase at hc
  by_cases hascii : source.toNat < 0x80
  · rw [if_pos hascii] at hsource hc
    have hupper := h.ascii source.toNat hascii
    rw [Char.ofNat_toNat] at hupper
    rw [← Option.some.inj hc]
    exact hupper hsource
  · rw [if_neg hascii] at hsource hc
    have hplain : ranges.contains source = false := by
      rw [Bool.or_eq_true] at hsource
      rcases hsource with hletter | hnumber
      · exact h.letters.not_contains source hletter
      · exact h.numbers.not_contains source hnumber
    exact h.not_contains_recased source c hplain hc

end

/-! ## The front of a name -/

theorem toUppercase_ne_nil (c : Char) : toUppercase c ≠ [] := by
  unfold toUppercase recase
  have htable : ∀ entry ∈ upperExpansions, entry.2 ≠ [] := by decide
  split
  · simp
  · split
    · rename_i hfound
      simpa using htable _ (List.mem_of_find?_eq_some hfound)
    · split
      · simp
      · simp

/-- The word that a name in camel case begins with begins with the upper-case form of a letter or digit. -/
theorem exists_toUppercase_of_camelCase (name : String) (c : Char) (h : (camelCase name).toList.head? = some c) :
    ∃ source, isAlphanumeric source = true ∧ (toUppercase source).head? = some c := by
  unfold camelCase at h
  rw [String.toList_ofList, List.head?_flatMap] at h
  obtain ⟨word, hword, hhead⟩ := List.exists_of_findSome?_eq_some h
  obtain ⟨piece, hpiece, hword⟩ := List.mem_flatMap.1 hword
  cases word with
  | nil => exact absurd hhead (by simp [capitalize])
  | cons source tail =>
    refine ⟨source, ?_, ?_⟩
    · rcases mem_of_mem_wordsFrom .none [] piece (source :: tail) hword source List.mem_cons_self with hnone | hmem
      · exact absurd hnone (by simp)
      · exact isAlphanumeric_of_mem_pieces name.toList [] (by simp) piece hpiece source hmem
    · rwa [capitalize, List.head?_append_of_ne_nil _ (toUppercase_ne_nil source)] at hhead

end TypedStatement.Text
