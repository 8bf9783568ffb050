import TypedStatement.Text.WhiteSpace

/-!
# White space around a text

Every text is blank or a trimmed core with blank text before and after it, in one way only; trimming finds the core
(`exists_core`, `trim_core`).
-/

namespace TypedStatement.Text
set_option autoImplicit false

def isBlank (text : List Char) : Bool :=
  text.all isWhiteSpace

structure IsTrimmed (text : List Char) : Prop where
  first : ∀ c, text.head? = some c → isWhiteSpace c = false
  last : ∀ c, text.getLast? = some c → isWhiteSpace c = false

theorem isBlank_append (a b : List Char) : isBlank (a ++ b) = (isBlank a && isBlank b) :=
  List.all_append

theorem isBlank_reverse (text : List Char) : isBlank text.reverse = isBlank text :=
  List.all_reverse

theorem IsTrimmed.reverse {text : List Char} (h : IsTrimmed text) : IsTrimmed text.reverse where
  first c hc := h.last c (List.head?_reverse ▸ hc)
  last c hc := h.first c (List.getLast?_reverse ▸ hc)

/-! ## Skipping white space -/

theorem isBlank_takeWhile (text : List Char) : isBlank (text.takeWhile isWhiteSpace) = true :=
  List.all_takeWhile

/-- What is left after skipping does not begin with white space. -/
theorem head_trimStart (text : List Char) (c : Char) (h : (trimStart text).head? = some c) :
    isWhiteSpace c = false := by
  unfold trimStart at h
  have hnot := List.head?_dropWhile_not isWhiteSpace text
  rw [h] at hnot
  simpa using hnot

theorem takeWhile_blank (blank rest : List Char) (hblank : isBlank blank = true)
    (hrest : ∀ c, rest.head? = some c → isWhiteSpace c = false) :
    (blank ++ rest).takeWhile isWhiteSpace = blank := by
  unfold isBlank at hblank
  rw [List.all_eq_true] at hblank
  rw [List.takeWhile_append_of_pos hblank]
  cases rest with
  | nil => simp
  | cons c rest => simp [hrest c rfl]

theorem trimStart_blank (blank rest : List Char) (hblank : isBlank blank = true)
    (hrest : ∀ c, rest.head? = some c → isWhiteSpace c = false) : trimStart (blank ++ rest) = rest := by
  unfold isBlank at hblank
  rw [List.all_eq_true] at hblank
  unfold trimStart
  rw [List.dropWhile_append_of_pos hblank]
  cases rest with
  | nil => simp
  | cons c rest => simp [hrest c rfl]

theorem trimStart_of_isBlank (text : List Char) (h : isBlank text = true) : trimStart text = [] := by
  have hskip := trimStart_blank text [] h (by simp)
  rwa [List.append_nil] at hskip

theorem exists_trimStart (text : List Char) :
    ∃ blank, isBlank blank = true ∧ text = blank ++ trimStart text :=
  ⟨text.takeWhile isWhiteSpace, isBlank_takeWhile text, List.takeWhile_append_dropWhile.symm⟩

theorem trimEnd_blank (rest blank : List Char) (hblank : isBlank blank = true)
    (hrest : ∀ c, rest.getLast? = some c → isWhiteSpace c = false) : trimEnd (rest ++ blank) = rest := by
  have hskip := trimStart_blank blank.reverse rest.reverse (by rw [isBlank_reverse, hblank])
    (fun c hc => hrest c (List.head?_reverse ▸ hc))
  unfold trimEnd
  unfold trimStart at hskip
  rw [List.reverse_append, hskip, List.reverse_reverse]

/-! ## The core of a text -/

theorem head_core (core after : List Char) (hcore : IsTrimmed core) (hne : core ≠ []) (c : Char)
    (hc : (core ++ after).head? = some c) : isWhiteSpace c = false := by
  obtain ⟨d, rest, rfl⟩ := List.exists_cons_of_ne_nil hne
  exact hcore.first c hc

theorem takeWhile_core (before core after : List Char) (hbefore : isBlank before = true) (hcore : IsTrimmed core)
    (hne : core ≠ []) : (before ++ core ++ after).takeWhile isWhiteSpace = before := by
  rw [List.append_assoc]
  exact takeWhile_blank before (core ++ after) hbefore (head_core core after hcore hne)

theorem trim_core (before core after : List Char) (hbefore : isBlank before = true) (hafter : isBlank after = true)
    (hcore : IsTrimmed core) (hne : core ≠ []) : trim (before ++ core ++ after) = core := by
  unfold trim
  rw [List.append_assoc, trimStart_blank before (core ++ after) hbefore (head_core core after hcore hne)]
  exact trimEnd_blank core after hafter hcore.last

theorem trim_of_isBlank (text : List Char) (h : isBlank text = true) : trim text = [] := by
  unfold trim
  rw [trimStart_of_isBlank text h]
  rfl

/-- A text that is not blank has a core. -/
theorem exists_core (text : List Char) (h : isBlank text = false) :
    ∃ before core after, text = before ++ core ++ after ∧ isBlank before = true ∧ isBlank after = true ∧
      IsTrimmed core ∧ core ≠ [] := by
  obtain ⟨before, hbefore, htext⟩ := exists_trimStart text
  obtain ⟨after, hafter, hrest⟩ := exists_trimStart (trimStart text).reverse
  -- the core is what is left when the end is skipped from behind
  have hsplit : trimStart text = (trimStart (trimStart text).reverse).reverse ++ after.reverse := by
    rw [← List.reverse_append, ← hrest, List.reverse_reverse]
  have hne : (trimStart (trimStart text).reverse).reverse ≠ [] := by
    intro hnil
    rw [hnil, List.nil_append] at hsplit
    rw [htext, hsplit, isBlank_append, hbefore, isBlank_reverse, hafter] at h
    exact absurd h (by decide)
  refine ⟨before, (trimStart (trimStart text).reverse).reverse, after.reverse, ?_, hbefore, ?_, ⟨?_, ?_⟩, hne⟩
  · rw [List.append_assoc, ← hsplit, ← htext]
  · rw [isBlank_reverse, hafter]
  · intro c hc
    apply head_trimStart text c
    obtain ⟨d, rest, hcons⟩ := List.exists_cons_of_ne_nil hne
    rw [hsplit, hcons, List.cons_append]
    rwa [hcons] at hc
  · intro c hc
    rw [List.getLast?_reverse] at hc
    exact head_trimStart _ c hc

theorem isTrimmed_iff (text : List Char) : IsTrimmed text ↔ trim text = text := by
  by_cases hblank : isBlank text = true
  · rw [trim_of_isBlank text hblank]
    constructor
    · intro h
      cases text with
      | nil => rfl
      | cons c rest =>
        have hc := h.first c rfl
        unfold isBlank at hblank
        rw [List.all_cons, hc, Bool.false_and] at hblank
        exact absurd hblank (by decide)
    · rintro rfl
      exact ⟨by simp, by simp⟩
  · rw [Bool.not_eq_true] at hblank
    obtain ⟨before, core, after, htext, hbefore, hafter, hcore, hne⟩ := exists_core text hblank
    constructor
    · intro h
      have htrim := trim_core [] text [] rfl rfl h (by rintro rfl; exact absurd hblank (by decide))
      rwa [List.nil_append, List.append_nil] at htrim
    · intro h
      rw [htext, trim_core before core after hbefore hafter hcore hne] at h
      rw [htext, ← h]
      exact hcore

instance (text : List Char) : Decidable (IsTrimmed text) :=
  decidable_of_iff _ (isTrimmed_iff text).symm

theorem isEmpty_trim (text : List Char) : (trim text).isEmpty = isBlank text := by
  by_cases h : isBlank text = true
  · rw [trim_of_isBlank text h, h]
    rfl
  · rw [Bool.not_eq_true] at h
    obtain ⟨before, core, after, rfl, hbefore, hafter, hcore, hne⟩ := exists_core text h
    rw [trim_core before core after hbefore hafter hcore hne, h]
    simpa using hne

end TypedStatement.Text
