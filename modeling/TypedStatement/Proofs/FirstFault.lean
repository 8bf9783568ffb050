import Mathlib.Data.List.Basic

/-!
# The first fault

A list is looked through from the front, and the first item with a fault is reported.  Whether an item has a fault may
depend on the items before it.  `firstFault_cons` takes the list apart item by item.
-/

namespace TypedStatement
set_option autoImplicit false

variable {α β ε : Type}

/-- The first item that has a fault, in view of those before it, has this one. -/
def FirstFault (fault : List α → α → ε → Prop) (items : List α) (error : ε) : Prop :=
  ∃ before item after, items = before ++ item :: after ∧ fault before item error ∧
    ∀ front earlier back, before = front ++ earlier :: back → ∀ other, ¬ fault front earlier other

/-- Only the faults of the items in the list count. -/
theorem FirstFault.congr {fault changed : List α → α → ε → Prop} {items : List α} {error : ε}
    (h : ∀ before, ∀ item ∈ items, ∀ found, fault before item found ↔ changed before item found)
    (hfirst : FirstFault fault items error) : FirstFault changed items error := by
  obtain ⟨before, item, after, rfl, hfound, hbefore⟩ := hfirst
  refine ⟨before, item, after, rfl, (h before item (by simp) error).1 hfound, ?_⟩
  rintro front earlier back rfl other hother
  exact hbefore front earlier back rfl other ((h front earlier (by simp) other).2 hother)

variable (fault : List α → α → ε → Prop)

theorem firstFault_nil (error : ε) : ¬ FirstFault fault [] error := by
  rintro ⟨before, item, after, hsplit, -⟩
  exact absurd hsplit (by simp)

theorem firstFault_cons (item : α) (items : List α) (error : ε) :
    FirstFault fault (item :: items) error ↔ fault [] item error ∨
      (∀ other, ¬ fault [] item other) ∧ FirstFault (fun before => fault (item :: before)) items error := by
  constructor
  · rintro ⟨before, found, after, hsplit, hfound, hbefore⟩
    cases before with
    | nil =>
      rw [← (List.cons.inj hsplit).1] at hfound
      exact .inl hfound
    | cons first before =>
      obtain ⟨rfl, rfl⟩ := List.cons.inj hsplit
      refine .inr ⟨hbefore [] item before rfl, before, found, after, rfl, hfound, ?_⟩
      intro front earlier back hfront
      exact hbefore (item :: front) earlier back (by rw [hfront, List.cons_append])
  · rintro (hfound | ⟨hitem, before, found, after, rfl, hfound, hbefore⟩)
    · exact ⟨[], item, items, rfl, hfound, by simp⟩
    · refine ⟨item :: before, found, after, rfl, hfound, ?_⟩
      intro front earlier back hfront
      cases front with
      | nil =>
        rw [← (List.cons.inj hfront).1]
        exact hitem
      | cons first front =>
        obtain ⟨rfl, hrest⟩ := List.cons.inj hfront
        exact hbefore front earlier back hrest

theorem firstFault_cons_of_not (item : α) (items : List α) (error : ε) (h : ∀ other, ¬ fault [] item other) :
    FirstFault fault (item :: items) error ↔ FirstFault (fun before => fault (item :: before)) items error := by
  rw [firstFault_cons]
  exact ⟨fun hfirst => (hfirst.resolve_left (h error)).2, fun hrest => .inr ⟨h, hrest⟩⟩

theorem firstFault_cons_of_eq (item : α) (items : List α) (found error : ε)
    (h : ∀ other, fault [] item other ↔ other = found) : FirstFault fault (item :: items) error ↔ error = found := by
  rw [firstFault_cons, h]
  constructor
  · rintro (hfound | ⟨hnone, -⟩)
    · exact hfound
    · exact absurd ((h found).2 rfl) (hnone found)
  · exact .inl

theorem firstFault_singleton (item : α) (error : ε) : FirstFault fault [item] error ↔ fault [] item error := by
  rw [firstFault_cons]
  exact or_iff_left fun h => firstFault_nil _ error h.2

/-- Later items count if no earlier one has a fault. -/
theorem firstFault_append (items later : List α) (error : ε) :
    FirstFault fault (items ++ later) error ↔ FirstFault fault items error ∨
      (∀ other, ¬ FirstFault fault items other) ∧ FirstFault (fun before => fault (items ++ before)) later error := by
  induction items generalizing fault with
  | nil => simp [firstFault_nil]
  | cons item items ih =>
    simp only [List.cons_append, firstFault_cons, ih]
    by_cases hitem : ∀ other, ¬ fault [] item other
    · simp [hitem]
    · simp only [hitem, false_and, or_false]

section
variable {γ : Type} {fault} {item : α} {result : Except ε γ}

/-- A computation that fails with the fault of an item decides whether to go on to the items after it. -/
theorem firstFault_cons_of_error (h : ∀ other, fault [] item other ↔ result = .error other) {found : ε}
    (hresult : result = .error found) (items : List α) (error : ε) :
    FirstFault fault (item :: items) error ↔ error = found := by
  apply firstFault_cons_of_eq
  intro other
  rw [h, hresult, Except.error.injEq, eq_comm]

theorem firstFault_cons_of_ok (h : ∀ other, fault [] item other ↔ result = .error other) {value : γ}
    (hresult : result = .ok value) (items : List α) (error : ε) :
    FirstFault fault (item :: items) error ↔ FirstFault (fun before => fault (item :: before)) items error := by
  apply firstFault_cons_of_not
  intro other
  rw [h, hresult]
  simp

end

/-- There is a first item with a fault exactly if there is one at all. -/
theorem exists_firstFault_iff (items : List α) :
    (∃ error, FirstFault fault items error) ↔
      ∃ before item after error, items = before ++ item :: after ∧ fault before item error := by
  constructor
  · rintro ⟨error, before, item, after, hsplit, hfound, -⟩
    exact ⟨before, item, after, error, hsplit, hfound⟩
  · intro h
    induction items generalizing fault with
    | nil =>
      obtain ⟨before, item, after, error, hsplit, -⟩ := h
      exact absurd hsplit (by simp)
    | cons item items ih =>
      by_cases hitem : ∃ error, fault [] item error
      · obtain ⟨error, herror⟩ := hitem
        exact ⟨error, (firstFault_cons fault item items error).2 (.inl herror)⟩
      · have hnone : ∀ other, ¬ fault [] item other := fun other hother => hitem ⟨other, hother⟩
        obtain ⟨before, found, after, error, hsplit, hfound⟩ := h
        cases before with
        | nil =>
          rw [← (List.cons.inj hsplit).1] at hfound
          exact absurd hfound (hnone error)
        | cons first before =>
          obtain ⟨rfl, hrest⟩ := List.cons.inj hsplit
          obtain ⟨cause, hcause⟩ := ih (fun before => fault (item :: before)) ⟨before, found, after, error, hrest, hfound⟩
          exact ⟨cause, (firstFault_cons_of_not fault item items cause hnone).2 hcause⟩

variable {fault}

/-- What has the same faults item by item has the same first fault. -/
theorem FirstFault.map {changed : List β → β → ε → Prop} (f : α → β) (onError : ε → ε) {items : List α} {error : ε}
    (hto : ∀ before item found, fault before item found → changed (before.map f) (f item) (onError found))
    (hof : ∀ before item found, changed (before.map f) (f item) found → ∃ other, fault before item other)
    (h : FirstFault fault items error) : FirstFault changed (items.map f) (onError error) := by
  obtain ⟨before, item, after, rfl, hfound, hbefore⟩ := h
  refine ⟨before.map f, f item, after.map f, ?_, hto before item error hfound, ?_⟩
  · rw [List.map_append, List.map_cons]
  · intro front earlier back hsplit other hother
    obtain ⟨first, rest, rfl, rfl, hrest⟩ := List.map_eq_append_iff.1 hsplit
    obtain ⟨middle, last, rfl, rfl, -⟩ := List.map_eq_cons_iff.1 hrest
    obtain ⟨cause, hcause⟩ := hof first middle other hother
    exact hbefore first middle last rfl cause hcause

end TypedStatement
