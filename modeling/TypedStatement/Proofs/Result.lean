/-!
# Results

How the result of a computation that may fail is taken apart where it is made from another one.
-/

namespace TypedStatement
set_option autoImplicit false

variable {ε α β : Type}

theorem map_eq_ok_iff (f : α → β) (result : Except ε α) (b : β) :
    result.map f = .ok b ↔ ∃ a, result = .ok a ∧ f a = b := by
  cases result with
  | error e => simp [Except.map]
  | ok a => simp [Except.map]

theorem map_eq_error_iff (f : α → β) (result : Except ε α) (error : ε) :
    result.map f = .error error ↔ result = .error error := by
  cases result with
  | error e => simp [Except.map]
  | ok a => simp [Except.map]

theorem error_eq_error_iff (a b : ε) : (Except.error a : Except ε α) = .error b ↔ b = a := by
  rw [Except.error.injEq, eq_comm]

/-- The error of a computation that failed. -/
def error? : Except ε α → Option ε
  | .error e => some e
  | .ok _ => none

@[simp] theorem error?_error (e : ε) : error? (.error e : Except ε α) = some e := rfl

@[simp] theorem error?_ok (a : α) : error? (.ok a : Except ε α) = none := rfl

theorem error?_eq_some_iff (result : Except ε α) (error : ε) : error? result = some error ↔ result = .error error := by
  cases result with
  | error e => simp
  | ok a => simp

theorem error?_eq_none_iff (result : Except ε α) : error? result = none ↔ ∃ a, result = .ok a := by
  cases result with
  | error e => simp
  | ok a => simp

theorem toOption_eq_some_iff (result : Except ε α) (a : α) : result.toOption = some a ↔ result = .ok a := by
  cases result with
  | error e => simp [Except.toOption]
  | ok b => simp [Except.toOption]

/-- A result with its error and its value changed. -/
def mapBoth (onError : ε → ε) (onValue : α → β) : Except ε α → Except ε β
  | .error e => .error (onError e)
  | .ok a => .ok (onValue a)

variable (onError : ε → ε) (onValue : α → β)

@[simp] theorem mapBoth_error (e : ε) : mapBoth onError onValue (.error e) = .error (onError e) := rfl

@[simp] theorem mapBoth_ok (a : α) : mapBoth onError onValue (.ok a) = .ok (onValue a) := rfl

end TypedStatement
