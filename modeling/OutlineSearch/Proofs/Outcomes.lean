/-!
# Outcomes

An outcome of two steps is one of the second step, or an error of the first.  A fixed outcome is
computed as its value or as its error, either of which tells it.
-/

namespace OutlineSearch.Outcome

variable {ε α β : Type}

section Bind

variable (x : Except ε α) (f : α → Except ε β)

theorem bind_eq_ok_iff (b : β) : (x >>= f) = .ok b ↔ ∃ a, x = .ok a ∧ f a = .ok b := by
  cases x with
  | error e =>
      have stopped : (Except.error e >>= f) = .error e := rfl
      simp [stopped]
  | ok a =>
      have goesOn : (Except.ok a >>= f) = f a := rfl
      simp [goesOn]

theorem bind_eq_error_iff (e : ε) :
    (x >>= f) = .error e ↔ x = .error e ∨ ∃ a, x = .ok a ∧ f a = .error e := by
  cases x with
  | error other =>
      have stopped : (Except.error other >>= f) = .error other := rfl
      simp [stopped]
  | ok a =>
      have goesOn : (Except.ok a >>= f) = f a := rfl
      simp [goesOn]

end Bind

theorem map_eq_error_iff (x : Except ε α) (f : α → β) (e : ε) :
    f <$> x = .error e ↔ x = .error e := by
  cases x with
  | error other =>
      have stopped : f <$> (Except.error other : Except ε α) = .error other := rfl
      simp [stopped]
  | ok a =>
      have goesOn : f <$> (Except.ok a : Except ε α) = .ok (f a) := rfl
      simp [goesOn]

theorem mapError_eq_ok_iff {δ : Type} (x : Except ε α) (f : ε → δ) (a : α) :
    x.mapError f = .ok a ↔ x = .ok a := by
  cases x with
  | error e =>
      have stopped : (Except.error e : Except ε α).mapError f = .error (f e) := rfl
      simp [stopped]
  | ok other =>
      have goesOn : (Except.ok other : Except ε α).mapError f = .ok other := rfl
      simp [goesOn]

/-- The error of an outcome. -/
def error? : Except ε α → Option ε
  | .error e => some e
  | .ok _ => none

theorem eq_error_of_error? {x : Except ε α} {e : ε} (failed : error? x = some e) :
    x = .error e := by
  cases x with
  | error other =>
      cases failed
      rfl
  | ok a => cases failed

theorem eq_ok_of_toOption {x : Except ε α} {a : α} (done : x.toOption = some a) : x = .ok a := by
  cases x with
  | error e => cases done
  | ok other =>
      cases done
      rfl

end OutlineSearch.Outcome
