import Mathlib.Data.Char
import Mathlib.Data.List.Lex
import OutlineSearch.Text.Basic

/-!
# The order of texts

Code point order is the lexicographic order of the lists of characters, and therefore a linear
order.
-/

namespace OutlineSearch.Text

theorem lt_iff (a b : Text) : Text.lt a b = true ↔ a < b := by
  induction a generalizing b with
  | nil =>
      cases b with
      | nil => simp [Text.lt]
      | cons d rest => simp [Text.lt]
  | cons c more induction =>
      cases b with
      | nil => simp [Text.lt]
      | cons d rest =>
          rw [List.cons_lt_cons_iff, Text.lt]
          rcases lt_trichotomy c d with before | same | behind
          · have less : c.val < d.val := before
            simp [less, before]
          · subst d
            simp [induction]
          · have greater : d.val < c.val := behind
            have notBefore : ¬c < d := not_lt_of_gt behind
            have notLess : ¬c.val < d.val := notBefore
            simp [greater, notLess, notBefore, behind.ne']

theorem lt_eq_false_iff (a b : Text) : Text.lt a b = false ↔ b ≤ a := by
  rw [← Bool.not_eq_true, lt_iff, not_lt]

theorem le_iff (a b : Text) : Text.le a b = true ↔ a ≤ b := by
  rw [Text.le, Bool.not_eq_true', lt_eq_false_iff]

end OutlineSearch.Text
