import Mathlib.Data.List.Basic

/-!
# Lists that grow at an end

Histories grow at their end, and what matters of them is often the last entry of a kind.
-/

set_option autoImplicit false

namespace Cadence

variable {α β : Type}

theorem concat_eq_append_cons {l before after : List α} {a b : α}
    (split : l ++ [a] = before ++ b :: after) :
    (before = l ∧ b = a ∧ after = []) ∨ ∃ rest, after = rest ++ [a] ∧ l = before ++ b :: rest := by
  rcases List.eq_nil_or_concat' after with rfl | ⟨rest, last, rfl⟩
  · have same := List.append_inj' split rfl
    exact .inl ⟨same.1.symm, (List.cons.inj same.2).1.symm, rfl⟩
  · rw [← List.cons_append, ← List.append_assoc] at split
    have same := List.append_inj' split rfl
    obtain rfl := (List.cons.inj same.2).1
    exact .inr ⟨rest, rfl, same.1⟩

theorem filterMap_concat (f : α → Option β) (l : List α) (a : α) :
    (l ++ [a]).filterMap f = l.filterMap f ++ (f a).toList := by
  rw [List.filterMap_append]
  cases h : f a <;> simp [h]

theorem getLast?_filterMap_concat (f : α → Option β) (l : List α) (a : α) :
    ((l ++ [a]).filterMap f).getLast? = (f a).or (l.filterMap f).getLast? := by
  rw [filterMap_concat]
  cases f a <;> simp

theorem getLast?_filterMap_cons (f : α → Option β) (a : α) (l : List α) :
    ((a :: l).filterMap f).getLast? = (l.filterMap f).getLast?.or (f a) := by
  rw [List.filterMap_cons]
  cases f a with
  | none => exact Option.or_none.symm
  | some b =>
      rw [List.getLast?_cons]
      cases (l.filterMap f).getLast? <;> rfl

/-- What stands in for a missing value may be traced further back. -/
theorem or_of_or {a b c : Option α} {value : α} (either : a.or b = some value)
    (back : b = some value → c = some value) : a.or c = some value := by
  cases a with
  | none => exact back either
  | some first => exact either

end Cadence
