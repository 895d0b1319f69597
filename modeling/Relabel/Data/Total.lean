/-!
# Totals

The sum of a list of natural numbers, by which trees and stacks of trees are measured.
-/

namespace Relabel

def total : List Nat → Nat
  | [] => 0
  | n :: rest => n + total rest

@[simp]
theorem total_nil : total [] = 0 := rfl

@[simp]
theorem total_cons (n : Nat) (rest : List Nat) : total (n :: rest) = n + total rest := rfl

@[simp]
theorem total_append (a b : List Nat) : total (a ++ b) = total a + total b := by
  induction a with
  | nil => simp
  | cons n rest ih =>
    simp only [List.cons_append, total_cons, ih]
    omega

@[simp]
theorem total_reverse (a : List Nat) : total a.reverse = total a := by
  induction a with
  | nil => rfl
  | cons n rest ih =>
    simp only [List.reverse_cons, total_append, total_cons, total_nil, ih]
    omega

end Relabel
