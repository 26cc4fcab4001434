/-!
# Powers and sums

The powers of two and of ten that number formats are stated in, and sums of counts.
-/

namespace AccessControl

/-- A power of two. -/
def twoPow (k : Nat) : Nat := Nat.pow 2 k

/-- A power of ten. -/
def tenPow (k : Nat) : Nat := Nat.pow 10 k

/-- The sum of some counts. -/
def total : List Nat → Nat
  | [] => 0
  | n :: rest => n + total rest

theorem twoPow_succ (k : Nat) : twoPow (k + 1) = twoPow k * 2 := rfl

theorem tenPow_succ (k : Nat) : tenPow (k + 1) = tenPow k * 10 := rfl

theorem twoPow_pos (k : Nat) : 0 < twoPow k := by
  induction k with
  | zero => decide
  | succ k ih => rw [twoPow_succ]; omega

theorem tenPow_pos (k : Nat) : 0 < tenPow k := by
  induction k with
  | zero => decide
  | succ k ih => rw [tenPow_succ]; omega

theorem total_append (ms ns : List Nat) : total (ms ++ ns) = total ms + total ns := by
  induction ms with
  | nil => simp [total]
  | cons m ms ih => simp [total, ih]; omega

end AccessControl
