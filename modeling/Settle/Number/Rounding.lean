/-!
# Rounding quotients

`nearest num den` is the whole number nearest to the fraction; of two equally near ones it is the
even one.
-/

namespace Settle.Number

/-- The quotient `num / den` rounded to the nearest whole number, a half to the even neighbour. -/
def nearest (num den : Nat) : Nat :=
  let q := num / den
  let r := num % den
  if 2 * r < den then q
  else if den < 2 * r then q + 1
  else if q % 2 = 0 then q else q + 1

theorem nearest_le (num : Nat) {den : Nat} (h : 0 < den) :
    2 * (nearest num den * den) ≤ 2 * num + den := by
  have hd := Nat.div_add_mod num den
  have hr := Nat.mod_lt num h
  have hm : den * (num / den) = num / den * den := Nat.mul_comm _ _
  have hs : (num / den + 1) * den = num / den * den + den := Nat.succ_mul _ _
  simp only [nearest]
  split
  · omega
  · split
    · omega
    · split <;> omega

theorem le_nearest (num : Nat) {den : Nat} (h : 0 < den) :
    2 * num ≤ 2 * (nearest num den * den) + den := by
  have hd := Nat.div_add_mod num den
  have hr := Nat.mod_lt num h
  have hm : den * (num / den) = num / den * den := Nat.mul_comm _ _
  have hs : (num / den + 1) * den = num / den * den + den := Nat.succ_mul _ _
  simp only [nearest]
  split
  · omega
  · split
    · omega
    · split <;> omega

theorem nearest_of_odd_half {num den n : Nat} (pos : 0 < den) (half : 2 * num = (2 * n + 1) * den)
    (odd : n % 2 = 1) : nearest num den = n + 1 := by
  have expand : (2 * n + 1) * den = 2 * (n * den) + den := by
    rw [Nat.succ_mul, Nat.mul_assoc]
  have quotient : num / den = n :=
    Nat.div_eq_of_lt_le (by omega) (by rw [Nat.succ_mul]; omega)
  have rest : 2 * (num % den) = den := by
    have split := Nat.div_add_mod num den
    rw [quotient, Nat.mul_comm] at split
    omega
  simp [nearest, quotient, rest, odd]

theorem succ_le_nearest_iff {num den n : Nat} (pos : 0 < den) (odd : n % 2 = 1) :
    n + 1 ≤ nearest num den ↔ (2 * n + 1) * den ≤ 2 * num := by
  have expand : (2 * n + 1) * den = 2 * (n * den) + den := by
    rw [Nat.succ_mul, Nat.mul_assoc]
  have above := nearest_le num pos
  have below := le_nearest num pos
  constructor
  · intro h
    have reached : (n + 1) * den ≤ nearest num den * den := Nat.mul_le_mul_right _ h
    rw [Nat.succ_mul] at reached
    omega
  · intro h
    refine Nat.lt_of_not_le fun small => ?_
    have short : nearest num den * den ≤ n * den := Nat.mul_le_mul_right _ small
    rw [nearest_of_odd_half pos (by omega) odd] at small
    omega

end Settle.Number
