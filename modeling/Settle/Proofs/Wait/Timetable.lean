import Settle.Wait

/-!
# The timetable of a wait

Look `k` of a wait whose looks take no time falls on `lookAt k`, counted from the start: after `k`
full pauses, or on the deadline when that is earlier. `pauses` is the timeout divided by the pause
and rounded up (`pauses_le_iff`), so the looks `0` to `pauses` are all there is: each of them but
the last falls before the deadline, and the last one on it (`timeout_le_lookAt_iff`).
-/

namespace Settle.Policy

/-- The instant of look `k`, counted from the start of the wait. -/
def lookAt (p : Policy) (k : Nat) : Duration := min (k * p.pause) p.timeout

theorem pauses_le_iff {p : Policy} {n : Nat} : p.pauses ≤ n ↔ p.timeout ≤ n * p.pause := by
  have hp : (0 : Nat) < p.pause := p.pause_pos
  unfold pauses Duration
  rw [Nat.div_le_iff_le_mul_add_pred hp, Nat.mul_comm p.pause n]
  omega

theorem lookAt_zero (p : Policy) : p.lookAt 0 = 0 := by simp [lookAt]

theorem lookAt_succ (p : Policy) (k : Nat) :
    p.lookAt (k + 1) = p.lookAt k + min p.pause (p.timeout - p.lookAt k) := by
  unfold lookAt Duration
  rw [Nat.succ_mul]
  omega

theorem lookAt_le (p : Policy) (k : Nat) : p.lookAt k ≤ p.timeout := Nat.min_le_right _ _

theorem timeout_le_lookAt_iff {p : Policy} {k : Nat} : p.timeout ≤ p.lookAt k ↔ p.pauses ≤ k := by
  rw [pauses_le_iff]
  unfold lookAt Duration
  omega

/-- The last look falls on the deadline. -/
theorem lookAt_pauses (p : Policy) : p.lookAt p.pauses = p.timeout :=
  Nat.le_antisymm (p.lookAt_le _) (timeout_le_lookAt_iff.mpr (Nat.le_refl _))

end Settle.Policy
