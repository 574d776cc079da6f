import Mathlib.Data.Nat.Dist
import Mathlib.Tactic.Ring
import Flotilla.Text.Shortest

/-!
# The number that is exported

`nearest` rounds to 53 significant bits.  A number is `Precise` if it has no more.
What `nearest` gives is precise (`precise_nearest`), and no precise number is nearer
(`dist_nearest_le`).  So a precise number stays as it is, as every number up to
`2 ^ 53` does (`nearest_of_le`).  `Rounds` is all of this.
-/

namespace Flotilla.Text.Shortest

/-- Whether a whole number has no more significant bits than a floating point number. -/
def Precise (x : Nat) : Prop := ∃ mantissa exponent, mantissa < 2 ^ 53 ∧ x = mantissa * 2 ^ exponent

/-- What a whole number is measured in. -/
def unit (n : Nat) : Nat := 2 ^ (n.log2 + 1 - 53)

theorem unit_pos (n : Nat) : 0 < unit n := Nat.two_pow_pos _

/-- The carry of a rounded mantissa keeps the value. -/
theorem value_carry (m e : Nat) :
    (if m = Nat.pow 2 precision then (⟨Nat.pow 2 (precision - 1), e + 1⟩ : Binary)
      else ⟨m, e⟩).value = m * 2 ^ e := by
  split
  · next h =>
    show 2 ^ 52 * 2 ^ (e + 1) = m * 2 ^ e
    rw [h, pow_succ 2 e]
    show 2 ^ 52 * (2 ^ e * 2) = 2 ^ 53 * 2 ^ e
    ring
  · rfl

/-- Rounding goes to one of two neighbours, the nearer one. -/
theorem nearest_eq (n : Nat) :
    (nearest n = n / unit n * unit n ∧ n % unit n * 2 ≤ unit n) ∨
      (nearest n = (n / unit n + 1) * unit n ∧ unit n ≤ n % unit n * 2) := by
  have hvalue : nearest n =
      (if n % unit n * 2 > unit n ∨ (n % unit n * 2 = unit n ∧ n / unit n % 2 = 1) then
        n / unit n + 1 else n / unit n) * unit n := value_carry _ _
  rw [hvalue]
  split
  · next h => exact Or.inr ⟨rfl, by omega⟩
  · next h => exact Or.inl ⟨rfl, by omega⟩

/-- The units of a number fit a mantissa, and fill it if they are greater than one. -/
theorem div_unit (n : Nat) : n / unit n < 2 ^ 53 ∧ (unit n ≠ 1 → 2 ^ 52 ≤ n / unit n) := by
  have hlog : n < 2 ^ (n.log2 + 1) := Nat.lt_log2_self
  constructor
  · rw [Nat.div_lt_iff_lt_mul (unit_pos n), unit, ← Nat.pow_add]
    exact lt_of_lt_of_le hlog (Nat.pow_le_pow_right Nat.two_pos (by omega))
  · intro hunit
    have hexponent : n.log2 + 1 - 53 ≠ 0 := fun h => hunit (by rw [unit, h, pow_zero])
    have hn : n ≠ 0 := by
      rintro rfl
      exact hexponent (by simp)
    rw [Nat.le_div_iff_mul_le (unit_pos n), unit, ← Nat.pow_add]
    refine le_trans (Nat.pow_le_pow_right Nat.two_pos ?_) (Nat.log2_self_le hn)
    omega

theorem precise_nearest (n : Nat) : Precise (nearest n) := by
  have hlow := (div_unit n).1
  rcases nearest_eq n with ⟨h, -⟩ | ⟨h, -⟩
  · exact ⟨_, _, hlow, h⟩
  · by_cases hcarry : n / unit n + 1 < 2 ^ 53
    · exact ⟨_, _, hcarry, h⟩
    · refine ⟨2 ^ 52, n.log2 + 1 - 53 + 1, by decide, ?_⟩
      have hfull : n / unit n + 1 = 2 ^ 53 := by omega
      rw [h, hfull, pow_succ 2 (n.log2 + 1 - 53), unit]
      omega

/-- Between the two neighbours of a number there is no precise number. -/
theorem Precise.outside {x : Nat} (hx : Precise x) (n : Nat) :
    x ≤ n / unit n * unit n ∨ (n % unit n ≠ 0 ∧ (n / unit n + 1) * unit n ≤ x) ∨
      (n % unit n = 0 ∧ n ≤ x) := by
  obtain ⟨m, e, hm, rfl⟩ := hx
  have hsplit : n / unit n * unit n + n % unit n = n := Nat.div_add_mod' n (unit n)
  by_cases he : n.log2 + 1 - 53 ≤ e
  · -- a multiple of the unit
    obtain ⟨d, rfl⟩ := Nat.exists_eq_add_of_le he
    have hx : m * 2 ^ (n.log2 + 1 - 53 + d) = m * 2 ^ d * unit n := by
      rw [unit, pow_add]
      ring
    rw [hx]
    rcases Nat.lt_or_ge (n / unit n) (m * 2 ^ d) with hlt | hle
    · right
      have hge : (n / unit n + 1) * unit n ≤ m * 2 ^ d * unit n := Nat.mul_le_mul_right _ hlt
      by_cases hrest : n % unit n = 0
      · refine Or.inr ⟨hrest, le_trans ?_ hge⟩
        rw [Nat.add_mul]
        omega
      · exact Or.inl ⟨hrest, hge⟩
    · exact Or.inl (Nat.mul_le_mul_right _ hle)
  · -- a number with a smaller unit is smaller than the number
    left
    have hunit : unit n = 2 * 2 ^ (n.log2 + 1 - 53 - 1) := by
      rw [unit, ← pow_succ']
      congr 1
      omega
    have hone : unit n ≠ 1 := by omega
    have hpow : 2 ^ e ≤ 2 ^ (n.log2 + 1 - 53 - 1) := Nat.pow_le_pow_right Nat.two_pos (by omega)
    calc m * 2 ^ e ≤ 2 ^ 53 * 2 ^ (n.log2 + 1 - 53 - 1) := Nat.mul_le_mul hm.le hpow
      _ = 2 ^ 52 * unit n := by
        rw [hunit]
        ring
      _ ≤ n / unit n * unit n := Nat.mul_le_mul_right _ ((div_unit n).2 hone)

/-- No precise number is nearer. -/
theorem dist_nearest_le (n : Nat) {x : Nat} (hx : Precise x) :
    Nat.dist n (nearest n) ≤ Nat.dist n x := by
  have hsplit : n / unit n * unit n + n % unit n = n := Nat.div_add_mod' n (unit n)
  have hlt : n % unit n < unit n := Nat.mod_lt n (unit_pos n)
  have hup : (n / unit n + 1) * unit n = n / unit n * unit n + unit n := by rw [Nat.add_mul, one_mul]
  have hout := hx.outside n
  have hnear := nearest_eq n
  rw [hup] at hout hnear
  generalize n / unit n * unit n = low at *
  unfold Nat.dist
  omega

theorem nearest_of_precise {n : Nat} (h : Precise n) : nearest n = n := by
  have hle := dist_nearest_le n h
  rw [Nat.dist_self, Nat.le_zero] at hle
  exact (Nat.eq_of_dist_eq_zero hle).symm

/-- Small numbers are exported as they are. -/
theorem nearest_of_le {n : Nat} (h : n ≤ 2 ^ 53) : nearest n = n := by
  refine nearest_of_precise ?_
  rcases Nat.lt_or_ge n (2 ^ 53) with hlt | hge
  · exact ⟨n, 0, hlt, (Nat.mul_one n).symm⟩
  · exact ⟨1, 53, by decide, by omega⟩

/-- How a floating point number stands for a whole number. -/
structure Rounds (n v : Nat) : Prop where
  precise : Precise v
  /-- No precise number is nearer. -/
  closest : ∀ x, Precise x → Nat.dist n v ≤ Nat.dist n x
  /-- Small numbers stand for themselves. -/
  small : n ≤ 2 ^ 53 → v = n

theorem rounds_nearest (n : Nat) : Rounds n (nearest n) where
  precise := precise_nearest n
  closest _ hx := dist_nearest_le n hx
  small h := nearest_of_le h

end Flotilla.Text.Shortest
