import Mathlib.Algebra.Ring.Nat
import Mathlib.Order.Monotone.Defs
import Flotilla.Retry.Policy

/-!
# The waits of a linear schedule

The wait after an attempt is so many steps long.  A span is kept in two parts, and both the product
of the seconds and the carry out of the nanoseconds can be too great for the seconds.  Either way
the product as a whole is too great, and the wait is the longest span (`Span.toNanos_scale`).

Spans are in order of their lengths.  That is the order by seconds first and by nanoseconds then
(`Span.lt_iff`).

* `Proportional`: what it means that a wait is a number of steps, as far as spans go.
* `linear_proportional`: so it is with a linear schedule.
-/

namespace Flotilla

namespace Time.Span

/-! ## The order of spans -/

theorem toNanos_injective : Function.Injective toNanos := fun _ _ => ext_toNanos

instance : PartialOrder Span := PartialOrder.lift toNanos toNanos_injective

variable {a b : Span}

theorem toNanos_le_toNanos : a.toNanos ≤ b.toNanos ↔ a ≤ b := Iff.rfl

theorem toNanos_lt_toNanos : a.toNanos < b.toNanos ↔ a < b := Iff.rfl

/-- The seconds decide, and the nanoseconds if the seconds are the same. -/
theorem lt_iff : a < b ↔ a.secs < b.secs ∨ a.secs = b.secs ∧ a.nanos < b.nanos := by
  have ha := a.nanos_lt
  have hb := b.nanos_lt
  rw [← toNanos_lt_toNanos]
  simp only [toNanos, nanosPerSecond] at ha hb ⊢
  omega

/-! ## Spans repeated -/

/-- A product that is a span is that span. -/
theorem scale_eq_of_toNanos {d : Span} {k : Nat} (h : b.toNanos = k * d.toNanos) :
    d.scale k = b := by
  refine ext_toNanos ?_
  rw [toNanos_scale, Nat.mul_comm, ← h]
  exact Nat.min_eq_left b.toNanos_le

/-- A product that is none is the longest span. -/
theorem scale_eq_longest {d : Span} {k : Nat} (h : ∀ b : Span, b.toNanos ≠ k * d.toNanos) :
    d.scale k = longest := by
  have hlt : longest.toNanos < k * d.toNanos :=
    Nat.lt_of_not_le fun hle => h (ofNanos (k * d.toNanos)) (toNanos_ofNanos hle)
  refine ext_toNanos ?_
  rw [toNanos_scale, Nat.mul_comm]
  exact Nat.min_eq_right (Nat.le_of_lt hlt)

theorem scale_zero (d : Span) : d.scale 0 = zero :=
  scale_eq_of_toNanos (Nat.zero_mul d.toNanos).symm

theorem scale_mono {j k : Nat} (hd : a ≤ b) (hk : j ≤ k) : a.scale j ≤ b.scale k := by
  have hmul : a.toNanos * j ≤ b.toNanos * k := Nat.mul_le_mul hd hk
  rw [← toNanos_le_toNanos, toNanos_scale, toNanos_scale]
  exact Nat.le_min.mpr ⟨Nat.le_trans (Nat.min_le_left _ _) hmul, Nat.min_le_right _ _⟩

/-- One more time is longer, as long as the product is not the longest span. -/
theorem scale_lt_scale {d : Span} {j k : Nat} (hd : zero < d) (hk : j < k)
    (h : d.scale j ≠ longest) : d.scale j < d.scale k := by
  have hmore : d.toNanos * j < d.toNanos * k := Nat.mul_lt_mul_of_pos_left hk hd
  have hless : (d.scale j).toNanos < longest.toNanos :=
    Nat.lt_of_le_of_ne (d.scale j).toNanos_le fun he => h (ext_toNanos he)
  rw [toNanos_scale] at hless
  rw [← toNanos_lt_toNanos, toNanos_scale, toNanos_scale]
  -- the length that is less than the longest is the product itself
  have hexact : d.toNanos * j < longest.toNanos := by omega
  rw [Nat.min_eq_left (Nat.le_of_lt hexact)]
  exact Nat.lt_min.mpr ⟨hmore, hexact⟩

end Time.Span

namespace Retry

open Time (Span)

/-- A wait that is so many steps long, as far as spans go. -/
structure Proportional (wait : (step : Span) → (attempt : Nat) → Span) : Prop where
  /-- It is the product, if a span is of that length. -/
  exact : ∀ step k (d : Span), d.toNanos = k * step.toNanos → wait step k = d
  /-- If there is none it is the longest span. -/
  saturated : ∀ step k, (∀ d : Span, d.toNanos ≠ k * step.toNanos) →
    (wait step k).secs = 2 ^ 64 - 1 ∧ (wait step k).nanos = 999999999
  nanos : ∀ step k, (wait step k).nanos < 10 ^ 9
  zero : ∀ step, (wait step 0).toNanos = 0
  /-- It is no shorter after a later attempt or with a longer step. -/
  mono_attempt : ∀ step, Monotone (wait step)
  mono_step : ∀ k, Monotone fun step => wait step k
  /-- After a later attempt it is longer, unless it was the longest span already. -/
  strict : ∀ step, 0 < step.toNanos → ∀ j k, j < k → wait step j ≠ .longest →
    wait step j < wait step k

/-- The waits of a linear schedule are multiples of its step. -/
theorem linear_proportional :
    Proportional fun step attempt => (Schedule.linear step).delayAfter attempt where
  exact _ _ _ h := Span.scale_eq_of_toNanos h
  saturated step k h := by
    rw [Schedule.delayAfter, Span.scale_eq_longest h]
    exact ⟨rfl, rfl⟩
  nanos step k := (step.scale k).nanos_lt
  zero step := by
    rw [Schedule.delayAfter, Span.scale_zero]
    rfl
  mono_attempt step _ _ hk := Span.scale_mono (le_refl step) hk
  mono_step k _ _ hd := Span.scale_mono hd (Nat.le_refl k)
  strict _ hd _ _ hk h := Span.scale_lt_scale hd hk h

-- the seconds of the product are the greatest there are, and the nanoseconds carry one more
example : (Schedule.linear ⟨6148914691236517205, 333333334, by decide, by decide⟩).delayAfter 3 =
    .longest := by decide

end Retry

end Flotilla
