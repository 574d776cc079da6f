/-!
# Spans of time

A `Span` is a length of time in whole seconds below `2^64` and nanoseconds
below `10^9`.  `toNanos` is its length as one number, and two spans of the same
length are equal (`ext_toNanos`).

`scale` multiplies a span by a count.  It works on the two parts and carries
whole seconds out of the nanoseconds.  A product that does not fit is the
longest span, whether the seconds overflow or the carry does.

`text` writes a span in the largest unit that leaves a whole part, with the
fraction's trailing zeros left away.
-/

namespace Flotilla.Time

/-- Nanoseconds in a second. -/
def nanosPerSecond : Nat := 1000000000

/-- The seconds of a span lie below this bound. -/
def secondsBound : Nat := 18446744073709551616

/-- A moment, in nanoseconds from the start of the clock. -/
abbrev Moment := Nat

/-- A length of time. -/
structure Span where
  /-- Whole seconds. -/
  secs : Nat
  /-- Nanoseconds on top of them. -/
  nanos : Nat
  secs_lt : secs < secondsBound := by decide
  nanos_lt : nanos < nanosPerSecond := by decide
deriving Repr, DecidableEq

namespace Span

instance : Inhabited Span := ⟨⟨0, 0, by decide, by decide⟩⟩

/-- No time at all. -/
def zero : Span := ⟨0, 0, by decide, by decide⟩

/-- The longest span. -/
def longest : Span := ⟨secondsBound - 1, nanosPerSecond - 1, by decide, by decide⟩

/-- The length in nanoseconds. -/
def toNanos (d : Span) : Nat := d.secs * nanosPerSecond + d.nanos

/-- The span of so many nanoseconds, or the longest one. -/
def ofNanos (n : Nat) : Span :=
  if h : n / nanosPerSecond < secondsBound then
    ⟨n / nanosPerSecond, n % nanosPerSecond, h, Nat.mod_lt _ (by decide)⟩
  else longest

/-- So many whole seconds. -/
def ofSecs (n : Nat) : Span := ofNanos (n * nanosPerSecond)

/-- So many milliseconds. -/
def ofMillis (n : Nat) : Span := ofNanos (n * 1000000)

/-- A span repeated `k` times, or the longest span if that does not fit. -/
def scale (d : Span) (k : Nat) : Span :=
  let nanos := d.nanos * k
  let secs := d.secs * k
  if hs : secs < secondsBound then
    let carried := secs + nanos / nanosPerSecond
    if hc : carried < secondsBound then
      ⟨carried, nanos % nanosPerSecond, hc, Nat.mod_lt _ (by decide)⟩
    else longest
  else longest

/-! ## Lengths -/

theorem ext_toNanos {a b : Span} (h : a.toNanos = b.toNanos) : a = b := by
  obtain ⟨s, n, hs, hn⟩ := a
  obtain ⟨s', n', hs', hn'⟩ := b
  simp only [toNanos, nanosPerSecond] at h hn hn'
  have h1 : s = s' := by omega
  have h2 : n = n' := by omega
  subst h1; subst h2; rfl

theorem toNanos_longest : longest.toNanos = 18446744073709551615999999999 := by decide

theorem toNanos_le (d : Span) : d.toNanos ≤ longest.toNanos := by
  obtain ⟨s, n, hs, hn⟩ := d
  rw [toNanos_longest]
  simp only [toNanos, nanosPerSecond, secondsBound] at hs hn ⊢
  omega

theorem toNanos_ofNanos {n : Nat} (h : n ≤ longest.toNanos) : (ofNanos n).toNanos = n := by
  rw [toNanos_longest] at h
  unfold ofNanos
  split
  · simp only [toNanos, nanosPerSecond]; omega
  · rename_i h'
    simp only [nanosPerSecond, secondsBound] at h'
    omega

/-- A scaled span has the product's length where that is one, and the longest
length otherwise. -/
theorem toNanos_scale (d : Span) (k : Nat) :
    (d.scale k).toNanos = min (d.toNanos * k) longest.toNanos := by
  have hmul : d.toNanos * k = d.secs * k * nanosPerSecond + d.nanos * k := by
    rw [toNanos, Nat.add_mul, Nat.mul_right_comm]
  rw [hmul, toNanos_longest]
  by_cases hs : d.secs * k < secondsBound
  · by_cases hc : d.secs * k + d.nanos * k / nanosPerSecond < secondsBound
    · have : (d.scale k).toNanos =
          (d.secs * k + d.nanos * k / nanosPerSecond) * nanosPerSecond +
            d.nanos * k % nanosPerSecond := by
        simp [scale, hs, hc, toNanos]
      rw [this]
      simp only [nanosPerSecond, secondsBound] at hc ⊢
      omega
    · have : d.scale k = longest := by simp [scale, hs, hc]
      rw [this, toNanos_longest]
      simp only [nanosPerSecond, secondsBound] at hc ⊢
      omega
  · have : d.scale k = longest := by simp [scale, hs]
    rw [this, toNanos_longest]
    simp only [nanosPerSecond, secondsBound] at hs ⊢
    omega

/-! ## Text -/

/-- A number in decimal with leading zeros up to a width. -/
def padded (width n : Nat) : List Char :=
  let digits := Nat.toDigits 10 n
  List.replicate (width - digits.length) '0' ++ digits

/-- A whole part and a fraction of `width` digits, without trailing zeros. -/
def decimal (whole width fraction : Nat) : List Char :=
  let digits := ((padded width fraction).reverse.dropWhile (· == '0')).reverse
  if digits.isEmpty then Nat.toDigits 10 whole
  else Nat.toDigits 10 whole ++ '.' :: digits

/-- The span in its largest whole unit. -/
def text (d : Span) : String :=
  if d.secs > 0 then String.ofList (decimal d.secs 9 d.nanos) ++ "s"
  else if d.nanos ≥ 1000000 then
    String.ofList (decimal (d.nanos / 1000000) 6 (d.nanos % 1000000)) ++ "ms"
  else if d.nanos ≥ 1000 then
    String.ofList (decimal (d.nanos / 1000) 3 (d.nanos % 1000)) ++ "µs"
  else toString d.nanos ++ "ns"

end Span

example : (Span.ofMillis 1500).text = "1.5s" := by cbv
example : (Span.ofMillis 20).text = "20ms" := by cbv
example : (Span.ofNanos 1000).text = "1µs" := by cbv
example : Span.zero.text = "0ns" := by cbv

end Flotilla.Time
