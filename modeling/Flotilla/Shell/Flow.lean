/-!
# Flows of bytes

What a utility reads and writes.  A `Flow` may have no end: then it is a part that
comes once and a part that comes over and over.  A `Utility` makes a report of its
arguments and a flow that it reads.

* `length_take`: so many bytes can be taken from a flow without an end.
-/

namespace Flotilla.Shell

/-- A flow of bytes. -/
structure Flow where
  /-- What comes once. -/
  once : List UInt8 := []
  /-- What then comes over and over; nothing if the flow ends. -/
  forever : List UInt8 := []
deriving Repr, DecidableEq

namespace Flow

/-- The first bytes of what comes over and over. -/
def repeated (cycle : List UInt8) (n : Nat) : List UInt8 :=
  if cycle.isEmpty then []
  else ((List.replicate (n / cycle.length + 1) cycle).flatten).take n

/-- The first bytes of a flow. -/
def take (f : Flow) (n : Nat) : List UInt8 :=
  f.once.take n ++ repeated f.forever (n - f.once.length)

/-- So many bytes can be taken from a flow without an end. -/
theorem length_take (f : Flow) (h : f.forever ≠ []) (n : Nat) : (f.take n).length = n := by
  have hl : 0 < f.forever.length := List.length_pos_iff.mpr h
  have hr : ∀ k, (repeated f.forever k).length = k := by
    intro k
    have : k ≤ (k / f.forever.length + 1) * f.forever.length := by
      have := Nat.div_add_mod k f.forever.length
      have := Nat.mod_lt k hl
      rw [Nat.add_mul, Nat.one_mul, Nat.mul_comm]
      omega
    simp [repeated, h, List.length_flatten, Nat.min_eq_left this]
  simp only [take, List.length_append, List.length_take, hr]
  omega

/-- A flow after another that ends. -/
def append (a b : Flow) : Flow :=
  if a.forever.isEmpty then { once := a.once ++ b.once, forever := b.forever } else a

/-- Each byte changed, or taken away. -/
def filterMap (f : Flow) (g : UInt8 → Option UInt8) : Flow :=
  { once := f.once.filterMap g, forever := f.forever.filterMap g }

end Flow

/-- What a utility has written, and its exit code. -/
structure Report where
  /-- What it wrote. -/
  out : Flow := {}
  /-- What it complained of. -/
  err : String := ""
  /-- The exit code. -/
  status : Nat := 0

/-- A utility: what comes of its arguments and what it reads. -/
abbrev Utility := List String → Flow → Report

/-- The report of a utility that writes some bytes. -/
def Report.ofBytes (bytes : List UInt8) : Report := { out := { once := bytes } }

end Flotilla.Shell
