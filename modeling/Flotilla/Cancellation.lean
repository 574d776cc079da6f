import Std.Data.ExtTreeSet

/-!
# Cancellation

Work is done under a *token*.  A token may be fired once and for all.  A token
made as the child of another counts as cancelled when it or any token it
descends from has been fired.  Firing a token says nothing of its parent nor of
its parent's other children.

A token is the path from itself to its root.  The numbers on the paths are
handed out by a `Cancellation`, which also remembers the fired ones, so a
number is never handed out twice.

* `isCancelled_fire`: firing a token cancels it and what descends from it.
* `isCancelled_fire_of_not_mem`: and nothing else.
-/

namespace Flotilla

/-- A token: its own number, and those of the tokens it descends from. -/
structure Token where
  /-- The token's own number. -/
  number : Nat
  /-- The numbers of its parent, its parent's parent and so on. -/
  ancestors : List Nat
deriving Repr, DecidableEq

/-- The numbers from a token to its root. -/
def Token.path (t : Token) : List Nat := t.number :: t.ancestors

/-- Which tokens there are and which were fired. -/
structure Cancellation where
  /-- The next number to hand out. -/
  next : Nat := 0
  /-- The numbers of the fired tokens. -/
  fired : Std.ExtTreeSet Nat := ∅

namespace Cancellation

/-- A new token that descends from none. -/
def root (c : Cancellation) : Token × Cancellation :=
  (⟨c.next, []⟩, { c with next := c.next + 1 })

/-- A new child of a token. -/
def child (c : Cancellation) (parent : Token) : Token × Cancellation :=
  (⟨c.next, parent.path⟩, { c with next := c.next + 1 })

/-- Fire a token. -/
def fire (c : Cancellation) (t : Token) : Cancellation :=
  { c with fired := c.fired.insert t.number }

/-- Whether a token or one it descends from was fired. -/
def isCancelled (c : Cancellation) (t : Token) : Bool := t.path.any fun n => c.fired.contains n

theorem isCancelled_eq_true {c : Cancellation} {t : Token} :
    c.isCancelled t = true ↔ ∃ n ∈ t.path, n ∈ c.fired := by
  simp [isCancelled, List.any_eq_true]

/-- Firing a token cancels it and what descends from it, and keeps what was cancelled. -/
theorem isCancelled_fire {c : Cancellation} {t u : Token} :
    (c.fire t).isCancelled u = true ↔ t.number ∈ u.path ∨ c.isCancelled u = true := by
  simp only [isCancelled_eq_true, fire, Std.ExtTreeSet.mem_insert]
  constructor
  · rintro ⟨n, hn, h⟩
    rcases h with h | h
    · simp only [Std.LawfulEqOrd.compare_eq_iff_eq] at h
      exact Or.inl (h ▸ hn)
    · exact Or.inr ⟨n, hn, h⟩
  · rintro (h | ⟨n, hn, h⟩)
    · exact ⟨_, h, Or.inl (by simp)⟩
    · exact ⟨n, hn, Or.inr h⟩

/-- Firing a token leaves every token alone that does not descend from it. -/
theorem isCancelled_fire_of_not_mem {c : Cancellation} {t u : Token} (h : t.number ∉ u.path) :
    (c.fire t).isCancelled u = c.isCancelled u := by
  rw [Bool.eq_iff_iff, isCancelled_fire]
  simp [h]

/-- What is cancelled when some tokens were fired. -/
theorem isCancelled_foldl_fire {β : Type} (token : β → Token) (l : List β) (c : Cancellation)
    (u : Token) :
    (l.foldl (fun k d => k.fire (token d)) c).isCancelled u = true ↔
      (∃ d ∈ l, (token d).number ∈ u.path) ∨ c.isCancelled u = true := by
  induction l generalizing c with
  | nil => simp
  | cons d rest ih =>
    rw [List.foldl_cons, ih, isCancelled_fire]
    simp only [List.mem_cons, exists_eq_or_imp]
    rw [or_left_comm, or_assoc]

/-- A child is cancelled when its parent is. -/
theorem isCancelled_child {c : Cancellation} {parent : Token} (h : c.isCancelled parent = true) :
    (c.child parent).2.isCancelled (c.child parent).1 = true := by
  rw [isCancelled_eq_true] at h ⊢
  obtain ⟨n, hn, hf⟩ := h
  exact ⟨n, List.mem_cons_of_mem _ hn, hf⟩

/-! ## Tokens that were handed out -/

/-- A token was handed out. -/
def Knows (c : Cancellation) (t : Token) : Prop := ∀ n ∈ t.path, n < c.next

/-- Only tokens that were handed out were fired. -/
def Sound (c : Cancellation) : Prop := ∀ n ∈ c.fired, n < c.next

variable {c : Cancellation} {parent t : Token}

/-- A new child is a token of its own. -/
theorem Knows.child_fresh (h : c.Knows t) (parent : Token) :
    (c.child parent).1.number ∉ t.path :=
  fun hm => Nat.lt_irrefl _ (h _ hm)

theorem Knows.child (h : c.Knows t) (parent : Token) : (c.child parent).2.Knows t :=
  fun n hn => Nat.lt_succ_of_lt (h n hn)

/-- It has not been fired. -/
theorem Sound.child_fresh (h : c.Sound) (parent : Token) :
    (c.child parent).1.number ∉ (c.child parent).2.fired :=
  fun hm => Nat.lt_irrefl _ (h _ hm)

theorem Sound.child (h : c.Sound) (parent : Token) : (c.child parent).2.Sound :=
  fun n hn => Nat.lt_succ_of_lt (h n hn)

/-- As long as a child is not fired itself it is cancelled just when its parent is. -/
theorem isCancelled_child_eq (k : Cancellation)
    (h : (c.child parent).1.number ∉ k.fired) :
    k.isCancelled (c.child parent).1 = k.isCancelled parent := by
  rw [Bool.eq_iff_iff, isCancelled_eq_true, isCancelled_eq_true]
  constructor
  · rintro ⟨n, hn, hf⟩
    rcases List.mem_cons.mp hn with rfl | hn
    · exact absurd hf h
    · exact ⟨n, hn, hf⟩
  · rintro ⟨n, hn, hf⟩
    exact ⟨n, List.mem_cons_of_mem _ hn, hf⟩

/-- What is cancelled stays so when more tokens are fired. -/
theorem isCancelled_mono {k : Cancellation} (hk : ∀ n ∈ c.fired, n ∈ k.fired)
    (h : c.isCancelled t = true) : k.isCancelled t = true := by
  obtain ⟨n, hn, hf⟩ := isCancelled_eq_true.mp h
  exact isCancelled_eq_true.mpr ⟨n, hn, hk n hf⟩

end Cancellation

end Flotilla
