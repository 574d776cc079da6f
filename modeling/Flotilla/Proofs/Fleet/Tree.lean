import Flotilla.Fleet.Run
import Flotilla.Proofs.Apiserver.Lifecycle

/-!
# The tokens of a loop

A scene says of each instance when its token fires: when the loop stops the instance, or with the
token of the process.  The tokens themselves are made here.  That of the process is a root, and each
instance gets a child of it.  By a moment those of the instances stopped until then are fired, and
that of the process if it is due (`Scene.tokensAt`).

* `Scene.rooted`: an instance is cancelled from the moment on that the scene says.
-/

namespace Flotilla.Fleet.Scene

open Apiserver (Informers)
open Time (Moment)

/-- The token of the process. -/
def process : Token := (Cancellation.root {}).1

/-- The tokens of the process and of so many instances. -/
def handedOut : Nat → Cancellation
  | 0 => (Cancellation.root {}).2
  | n + 1 => ((handedOut n).child process).2

/-- The token of an instance. -/
def tokenOf (n : Nat) : Token := ((handedOut n).child process).1

/-- The instances that the loop has stopped by a moment. -/
def stoppedBy (s : Scene) (t : Moment) : List Nat :=
  (List.range s.next).filter fun n => Informers.endedBy t (s.stoppedAt n)

/-- The tokens at a moment. -/
def tokensAt (s : Scene) (t : Moment) : Cancellation :=
  let tokens := (s.stoppedBy t).foldl (fun k n => k.fire (tokenOf n)) (handedOut s.next)
  if Informers.endedBy t s.firesAt then tokens.fire process else tokens

theorem handedOut_eq (n : Nat) : handedOut n = { next := n + 1 } := by
  induction n with
  | zero => rfl
  | succ n ih =>
    rw [handedOut, ih]
    rfl

theorem tokenOf_eq (n : Nat) : tokenOf n = ⟨n + 1, process.path⟩ := by
  rw [tokenOf, handedOut_eq]
  rfl

/-- Nothing is cancelled when it is handed out. -/
theorem isCancelled_handedOut (n : Nat) (u : Token) : (handedOut n).isCancelled u = false := by
  rw [Bool.eq_false_iff, handedOut_eq]
  intro h
  obtain ⟨m, -, hm⟩ := Cancellation.isCancelled_eq_true.mp h
  simp at hm

variable {s : Scene} {t : Moment}

/-- The tokens are cancelled when the scene says so, that of the process and those of the
instances. -/
structure Rooted (s : Scene) : Prop where
  process : ∀ t, (s.tokensAt t).isCancelled process = Informers.endedBy t s.firesAt
  instances : ∀ t, ∀ n < s.next,
    (s.tokensAt t).isCancelled (tokenOf n) = Informers.endedBy t (s.tokenFired n)

/-- A token is cancelled if one on its path is fired. -/
theorem isCancelled_tokensAt {u : Token} : (s.tokensAt t).isCancelled u = true ↔
    (∃ n ∈ s.stoppedBy t, n + 1 ∈ u.path) ∨ (Informers.endedBy t s.firesAt = true ∧ 0 ∈ u.path) := by
  have hfold := Cancellation.isCancelled_foldl_fire tokenOf (s.stoppedBy t) (handedOut s.next) u
  simp only [isCancelled_handedOut, Bool.false_eq_true, or_false, tokenOf_eq] at hfold
  unfold tokensAt
  simp only [tokenOf_eq]
  split
  · next hfires =>
    rw [Cancellation.isCancelled_fire, hfold, or_comm]
    exact or_congr_right ⟨fun h => ⟨hfires, h⟩, And.right⟩
  · next hfires => rw [hfold, or_iff_left fun h => hfires h.1]

theorem rooted (s : Scene) : s.Rooted where
  process t := by
    rw [Bool.eq_iff_iff, isCancelled_tokensAt]
    simp [Scene.process, Cancellation.root, Token.path]
  instances t n hn := by
    rw [Bool.eq_iff_iff, isCancelled_tokensAt, tokenOf_eq, tokenFired, Informers.endedBy_earlier]
    simp [Scene.process, Cancellation.root, Token.path, stoppedBy, hn]

/-- When the token of the process has fired every instance is cancelled. -/
theorem isCancelled_of_fired (h : s.fired = true) (n : Nat) :
    (s.tokensAt s.now).isCancelled (tokenOf n) = true := by
  refine isCancelled_tokensAt.mpr (Or.inr ⟨h, ?_⟩)
  rw [tokenOf_eq]
  exact List.mem_cons_of_mem _ List.mem_cons_self

end Flotilla.Fleet.Scene
