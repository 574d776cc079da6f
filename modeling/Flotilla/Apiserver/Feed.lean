import Std.Data.ExtTreeMap
import Flotilla.Kube.Objects
import Flotilla.Time.Span

/-!
# What an apiserver tells of its objects

A `Feed` is the objects of one kind that an apiserver has at the start and the
events on them, in order of time.  An object is known by its namespace and name,
and a later object takes the place of an earlier one.

An informer that is started asks for a list of the objects.  The list comes some
time later (`Feed.listedAt`) and has the objects there are then.  From that
moment on the informer follows the events until it is stopped.  Before the list
is there, its store is empty and not ready.

* A silent feed never answers the list, or fails it each time, so the store is
  never ready.
* An object without a name cannot be stored.  The informer ends there, and the
  store keeps what it has.  When this happens with the list the store is never
  ready.
-/

namespace Flotilla.Apiserver

open Std (ExtTreeMap)
open Time (Moment)

/-- The namespace and name of an object. -/
structure ObjectKey where
  /-- The namespace, if the object says one. -/
  namespaceName : Option String
  /-- The name. -/
  name : String
deriving Repr, DecidableEq

namespace ObjectKey

/-- By namespace, those without one first, and within a namespace by name. -/
instance : Ord ObjectKey :=
  ⟨compareLex (compareOn ObjectKey.namespaceName) (compareOn ObjectKey.name)⟩

theorem compare_eq_then (a b : ObjectKey) :
    compare a b = (compare a.namespaceName b.namespaceName).then (compare a.name b.name) := rfl

instance : Std.TransOrd ObjectKey :=
  inferInstanceAs
    (Std.TransCmp (compareLex (compareOn ObjectKey.namespaceName) (compareOn ObjectKey.name)))

instance : Std.LawfulEqOrd ObjectKey where
  eq_of_compare {a b} h := by
    rw [compare_eq_then, Ordering.then_eq_eq] at h
    obtain ⟨h1, h2⟩ := h
    have h1 := Std.LawfulEqOrd.eq_of_compare h1
    have h2 := Std.LawfulEqOrd.eq_of_compare h2
    cases a; cases b; simp_all

/-- The key of what an object says of itself. -/
def ofIdentity (i : Kube.Identity) : ObjectKey := ⟨i.namespaceName, i.anyName⟩

end ObjectKey

/-- Objects by key. -/
abbrev Objects (α : Type) := ExtTreeMap ObjectKey α

/-- Kinds of objects that say something of themselves. -/
class Identified (α : Type) where
  /-- What the object says of itself. -/
  identity : α → Kube.Identity

instance : Identified Kube.Service := ⟨Kube.Service.identity⟩
instance : Identified Kube.Node := ⟨Kube.Node.identity⟩

/-- An event on an object. -/
structure Event (α : Type) where
  /-- When it happens. -/
  moment : Moment
  /-- Whether the object is deleted; otherwise it is added or changed. -/
  deleted : Bool
  /-- The object. -/
  object : α
deriving Repr, DecidableEq

/-- The objects of one kind. -/
structure Feed (α : Type) where
  /-- The objects at the start. -/
  base : List α := []
  /-- What happens to them, in order of time. -/
  events : List (Event α) := []
  /-- The list of objects never comes. -/
  silent : Bool := false
  /-- How long the list takes otherwise. -/
  takes : Nat := 0

section

variable {α : Type} [Identified α]

/-- The key of an object. -/
def keyOf (a : α) : ObjectKey := .ofIdentity (Identified.identity a)

/-- Whether an object has a name and can be stored. -/
def isNamed (a : α) : Bool := (Identified.identity a).name.isSome

/-- The objects after one more was put. -/
def Objects.put (objects : Objects α) (a : α) : Objects α := objects.insert (keyOf a) a

/-- The objects after an event. -/
def Objects.apply (objects : Objects α) (e : Event α) : Objects α :=
  if e.deleted then objects.erase (keyOf e.object) else objects.put e.object

/-- The objects after some events. -/
def Objects.applyAll (objects : Objects α) (events : List (Event α)) : Objects α :=
  events.foldl Objects.apply objects

namespace Feed

/-- The objects the apiserver has at a moment. -/
def objectsAt (f : Feed α) (t : Moment) : Objects α :=
  (f.base.foldl Objects.put ∅).applyAll (f.events.filter fun e => e.moment ≤ t)

/-- When the list comes for which an informer asks that is started at a moment. -/
def listedAt (f : Feed α) (start : Moment) : Moment := start + f.takes

omit [Identified α] in
theorem le_listedAt (f : Feed α) (start : Moment) : start ≤ f.listedAt start :=
  Nat.le_add_right start f.takes

/-- The events an informer follows whose list has come at a moment, up to one it cannot store. -/
def followed (f : Feed α) (listed : Moment) : List (Event α) :=
  (f.events.filter fun e => listed < e.moment).takeWhile fun e => isNamed e.object

/-- Whether a list that comes at a moment can be stored. -/
def listable (f : Feed α) (listed : Moment) : Bool := (f.objectsAt listed).values.all isNamed

/-- Whether a store gets ready when its list is to come at a moment. -/
def ready (f : Feed α) (listed : Moment) : Bool := !f.silent && f.listable listed

/-- The moment at which an informer ends by itself, if it does. -/
def fault (f : Feed α) (listed : Moment) : Option Moment :=
  if f.silent then none
  else if f.listable listed then
    ((f.events.filter fun e => listed < e.moment).find? fun e => !isNamed e.object).map (·.moment)
  else some listed

/-- The store, at a moment, of an informer whose list is to come at another and that is maybe
stopped.  One that is stopped before its list comes has stored nothing. -/
def storeAt (f : Feed α) (listed : Moment) (stop : Option Moment) (t : Moment) : Objects α :=
  let begun := listed ≤ t && (stop.map fun s => decide (listed < s)).getD true
  let upTo := match stop with
    | some s => min s t
    | none => t
  if f.ready listed && begun then
    (f.objectsAt listed).applyAll ((f.followed listed).filter fun e => e.moment ≤ upTo)
  else ∅

end Feed

end

end Flotilla.Apiserver
