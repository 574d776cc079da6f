import Flotilla.Apiserver.Informers
import Flotilla.Time.Spacing

/-!
# The handle of an instance

The handle of a running instance names its controllers and knows which of their
tasks have ended.  A task ends by itself at some moment, or when the token of
the instance fires, unless it is deaf to that.  Cancelling the instance consumes
the handle.  The token fires with it, or with the token it descends from.

What is done to an instance from outside is a list of deeds, each with its moment (`Held.play`), and
what is seen of it is told by its handle as long as that is there (`Held.handle?`).
-/

namespace Flotilla.Instance

open Apiserver (Informers)
open Time (Moment)

/-- A controller's task. -/
structure Task where
  /-- The name of the controller. -/
  name : String
  /-- When it ends by itself. -/
  finishAt : Option Moment := none
  /-- It goes on when the token fires. -/
  deaf : Bool := false
deriving Repr, DecidableEq

/-- Whether a task has ended by a moment, given when its token fires. -/
def Task.endedBy (task : Task) (stop : Option Moment) (t : Moment) : Bool :=
  Informers.endedBy t task.finishAt || (!task.deaf && Informers.endedBy t stop)

/-- What is done to an instance from outside. -/
inductive Deed where
  /-- The handle is given up to cancel the instance. -/
  | cancel
  /-- The token it descends from fires. -/
  | cancelParent
deriving Repr, DecidableEq

/-- What the handle of an instance tells. -/
structure HandleView where
  /-- The names of the controllers. -/
  controllers : List String
  /-- The names of those whose tasks have ended. -/
  finished : List String
deriving Repr, DecidableEq

/-- An instance and the tokens it hangs on. -/
structure Held where
  /-- The tasks, in the order in which they were started. -/
  tasks : List Task
  /-- When the instance is cancelled. -/
  cancelled : Option Moment := none
  /-- When the token it descends from fires. -/
  parent : Option Moment := none
deriving Repr, DecidableEq

namespace Held

/-- Whether the handle is there at a moment. -/
def hasHandle (h : Held) (t : Moment) : Bool := !Informers.endedBy t h.cancelled

/-- Whether the token of the instance has fired. -/
def isCancelled (h : Held) (t : Moment) : Bool :=
  Informers.endedBy t h.cancelled || Informers.endedBy t h.parent

/-- The names of the controllers. -/
def controllers (h : Held) : List String := h.tasks.map (·.name)

/-- When the token of the instance fires. -/
def stop (h : Held) : Option Moment := Time.earlier h.cancelled h.parent

/-- The tasks that have ended by a moment. -/
def endedTasks (h : Held) (t : Moment) : List Task :=
  h.tasks.filter fun task => task.endedBy h.stop t

/-- The names of the controllers whose tasks have ended by a moment. -/
def finishedAt (h : Held) (t : Moment) : List String := (h.endedTasks t).map (·.name)

/-- The instance is cancelled at a moment; a second time counts for nothing. -/
def cancel (h : Held) (t : Moment) : Held := { h with cancelled := h.cancelled.or (some t) }

/-- The token it descends from fires at a moment. -/
def cancelParent (h : Held) (t : Moment) : Held := { h with parent := h.parent.or (some t) }

/-- The instance after a deed. -/
def act (h : Held) (t : Moment) : Deed → Held
  | .cancel => h.cancel t
  | .cancelParent => h.cancelParent t

/-- The instance after some deeds, one after another. -/
def play (h : Held) (deeds : List (Moment × Deed)) : Held :=
  deeds.foldl (fun h (t, deed) => h.act t deed) h

/-- Whether the token it descends from has fired. -/
def isParentCancelled (h : Held) (t : Moment) : Bool := Informers.endedBy t h.parent

/-- What the handle tells at a moment.  None if it was given up. -/
def handle? (h : Held) (t : Moment) : Option HandleView :=
  if h.hasHandle t then some { controllers := h.controllers, finished := h.finishedAt t } else none

end Held

end Flotilla.Instance
