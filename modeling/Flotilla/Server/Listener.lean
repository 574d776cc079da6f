import Flotilla.Failure
import Flotilla.Net.SocketAddress
import Flotilla.Tools.SystemError

/-!
# Where a server listens

A server listens on an address of its own host that no one else listens on.  On a
host that is known by no address of its own, these are the loopback addresses and
the addresses that stand for all.  Port 0 asks for any free port, so it is never
taken.
-/

namespace Flotilla.Server

open Net (SocketAddress)

/-- Whether an address is one of the host's own. -/
def isOwn : SocketAddress → Bool
  | .v4 octets _ => octets.head? == some 127 || octets == [0, 0, 0, 0]
  | .v6 groups _ _ => groups == [0, 0, 0, 0, 0, 0, 0, 0] || groups == [0, 0, 0, 0, 0, 0, 0, 1]

/-- The port of an address. -/
def portOf : SocketAddress → Nat
  | .v4 _ port => port
  | .v6 _ _ port => port

/-- Why a server cannot listen on an address while others listen on these. -/
def bindFault (taken : List SocketAddress) (address : SocketAddress) : Option Int :=
  if !isOwn address then some Tools.addressNotAvailable
  else if portOf address != 0 && taken.contains address then some Tools.addressInUse
  else none

/-- Listen on an address while others listen on these.  The answer is all of them. -/
def bind (taken : List SocketAddress) (address : SocketAddress) :
    Except ControllerFailure (List SocketAddress) :=
  match bindFault taken address with
  | some fault =>
    .error (.server s!"failed to bind {address.text}: {Tools.systemError fault}")
  | none => .ok (address :: taken)

end Flotilla.Server
