import Flotilla.Controllers.Activity
import Flotilla.Controllers.Lookups

/-!
# The service controller

It reports which services of type `LoadBalancer` appear and disappear from pass
to pass, and counts them, the nodes that may back them, and the endpoints behind
them that accept traffic.  A pass makes one lookup for each load balancer.

A pass takes as long as its lookups.  A pass that is due while another is under
way begins when that one ends, so no pass is lost.  A pass that is under way
when the token fires leaves nothing but the lookups that were begun.
-/

namespace Flotilla.Controllers.Service

open Std (ExtTreeSet)
open Time (Moment)

/-- The controller's name. -/
def name : String := "service"

/-- A lookup of the endpoints of a service. -/
structure Lookup where
  /-- The service. -/
  service : Kube.Service
  /-- When it begins. -/
  begun : Moment
  /-- When it ends. -/
  ended : Moment
  /-- The number of endpoints that accept traffic, if the answer can be read. -/
  ready : Option Nat
deriving Repr, DecidableEq

namespace Lookup

/-- The namespace and the selector of the lookup. -/
def target (l : Lookup) : String × String :=
  (l.service.identity.namespaceText, "kubernetes.io/service-name=" ++ l.service.identity.anyName)

/-- The line that tells of the lookup. -/
def line (cluster : String) (l : Lookup) : LogLine :=
  match l.ready with
  | some n => .debug s!"Service {l.service.key} in cluster {cluster} has {n} ready backend(s)"
  | none => .warn s!"Failed to list endpoints for service {l.service.key} in cluster {cluster}"

end Lookup

/-- What one pass has found. -/
structure Summary where
  /-- Load balancers that are new. -/
  added : List String
  /-- Load balancers that are gone. -/
  removed : List String
  /-- The number of load balancers. -/
  loadBalancers : Nat
  /-- The number of nodes that may back them. -/
  eligibleNodes : Nat
  /-- The number of endpoints behind them that accept traffic. -/
  readyBackends : Nat
  /-- The number of load balancers whose lookup cannot be read. -/
  unresolved : Nat
deriving Repr, DecidableEq

/-- One pass. -/
structure Pass where
  /-- When it begins. -/
  begun : Moment
  /-- When it ends. -/
  ended : Moment
  /-- Its lookups, in the order in which they begin. -/
  lookups : List Lookup
  /-- The keys of the load balancers. -/
  known : ExtTreeSet String
  /-- What it has found. -/
  summary : Summary

/-- The load balancers at a moment. -/
def balancersAt (t : Term) (m : Moment) : List Kube.Service :=
  (t.informers.servicesAt m).values.filter Kube.Service.isLoadBalancer

/-- The number of nodes that may back load balancers at a moment. -/
def eligibleAt (t : Term) (m : Moment) : Nat :=
  ((t.informers.nodesAt m).values.filter (Kube.Node.isEligible t.stableNodes)).length

/-- What the lookups of endpoints come to. -/
structure Inquiry where
  /-- How many may be under way at once; zero counts as one. -/
  workers : Nat
  /-- How long the lookup of a service takes. -/
  takes : Kube.Service → Nat
  /-- The number of endpoints that accept traffic, if the answer can be read. -/
  ready : Kube.Service → Option Nat

/-- What the lookups of a controller come to. -/
def inquiry (t : Term) : Inquiry where
  workers := t.workers
  takes _ := t.informers.world.lookupTakes
  ready := t.informers.world.ready?

/-- The lookup of a service that begins and ends at some moments. -/
def Inquiry.lookup (q : Inquiry) : Kube.Service × Moment × Moment → Lookup
  | (service, begun, ended) => { service, begun, ended, ready := q.ready service }

/-- The lookups for some services, begun at a moment. -/
def Inquiry.lookups (q : Inquiry) (m : Moment) (services : List Kube.Service) : List Lookup :=
  (services.zip (Lookups.schedule q.workers m (services.map q.takes))).map q.lookup

/-- What is found with these load balancers and lookups, when others were known. -/
def summarize (known current : ExtTreeSet String) (eligibleNodes : Nat) (lookups : List Lookup) :
    Summary :=
  { added := current.toList.filter fun key => !known.contains key
    removed := known.toList.filter fun key => !current.contains key
    loadBalancers := current.size
    eligibleNodes
    readyBackends := (lookups.filterMap (·.ready)).foldl (· + ·) 0
    unresolved := (lookups.filter fun l => l.ready.isNone).length }

/-- The pass over these load balancers that begins at a moment, when others were known. -/
def Inquiry.pass (q : Inquiry) (m : Moment) (known : ExtTreeSet String) (eligibleNodes : Nat)
    (balancers : List Kube.Service) : Pass :=
  let current := ExtTreeSet.ofList (balancers.map Kube.Service.key)
  let lookups := q.lookups m balancers
  { begun := m
    ended := Lookups.finish m (lookups.map fun l => (l.begun, l.ended))
    lookups
    known := current
    summary := summarize known current eligibleNodes lookups }

/-- The pass that begins at a moment, when these load balancers were known. -/
def passAt (t : Term) (m : Moment) (known : ExtTreeSet String) : Pass :=
  (inquiry t).pass m known (eligibleAt t m) (balancersAt t m)

/-- When both stores have their lists, unless one never has. -/
def since (t : Term) : Moment :=
  max (t.listedAt t.informers.world.services) (t.listedAt t.informers.world.nodes)

/-- Passes from number `k` on, at most `count` of them, when one ended at `free`.  The flag of a
pass tells whether it is completed. -/
def passesFrom (t : Term) : (count k : Nat) → (free : Moment) → (known : ExtTreeSet String) →
    List (Pass × Bool)
  | 0, _, _, _ => []
  | count + 1, k, free, known =>
    let m := max (t.due (since t) k) free
    if t.stoppedBy m then []
    else
      let pass := passAt t m known
      if t.stoppedBy pass.ended then [(pass, false)]
      else (pass, true) :: passesFrom t count (k + 1) pass.ended pass.known

/-- How the wait for the stores ends. -/
def wait (t : Term) : Wait :=
  Term.waitBoth (t.listedAt t.informers.world.services) (t.waitFor t.informers.world.services)
    (t.waitFor t.informers.world.nodes)

/-- The passes that are due by a moment. -/
def passes (t : Term) (horizon : Moment) : List (Pass × Bool) :=
  match wait t with
  | .ready => passesFrom t (t.dueBy (since t) horizon) 0 (since t) ∅
  | _ => []

/-- The lines that tell of a completed pass, but for those of its lookups. -/
def Summary.lines (cluster : String) (s : Summary) : List LogLine :=
  s.added.map (fun key => .info s!"LoadBalancer service {key} appeared in cluster {cluster}") ++
    s.removed.map (fun key =>
      .info s!"LoadBalancer service {key} disappeared from cluster {cluster}") ++
    [.debug (s!"Cluster {cluster}: {s.loadBalancers} load balancer(s), " ++
      s!"{s.eligibleNodes} eligible node(s), {s.readyBackends} ready backend(s), " ++
      s!"{s.unresolved} unresolved")]

/-- The lines that tell of the lookups of a pass, in ascending order. -/
def Pass.lookupLines (cluster : String) (pass : Pass) : List LogLine :=
  (pass.lookups.map (Lookup.line cluster)).mergeSort fun a b => a.render ≤ b.render

/-- What a completed pass does.  The lines of its lookups come first, if they are wanted. -/
def passEffects (t : Term) (withLookups : Bool) (pass : Pass) : Activity :=
  let lines :=
    (if withLookups then pass.lookupLines t.cluster else []) ++ pass.summary.lines t.cluster
  lines.map (fun line => (pass.ended, .log line)) ++
    [(pass.ended, .sync), (pass.ended, .objects pass.summary.loadBalancers)]

/-- What the controller does by a moment, with the lines of its lookups or without them. -/
def run (t : Term) (withLookups : Bool) (horizon : Moment) : Activity :=
  let starting : Activity :=
    [(t.start, .log (.info (s!"Starting service controller for cluster {t.cluster} ({t.server}) " ++
      s!"with {t.workers} workers")))]
  let activity :=
    match wait t with
    | .ready =>
      (passes t horizon).flatMap
          (fun (pass, completed) => if completed then passEffects t withLookups pass else []) ++
        t.leave .ready (.info s!"Stopping service controller for cluster {t.cluster}")
    | w =>
      t.leave w (.info s!"Service controller for cluster {t.cluster} stopped before caches synced")
  (starting ++ activity).upTo horizon

/-- The lookups begun by a moment. -/
def lookupsBegun (t : Term) (horizon : Moment) : List Lookup :=
  ((passes t horizon).flatMap fun (pass, _) => pass.lookups).filter fun l =>
    l.begun ≤ horizon && !t.stoppedBy l.begun

end Flotilla.Controllers.Service
