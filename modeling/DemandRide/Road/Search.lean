import DemandRide.Road.Network

/-! The least-time search between nodes. Nodes are labelled with the best time and distance
found so far and are taken from a queue in the order of (time, node identifier). An entry is
stale if its node has since been labelled with less. Only a strictly smaller time replaces a
label, so the search never returns to a node it has expanded unless a link takes negative
time. The search is a chain of steps; the fuel of a run is computed from the number of links,
as every link enqueues at most one entry. -/
namespace DemandRide

/-- The best way to a node found so far. -/
structure Label (α : Type) where
  time : α
  distance : α
deriving DecidableEq, Repr

/-- A node to be looked at, with the time it was labelled with when it was enqueued. -/
structure QueueEntry (α : Type) where
  time : α
  node : NodeId
deriving DecidableEq, Repr

structure Search (α : Type) where
  labels : Std.TreeMap NodeId (Label α)
  /-- The entries that remain, the next one first. -/
  queue : List (QueueEntry α)

/-- How far a step has taken a search. -/
inductive Search.Progress (α : Type) where
  /-- The target was next in the queue. -/
  | arrived (label : Label α) (search : Search α)
  /-- The queue was empty. -/
  | exhausted (search : Search α)
  | ongoing (search : Search α)

/-- What a run has found. -/
inductive Search.Finding (α : Type) where
  | label (label : Label α)
  | unreachable
  /-- The fuel did not suffice. -/
  | unfinished
deriving DecidableEq, Repr

section

variable {α : Type} [Scalar α]

/-- Whether an entry leaves the queue before another. -/
def QueueEntry.precedes (a b : QueueEntry α) : Bool :=
  match Scalar.rank a.time b.time with
  | .lt => true
  | .gt => false
  | .eq => (compare a.node b.node).isLT

/-- Put an entry in its place, after the entries it does not precede. -/
def QueueEntry.insert (entry : QueueEntry α) : List (QueueEntry α) → List (QueueEntry α)
  | [] => [entry]
  | head :: rest =>
    if entry.precedes head then entry :: head :: rest else head :: entry.insert rest

end

namespace Search

variable {α : Type}

/-- Nothing labelled, nothing to look at. -/
def empty : Search α := ⟨∅, []⟩

variable [Scalar α]

/-- Forget what was searched before. -/
def clear (search : Search α) : Search α := { search with labels := ∅, queue := [] }

/-- Label `source` with no time and no distance and enqueue it. -/
def enter (search : Search α) (source : NodeId) : Search α :=
  ⟨search.labels.insert source ⟨0, 0⟩, QueueEntry.insert ⟨0, source⟩ search.queue⟩

/-- Only `source` is labelled and to be looked at. -/
def start (source : NodeId) : Search α where
  labels := (∅ : Std.TreeMap NodeId (Label α)).insert source ⟨0, 0⟩
  queue := [⟨0, source⟩]

/-- A search that is cleared begins as one that was never used. -/
@[simp] theorem enter_clear (search : Search α) (source : NodeId) :
    search.clear.enter source = start source := rfl

/-- Whether a time is better than what a node is labelled with. -/
def improves (search : Search α) (node : NodeId) (time : α) : Bool :=
  match search.labels[node]? with
  | none => true
  | some label => Scalar.lt time label.time

/-- Label a node and enqueue it if that is an improvement. -/
def improve (search : Search α) (node : NodeId) (label : Label α) : Search α :=
  if search.improves node label.time then
    ⟨search.labels.insert node label, QueueEntry.insert ⟨label.time, node⟩ search.queue⟩
  else search

/-- Follow one link out of a node with this label. -/
def follow (network : Network α) (label : Label α) (search : Search α) (id : LinkId) : Search α :=
  match network.link? id with
  | none => search
  | some link =>
    search.improve link.target ⟨label.time + link.travelTime, label.distance + link.length⟩

/-- Follow every link out of a node. -/
def expand (network : Network α) (search : Search α) (node : NodeId) (label : Label α) :
    Search α :=
  (network.linksFrom node).foldl (follow network label) search

/-- Take the next entry from the queue and expand its node, unless the entry is stale or the
node is the target. -/
def step (network : Network α) (target : NodeId) (search : Search α) : Progress α :=
  match search.queue with
  | [] => .exhausted search
  | entry :: rest =>
    let search : Search α := { search with queue := rest }
    match search.labels[entry.node]? with
    | none => .ongoing search
    | some label =>
      if Scalar.lt label.time entry.time then .ongoing search
      else if entry.node = target then .arrived label search
      else .ongoing (search.expand network entry.node label)

/-- Take steps until the search is over or the fuel is used up. -/
def run (network : Network α) (target : NodeId) : Nat → Search α → Finding α × Search α
  | 0, search => (.unfinished, search)
  | fuel + 1, search =>
    match search.step network target with
    | .arrived label search => (.label label, search)
    | .exhausted search => (.unreachable, search)
    | .ongoing search => run network target fuel search

/-- The number of steps that any search of the network can take. -/
def stepBound (network : Network α) : Nat := network.linkCount + 2

/-- Search from `source` to `target`, with a search that may have been used before. -/
def between (network : Network α) (search : Search α) (source target : NodeId) :
    Finding α × Search α :=
  run network target (stepBound network) (search.clear.enter source)

end Search

end DemandRide
