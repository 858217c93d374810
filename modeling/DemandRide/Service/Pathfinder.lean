import DemandRide.Road.Search
import DemandRide.Service.Notice
import DemandRide.Session

/-! Answering path queries. A pathfinder may keep a state from one query to the next, which
its owner hands on. The free-speed pathfinder keeps the labels and the queue of its last
search and clears them before the next. -/
namespace DemandRide

/-- Answers path queries between links. -/
structure Pathfinder (σ α : Type) where
  find : PathQuery α → Session σ (Notice α) PathError (DirectPath α)

namespace Pathfinder

variable {σ α : Type}

/-- Answer every query alike. -/
def constant (path : DirectPath α) : Pathfinder Unit α := ⟨fun _ => pure path⟩

/-- The same answers, with every query kept in the state, the last one first. -/
def recorded (finder : Pathfinder σ α) : Pathfinder (σ × List (PathQuery α)) α :=
  ⟨fun query => ⟨fun (s, asked) =>
    let reached := (finder.find query).run s
    ⟨reached.result, (reached.state, query :: asked), reached.notices⟩⟩⟩

variable [Scalar α]

/-- The link of this identifier. -/
def known (network : Network α) (id : LinkId) :
    Session (Search α) (Notice α) PathError (Link α) :=
  match network.link? id with
  | some link => pure link
  | none => Session.fail (.unknownLink id)

/-- Search for the path between two different links and keep the search. -/
def answer (network : Network α) (query : PathQuery α) (origin destination : Link α) :
    Session (Search α) (Notice α) PathError (DirectPath α) := do
  let used ← Session.get
  let (finding, search) := Search.between network used origin.target destination.source
  Session.put search
  match finding with
  | .label inner =>
    let path : DirectPath α :=
      ⟨1 + inner.time + destination.travelTime, inner.distance + destination.length⟩
    Session.note (.pathFound query path)
    return path
  | _ => Session.fail (.noPath query.origin query.destination)

/-- Least times over a network with every link passed at free speed. A vehicle starts at the
end of the first link: leaving it takes one second, and its length does not count. The last
link counts in full, and the way from a link to itself is the one second alone. -/
def freeSpeed (network : Network α) : Pathfinder (Search α) α :=
  ⟨fun query => do
    let origin ← known network query.origin
    let destination ← known network query.destination
    if query.origin = query.destination then return ⟨1, 0⟩
    else answer network query origin destination⟩

end Pathfinder

end DemandRide
