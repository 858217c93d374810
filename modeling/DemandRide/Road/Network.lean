import DemandRide.Place
import Std.Data.TreeMap

/-! Directed road networks. Nodes and links are only ever added, a link only between nodes
that are there, and beside them the network keeps for each node the links that leave it in
the order in which they were added. -/
namespace DemandRide

/-- A directed link between two nodes. -/
structure Link (α : Type) where
  id : LinkId
  source : NodeId
  target : NodeId
  /-- Metres. -/
  length : α
  /-- Metres per second. -/
  freeSpeed : α
deriving DecidableEq, Repr

/-- The time it takes to pass the link at free speed. -/
def Link.travelTime {α : Type} [Scalar α] (link : Link α) : α := link.length / link.freeSpeed

/-- What is wrong with the measures of a link. -/
inductive LinkFault where
  | negativeLength
  | nonPositiveFreeSpeed
deriving DecidableEq, Repr

inductive NetworkError where
  | unknownLink (id : LinkId)
  | unknownNode (id : NodeId)
  | duplicateNode (id : NodeId)
  | duplicateLink (id : LinkId)
  | invalidLink (id : LinkId) (fault : LinkFault)
deriving DecidableEq, Repr

def LinkFault.message : LinkFault → String
  | .negativeLength => "length must be non-negative"
  | .nonPositiveFreeSpeed => "free speed must be positive"

def NetworkError.message : NetworkError → String
  | .unknownLink id => "unknown link " ++ id.text
  | .unknownNode id => "unknown node " ++ id.text
  | .duplicateNode id => "duplicate node " ++ id.text
  | .duplicateLink id => "duplicate link " ++ id.text
  | .invalidLink id fault => "invalid link " ++ id.text ++ ": " ++ fault.message

structure Network (α : Type) where
  nodes : Std.TreeMap NodeId (Point α)
  links : Std.TreeMap LinkId (Link α)
  /-- The links that leave each node, in the order in which they were added. -/
  outgoing : Std.TreeMap NodeId (List LinkId)

namespace Network

variable {α : Type}

def empty : Network α := ⟨∅, ∅, ∅⟩

def link? (network : Network α) (id : LinkId) : Option (Link α) := network.links[id]?

def node? (network : Network α) (id : NodeId) : Option (Point α) := network.nodes[id]?

/-- The links that leave a node. -/
def linksFrom (network : Network α) (id : NodeId) : List LinkId := network.outgoing.getD id []

/-- All links in the order of their identifiers. -/
def linkList (network : Network α) : List (Link α) := network.links.toList.map Prod.snd

def nodeCount (network : Network α) : Nat := network.nodes.size

def linkCount (network : Network α) : Nat := network.links.size

/-- Add a node that is not there yet. -/
def addNode (network : Network α) (id : NodeId) (point : Point α) :
    Except NetworkError (Network α) :=
  if network.nodes.contains id then .error (.duplicateNode id)
  else .ok { network with nodes := network.nodes.insert id point }

variable [Scalar α]

/-- Add a link that is not there yet, between nodes that are. Of several faults the first in
this order is named: the link is known, its source is unknown, its target is unknown, its
length is negative, its free speed is not positive. -/
def addLink (network : Network α) (link : Link α) : Except NetworkError (Network α) :=
  if network.links.contains link.id then .error (.duplicateLink link.id)
  else if !network.nodes.contains link.source then .error (.unknownNode link.source)
  else if !network.nodes.contains link.target then .error (.unknownNode link.target)
  else if Scalar.isNaN link.length || Scalar.lt link.length 0 then
    .error (.invalidLink link.id .negativeLength)
  else if Scalar.isNaN link.freeSpeed || Scalar.le link.freeSpeed 0 then
    .error (.invalidLink link.id .nonPositiveFreeSpeed)
  else
    .ok { network with
      links := network.links.insert link.id link
      outgoing := network.outgoing.insert link.source
        (network.linksFrom link.source ++ [link.id]) }

/-- The point that stands for a link: the midpoint of its nodes. -/
def linkPoint (network : Network α) (id : LinkId) : Except NetworkError (Point α) :=
  match network.link? id with
  | none => .error (.unknownLink id)
  | some link =>
    match network.node? link.source, network.node? link.target with
    | none, _ => .error (.unknownNode link.source)
    | _, none => .error (.unknownNode link.target)
    | some source, some target => .ok (source.midpoint target)

/-- The point of a location: its own, or that of its link. A location with a point of its own
is not looked up. -/
def resolve (network : Network α) (location : Location α) : Except NetworkError (Point α) :=
  match location.point with
  | some point => .ok point
  | none => network.linkPoint location.link

end Network

/-- A node as it is declared. -/
structure Node (α : Type) where
  id : NodeId
  point : Point α
deriving DecidableEq, Repr

/-- A network as it is declared, in any order and not yet checked. -/
structure NetworkPlan (α : Type) where
  nodes : List (Node α)
  links : List (Link α)
deriving DecidableEq, Repr

/-- Add the declared nodes and then the declared links, up to the first that is refused. -/
def NetworkPlan.build {α : Type} [Scalar α] (plan : NetworkPlan α) :
    Except NetworkError (Network α) := do
  let network ← plan.nodes.foldlM (fun network node => network.addNode node.id node.point)
    Network.empty
  plan.links.foldlM Network.addLink network

end DemandRide
