import DemandRide.Proofs.Number.Ordered
import DemandRide.Road.Network
import Mathlib.Data.List.Perm.Subperm
import Mathlib.Data.Option.Basic
import Mathlib.Logic.Relation

/-! Networks as they are built. Every network starts empty and grows by one node or link at a
time; an addition that is refused is none. What later proofs need of a network is an invariant
of these additions: a link is only added between nodes that are there, it is kept with the links
out of its source, and nothing that is there is ever taken away. -/
namespace DemandRide.Network

variable {α : Type}

@[simp] theorem link?_empty (id : LinkId) : (empty : Network α).link? id = none := by
  simp [link?, empty]

@[simp] theorem linksFrom_empty (node : NodeId) : (empty : Network α).linksFrom node = [] := by
  simp [linksFrom, empty]

theorem mem_linkList_iff {network : Network α} {link : Link α} :
    link ∈ network.linkList ↔ ∃ id, network.link? id = some link := by
  simp only [linkList, link?, List.mem_map, Prod.exists, exists_eq_right,
    Std.TreeMap.mem_toList_iff_getElem?_eq_some]

theorem length_linkList (network : Network α) : network.linkList.length = network.linkCount := by
  simp [linkList, linkCount]

/-- Networks that have the same links list them in the same order. -/
theorem linkList_congr {network other : Network α}
    (hLinks : ∀ id, other.link? id = network.link? id) : other.linkList = network.linkList :=
  congrArg (List.map Prod.snd) (Std.TreeMap.Equiv.of_forall_constGet?_eq hLinks).toList_eq

/-- A node is accepted exactly if its identifier is free. -/
theorem addNode_eq_ok_iff {network grown : Network α} {id : NodeId} {point : Point α} :
    network.addNode id point = .ok grown ↔
      network.node? id = none ∧
        grown = { network with nodes := network.nodes.insert id point } := by
  have hContains : network.nodes.contains id = (network.node? id).isSome :=
    Std.TreeMap.contains_eq_isSome_getElem?
  unfold addNode
  rw [hContains]
  cases network.node? id <;> simp [eq_comm]

/-- A location is found on a network if it has a point or its link is there. -/
def Locates (network : Network α) (location : Location α) : Prop :=
  network.link? location.link = none → location.point.isSome

theorem locates_of_known {network : Network α} {place : Location α}
    (hPlace : (network.link? place.link).isSome) : network.Locates place :=
  fun hNone => by simp [hNone] at hPlace

/-- Whether the measures of a link can be used to pass it. -/
def Measured [Scalar α] (link : Link α) : Prop :=
  (Scalar.isNaN link.length || Scalar.lt link.length 0) = false ∧
    (Scalar.isNaN link.freeSpeed || Scalar.le link.freeSpeed 0) = false

/-- A link is accepted exactly if its identifier is free, its ends are there and its measures
are sound. -/
theorem addLink_eq_ok_iff [Scalar α] {network grown : Network α} {link : Link α} :
    network.addLink link = .ok grown ↔
      network.link? link.id = none ∧ (network.node? link.source).isSome ∧
        (network.node? link.target).isSome ∧ Measured link ∧
        grown = { network with
          links := network.links.insert link.id link
          outgoing := network.outgoing.insert link.source
            (network.linksFrom link.source ++ [link.id]) } := by
  have hLink : network.links.contains link.id = (network.link? link.id).isSome :=
    Std.TreeMap.contains_eq_isSome_getElem?
  have hNode (id : NodeId) : network.nodes.contains id = (network.node? id).isSome :=
    Std.TreeMap.contains_eq_isSome_getElem?
  unfold addLink Measured
  rw [hLink, hNode, hNode]
  cases network.link? link.id <;> cases (network.node? link.source).isSome <;>
    cases (network.node? link.target).isSome <;>
    cases (Scalar.isNaN link.length || Scalar.lt link.length 0) <;>
    cases (Scalar.isNaN link.freeSpeed || Scalar.le link.freeSpeed 0) <;> simp [eq_comm]

section Growth

variable {network grown : Network α}

theorem node?_addNode {id : NodeId} {point : Point α} (hAdd : network.addNode id point = .ok grown)
    (other : NodeId) :
    grown.node? other = if id = other then some point else network.node? other := by
  obtain ⟨-, rfl⟩ := addNode_eq_ok_iff.mp hAdd
  simp only [node?, Std.TreeMap.getElem?_insert, Std.LawfulEqCmp.compare_eq_iff_eq]

theorem link?_addNode {id : NodeId} {point : Point α} (hAdd : network.addNode id point = .ok grown)
    (other : LinkId) : grown.link? other = network.link? other := by
  obtain ⟨-, rfl⟩ := addNode_eq_ok_iff.mp hAdd
  rfl

theorem linksFrom_addNode {id : NodeId} {point : Point α}
    (hAdd : network.addNode id point = .ok grown) (node : NodeId) :
    grown.linksFrom node = network.linksFrom node := by
  obtain ⟨-, rfl⟩ := addNode_eq_ok_iff.mp hAdd
  rfl

/-- A node that is there stays there when another is added. -/
theorem isSome_node?_addNode {id : NodeId} {point : Point α}
    (hAdd : network.addNode id point = .ok grown) {other : NodeId}
    (hThere : (network.node? other).isSome) : (grown.node? other).isSome := by
  rw [node?_addNode hAdd]
  split
  · rfl
  · exact hThere

variable [Scalar α]

theorem node?_addLink {link : Link α} (hAdd : network.addLink link = .ok grown) (other : NodeId) :
    grown.node? other = network.node? other := by
  obtain ⟨-, -, -, -, rfl⟩ := addLink_eq_ok_iff.mp hAdd
  rfl

theorem link?_addLink {link : Link α} (hAdd : network.addLink link = .ok grown) (other : LinkId) :
    grown.link? other = if link.id = other then some link else network.link? other := by
  obtain ⟨-, -, -, -, rfl⟩ := addLink_eq_ok_iff.mp hAdd
  simp only [link?, Std.TreeMap.getElem?_insert, Std.LawfulEqCmp.compare_eq_iff_eq]

/-- A link that is added is the last of the links out of its source. -/
theorem linksFrom_addLink {link : Link α} (hAdd : network.addLink link = .ok grown)
    (node : NodeId) :
    grown.linksFrom node =
      if link.source = node then network.linksFrom node ++ [link.id] else network.linksFrom node := by
  obtain ⟨-, -, -, -, rfl⟩ := addLink_eq_ok_iff.mp hAdd
  simp only [linksFrom, Std.TreeMap.getD_insert, Std.LawfulEqCmp.compare_eq_iff_eq]
  split
  · next h => rw [h]
  · rfl

end Growth

variable [Scalar α]

/-- The networks that can be built. -/
inductive Built : Network α → Prop where
  | empty : Built empty
  | addNode {network grown : Network α} {id : NodeId} {point : Point α} (prior : Built network)
      (hAdd : network.addNode id point = .ok grown) : Built grown
  | addLink {network grown : Network α} {link : Link α} (prior : Built network)
      (hAdd : network.addLink link = .ok grown) : Built grown

/-- Both ends of every link are there. -/
theorem Built.ends {network : Network α} (built : Built network) {id : LinkId} {link : Link α}
    (hLink : network.link? id = some link) :
    (network.node? link.source).isSome ∧ (network.node? link.target).isSome := by
  induction built with
  | empty => simp at hLink
  | addNode prior hAdd ih =>
      rw [link?_addNode hAdd] at hLink
      obtain ⟨hSource, hTarget⟩ := ih hLink
      exact ⟨isSome_node?_addNode hAdd hSource, isSome_node?_addNode hAdd hTarget⟩
  | addLink prior hAdd ih =>
      rw [node?_addLink hAdd, node?_addLink hAdd]
      rw [link?_addLink hAdd] at hLink
      split at hLink
      · cases hLink
        obtain ⟨-, hSource, hTarget, -⟩ := addLink_eq_ok_iff.mp hAdd
        exact ⟨hSource, hTarget⟩
      · exact ih hLink

/-- A link that is there has a point. -/
theorem Built.exists_linkPoint {network : Network α} (built : Built network) {id : LinkId}
    {link : Link α} (hLink : network.link? id = some link) :
    ∃ point, network.linkPoint id = .ok point := by
  obtain ⟨hSource, hTarget⟩ := built.ends hLink
  obtain ⟨source, hSource⟩ := Option.isSome_iff_exists.mp hSource
  obtain ⟨target, hTarget⟩ := Option.isSome_iff_exists.mp hTarget
  exact ⟨source.midpoint target, by simp [linkPoint, hLink, hSource, hTarget]⟩

/-- A link that is not there is named when its point is looked up. -/
theorem linkPoint_of_unknown {network : Network α} {id : LinkId}
    (hUnknown : network.link? id = none) : network.linkPoint id = .error (.unknownLink id) := by
  simp [linkPoint, hUnknown]

theorem Built.exists_linkPoint_iff {network : Network α} (built : Built network) {id : LinkId} :
    (∃ point, network.linkPoint id = .ok point) ↔ (network.link? id).isSome := by
  constructor
  · rintro ⟨point, hPoint⟩
    cases hLink : network.link? id with
    | none => simp [linkPoint_of_unknown hLink] at hPoint
    | some link => rfl
  · intro hKnown
    obtain ⟨link, hLink⟩ := Option.isSome_iff_exists.mp hKnown
    exact built.exists_linkPoint hLink

theorem Built.exists_resolve_iff {network : Network α} (built : Built network)
    {location : Location α} :
    (∃ point, network.resolve location = .ok point) ↔ network.Locates location := by
  unfold resolve Locates
  cases location.point with
  | none => simp [built.exists_linkPoint_iff, Option.isSome_iff_ne_none]
  | some point => simp

section Links

variable {network : Network α}

/-- A link is found under its own identifier and has sound measures. -/
theorem Built.link?_sound (built : network.Built) {id : LinkId} {link : Link α}
    (hLink : network.link? id = some link) : link.id = id ∧ Measured link := by
  induction built with
  | empty => simp at hLink
  | addNode prior hAdd ih =>
      rw [link?_addNode hAdd] at hLink
      exact ih hLink
  | addLink prior hAdd ih =>
      rw [link?_addLink hAdd] at hLink
      split at hLink
      · next hId =>
          cases hLink
          obtain ⟨-, -, -, hMeasured, -⟩ := addLink_eq_ok_iff.mp hAdd
          exact ⟨hId, hMeasured⟩
      · exact ih hLink

/-- All links are listed in the order of their identifiers, each of them once. -/
theorem Built.increasing_linkList (built : network.Built) :
    network.linkList.Pairwise fun link other => compare link.id other.id = .lt := by
  refine List.pairwise_map.mpr (Std.TreeMap.ordered_keys_toList.imp_of_mem ?_)
  intro entry other hEntry hOther hBefore
  rw [(built.link?_sound (Std.TreeMap.mem_toList_iff_getElem?_eq_some.mp hEntry)).1,
    (built.link?_sound (Std.TreeMap.mem_toList_iff_getElem?_eq_some.mp hOther)).1]
  exact hBefore

/-- The links out of a node are the links that have it as their source. -/
theorem Built.mem_linksFrom_iff (built : network.Built) {id : LinkId} {node : NodeId} :
    id ∈ network.linksFrom node ↔ ∃ link, network.link? id = some link ∧ link.source = node := by
  induction built with
  | empty => simp
  | addNode prior hAdd ih =>
      rw [linksFrom_addNode hAdd, link?_addNode hAdd]
      exact ih
  | @addLink network grown link prior hAdd ih =>
      obtain ⟨hFree, -⟩ := addLink_eq_ok_iff.mp hAdd
      rw [linksFrom_addLink hAdd, link?_addLink hAdd]
      by_cases hId : link.id = id
      · subst hId
        simp only [if_true, Option.some.injEq, exists_eq_left']
        rw [hFree] at ih
        split <;> simp_all
      · rw [if_neg hId, ← ih]
        split <;> simp [Ne.symm hId]

theorem Built.nodup_linksFrom (built : network.Built) (node : NodeId) :
    (network.linksFrom node).Nodup := by
  induction built with
  | empty => simp
  | addNode prior hAdd ih =>
      rw [linksFrom_addNode hAdd]
      exact ih
  | @addLink network grown link prior hAdd ih =>
      obtain ⟨hFree, -⟩ := addLink_eq_ok_iff.mp hAdd
      rw [linksFrom_addLink hAdd]
      split
      · refine List.nodup_append.mpr ⟨ih, List.pairwise_singleton _ _, ?_⟩
        rintro id hId _ hLast rfl
        cases List.mem_singleton.mp hLast
        obtain ⟨other, hOther, -⟩ := prior.mem_linksFrom_iff.mp hId
        cases hFree.symm.trans hOther
      · exact ih

/-- No node has more links out of it than the network has with it as their source. -/
theorem Built.length_linksFrom_le (built : network.Built) (node : NodeId) :
    (network.linksFrom node).length ≤
      (network.linkList.filter fun link => link.source = node).length := by
  have hSubset : network.linksFrom node ⊆
      (network.linkList.filter fun link => link.source = node).map Link.id := by
    intro id hId
    obtain ⟨link, hLink, hSource⟩ := built.mem_linksFrom_iff.mp hId
    refine List.mem_map.mpr ⟨link, List.mem_filter.mpr ⟨mem_linkList_iff.mpr ⟨id, hLink⟩, ?_⟩,
      (built.link?_sound hLink).1⟩
    simpa using hSource
  have hLength := ((built.nodup_linksFrom node).subperm hSubset).length_le
  rwa [List.length_map] at hLength

/-- What is built by additions one after the other has been built one addition at a time. -/
theorem built_of_foldlM {β : Type} {add : Network α → β → Except NetworkError (Network α)}
    (hAdd : ∀ prior item grown, Built prior → add prior item = .ok grown → Built grown)
    {items : List β} {start : Network α} (hStart : Built start)
    (hItems : items.foldlM add start = .ok network) : network.Built := by
  induction items generalizing start with
  | nil =>
      cases hItems
      exact hStart
  | cons item rest ih =>
      rw [List.foldlM_cons] at hItems
      cases hItem : add start item with
      | error e =>
          rw [hItem] at hItems
          cases hItems
      | ok next =>
          rw [hItem] at hItems
          exact ih (hAdd _ _ _ hStart hItem) hItems

theorem built_of_build {plan : NetworkPlan α} (hBuild : plan.build = .ok network) :
    network.Built := by
  unfold NetworkPlan.build at hBuild
  cases hNodes : plan.nodes.foldlM (fun network node => network.addNode node.id node.point)
      Network.empty with
  | error e =>
      rw [hNodes] at hBuild
      cases hBuild
  | ok withNodes =>
      rw [hNodes] at hBuild
      have hWithNodes : withNodes.Built :=
        built_of_foldlM (fun _ _ _ prior hAdd => prior.addNode hAdd) .empty hNodes
      exact built_of_foldlM (fun _ _ _ prior hAdd => prior.addLink hAdd) hWithNodes hBuild

/-- One node can be reached from another along links. -/
def Reaches (network : Network α) : NodeId → NodeId → Prop :=
  Relation.ReflTransGen fun source target =>
    ∃ id link, network.link? id = some link ∧ link.source = source ∧ link.target = target

/-- It does not take negative time to pass a link. -/
theorem not_travelTime_lt_zero [OrderedScalar α] {link : Link α} (h : Measured link) :
    Scalar.lt link.travelTime 0 = false := by
  obtain ⟨hLength, hSpeed⟩ := h
  rw [Bool.or_eq_false_iff] at hLength hSpeed
  exact OrderedScalar.not_div_lt_zero hLength.2
    (OrderedScalar.zero_lt_of_le_false hSpeed.1 hSpeed.2)

end Links

end DemandRide.Network
