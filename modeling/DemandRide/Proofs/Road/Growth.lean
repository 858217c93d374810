import DemandRide.Proofs.Number.RoundedOrder
import DemandRide.Proofs.Road.Network

/-! How networks grow. A network is asked for one addition after the other and refuses some of
them; it then is what it would be had only the others been asked for. Its nodes, its links and the
lists of links out of each node are read off the additions that were accepted. -/
namespace DemandRide.Network

variable {α : Type}

/-- What a network may be asked to add. -/
inductive Addition (α : Type) where
  | node (node : Node α)
  | link (link : Link α)
deriving DecidableEq, Repr

/-- The identifier of the link that is added, if it leaves this node. -/
def leaving? (node : NodeId) : Addition α → Option LinkId
  | .node _ => none
  | .link link => if link.source = node then some link.id else none

/-- What a network keeps of the additions it has accepted. -/
structure Keeps (taken : List (Addition α)) (network : Network α) : Prop where
  node?_iff : ∀ id point, network.node? id = some point ↔ .node ⟨id, point⟩ ∈ taken
  link?_iff : ∀ id link, network.link? id = some link ↔ link.id = id ∧ .link link ∈ taken
  linksFrom_eq : ∀ node, network.linksFrom node = taken.filterMap (leaving? node)

variable {network grown : Network α} {taken : List (Addition α)}

theorem keeps_empty : Keeps [] (empty : Network α) := by
  constructor
  · simp [node?, empty]
  · simp
  · simp

theorem Keeps.addNode (h : Keeps taken network) {node : Node α}
    (hAdd : network.addNode node.id node.point = .ok grown) :
    Keeps (taken ++ [.node node]) grown := by
  obtain ⟨id, point⟩ := node
  obtain ⟨hFree, -⟩ := addNode_eq_ok_iff.mp hAdd
  constructor
  · intro other found
    rw [node?_addNode hAdd, List.mem_append, ← h.node?_iff]
    by_cases hSame : id = other
    · subst hSame
      simp [hFree, eq_comm]
    · simp [hSame, Ne.symm hSame]
  · intro other link
    simp [link?_addNode hAdd, h.link?_iff]
  · intro other
    simp [linksFrom_addNode hAdd, h.linksFrom_eq, leaving?]

variable [Scalar α]

/-- Make an addition or refuse it. -/
def add (network : Network α) : Addition α → Except NetworkError (Network α)
  | .node node => network.addNode node.id node.point
  | .link link => network.addLink link

/-- The network after an addition was asked for: what is refused leaves it as it was. -/
def attempt (network : Network α) (addition : Addition α) : Network α :=
  match network.add addition with
  | .ok grown => grown
  | .error _ => network

/-- The network after all these additions were asked for in turn. -/
def attemptAll (network : Network α) (additions : List (Addition α)) : Network α :=
  additions.foldl attempt network

/-- The addition by itself if it is accepted, or nothing. -/
def admitted (network : Network α) (addition : Addition α) : List (Addition α) :=
  match network.add addition with
  | .ok _ => [addition]
  | .error _ => []

/-- The additions that are accepted when all these are asked for in turn. -/
def accepted (network : Network α) : List (Addition α) → List (Addition α)
  | [] => []
  | addition :: rest => network.admitted addition ++ (network.attempt addition).accepted rest

section Histories

theorem attempt_of_error {addition : Addition α} {fault : NetworkError}
    (hAdd : network.add addition = .error fault) : network.attempt addition = network := by
  simp only [attempt, hAdd]

theorem attemptAll_append (network : Network α) (before after : List (Addition α)) :
    network.attemptAll (before ++ after) = (network.attemptAll before).attemptAll after :=
  List.foldl_append

theorem accepted_append (network : Network α) (before after : List (Addition α)) :
    network.accepted (before ++ after) =
      network.accepted before ++ (network.attemptAll before).accepted after := by
  induction before generalizing network with
  | nil => rfl
  | cons addition rest ih =>
      rw [List.cons_append, accepted, accepted, ih, List.append_assoc]
      rfl

/-- What is refused can be left out. -/
theorem attemptAll_admitted (network : Network α) (addition : Addition α) :
    network.attemptAll (network.admitted addition) = network.attempt addition := by
  cases hAdd : network.add addition <;> simp [admitted, attemptAll, attempt, hAdd]

theorem attemptAll_accepted (network : Network α) (additions : List (Addition α)) :
    network.attemptAll (network.accepted additions) = network.attemptAll additions := by
  induction additions generalizing network with
  | nil => rfl
  | cons addition rest ih =>
      rw [accepted, attemptAll_append, attemptAll_admitted, ih]
      rfl

theorem Keeps.addLink (h : Keeps taken network) {link : Link α}
    (hAdd : network.addLink link = .ok grown) : Keeps (taken ++ [.link link]) grown := by
  obtain ⟨hFree, -⟩ := addLink_eq_ok_iff.mp hAdd
  constructor
  · intro id point
    simp [node?_addLink hAdd, h.node?_iff]
  · intro id other
    rw [link?_addLink hAdd, List.mem_append, and_or_left, ← h.link?_iff]
    by_cases hSame : link.id = id
    · subst hSame
      simp [hFree, eq_comm]
      rintro rfl
      rfl
    · simp [hSame]
      rintro hId rfl
      exact absurd hId hSame
  · intro node
    rw [linksFrom_addLink hAdd, h.linksFrom_eq, List.filterMap_append]
    by_cases hSource : link.source = node <;> simp [leaving?, hSource]

theorem Keeps.attempt (h : Keeps taken network) (addition : Addition α) :
    Keeps (taken ++ network.admitted addition) (network.attempt addition) := by
  unfold admitted Network.attempt
  cases hAdd : network.add addition with
  | ok grown =>
      cases addition with
      | node node => exact h.addNode hAdd
      | link link => exact h.addLink hAdd
  | error fault => rwa [List.append_nil]

theorem Keeps.attemptAll (h : Keeps taken network) (additions : List (Addition α)) :
    Keeps (taken ++ network.accepted additions) (network.attemptAll additions) := by
  induction additions generalizing taken network with
  | nil => rwa [accepted, List.append_nil]
  | cons addition rest ih =>
      rw [accepted, ← List.append_assoc]
      exact ih (h.attempt addition)

/-- What a network keeps of a whole history is what was accepted of it. -/
theorem keeps_accepted (additions : List (Addition α)) :
    Keeps ((empty : Network α).accepted additions) (empty.attemptAll additions) :=
  keeps_empty.attemptAll additions

theorem Built.attempt (built : network.Built) (addition : Addition α) :
    (network.attempt addition).Built := by
  unfold Network.attempt
  cases hAdd : network.add addition with
  | ok grown =>
      cases addition with
      | node node => exact built.addNode hAdd
      | link link => exact built.addLink hAdd
  | error fault => exact built

theorem Built.attemptAll (built : network.Built) (additions : List (Addition α)) :
    (network.attemptAll additions).Built := by
  induction additions generalizing network with
  | nil => exact built
  | cons addition rest ih => exact ih (built.attempt addition)

/-- Everything that holds of a network after it was asked for these additions in turn. -/
structure Faithful (additions : List (Addition α)) : Prop where
  /-- What is refused changes nothing, then or later. -/
  refused : ∀ before addition after fault, additions = before ++ addition :: after →
    (empty.attemptAll before).add addition = .error fault →
      empty.attemptAll additions = empty.attemptAll (before ++ after)
  replayed : empty.attemptAll additions = empty.attemptAll (empty.accepted additions)
  /-- What is accepted at any time is stored in the end, as it was accepted, and nothing else is. -/
  stored_node : ∀ id point, (empty.attemptAll additions).node? id = some point ↔
    .node ⟨id, point⟩ ∈ empty.accepted additions
  stored_link : ∀ id link, (empty.attemptAll additions).link? id = some link ↔
    link.id = id ∧ .link link ∈ empty.accepted additions
  kept_node : ∀ before after id point, additions = before ++ after →
    (empty.attemptAll before).node? id = some point →
      (empty.attemptAll additions).node? id = some point
  kept_link : ∀ before after id link, additions = before ++ after →
    (empty.attemptAll before).link? id = some link →
      (empty.attemptAll additions).link? id = some link
  /-- Both ends of every link are there, so the midpoint of its ends is its point. -/
  ends : ∀ id link, (empty.attemptAll additions).link? id = some link →
    ∃ source target, (empty.attemptAll additions).node? link.source = some source ∧
      (empty.attemptAll additions).node? link.target = some target ∧
      (empty.attemptAll additions).linkPoint id = .ok (source.midpoint target)
  unknown : ∀ id, (empty.attemptAll additions).link? id = none →
    (empty.attemptAll additions).linkPoint id = .error (.unknownLink id)
  /-- The links out of a node stand in the order in which they were accepted, each once. -/
  linksFrom_eq : ∀ node, (empty.attemptAll additions).linksFrom node =
    (empty.accepted additions).filterMap (leaving? node)
  mem_linksFrom_iff : ∀ node id, id ∈ (empty.attemptAll additions).linksFrom node ↔
    ∃ link, (empty.attemptAll additions).link? id = some link ∧ link.source = node
  nodup_linksFrom : ∀ node, ((empty.attemptAll additions).linksFrom node).Nodup

theorem faithful (additions : List (Addition α)) : Faithful additions := by
  have hKeeps := keeps_accepted additions
  have built := Built.empty.attemptAll additions
  constructor
  case refused =>
    rintro before addition after fault rfl hAdd
    rw [attemptAll_append, attemptAll_append]
    exact congrArg (attemptAll · after) (attempt_of_error hAdd)
  case replayed => exact (attemptAll_accepted empty additions).symm
  case stored_node => exact hKeeps.node?_iff
  case stored_link => exact hKeeps.link?_iff
  case kept_node =>
    rintro before after id point rfl hBefore
    rw [hKeeps.node?_iff, accepted_append]
    exact List.mem_append_left _ (((keeps_accepted before).node?_iff id point).mp hBefore)
  case kept_link =>
    rintro before after id link rfl hBefore
    obtain ⟨hId, hBefore⟩ := ((keeps_accepted before).link?_iff id link).mp hBefore
    rw [hKeeps.link?_iff, accepted_append]
    exact ⟨hId, List.mem_append_left _ hBefore⟩
  case ends =>
    intro id link hLink
    obtain ⟨hSource, hTarget⟩ := built.ends hLink
    obtain ⟨source, hSource⟩ := Option.isSome_iff_exists.mp hSource
    obtain ⟨target, hTarget⟩ := Option.isSome_iff_exists.mp hTarget
    exact ⟨source, target, hSource, hTarget, by simp [linkPoint, hLink, hSource, hTarget]⟩
  case unknown =>
    intro id hUnknown
    exact linkPoint_of_unknown hUnknown
  case linksFrom_eq => exact hKeeps.linksFrom_eq
  case mem_linksFrom_iff =>
    intro node id
    exact built.mem_linksFrom_iff
  case nodup_linksFrom => exact built.nodup_linksFrom

end Histories

section Plans

/-- Items are all added if every one of them fits what is there to begin with and no two of them
have the same key, where an item that is added takes its key and nothing else. -/
theorem exists_foldlM_iff {σ β κ ε : Type} {add : σ → β → Except ε σ} (key : β → κ)
    (Fits : σ → β → Prop) (hFits : ∀ s item, (∃ next, add s item = .ok next) ↔ Fits s item)
    (hTakes : ∀ s item next, add s item = .ok next →
      ∀ other, Fits next other ↔ key item ≠ key other ∧ Fits s other)
    (start : σ) (items : List β) :
    (∃ last, items.foldlM add start = .ok last) ↔
      (items.map key).Nodup ∧ ∀ item ∈ items, Fits start item := by
  induction items generalizing start with
  | nil => simp [pure, Except.pure]
  | cons item rest ih =>
      rw [List.foldlM_cons, List.map_cons, List.nodup_cons, List.forall_mem_cons]
      cases hAdd : add start item with
      | error fault =>
          have hMisfit : ¬Fits start item := by simp [← hFits, hAdd]
          simp [hMisfit, bind, Except.bind]
      | ok next =>
          have hFit : Fits start item := (hFits start item).mp ⟨next, hAdd⟩
          have hNext : (∃ last, rest.foldlM add next = .ok last) ↔ _ := ih next
          simp only [bind, Except.bind, hNext, hFit, hTakes _ _ _ hAdd, List.mem_map, true_and]
          constructor
          · rintro ⟨hNodup, hRest⟩
            refine ⟨⟨?_, hNodup⟩, fun other hOther => (hRest other hOther).2⟩
            rintro ⟨other, hOther, hSame⟩
            exact (hRest other hOther).1 hSame.symm
          · rintro ⟨⟨hFresh, hNodup⟩, hRest⟩
            refine ⟨hNodup, fun other hOther => ⟨fun hSame => ?_, hRest other hOther⟩⟩
            exact hFresh ⟨other, hOther, hSame.symm⟩

omit [Scalar α] in
/-- Nodes can all be added to a network that has none exactly if no two have one identifier. -/
theorem exists_addNodes_iff (nodes : List (Node α)) :
    (∃ last, nodes.foldlM (fun network node => network.addNode node.id node.point)
      (empty : Network α) = .ok last) ↔ (nodes.map Node.id).Nodup := by
  rw [exists_foldlM_iff Node.id fun network node => network.node? node.id = none]
  · simp [node?, empty]
  · intro network node
    simp [addNode_eq_ok_iff]
  · intro network node next hAdd other
    rw [node?_addNode hAdd]
    by_cases hSame : node.id = other.id <;> simp [hSame]

/-- Whether a link can be added to a network. -/
def Fits (network : Network α) (link : Link α) : Prop :=
  network.link? link.id = none ∧ (network.node? link.source).isSome ∧
    (network.node? link.target).isSome ∧ Measured link

theorem exists_addLinks_iff (network : Network α) (links : List (Link α)) :
    (∃ last, links.foldlM addLink network = .ok last) ↔
      (links.map Link.id).Nodup ∧ ∀ link ∈ links, network.Fits link := by
  apply exists_foldlM_iff Link.id Fits
  · intro network link
    simp [addLink_eq_ok_iff, Fits]
  · intro network link next hAdd other
    rw [Fits, link?_addLink hAdd, node?_addLink hAdd, node?_addLink hAdd, Fits]
    by_cases hSame : link.id = other.id <;> simp [hSame]

omit [Scalar α] in
/-- What has all been added is kept. -/
theorem Keeps.addNodes {nodes : List (Node α)} {taken : List (Addition α)} (h : Keeps taken network)
    (hNodes : nodes.foldlM (fun network node => network.addNode node.id node.point) network =
      .ok grown) : Keeps (taken ++ nodes.map .node) grown := by
  induction nodes generalizing taken network with
  | nil =>
      cases hNodes
      simpa using h
  | cons node rest ih =>
      rw [List.foldlM_cons] at hNodes
      cases hAdd : network.addNode node.id node.point with
      | error fault =>
          rw [hAdd] at hNodes
          cases hNodes
      | ok next =>
          rw [hAdd] at hNodes
          simpa using ih (h.addNode hAdd) hNodes

end Plans

end DemandRide.Network

namespace DemandRide

variable {α : Type} [Scalar α] [MonotoneScalar α]

/-- Lengths that are not negative and free speeds that are positive are accepted. -/
theorem Network.measured_iff {link : Link α} :
    Measured link ↔ Scalar.le 0 link.length ∧ Scalar.lt 0 link.freeSpeed := by
  rw [Measured, MonotoneScalar.zero_le_iff, MonotoneScalar.zero_lt_iff, Bool.or_eq_false_iff,
    Bool.or_eq_false_iff]

namespace NetworkPlan

/-- No two nodes and no two links have the same identifier, links lead from declared nodes to
declared nodes, and their measures can be used. -/
structure Consistent (plan : NetworkPlan α) : Prop where
  nodup_nodes : (plan.nodes.map Node.id).Nodup
  nodup_links : (plan.links.map Link.id).Nodup
  source_declared : ∀ link ∈ plan.links, ∃ node ∈ plan.nodes, node.id = link.source
  target_declared : ∀ link ∈ plan.links, ∃ node ∈ plan.nodes, node.id = link.target
  zero_le_length : ∀ link ∈ plan.links, Scalar.le 0 link.length
  zero_lt_freeSpeed : ∀ link ∈ plan.links, Scalar.lt 0 link.freeSpeed

theorem exists_build_iff (plan : NetworkPlan α) :
    (∃ network, plan.build = .ok network) ↔ plan.Consistent := by
  have hNodes := Network.exists_addNodes_iff plan.nodes
  cases hAdd : plan.nodes.foldlM (fun network node => network.addNode node.id node.point)
      (Network.empty : Network α) with
  | error fault =>
      have hRepeated : ¬(plan.nodes.map Node.id).Nodup := by simp [← hNodes, hAdd]
      constructor
      · rintro ⟨network, hBuild⟩
        rw [build, hAdd] at hBuild
        cases hBuild
      · exact fun h => absurd h.nodup_nodes hRepeated
  | ok withNodes =>
      have hNodup : (plan.nodes.map Node.id).Nodup := hNodes.mp ⟨withNodes, hAdd⟩
      have hKeeps := Network.keeps_empty.addNodes hAdd
      have hNode (id : NodeId) :
          (withNodes.node? id).isSome ↔ ∃ node ∈ plan.nodes, node.id = id := by
        simp only [Option.isSome_iff_exists, hKeeps.node?_iff]
        constructor
        · rintro ⟨point, hThere⟩
          exact ⟨⟨id, point⟩, by simpa using hThere, rfl⟩
        · rintro ⟨node, hThere, rfl⟩
          exact ⟨node.point, by simpa using hThere⟩
      have hLink (id : LinkId) : withNodes.link? id = none := by
        simp [Option.eq_none_iff_forall_ne_some, hKeeps.link?_iff]
      have hBuild : plan.build = plan.links.foldlM Network.addLink withNodes := by
        rw [build, hAdd]
        rfl
      simp only [hBuild, Network.exists_addLinks_iff, Network.Fits, Network.measured_iff, hNode,
        hLink, true_and]
      constructor
      · rintro ⟨hLinks, hFits⟩
        exact ⟨hNodup, hLinks, fun link hThere => (hFits link hThere).1,
          fun link hThere => (hFits link hThere).2.1, fun link hThere => (hFits link hThere).2.2.1,
          fun link hThere => (hFits link hThere).2.2.2⟩
      · rintro ⟨-, hLinks, hSource, hTarget, hLength, hSpeed⟩
        exact ⟨hLinks, fun link hThere => ⟨hSource link hThere, hTarget link hThere,
          hLength link hThere, hSpeed link hThere⟩⟩

omit [MonotoneScalar α] in
theorem Consistent.perm {plan other : NetworkPlan α} (h : plan.Consistent)
    (hNodes : plan.nodes.Perm other.nodes) (hLinks : plan.links.Perm other.links) :
    other.Consistent := by
  obtain ⟨hNodup, hNodup', hSource, hTarget, hLength, hSpeed⟩ := h
  simp only [hNodes.mem_iff, hLinks.mem_iff] at hSource hTarget hLength hSpeed
  exact ⟨((hNodes.map Node.id).nodup_iff).mp hNodup, ((hLinks.map Link.id).nodup_iff).mp hNodup',
    hSource, hTarget, hLength, hSpeed⟩

end NetworkPlan

/-- A network is faithful to whatever it is asked for, and a plan is built, in whatever order its
nodes and its links stand, exactly if it is consistent. -/
theorem Network.faithful_and_exists_build_iff :
    (∀ additions : List (Addition α), Faithful additions) ∧
      ∀ (plan : NetworkPlan α) (nodes : List (Node α)) (links : List (Link α)),
        plan.nodes.Perm nodes → plan.links.Perm links →
          ((∃ network, NetworkPlan.build ⟨nodes, links⟩ = .ok network) ↔ plan.Consistent) := by
  refine ⟨faithful, fun plan nodes links hNodes hLinks => ?_⟩
  rw [NetworkPlan.exists_build_iff]
  constructor
  · intro h
    exact h.perm hNodes.symm hLinks.symm
  · intro h
    exact h.perm hNodes hLinks

/-- A street that is asked for too soon, then with a second node of the same name, a second street
of the same name, and streets that cannot be measured. -/
def streetCalls : List (Network.Addition Float) :=
  [.node ⟨⟨"1"⟩, ⟨0, 0⟩⟩, .link ⟨⟨"a"⟩, ⟨"1"⟩, ⟨"2"⟩, 10, 5⟩, .node ⟨⟨"2"⟩, ⟨0, 10⟩⟩,
    .node ⟨⟨"1"⟩, ⟨5, 5⟩⟩, .link ⟨⟨"a"⟩, ⟨"1"⟩, ⟨"2"⟩, 20, 5⟩,
    .link ⟨⟨"a"⟩, ⟨"2"⟩, ⟨"1"⟩, 10, 5⟩, .link ⟨⟨"b"⟩, ⟨"1"⟩, ⟨"2"⟩, -1, 5⟩,
    .link ⟨⟨"c"⟩, ⟨"1"⟩, ⟨"2"⟩, 10, 0⟩]

theorem Network.faithful_streetCalls :
    (empty.attemptAll streetCalls).linksFrom ⟨"1"⟩ = [⟨"a"⟩] ∧
      (empty.attemptAll streetCalls).linkPoint ⟨"b"⟩ = .error (.unknownLink ⟨"b"⟩) ∧
      NetworkPlan.Consistent (α := Float)
        ⟨[⟨⟨"1"⟩, ⟨0, 0⟩⟩, ⟨⟨"2"⟩, ⟨0, 10⟩⟩], [⟨⟨"a"⟩, ⟨"1"⟩, ⟨"2"⟩, 20, 5⟩]⟩ := by
  obtain ⟨hFaithful, hBuild⟩ := faithful_and_exists_build_iff (α := Float)
  have hCalls := hFaithful streetCalls
  have hPlan := hBuild ⟨[⟨⟨"1"⟩, ⟨0, 0⟩⟩, ⟨⟨"2"⟩, ⟨0, 10⟩⟩], [⟨⟨"a"⟩, ⟨"1"⟩, ⟨"2"⟩, 20, 5⟩]⟩
    [⟨⟨"2"⟩, ⟨0, 10⟩⟩, ⟨⟨"1"⟩, ⟨0, 0⟩⟩] [⟨⟨"a"⟩, ⟨"1"⟩, ⟨"2"⟩, 20, 5⟩] (.swap _ _ _) (.refl _)
  refine ⟨?_, ?_, hPlan.mp ⟨_, rfl⟩⟩
  · rw [hCalls.linksFrom_eq]
    rfl
  · exact hCalls.unknown ⟨"b"⟩ rfl

end DemandRide
