import DemandRide.Proofs.Number.Ordered
import DemandRide.Proofs.Road.Moves
import DemandRide.Proofs.Road.Network

/-! What a search finds. A node is settled once its links have been followed; settled nodes are no
later than any entry of the queue, so none of them is labelled anew and every link is followed at
most once. A search therefore ends within its fuel, and it ends without having come to its target
only if no links lead there. -/
namespace DemandRide

variable {α : Type} [Scalar α]

namespace QueueEntry

variable [OrderedScalar α]

theorem notAfter_of_precedes {a b : QueueEntry α} (h : a.precedes b) : NotAfter a.time b.time := by
  refine .of_rank_ne_gt fun hRank => ?_
  simp [precedes, hRank] at h

theorem notAfter_of_not_precedes {a b : QueueEntry α} (h : ¬a.precedes b) :
    NotAfter b.time a.time := by
  refine .of_rank_ne_lt fun hRank => ?_
  simp [precedes, hRank] at h

/-- An entry is put between those that are no later and those that are no earlier. -/
theorem pairwise_insert {entry : QueueEntry α} {queue : List (QueueEntry α)}
    (hSorted : queue.Pairwise fun a b => NotAfter a.time b.time) :
    (entry.insert queue).Pairwise fun a b => NotAfter a.time b.time := by
  induction queue with
  | nil => exact List.pairwise_singleton _ _
  | cons head rest ih =>
      obtain ⟨hHead, hRest⟩ := List.pairwise_cons.mp hSorted
      unfold QueueEntry.insert
      split
      · next hBefore =>
          have hFirst := notAfter_of_precedes hBefore
          refine List.pairwise_cons.mpr ⟨fun other hOther => ?_, hSorted⟩
          rcases List.mem_cons.mp hOther with rfl | hLater
          · exact hFirst
          · exact hFirst.trans (hHead other hLater)
      · next hAfter =>
          refine List.pairwise_cons.mpr ⟨fun other hOther => ?_, ih hRest⟩
          rcases List.mem_cons.mp ((insert_perm entry rest).mem_iff.mp hOther) with rfl | hLater
          · exact notAfter_of_not_precedes hAfter
          · exact hHead other hLater

end QueueEntry

namespace Search

/-- What is known of a search at any time between two links. The nodes `settled` are those whose
links are followed, the links `todo` those that are still to be followed from the last of them,
and `now` is the time of that node. -/
structure Explores (network : Network α) (source target : NodeId) (todo : List LinkId)
    (settled : List NodeId) (now : α) (search : Search α) : Prop where
  source_labelled : (search.labels[source]?).isSome
  reached : ∀ node label, search.labels[node]? = some label →
    network.Reaches source node ∧ Scalar.lt label.time 0 = false
  /-- A settled node keeps its label, as nothing that comes later is an improvement. -/
  settled_labelled : ∀ node ∈ settled, ∃ label,
    search.labels[node]? = some label ∧ NotAfter label.time now
  followed : ∀ id link, network.link? id = some link → link.source ∈ settled → id ∉ todo →
    (search.labels[link.target]?).isSome
  target_open : target ∉ settled
  sorted : search.queue.Pairwise fun a b => NotAfter a.time b.time
  later : ∀ entry ∈ search.queue, NotAfter now entry.time
  nodup : search.queue.Nodup
  /-- An entry is stale, or it is the one that will settle its node. -/
  queued : ∀ entry ∈ search.queue, ∃ label, search.labels[entry.node]? = some label ∧
    (label.time = entry.time ∧ entry.node ∉ settled ∨ Scalar.lt label.time entry.time)
  pending : ∀ node label, search.labels[node]? = some label → node ∉ settled →
    ⟨label.time, node⟩ ∈ search.queue

omit [Scalar α] in
theorem getElem?_insert (labels : Std.TreeMap NodeId (Label α)) (node other : NodeId)
    (label : Label α) :
    (labels.insert node label)[other]? = if node = other then some label else labels[other]? := by
  simp only [Std.TreeMap.getElem?_insert, Std.LawfulEqCmp.compare_eq_iff_eq]

/-- A time is an improvement if it is less than any the node is labelled with. -/
theorem improves_iff {search : Search α} {node : NodeId} {time : α} :
    search.improves node time ↔
      ∀ old, search.labels[node]? = some old → Scalar.lt time old.time := by
  unfold improves
  split <;> simp [*]

variable {network : Network α} {source target : NodeId} {todo : List LinkId}
  {settled : List NodeId} {now : α} {search : Search α}

/-- A search whose queue is empty has labelled whatever can be reached. -/
theorem Explores.not_reaches (h : Explores network source target [] settled now search)
    (hEmpty : search.queue = []) :
    ¬network.Reaches source target := by
  have hSettled (node : NodeId) (hLabelled : (search.labels[node]?).isSome) : node ∈ settled := by
    obtain ⟨label, hLabel⟩ := Option.isSome_iff_exists.mp hLabelled
    by_contra hOpen
    have hThere := h.pending node label hLabel hOpen
    simp [hEmpty] at hThere
  have hLabelled (node : NodeId) (hReaches : network.Reaches source node) :
      (search.labels[node]?).isSome := by
    induction hReaches with
    | refl => exact h.source_labelled
    | tail _ hLast ih =>
        obtain ⟨id, link, hLink, rfl, rfl⟩ := hLast
        exact h.followed id link hLink (hSettled _ ih) List.not_mem_nil
  exact fun hReaches => h.target_open (hSettled target (hLabelled target hReaches))

/-- The links that no settled node has followed. -/
def unfollowed (network : Network α) (settled : List NodeId) : List (Link α) :=
  network.linkList.filter fun link => link.source ∉ settled

/-- A node that is settled takes its links off those that are not followed. -/
theorem length_unfollowed_cons (built : network.Built) {node : NodeId} (hOpen : node ∉ settled) :
    (unfollowed network (node :: settled)).length + (network.linksFrom node).length ≤
      (unfollowed network settled).length := by
  have hFrom := built.length_linksFrom_le node
  have hParts := List.length_eq_countP_add_countP (fun link : Link α => decide (link.source = node))
    (l := unfollowed network settled)
  have hHere : (unfollowed network settled).countP (fun link => decide (link.source = node)) =
      (network.linkList.filter fun link => link.source = node).length := by
    rw [List.countP_eq_length_filter, unfollowed, List.filter_filter]
    congr 1
    refine List.filter_congr fun link _ => ?_
    by_cases hSource : link.source = node <;> simp [hSource, hOpen]
  have hElsewhere : (unfollowed network settled).countP
      (fun link => !decide (link.source = node)) =
      (unfollowed network (node :: settled)).length := by
    rw [List.countP_eq_length_filter, unfollowed, unfollowed, List.filter_filter]
    congr 1
    refine List.filter_congr fun link _ => ?_
    by_cases hSource : link.source = node <;> simp [hSource]
  simp only [Bool.decide_eq_true, decide_not] at hParts
  omega

section Steps

variable [OrderedScalar α]

theorem Explores.start (network : Network α) (source target : NodeId) :
    Explores network source target [] [] 0 (Search.start source) := by
  have hLabel (node : NodeId) (label : Label α) :
      (Search.start source).labels[node]? = some label → source = node ∧ ⟨0, 0⟩ = label := by
    rw [Search.start, getElem?_insert]
    split <;> simp_all
  have hRoot : (Search.start source : Search α).labels[source]? = some ⟨0, 0⟩ := by
    rw [Search.start, getElem?_insert, if_pos rfl]
  refine ⟨by simp [hRoot], ?_, nofun, nofun, List.not_mem_nil, List.pairwise_singleton _ _, ?_,
    List.pairwise_singleton _ _, ?_, ?_⟩
  · intro node label hNode
    obtain ⟨rfl, rfl⟩ := hLabel node label hNode
    exact ⟨.refl, OrderedScalar.lt_irrefl 0⟩
  · intro entry hEntry
    cases List.mem_singleton.mp hEntry
    exact .refl 0
  · intro entry hEntry
    cases List.mem_singleton.mp hEntry
    exact ⟨⟨0, 0⟩, hRoot, .inl ⟨rfl, List.not_mem_nil⟩⟩
  · intro node label hNode _
    obtain ⟨rfl, rfl⟩ := hLabel node label hNode
    exact List.mem_singleton.mpr rfl

/-- What comes no earlier than the settled nodes is no improvement for any of them. -/
theorem Explores.not_settled_of_improves
    (h : Explores network source target todo settled now search) {node : NodeId} {time : α}
    (hLater : NotAfter now time)
    (hImproves : search.improves node time) : node ∉ settled := by
  intro hSettled
  obtain ⟨old, hOld, hNow⟩ := h.settled_labelled node hSettled
  cases (hNow.trans hLater).1.symm.trans (improves_iff.mp hImproves old hOld)

/-- A node that comes no earlier than the settled ones may be labelled: if that is an
improvement, the node is not settled, and otherwise it has a label already. -/
theorem Explores.improve (h : Explores network source target todo settled now search)
    {node : NodeId} (label : Label α) (hReaches : network.Reaches source node)
    (hTime : Scalar.lt label.time 0 = false) (hLater : NotAfter now label.time) :
    Explores network source target todo settled now (search.improve node label) ∧
      ((search.improve node label).labels[node]?).isSome := by
  unfold Search.improve
  by_cases hImproves : search.improves node label.time
  · have hOpen := h.not_settled_of_improves hLater hImproves
    rw [if_pos hImproves]
    rw [improves_iff] at hImproves
    have hPerm := QueueEntry.insert_perm ⟨label.time, node⟩ search.queue
    have hKeeps (other : NodeId) (hOther : (search.labels[other]?).isSome) :
        ((search.labels.insert node label)[other]?).isSome := by
      rw [getElem?_insert]
      split
      · rfl
      · exact hOther
    refine ⟨⟨hKeeps source h.source_labelled, ?reached, ?settled, ?followed, h.target_open,
      QueueEntry.pairwise_insert h.sorted, ?later, ?nodup, ?queued, ?pending⟩, ?labelled⟩
    case reached =>
      intro other found hFound
      rw [getElem?_insert] at hFound
      split at hFound
      · next hSame =>
          cases hFound
          exact ⟨hSame ▸ hReaches, hTime⟩
      · exact h.reached other found hFound
    case settled =>
      intro other hOther
      have hDiffer : node ≠ other := fun hSame => hOpen (hSame ▸ hOther)
      obtain ⟨found, hFound, hNow⟩ := h.settled_labelled other hOther
      exact ⟨found, by rwa [getElem?_insert, if_neg hDiffer], hNow⟩
    case followed =>
      intro id link hLink hSource hDone
      exact hKeeps _ (h.followed id link hLink hSource hDone)
    case later =>
      intro entry hEntry
      rcases List.mem_cons.mp (hPerm.mem_iff.mp hEntry) with rfl | hOld
      · exact hLater
      · exact h.later entry hOld
    case nodup =>
      refine hPerm.nodup_iff.mpr (List.nodup_cons.mpr ⟨fun hThere => ?_, h.nodup⟩)
      obtain ⟨old, hOld, hEntry⟩ := h.queued _ hThere
      have hLess := hImproves old hOld
      rcases hEntry with ⟨hSame, -⟩ | hStale
      · rw [hSame] at hLess
        cases (OrderedScalar.lt_irrefl _).symm.trans hLess
      · cases (OrderedScalar.lt_asymm hStale).symm.trans hLess
    case queued =>
      intro entry hEntry
      rw [getElem?_insert]
      rcases List.mem_cons.mp (hPerm.mem_iff.mp hEntry) with rfl | hThere
      · exact ⟨label, if_pos rfl, .inl ⟨rfl, hOpen⟩⟩
      · obtain ⟨old, hOld, hCurrent⟩ := h.queued entry hThere
        split
        · next hSame =>
            subst hSame
            have hLess := hImproves old hOld
            refine ⟨label, rfl, .inr ?_⟩
            rcases hCurrent with ⟨hEqual, -⟩ | hStale
            · exact hEqual ▸ hLess
            · exact OrderedScalar.lt_trans hLess hStale
        · exact ⟨old, hOld, hCurrent⟩
    case pending =>
      intro other found hFound hUnsettled
      refine hPerm.mem_iff.mpr (List.mem_cons.mpr ?_)
      rw [getElem?_insert] at hFound
      split at hFound
      · next hSame =>
          cases hFound
          exact .inl (by rw [hSame])
      · exact .inr (h.pending other found hFound hUnsettled)
    case labelled => simp
  · rw [if_neg hImproves]
    refine ⟨h, ?_⟩
    by_contra hNone
    rw [Option.not_isSome_iff_eq_none] at hNone
    exact hImproves (improves_iff.mpr fun old hOld => by simp [hNone] at hOld)

/-- Following a link leaves one less to be followed. -/
theorem Explores.follow {id : LinkId} {link : Link α} {label : Label α}
    (h : Explores network source target (id :: todo) settled now search)
    (hLink : network.link? id = some link) (hMeasured : Network.Measured link)
    (hReaches : network.Reaches source link.source) (hTime : Scalar.lt label.time 0 = false)
    (hLater : NotAfter now label.time) :
    Explores network source target todo settled now (search.follow network label id) := by
  have hPassing := Network.not_travelTime_lt_zero hMeasured
  have hStep : network.Reaches source link.target := hReaches.tail ⟨id, link, hLink, rfl, rfl⟩
  have hFollow : search.follow network label id =
      search.improve link.target ⟨label.time + link.travelTime, label.distance + link.length⟩ := by
    simp only [Search.follow, hLink]
  obtain ⟨hExplores, hLabelled⟩ :=
    h.improve ⟨label.time + link.travelTime, label.distance + link.length⟩ hStep
      (OrderedScalar.not_add_lt_zero hTime hPassing) (hLater.trans (.add hPassing))
  rw [hFollow]
  refine { hExplores with followed := fun other link' hOther hSource hDone => ?_ }
  by_cases hSame : other = id
  · subst hSame
    cases hLink.symm.trans hOther
    exact hLabelled
  · exact hExplores.followed other link' hOther hSource (by simp [hSame, hDone])

/-- All links of a node are followed. -/
theorem Explores.expand {node : NodeId} {label : Label α} (built : network.Built)
    (hReaches : network.Reaches source node) (hTime : Scalar.lt label.time 0 = false)
    (hLater : NotAfter now label.time) {ids : List LinkId}
    (hIds : ∀ id ∈ ids, id ∈ network.linksFrom node)
    (h : Explores network source target ids settled now search) :
    Explores network source target [] settled now
      (ids.foldl (Search.follow network label) search) := by
  induction ids generalizing search with
  | nil => exact h
  | cons id rest ih =>
      obtain ⟨link, hLink, rfl⟩ := built.mem_linksFrom_iff.mp (hIds id List.mem_cons_self)
      exact ih (fun other hOther => hIds other (List.mem_cons_of_mem _ hOther))
        (h.follow hLink (built.link?_sound hLink).2 hReaches hTime hLater)

/-- An entry that is not stale settles its node: the links out of it are now to be followed. -/
theorem Explores.settle {entry : QueueEntry α} {rest : List (QueueEntry α)} {label : Label α}
    (built : network.Built) (h : Explores network source target [] settled now search)
    (hQueue : search.queue = entry :: rest) (hLabel : search.labels[entry.node]? = some label)
    (hCurrent : label.time = entry.time) (hOther : entry.node ≠ target) :
    Explores network source target (network.linksFrom entry.node) (entry.node :: settled)
      entry.time { search with queue := rest } := by
  have hNow : NotAfter now entry.time := h.later entry (by simp [hQueue])
  have hSorted := h.sorted
  have hNodup := h.nodup
  rw [hQueue] at hSorted hNodup
  obtain ⟨hFirst, hSorted⟩ := List.pairwise_cons.mp hSorted
  obtain ⟨hOnce, hNodup⟩ := List.nodup_cons.mp hNodup
  have hRest (other : QueueEntry α) (hThere : other ∈ rest) : other ∈ search.queue := by
    simp [hQueue, hThere]
  refine ⟨h.source_labelled, h.reached, ?settled, ?followed, ?target, hSorted, hFirst, hNodup,
    ?queued, ?pending⟩
  case settled =>
    intro node hNode
    rcases List.mem_cons.mp hNode with rfl | hSettled
    · exact ⟨label, hLabel, hCurrent ▸ .refl label.time⟩
    · obtain ⟨found, hFound, hBefore⟩ := h.settled_labelled node hSettled
      exact ⟨found, hFound, hBefore.trans hNow⟩
  case followed =>
    intro id link hLink hSource hDone
    rcases List.mem_cons.mp hSource with hHere | hSettled
    · exact absurd (built.mem_linksFrom_iff.mpr ⟨link, hLink, hHere⟩) hDone
    · exact h.followed id link hLink hSettled List.not_mem_nil
  case target =>
    intro hThere
    rcases List.mem_cons.mp hThere with hHere | hSettled
    · exact hOther hHere.symm
    · exact h.target_open hSettled
  case queued =>
    intro other hThere
    obtain ⟨found, hFound, ⟨hTime, hUnsettled⟩ | hStale⟩ := h.queued other (hRest other hThere)
    · refine ⟨found, hFound, .inl ⟨hTime, fun hSettled => ?_⟩⟩
      rcases List.mem_cons.mp hSettled with hHere | hSettled
      · -- A second entry of this node with the time of its label would be the first one again.
        rw [hHere, hLabel] at hFound
        cases hFound
        have hSame : other = entry := by
          cases other
          cases entry
          simp_all
        exact hOnce (hSame ▸ hThere)
      · exact hUnsettled hSettled
    · exact ⟨found, hFound, .inr hStale⟩
  case pending =>
    intro node found hFound hUnsettled
    rw [List.mem_cons, not_or] at hUnsettled
    obtain ⟨hDiffer, hUnsettled⟩ := hUnsettled
    have hThere := h.pending node found hFound hUnsettled
    rw [hQueue] at hThere
    rcases List.mem_cons.mp hThere with hHead | hThere
    · exact absurd (congrArg QueueEntry.node hHead) hDiffer
    · exact hThere

/-- An entry that is stale is passed over, and what remains is no earlier. -/
theorem Explores.skip {entry : QueueEntry α} {rest : List (QueueEntry α)} {label : Label α}
    (h : Explores network source target [] settled now search)
    (hQueue : search.queue = entry :: rest) (hLabel : search.labels[entry.node]? = some label)
    (hStale : Scalar.lt label.time entry.time) :
    Explores network source target [] settled entry.time { search with queue := rest } := by
  have hNow : NotAfter now entry.time := h.later entry (by simp [hQueue])
  have hSorted := h.sorted
  have hNodup := h.nodup
  rw [hQueue] at hSorted hNodup
  obtain ⟨hFirst, hSorted⟩ := List.pairwise_cons.mp hSorted
  have hRest (other : QueueEntry α) (hThere : other ∈ rest) : other ∈ search.queue := by
    simp [hQueue, hThere]
  refine ⟨h.source_labelled, h.reached, ?_, h.followed, h.target_open, hSorted, hFirst,
    (List.nodup_cons.mp hNodup).2, fun other hThere => h.queued other (hRest other hThere), ?_⟩
  · intro node hSettled
    obtain ⟨found, hFound, hBefore⟩ := h.settled_labelled node hSettled
    exact ⟨found, hFound, hBefore.trans hNow⟩
  · intro node found hFound hUnsettled
    have hThere := h.pending node found hFound hUnsettled
    rw [hQueue] at hThere
    rcases List.mem_cons.mp hThere with hHead | hThere
    · subst hHead
      cases hLabel.symm.trans hFound
      cases (OrderedScalar.lt_irrefl _).symm.trans hStale
    · exact hThere

/-- A move finds its node labelled, and it follows the links of no node a second time and leaves as
many fewer links to be followed as it enqueues entries. -/
structure Move.Sound (network : Network α) (settled : List NodeId) (move : Move α) : Prop where
  labelled : move.label?.isSome
  new : ∀ node ∈ move.followed, node ∉ settled
  covered : move.enqueued.length + (unfollowed network (move.followed ++ settled)).length ≤
    (unfollowed network settled).length

/-- What a step that takes an entry may come to. -/
def Progress.Sound (network : Network α) (source target : NodeId) (settled : List NodeId)
    (now : α) : Progress α → Prop
  | .arrived label _ => network.Reaches source target ∧ Scalar.lt label.time 0 = false
  | .exhausted _ => False
  | .ongoing next => Explores network source target [] settled now next

/-- The time of the entry is now, and if the links of its node are followed, that is settled. -/
theorem Explores.move {entry : QueueEntry α} {rest : List (QueueEntry α)} (built : network.Built)
    (h : Explores network source target [] settled now search)
    (hQueue : search.queue = entry :: rest) :
    (search.move network target entry rest).Sound network settled ∧
      (search.step network target).Sound network source target
        ((search.move network target entry rest).followed ++ settled) entry.time := by
  obtain ⟨label, hLabel, hEntry⟩ := h.queued entry (by simp [hQueue])
  rw [step_eq_progress network target search hQueue]
  unfold Search.move
  simp only [hLabel]
  by_cases hStale : Scalar.lt label.time entry.time
  · simp only [hStale, if_true]
    exact ⟨⟨rfl, nofun, Nat.le_of_eq (Nat.zero_add _)⟩, h.skip hQueue hLabel hStale⟩
  · obtain ⟨hCurrent, hOpen⟩ := hEntry.resolve_right hStale
    obtain ⟨hReaches, hTime⟩ := h.reached _ label hLabel
    simp only [hStale, if_false, Bool.false_eq_true]
    by_cases hTarget : entry.node = target
    · simp only [hTarget, if_true]
      exact ⟨⟨rfl, nofun, Nat.le_of_eq (Nat.zero_add _)⟩, hTarget ▸ hReaches, hTime⟩
    · simp only [hTarget, if_false]
      refine ⟨⟨rfl, fun node hNode => ?_, ?_⟩, ?_⟩
      · rwa [List.mem_singleton.mp hNode]
      · have hOffers := length_offers_le network { search with queue := rest } label
          (network.linksFrom entry.node)
        have hFollowed := length_unfollowed_cons built hOpen
        simp only [Move.enqueued, Move.followed, List.singleton_append]
        omega
      · exact (h.settle built hQueue hLabel hCurrent hTarget).expand built hReaches hTime
          (hCurrent ▸ .refl label.time) fun _ hId => hId

/-- How much is left to do: entries to be taken and links to be followed. -/
def remaining (network : Network α) (settled : List NodeId) (search : Search α) : Nat :=
  search.queue.length + (unfollowed network settled).length

/-- What a run may come to. -/
def Finding.Sound (network : Network α) (source target : NodeId) : Finding α → Prop
  | .label found => network.Reaches source target ∧ Scalar.lt found.time 0 = false
  | .unreachable => ¬network.Reaches source target
  | .unfinished => False

/-- Every move leaves less to do, so that a run with enough fuel comes to an end. -/
theorem Explores.run (built : network.Built) {fuel : Nat}
    (h : Explores network source target [] settled now search)
    (hFuel : remaining network settled search < fuel) :
    (Search.run network target fuel search).1.Sound network source target := by
  induction fuel generalizing settled now search with
  | zero => omega
  | succ fuel ih =>
      unfold Search.run
      cases hQueue : search.queue with
      | nil =>
          simp only [step, hQueue]
          exact h.not_reaches hQueue
      | cons entry rest =>
          obtain ⟨hMove, hStep⟩ := h.move built hQueue
          have hLeft := (queue_step_perm network target search hQueue).length_eq
          cases hProgress : search.step network target <;> rw [hProgress] at hStep hLeft
          case arrived label next => exact hStep
          case exhausted next => exact hStep.elim
          case ongoing next =>
            -- One entry is gone, and each that was added stands for a link that is now followed.
            refine ih hStep ?_
            have hCovered := hMove.covered
            simp only [remaining, hQueue, Progress.left, List.length_append,
              List.length_cons] at hFuel hLeft ⊢
            omega

/-- A search over a network that was built ends, with a label exactly if its target can be
reached. -/
theorem sound_between (built : network.Built) (used : Search α) (source target : NodeId) :
    (Search.between network used source target).1.Sound network source target := by
  refine (Explores.start network source target).run built ?_
  have hLinks : (unfollowed network []).length ≤ network.linkCount := by
    rw [← network.length_linkList]
    exact List.length_filter_le _ _
  simp only [remaining, stepBound, Search.start, List.length_singleton]
  omega

/-- From a node to itself there is nothing to follow. -/
theorem between_self (network : Network α) (used : Search α) (node : NodeId) :
    (between network used node node).1 = .label ⟨0, 0⟩ := by
  have hStep : (start node : Search α).step network node =
      .arrived ⟨0, 0⟩ { (start node : Search α) with queue := [] } := by
    simp [step, start, OrderedScalar.lt_irrefl]
  rw [between, enter_clear, stepBound, run, hStep]

end Steps

end Search

end DemandRide
