import DemandRide.Proofs.Road.Search
import DemandRide.Proofs.Road.Trail
import DemandRide.Proofs.Session
import DemandRide.Service.Pathfinder

/-! Searches find least times. The label of a node is always that of one way to the node, and a
link that has been followed brings its target no later than its source and the time it takes. So
every way to a node that is not settled has to pass an entry of the queue, and the first entry is
no later than the way. Times are added up from the start of a way; all that is asked of additions
is that they keep the order and do not lead back. -/
namespace DemandRide

variable {α : Type}

namespace Search

open Network Scalar

variable [Scalar α]

/-- What is known of the times in a search, besides what is known of any search. -/
structure Times (network : Network α) (source target : NodeId) (todo : List LinkId)
    (settled : List NodeId) (now : α) (search : Search α) : Prop
    extends Explores network source target todo settled now search where
  start_label : ∃ label, search.labels[source]? = some label ∧ le label.time 0
  /-- Time and distance of a label are those of one and the same way. -/
  traced : ∀ node label, search.labels[node]? = some label →
    ∃ links, network.Trail source links node ∧ label = ⟨passing links, covered links⟩
  /-- As long as numbers are left in the queue, the time of a node that is not spoilt is one. -/
  number : ∀ node label, search.labels[node]? = some label → isNaN label.time →
    network.Spoilt source node ∨ isNaN now
  /-- No link that is followed leads anywhere sooner than its target is labelled with. -/
  relaxed : ∀ id link, network.link? id = some link → link.source ∈ settled → id ∉ todo →
    ¬network.Spoilt source link.target → ∀ near, search.labels[link.source]? = some near →
      isNaN (near.time + link.travelTime) = false →
        ∃ far, search.labels[link.target]? = some far ∧ le far.time (near.time + link.travelTime)

variable [MonotoneScalar α] {network : Network α} {source target : NodeId} {todo : List LinkId}
  {settled : List NodeId} {now : α} {search : Search α}

theorem Times.start (network : Network α) (source target : NodeId) :
    Times network source target [] [] 0 (Search.start source) := by
  have hLabel (node : NodeId) (label : Label α)
      (hNode : (Search.start source).labels[node]? = some label) :
      source = node ∧ label = ⟨0, 0⟩ := by
    rw [Search.start, getElem?_insert] at hNode
    split at hNode
    · next hSame => exact ⟨hSame, (Option.some.inj hNode).symm⟩
    · simp at hNode
  refine { Explores.start network source target with
    start_label := ⟨⟨0, 0⟩, ?_, MonotoneScalar.le_refl OrderedScalar.isNaN_zero⟩
    traced := fun node label hNode => ?_
    number := fun node label hNode hNaN => ?_
    relaxed := fun _ _ _ hSource => absurd hSource List.not_mem_nil }
  · rw [Search.start, getElem?_insert, if_pos rfl]
  · obtain ⟨rfl, rfl⟩ := hLabel node label hNode
    exact ⟨[], .nil, rfl⟩
  · obtain ⟨-, rfl⟩ := hLabel node label hNode
    cases OrderedScalar.isNaN_zero.symm.trans hNaN

omit [MonotoneScalar α] in
/-- A node is labelled with an improvement, and nothing else changes. -/
theorem getElem?_improve (search : Search α) (node other : NodeId) (label : Label α) :
    (search.improve node label).labels[other]? =
      if search.improves node label.time ∧ node = other then some label
      else search.labels[other]? := by
  unfold Search.improve
  by_cases hImproves : search.improves node label.time
  · simp only [hImproves, if_true, true_and, getElem?_insert]
  · simp only [hImproves, if_false, false_and, Bool.false_eq_true]

section Improving

variable {node : NodeId} {label : Label α}

/-- No settled node is labelled anew. -/
theorem Times.getElem?_settled (h : Times network source target todo settled now search)
    (hLater : NotAfter now label.time) {other : NodeId} (hSettled : other ∈ settled) :
    (search.improve node label).labels[other]? = search.labels[other]? := by
  rw [getElem?_improve, if_neg]
  rintro ⟨hImproves, rfl⟩
  exact h.not_settled_of_improves hLater hImproves hSettled

/-- A label that is replaced is replaced by less. -/
theorem exists_label_le_improve {other : NodeId} {old : Label α} {bound : α}
    (hOld : search.labels[other]? = some old) (hBound : le old.time bound) :
    ∃ found, (search.improve node label).labels[other]? = some found ∧ le found.time bound := by
  rw [getElem?_improve]
  split
  · next hBoth =>
      obtain ⟨hImproves, rfl⟩ := hBoth
      have hLess := improves_iff.mp hImproves old hOld
      exact ⟨_, rfl, MonotoneScalar.le_trans (MonotoneScalar.le_of_lt hLess) hBound⟩
  · exact ⟨old, hOld, hBound⟩

/-- In the end a node that is not spoilt is labelled with no more than it was offered. -/
theorem Times.exists_label_improve (h : Times network source target todo settled now search)
    (hClear : ¬network.Spoilt source node) (hNow : isNaN now = false)
    (hNumber : isNaN label.time = false) :
    ∃ found, (search.improve node label).labels[node]? = some found ∧
      le found.time label.time := by
  rw [getElem?_improve]
  by_cases hImproves : search.improves node label.time
  · exact ⟨label, if_pos ⟨hImproves, rfl⟩, MonotoneScalar.le_refl hNumber⟩
  · rw [if_neg fun hBoth => hImproves hBoth.1]
    rw [improves_iff] at hImproves
    push Not at hImproves
    obtain ⟨old, hOld, hNotLess⟩ := hImproves
    have hOldNumber : isNaN old.time = false := Bool.eq_false_iff.mpr fun hNaN => by
      rcases h.number node old hOld hNaN with hSpoilt | hNaN
      · exact hClear hSpoilt
      · cases hNow.symm.trans hNaN
    have hKept := OrderedScalar.le_of_not_lt hNumber hOldNumber (Bool.eq_false_iff.mpr hNotLess)
    exact ⟨old, hOld, hKept⟩

end Improving

section Following

variable {links : List (Link α)} {node : NodeId}

/-- The links out of the node that was settled last are followed with its own time. -/
theorem Times.follow {id : LinkId} (built : network.Built)
    (h : Times network source target (id :: todo) settled (passing links) search)
    (hNode : node ∈ settled) (hId : id ∈ network.linksFrom node)
    (hTrail : network.Trail source links node)
    (hLabel : search.labels[node]? = some ⟨passing links, covered links⟩) :
    Times network source target todo settled (passing links)
        (search.follow network ⟨passing links, covered links⟩ id) ∧
      (search.follow network ⟨passing links, covered links⟩ id).labels[node]? =
        some ⟨passing links, covered links⟩ := by
  obtain ⟨link, hLink, rfl⟩ := built.mem_linksFrom_iff.mp hId
  have hMeasured := (built.link?_sound hLink).2
  have hReaches := reaches_iff_exists_trail.mpr ⟨links, hTrail⟩
  have hNext : network.Trail source (links ++ [link]) link.target := .snoc hTrail hLink
  have hFollow : search.follow network ⟨passing links, covered links⟩ id =
      search.improve link.target ⟨passing (links ++ [link]), covered (links ++ [link])⟩ := by
    simp only [Search.follow, hLink, passing_snoc, covered_snoc]
  have hLater : NotAfter (passing links) (passing (links ++ [link])) := by
    rw [passing_snoc]
    exact .add (not_travelTime_lt_zero hMeasured)
  have hExplores : Explores network source target todo settled (passing links)
      (search.follow network ⟨passing links, covered links⟩ id) :=
    h.toExplores.follow hLink hMeasured hReaches (h.reached _ _ hLabel).2 (.refl _)
  have hKept : (search.improve link.target
      ⟨passing (links ++ [link]), covered (links ++ [link])⟩).labels[link.source]? =
        some ⟨passing links, covered links⟩ :=
    (h.getElem?_settled hLater hNode).trans hLabel
  rw [hFollow] at hExplores ⊢
  refine ⟨{ hExplores with start_label := ?_, traced := ?_, number := ?_, relaxed := ?_ }, hKept⟩
  · obtain ⟨label, hStart, hTime⟩ := h.start_label
    exact exists_label_le_improve hStart hTime
  · intro other label hOther
    rw [getElem?_improve] at hOther
    split at hOther
    · next hBoth =>
        cases hOther
        exact ⟨links ++ [link], hBoth.2 ▸ hNext, rfl⟩
    · exact h.traced other label hOther
  · intro other label hOther hNaN
    rw [getElem?_improve] at hOther
    split at hOther
    · next hBoth =>
        -- The sum of two numbers that are not negative is a number.
        cases hOther
        refine or_iff_not_imp_right.mpr fun hNow => ?_
        by_contra hClear
        rw [← hBoth.2] at hClear
        have hTime := built.zero_le_travelTime hLink hReaches hClear
        have hPassed := MonotoneScalar.zero_le_iff.mpr
          ⟨Bool.eq_false_iff.mpr hNow, (h.reached _ _ hLabel).2⟩
        have hSum := MonotoneScalar.le_trans hPassed (MonotoneScalar.le_add hPassed hTime)
        rw [passing_snoc] at hNaN
        cases (MonotoneScalar.zero_le_iff.mp hSum).1.symm.trans hNaN
    · exact h.number other label hOther hNaN
  · intro other link' hOther hSource hDone hClear near hNear hNumber
    rw [h.getElem?_settled hLater hSource] at hNear
    by_cases hSame : other = id
    · subst hSame
      cases hLink.symm.trans hOther
      cases hLabel.symm.trans hNear
      rw [passing_snoc]
      refine h.exists_label_improve hClear ?_ hNumber
      exact Bool.eq_false_iff.mpr fun hNaN =>
        Bool.eq_false_iff.mp hNumber (OrderedScalar.isNaN_add _ hNaN)
    · obtain ⟨far, hFar, hLe⟩ :=
        h.relaxed other link' hOther hSource (by simp [hSame, hDone]) hClear near hNear hNumber
      exact exists_label_le_improve hFar hLe

theorem Times.expand (built : network.Built) {ids : List LinkId}
    (hIds : ∀ id ∈ ids, id ∈ network.linksFrom node) (hNode : node ∈ settled)
    (hTrail : network.Trail source links node)
    (h : Times network source target ids settled (passing links) search)
    (hLabel : search.labels[node]? = some ⟨passing links, covered links⟩) :
    Times network source target [] settled (passing links)
      (ids.foldl (Search.follow network ⟨passing links, covered links⟩) search) := by
  induction ids generalizing search with
  | nil => exact h
  | cons id rest ih =>
      obtain ⟨hNext, hKept⟩ := h.follow built hNode (hIds id List.mem_cons_self) hTrail hLabel
      exact ih (fun other hOther => hIds other (List.mem_cons_of_mem _ hOther)) hNext hKept

end Following

/-- Every way that enters no node that is spoilt passes a node that is not settled, or its end, no
sooner than that node is labelled with. -/
theorem Times.exists_label (built : network.Built)
    (h : Times network source target [] settled now search) {node : NodeId}
    {links : List (Link α)} (hTrail : network.Trail source links node)
    (hClear : network.Clear source links) :
    ∃ other label, search.labels[other]? = some label ∧ le label.time (passing links) ∧
      (other = node ∨ other ∉ settled) := by
  induction hTrail with
  | nil =>
      obtain ⟨label, hLabel, hTime⟩ := h.start_label
      exact ⟨source, label, hLabel, hTime, .inl rfl⟩
  | @snoc links link id prior hLink ih =>
      obtain ⟨hPriorClear, hTarget⟩ := clear_snoc_iff.mp hClear
      obtain ⟨other, label, hLabel, hTime, hOther⟩ := ih hPriorClear
      have hPrior := built.zero_le_passing prior hPriorClear
      have hLink' := built.zero_le_travelTime hLink
        (reaches_iff_exists_trail.mpr ⟨links, prior⟩) hTarget
      rw [passing_snoc]
      by_cases hSettled : other ∈ settled
      · obtain rfl : other = link.source := hOther.resolve_right fun hOpen => hOpen hSettled
        have hLabelled : le 0 label.time := MonotoneScalar.zero_le_iff.mpr
          ⟨(MonotoneScalar.le_iff.mp hTime).1, (h.reached _ _ hLabel).2⟩
        have hSum := MonotoneScalar.add_le_add hLabelled hTime hLink'
        obtain ⟨far, hFar, hLe⟩ := h.relaxed id link hLink hSettled List.not_mem_nil hTarget label
          hLabel (MonotoneScalar.le_iff.mp hSum).1
        exact ⟨link.target, far, hFar, MonotoneScalar.le_trans hLe hSum, .inl rfl⟩
      · have hLonger := MonotoneScalar.le_add hPrior hLink'
        exact ⟨other, label, hLabel, MonotoneScalar.le_trans hTime hLonger, .inr hSettled⟩

section Steps

variable {entry : QueueEntry α} {rest : List (QueueEntry α)} {label : Label α}

theorem Times.settle (built : network.Built)
    (h : Times network source target [] settled now search) (hQueue : search.queue = entry :: rest)
    (hLabel : search.labels[entry.node]? = some label) (hCurrent : label.time = entry.time)
    (hOther : entry.node ≠ target) :
    Times network source target (network.linksFrom entry.node) (entry.node :: settled) entry.time
      { search with queue := rest } := by
  refine { h.toExplores.settle built hQueue hLabel hCurrent hOther with
    start_label := h.start_label
    traced := h.traced
    number := fun node found hFound hNaN => (h.number node found hFound hNaN).imp_right
      (h.later entry (by simp [hQueue])).2
    relaxed := fun id link hLink hSource hDone => ?_ }
  rcases List.mem_cons.mp hSource with hHere | hSettled
  · exact absurd (built.mem_linksFrom_iff.mpr ⟨link, hLink, hHere⟩) hDone
  · exact h.relaxed id link hLink hSettled List.not_mem_nil

theorem Times.skip (h : Times network source target [] settled now search)
    (hQueue : search.queue = entry :: rest) (hLabel : search.labels[entry.node]? = some label)
    (hStale : lt label.time entry.time) :
    Times network source target [] settled entry.time { search with queue := rest } :=
  { h.toExplores.skip hQueue hLabel hStale with
    start_label := h.start_label
    traced := h.traced
    number := fun node found hFound hNaN => (h.number node found hFound hNaN).imp_right
      (h.later entry (by simp [hQueue])).2
    relaxed := h.relaxed }

/-- Whether a label is that of a way to `target` that no other way is faster than. -/
def Least (network : Network α) (source target : NodeId) (label : Label α) : Prop :=
  ∃ links, network.Trail source links target ∧ label = ⟨passing links, covered links⟩ ∧
    ∀ others, network.Trail source others target → le (passing links) (passing others)

/-- Whether a label is that of a way to `target` that no other way is faster than, unless that
enters a node that is spoilt. -/
def LeastClear (network : Network α) (source target : NodeId) (label : Label α) : Prop :=
  ∃ links, network.Trail source links target ∧ label = ⟨passing links, covered links⟩ ∧
    ∀ others, network.Trail source others target → network.Clear source others →
      le (passing links) (passing others)

theorem LeastClear.least {label : Label α} (h : LeastClear network source target label)
    (hPassable : network.Passable) : Least network source target label := by
  obtain ⟨links, hTrail, hLabel, hMinimal⟩ := h
  exact ⟨links, hTrail, hLabel, fun others hOthers =>
    hMinimal others hOthers (hPassable.clear source others)⟩

/-- The first entry of the queue is no later than any way to its node. -/
theorem Times.leastClear (built : network.Built)
    (h : Times network source target [] settled now search) (hQueue : search.queue = entry :: rest)
    (hLabel : search.labels[entry.node]? = some label) (hCurrent : label.time = entry.time)
    (hTarget : entry.node = target) : LeastClear network source target label := by
  subst hTarget
  obtain ⟨links, hTrail, rfl⟩ := h.traced entry.node label hLabel
  refine ⟨links, hTrail, rfl, fun others hOthers hClear => ?_⟩
  obtain ⟨node, found, hFound, hTime, hNode⟩ := h.exists_label built hOthers hClear
  have hOpen : node ∉ settled := by
    rcases hNode with rfl | hOpen
    · exact h.target_open
    · exact hOpen
  have hThere := h.pending node found hFound hOpen
  have hSorted := h.sorted
  rw [hQueue] at hThere hSorted
  have hFirst : NotAfter entry.time found.time := by
    rcases List.mem_cons.mp hThere with rfl | hLater
    · exact .refl _
    · exact (List.pairwise_cons.mp hSorted).1 _ hLater
  have hNumber := (MonotoneScalar.le_iff.mp hTime).1
  rw [← hCurrent] at hFirst
  exact MonotoneScalar.le_trans (MonotoneScalar.le_iff_notAfter.mpr ⟨hFirst, hNumber⟩) hTime

/-- What a step comes to. -/
def Progress.Least (network : Network α) (source target : NodeId) : Progress α → Prop
  | .arrived label _ => LeastClear network source target label
  | .exhausted _ => True
  | .ongoing next => ∃ settled now, Times network source target [] settled now next

theorem Times.step (built : network.Built)
    (h : Times network source target [] settled now search) :
    (search.step network target).Least network source target := by
  unfold Search.step
  cases hQueue : search.queue with
  | nil => trivial
  | cons entry rest =>
      obtain ⟨label, hLabel, hEntry⟩ := h.queued entry (by simp [hQueue])
      simp only [hLabel]
      split
      · next hStale => exact ⟨settled, entry.time, h.skip hQueue hLabel hStale⟩
      · next hFresh =>
          obtain ⟨hCurrent, -⟩ := hEntry.resolve_right hFresh
          split
          · next hTarget => exact h.leastClear built hQueue hLabel hCurrent hTarget
          · next hOther =>
              obtain ⟨links, hTrail, rfl⟩ := h.traced entry.node label hLabel
              have hSettled := h.settle built hQueue hLabel hCurrent hOther
              rw [← hCurrent] at hSettled
              exact ⟨entry.node :: settled, passing links,
                hSettled.expand built (fun _ hId => hId) List.mem_cons_self hTrail hLabel⟩

/-- Whether a label that is found is one of these. -/
def Finding.Within (labels : Label α → Prop) : Finding α → Prop
  | .label found => labels found
  | _ => True

theorem Times.run (built : network.Built)
    (h : Times network source target [] settled now search) (fuel : Nat) :
    (Search.run network target fuel search).1.Within (LeastClear network source target) := by
  induction fuel generalizing settled now search with
  | zero => trivial
  | succ fuel ih =>
      have hStep := h.step built
      unfold Search.run
      cases hProgress : search.step network target <;> rw [hProgress] at hStep
      case arrived label next => exact hStep
      case exhausted next => trivial
      case ongoing next =>
          obtain ⟨settled', now', hNext⟩ := hStep
          exact ih hNext

/-- A label that a search ends with is that of a way that no clear way is faster than. -/
theorem leastClear_between (built : network.Built) (used : Search α) (source target : NodeId) :
    (Search.between network used source target).1.Within (LeastClear network source target) :=
  (Times.start network source target).run built _

/-- Where all times are numbers a label that a search ends with is that of a fastest way. -/
theorem least_between (built : network.Built) (hPassable : network.Passable) (used : Search α)
    (source target : NodeId) :
    (Search.between network used source target).1.Within (Least network source target) := by
  have hClear := leastClear_between built used source target
  cases hFinding : (Search.between network used source target).1 <;> rw [hFinding] at hClear
  case label found => exact LeastClear.least hClear hPassable
  case unreachable => trivial
  case unfinished => trivial

end Steps

end Search

namespace Pathfinder

open Network Scalar

variable [Scalar α] [MonotoneScalar α]

/-- Between two links the time and the distance of one fastest way are answered, whatever was
searched before, or that there is no way. -/
theorem result_find_freeSpeed {network : Network α} (built : network.Built)
    (hFinite : ∀ id link, network.link? id = some link → isFinite link.length)
    (query : PathQuery α) {first last : Link α} (hFirst : network.link? query.origin = some first)
    (hLast : network.link? query.destination = some last)
    (hDiffer : query.origin ≠ query.destination) (used : Search α) :
    let result := (((freeSpeed network).find query).run used).result
    (result = .error (.noPath query.origin query.destination) ↔
        ¬∃ links, network.Trail first.target links last.source) ∧
      ((∃ links, network.Trail first.target links last.source) →
        ∃ links, network.Trail first.target links last.source ∧
          (∀ others, network.Trail first.target others last.source →
            le (passing links) (passing others)) ∧
          result = .ok ⟨1 + passing links + last.travelTime, covered links + last.length⟩) := by
  intro result
  have hSound := Search.sound_between built used first.target last.source
  have hLeast := Search.least_between built (built.passable hFinite) used first.target last.source
  have hResult : result = (((freeSpeed network).find query).run used).result := rfl
  simp only [freeSpeed, known, hFirst, hLast, answer, Session.run_bind, Session.run_pure,
    Session.run_get, if_neg hDiffer] at hResult
  rw [hResult, ← reaches_iff_exists_trail]
  generalize Search.between network used first.target last.source = found at hSound hLeast
  obtain ⟨finding, search⟩ := found
  cases finding
  case label inner =>
    obtain ⟨links, hTrail, rfl, hMinimal⟩ := hLeast
    constructor
    · constructor
      · intro hError
        cases hError
      · intro hNone
        exact absurd hSound.1 hNone
    · intro _
      exact ⟨links, hTrail, hMinimal, rfl⟩
  case unreachable =>
    constructor
    · constructor
      · intro _
        exact hSound
      · intro _
        rfl
    · intro hReaches
      exact absurd hReaches hSound
  case unfinished => exact hSound.elim

/-- Two roads between the same nodes: the longer of them takes less time. -/
def twoRoads : NetworkPlan Float where
  nodes := [⟨⟨"1"⟩, ⟨0, 0⟩⟩, ⟨⟨"2"⟩, ⟨10, 0⟩⟩, ⟨⟨"3"⟩, ⟨1010, 0⟩⟩, ⟨⟨"4"⟩, ⟨1020, 0⟩⟩]
  links := [⟨⟨"in"⟩, ⟨"1"⟩, ⟨"2"⟩, 10, 10⟩, ⟨⟨"slow"⟩, ⟨"2"⟩, ⟨"3"⟩, 1000, 10⟩,
    ⟨⟨"fast"⟩, ⟨"2"⟩, ⟨"3"⟩, 3000, 100⟩, ⟨⟨"out"⟩, ⟨"3"⟩, ⟨"4"⟩, 10, 10⟩]

/-- The network of the two roads. -/
def twoRoadNetwork : Network Float := twoRoads.build.toOption.getD .empty

theorem build_twoRoads : twoRoads.build = .ok twoRoadNetwork := by rfl

theorem isFinite_length_twoRoads (id : LinkId) (link : Link Float)
    (hLink : twoRoadNetwork.link? id = some link) : isFinite link.length := by
  have hAll : ∀ link ∈ twoRoadNetwork.linkList, isFinite link.length = true := by decide +kernel
  exact hAll link (mem_linkList_iff.mpr ⟨id, hLink⟩)

theorem result_find_twoRoads :
    (∃ links, twoRoadNetwork.Trail ⟨"2"⟩ links ⟨"3"⟩ ∧
      (∀ others, twoRoadNetwork.Trail ⟨"2"⟩ others ⟨"3"⟩ → le (passing links) (passing others)) ∧
      (((freeSpeed twoRoadNetwork).find ⟨⟨"in"⟩, ⟨"out"⟩, 0⟩).run Search.empty).result =
        .ok ⟨1 + passing links + 10 / 10, covered links + 10⟩) ∧
    ¬∃ links, twoRoadNetwork.Trail ⟨"4"⟩ links ⟨"1"⟩ := by
  have built := built_of_build build_twoRoads
  have hSlow : twoRoadNetwork.link? ⟨"slow"⟩ = some ⟨⟨"slow"⟩, ⟨"2"⟩, ⟨"3"⟩, 1000, 10⟩ := rfl
  constructor
  · exact (result_find_freeSpeed built isFinite_length_twoRoads ⟨⟨"in"⟩, ⟨"out"⟩, 0⟩ rfl rfl
      (by decide) Search.empty).2 ⟨_, Trail.nil.snoc hSlow⟩
  · exact (result_find_freeSpeed built isFinite_length_twoRoads ⟨⟨"out"⟩, ⟨"in"⟩, 0⟩ rfl rfl
      (by decide) Search.empty).1.mp rfl

end Pathfinder

end DemandRide
