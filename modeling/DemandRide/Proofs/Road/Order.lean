import DemandRide.Proofs.Number.Binary64
import DemandRide.Proofs.Road.Search

/-! The order in which a search makes its moves. Nodes are labelled before they are enqueued, and
as no link leads back in time, entries are taken in the order of their times. The links out of a
node are followed once, so that there are no more entries than links and the one that a search
begins with. -/
namespace DemandRide.Search

open Network

variable {α : Type} [Scalar α] {network : Network α} {source target : NodeId}
  {settled : List NodeId} {now : α} {search : Search α}

/-- What is known of the moves of a run whose search begins with these nodes settled. -/
structure Orderly (network : Network α) (settled : List NodeId) (now : α)
    (log : List (Move α)) : Prop where
  labelled : ∀ move ∈ log, move.label?.isSome
  later : ∀ move ∈ log, NotAfter now move.entry.time
  ordered : log.Pairwise fun a b => NotAfter a.entry.time b.entry.time
  new : ∀ node ∈ log.flatMap Move.followed, node ∉ settled
  nodup : (log.flatMap Move.followed).Nodup
  covered : (log.flatMap Move.enqueued).length ≤ (unfollowed network settled).length

theorem Orderly.nil : Orderly network settled now ([] : List (Move α)) :=
  ⟨nofun, nofun, .nil, nofun, .nil, Nat.zero_le _⟩

variable [OrderedScalar α]

/-- A move is followed by the moves of a search that begins where it ends. -/
theorem Orderly.cons {move : Move α} {log : List (Move α)} (hMove : move.Sound network settled)
    (hLater : NotAfter now move.entry.time)
    (h : Orderly network (move.followed ++ settled) move.entry.time log) :
    Orderly network settled now (move :: log) := by
  have hOnce : move.followed.Nodup := by cases move <;> simp [Move.followed]
  refine ⟨?_, ?_, List.pairwise_cons.mpr ⟨h.later, h.ordered⟩, ?_, ?_, ?_⟩
  · exact List.forall_mem_cons.mpr ⟨hMove.labelled, h.labelled⟩
  · exact List.forall_mem_cons.mpr ⟨hLater, fun other hOther => hLater.trans (h.later other hOther)⟩
  · intro node hNode
    rcases List.mem_append.mp hNode with hHere | hThere
    · exact hMove.new node hHere
    · exact fun hSettled => h.new node hThere (List.mem_append_right _ hSettled)
  · refine List.nodup_append'.mpr ⟨hOnce, h.nodup, fun node hHere hThere => ?_⟩
    exact h.new node hThere (List.mem_append_left _ hHere)
  · rw [List.flatMap_cons, List.length_append]
    have hRest := h.covered
    have hFirst := hMove.covered
    omega

theorem Explores.moves (built : network.Built) (fuel : Nat)
    (h : Explores network source target [] settled now search) :
    Orderly network settled now (Search.moves network target fuel search) := by
  induction fuel generalizing settled now search with
  | zero => exact .nil
  | succ fuel ih =>
      unfold Search.moves
      cases hQueue : search.queue with
      | nil => exact .nil
      | cons entry rest =>
          obtain ⟨hMove, hNext⟩ := h.move built hQueue
          have hLater : NotAfter now (search.move network target entry rest).entry.time := by
            rw [move_entry]
            exact h.later entry (by simp [hQueue])
          refine .cons hMove hLater ?_
          rw [move_entry]
          cases hProgress : search.step network target <;> rw [hProgress] at hNext
          case ongoing next => exact ih hNext
          all_goals exact .nil

/-- A search ends, however often it is allowed to take a move. It finds every node labelled that it
takes from its queue, takes entries in the order of their times, follows the links of each node at
most once and enqueues no more entries than there are links, besides the one it begins with. -/
theorem moves_between (built : network.Built) (used : Search α) (source target : NodeId)
    (fuel : Nat) :
    let begun := used.clear.enter source
    let log := Search.moves network target fuel begun
    let pushed := ⟨0, source⟩ :: log.flatMap Move.enqueued
    (stepBound network ≤ fuel →
        run network target fuel begun = between network used source target ∧
          (run network target fuel begun).1 ≠ .unfinished) ∧
      pushed.Perm (log.map Move.entry ++ (run network target fuel begun).2.queue) ∧
      (∀ move ∈ log, move.label?.isSome) ∧
      (log.Pairwise fun a b => NotAfter a.entry.time b.entry.time) ∧
      (log.flatMap Move.followed).Nodup ∧
      pushed.length ≤ 1 + network.linkCount := by
  intro begun log pushed
  have hSound := sound_between built used source target
  have hFinished : (between network used source target).1 ≠ .unfinished := fun hUnfinished => by
    rw [hUnfinished] at hSound
    exact hSound
  have hOrderly : Orderly network [] 0 log :=
    (Explores.start network source target).moves built fuel
  have hLinks : (unfollowed network []).length ≤ network.linkCount := by
    rw [← network.length_linkList]
    exact List.length_filter_le _ _
  refine ⟨fun hFuel => ?_, queue_moves_perm network target begun fuel, hOrderly.labelled,
    hOrderly.ordered, hOrderly.nodup, ?_⟩
  · have hSame : run network target fuel begun = between network used source target :=
      run_of_le network target begun hFuel hFinished
    exact ⟨hSame, hSame ▸ hFinished⟩
  · have hCovered := hOrderly.covered
    simp only [pushed, List.length_cons]
    omega

/-- A roundabout with a link to itself and a link of no length; nothing leads to its fourth node. -/
def roundabout : NetworkPlan Float where
  nodes := [⟨⟨"1"⟩, ⟨0, 0⟩⟩, ⟨⟨"2"⟩, ⟨100, 0⟩⟩, ⟨⟨"3"⟩, ⟨100, 0⟩⟩, ⟨⟨"4"⟩, ⟨0, 9⟩⟩]
  links := [⟨⟨"long"⟩, ⟨"1"⟩, ⟨"3"⟩, 1000, 10⟩, ⟨⟨"first"⟩, ⟨"1"⟩, ⟨"2"⟩, 100, 10⟩,
    ⟨⟨"loop"⟩, ⟨"2"⟩, ⟨"2"⟩, 5, 10⟩, ⟨⟨"join"⟩, ⟨"2"⟩, ⟨"3"⟩, 0, 10⟩,
    ⟨⟨"back"⟩, ⟨"3"⟩, ⟨"1"⟩, 100, 10⟩, ⟨⟨"entry"⟩, ⟨"4"⟩, ⟨"1"⟩, 9, 10⟩]

/-- The network of the roundabout. -/
def roundaboutNetwork : Network Float := roundabout.build.toOption.getD .empty

theorem build_roundabout : roundabout.build = .ok roundaboutNetwork := by rfl

/-- The third node is labelled by way of the long link first, so that one entry is stale. -/
theorem moves_roundabout :
    let begun := (Search.empty : Search Float).clear.enter ⟨"1"⟩
    let log := moves roundaboutNetwork ⟨"4"⟩ 100 begun
    (run roundaboutNetwork ⟨"4"⟩ 100 begun).1 ≠ .unfinished ∧
      log.map (fun move => move.entry.node) = [⟨"1"⟩, ⟨"2"⟩, ⟨"3"⟩, ⟨"3"⟩] ∧
      (∀ move ∈ log, move.label?.isSome) ∧
      (log.Pairwise fun a b => NotAfter a.entry.time b.entry.time) ∧
      log.flatMap Move.followed = [⟨"1"⟩, ⟨"2"⟩, ⟨"3"⟩] ∧
      (log.flatMap Move.enqueued).length + 1 ≤ 7 := by
  intro begun log
  have built := built_of_build build_roundabout
  have hFuel : stepBound roundaboutNetwork ≤ 100 := by decide +kernel
  obtain ⟨hEnds, -, hLabelled, hOrdered, -, hPushed⟩ :=
    moves_between built Search.empty ⟨"1"⟩ ⟨"4"⟩ 100
  have hCount : roundaboutNetwork.linkCount = 6 := by rfl
  rw [hCount] at hPushed
  exact ⟨(hEnds hFuel).2, by decide +kernel, hLabelled, hOrdered, by decide +kernel, hPushed⟩

end DemandRide.Search
