import DemandRide.Road.Search
import Mathlib.Data.List.Nodup

/-! The moves of a search: which entries it takes from its queue, what it finds their nodes
labelled with and what it enqueues. Whatever the numbers are, an entry that is enqueued is taken
once or left in the queue, and no more entries are enqueued than links are followed. -/
namespace DemandRide

variable {α : Type}

theorem QueueEntry.insert_perm [Scalar α] (entry : QueueEntry α) (queue : List (QueueEntry α)) :
    (entry.insert queue).Perm (entry :: queue) := by
  induction queue with
  | nil => exact .refl _
  | cons head rest ih =>
      unfold QueueEntry.insert
      split
      · exact .refl _
      · exact (ih.cons head).trans (.swap entry head rest)

namespace Search

/-- What a search does with the entry that it takes from its queue. -/
inductive Move (α : Type) where
  /-- The node has no label to be looked up. -/
  | unlabelled (entry : QueueEntry α)
  /-- The node has been labelled with less in the meantime. -/
  | stale (entry : QueueEntry α) (label : Label α)
  | arrived (entry : QueueEntry α) (label : Label α)
  /-- The links out of the node are followed, which enqueues entries. -/
  | expanded (entry : QueueEntry α) (label : Label α) (enqueued : List (QueueEntry α))

namespace Move

def entry : Move α → QueueEntry α
  | unlabelled entry | stale entry _ | arrived entry _ | expanded entry _ _ => entry

def label? : Move α → Option (Label α)
  | unlabelled _ => none
  | stale _ label | arrived _ label | expanded _ label _ => some label

/-- The node whose links are followed. -/
def followed : Move α → List NodeId
  | expanded entry _ _ => [entry.node]
  | _ => []

def enqueued : Move α → List (QueueEntry α)
  | expanded _ _ entries => entries
  | _ => []

end Move

variable [Scalar α]

/-- What following a link enqueues. -/
def offered (network : Network α) (label : Label α) (search : Search α) (id : LinkId) :
    List (QueueEntry α) :=
  match network.link? id with
  | none => []
  | some link =>
    if search.improves link.target (label.time + link.travelTime) then
      [⟨label.time + link.travelTime, link.target⟩]
    else []

/-- What following links one after the other enqueues. -/
def offers (network : Network α) (label : Label α) (search : Search α) :
    List LinkId → List (QueueEntry α)
  | [] => []
  | id :: ids =>
    search.offered network label id ++ (search.follow network label id).offers network label ids

/-- What the next step does with the first entry of the queue. -/
def move (network : Network α) (target : NodeId) (search : Search α) (entry : QueueEntry α)
    (rest : List (QueueEntry α)) : Move α :=
  match search.labels[entry.node]? with
  | none => .unlabelled entry
  | some label =>
    if Scalar.lt label.time entry.time then .stale entry label
    else if entry.node = target then .arrived entry label
    else .expanded entry label
      (offers network label { search with queue := rest } (network.linksFrom entry.node))

/-- The moves of a run, the first one first. -/
def moves (network : Network α) (target : NodeId) : Nat → Search α → List (Move α)
  | 0, _ => []
  | fuel + 1, search =>
    match search.queue with
    | [] => []
    | entry :: rest =>
      search.move network target entry rest ::
        match search.step network target with
        | .ongoing next => moves network target fuel next
        | _ => []

@[simp] theorem move_entry (network : Network α) (target : NodeId) (search : Search α)
    (entry : QueueEntry α) (rest : List (QueueEntry α)) :
    (search.move network target entry rest).entry = entry := by
  unfold move
  cases search.labels[entry.node]? with
  | none => rfl
  | some label =>
      dsimp only
      split
      · rfl
      · split <;> rfl

section Accounts

variable (network : Network α) (target : NodeId) (search : Search α)

theorem length_offers_le (label : Label α) (ids : List LinkId) :
    (search.offers network label ids).length ≤ ids.length := by
  induction ids generalizing search with
  | nil => exact Nat.le_refl _
  | cons id ids ih =>
      have hOne : (search.offered network label id).length ≤ 1 := by
        unfold offered
        split
        · exact Nat.zero_le _
        · split <;> simp
      have hRest := ih (search.follow network label id)
      rw [offers, List.length_append, List.length_cons]
      omega

theorem queue_follow_perm (label : Label α) (id : LinkId) :
    (search.follow network label id).queue.Perm
      (search.offered network label id ++ search.queue) := by
  unfold follow offered improve
  cases network.link? id with
  | none => exact .refl _
  | some link =>
      dsimp only
      split
      · exact QueueEntry.insert_perm _ _
      · exact .refl _

/-- Following links leaves in the queue what was there and what is enqueued. -/
theorem queue_expand_perm (label : Label α) (ids : List LinkId) :
    (ids.foldl (follow network label) search).queue.Perm
      (search.offers network label ids ++ search.queue) := by
  induction ids generalizing search with
  | nil => exact .refl _
  | cons id ids ih =>
      have hFirst := queue_follow_perm network search label id
      rw [List.foldl_cons, offers, List.append_assoc]
      refine (ih _).trans ((hFirst.append_left _).trans ?_)
      rw [← List.append_assoc, ← List.append_assoc]
      exact List.perm_append_comm.append_right _

/-- Where a move leads a search whose first entry it takes. -/
def Move.progress (network : Network α) (search : Search α) : Move α → Progress α
  | .unlabelled _ | .stale _ _ => .ongoing search
  | .arrived _ label => .arrived label search
  | .expanded entry label _ => .ongoing (search.expand network entry.node label)

/-- A step makes the move that is told of it. -/
theorem step_eq_progress {entry : QueueEntry α} {rest : List (QueueEntry α)}
    (hQueue : search.queue = entry :: rest) :
    search.step network target =
      (search.move network target entry rest).progress network { search with queue := rest } := by
  unfold step move
  simp only [hQueue]
  cases search.labels[entry.node]? with
  | none => rfl
  | some label =>
      dsimp only
      split
      · rfl
      · split <;> rfl

/-- What a step leaves. -/
def Progress.left : Progress α → Search α
  | .arrived _ search | .exhausted search | .ongoing search => search

/-- A step takes the first entry from the queue and adds what its move enqueues. -/
theorem queue_step_perm {entry : QueueEntry α} {rest : List (QueueEntry α)}
    (hQueue : search.queue = entry :: rest) :
    (search.step network target).left.queue.Perm
      ((search.move network target entry rest).enqueued ++ rest) := by
  rw [step_eq_progress network target search hQueue]
  unfold move
  cases search.labels[entry.node]? with
  | none => exact .refl _
  | some label =>
      dsimp only
      split
      · exact .refl _
      · split
        · exact .refl _
        · exact queue_expand_perm network _ label _

/-- Whatever is in the queue or is enqueued is taken from it or left in it, and nothing else is. -/
theorem queue_moves_perm (fuel : Nat) :
    (search.queue ++ (moves network target fuel search).flatMap Move.enqueued).Perm
      ((moves network target fuel search).map Move.entry ++
        (run network target fuel search).2.queue) := by
  induction fuel generalizing search with
  | zero => simp [moves, run]
  | succ fuel ih =>
      cases hQueue : search.queue with
      | nil => simp [moves, run, step, hQueue]
      | cons entry rest =>
          have hStep := queue_step_perm network target search hQueue
          unfold moves run
          simp only [hQueue]
          cases hProgress : search.step network target <;>
            simp only [hProgress, Progress.left] at hStep
          case ongoing next =>
            -- What this move enqueues is in the queue of the next search.
            simp only [List.flatMap_cons, List.map_cons, move_entry, List.cons_append]
            refine .cons entry ?_
            rw [← List.append_assoc]
            exact ((List.perm_append_comm.trans hStep.symm).append_right _).trans (ih next)
          all_goals
            simp only [List.flatMap_cons, List.flatMap_nil, List.append_nil, List.map_cons,
              List.map_nil, move_entry, List.cons_append, List.nil_append]
            exact .cons entry (List.perm_append_comm.trans hStep.symm)

/-- More fuel than a run needs makes no difference. -/
theorem run_of_le {fuel more : Nat} (hLe : fuel ≤ more)
    (hFinished : (run network target fuel search).1 ≠ .unfinished) :
    run network target more search = run network target fuel search := by
  induction fuel generalizing more search with
  | zero => exact absurd rfl hFinished
  | succ fuel ih =>
      obtain ⟨more, rfl⟩ : ∃ other, more = other + 1 := Nat.exists_eq_add_one.mpr (by omega)
      unfold run at hFinished ⊢
      cases hProgress : search.step network target <;> simp only [hProgress] at hFinished ⊢
      exact ih _ (by omega) hFinished

end Accounts

end Search

end DemandRide
