import DemandRide.Proofs.Number.Extended
import DemandRide.Proofs.Road.LeastTime

/-! Networks with infinite lengths and free speeds. A link may be infinitely long or be passed
infinitely fast; one that is both takes a time that is not a number. Wherever finite times lead
from one link to another a path is found, and its time is finite too unless every such way enters
a node that a link of both kinds leads to: a node that is labelled by way of that link first is
not labelled again. -/
namespace DemandRide

variable {α : Type}

namespace Network

open Scalar

variable [Scalar α] [UnboundedScalar α] {network : Network α}

/-- A node is spoilt by links that are infinitely long and passed infinitely fast. -/
theorem Built.spoilt_iff (built : network.Built) {source node : NodeId} :
    network.Spoilt source node ↔
      ∃ id link, network.link? id = some link ∧ network.Reaches source link.source ∧
        link.target = node ∧ isFinite link.length = false ∧ isFinite link.freeSpeed = false := by
  refine exists_congr fun id => exists_congr fun link => and_congr_right fun hLink => ?_
  obtain ⟨hLength, hSpeed⟩ := measured_iff.mp (built.link?_sound hLink).2
  rw [Link.travelTime, UnboundedScalar.isNaN_div_iff hLength hSpeed]

/-- Finite times add up to a finite time. -/
theorem isFinite_passing {links : List (Link α)}
    (hFinite : ∀ link ∈ links, isFinite link.travelTime) : isFinite (passing links) := by
  induction links using List.reverseRecOn with
  | nil => exact UnboundedScalar.isFinite_zero
  | append_singleton links link ih =>
      rw [List.forall_mem_append, List.forall_mem_singleton] at hFinite
      rw [passing_snoc]
      exact UnboundedScalar.isFinite_add (ih hFinite.1) hFinite.2

end Network

namespace Pathfinder

open Network Scalar

variable [Scalar α]

/-- Between two links that are connected a path is answered: one that no clear way is faster
than. -/
theorem exists_result_find [MonotoneScalar α] {network : Network α} (built : network.Built)
    (query : PathQuery α) {first last : Link α} (hFirst : network.link? query.origin = some first)
    (hLast : network.link? query.destination = some last)
    (hDiffer : query.origin ≠ query.destination)
    (hReaches : network.Reaches first.target last.source) (used : Search α) :
    ∃ inner, Search.LeastClear network first.target last.source inner ∧
      lt inner.time 0 = false ∧
      (((freeSpeed network).find query).run used).result =
        .ok ⟨1 + inner.time + last.travelTime, inner.distance + last.length⟩ := by
  have hSound := Search.sound_between built used first.target last.source
  have hLeast := Search.leastClear_between built used first.target last.source
  simp only [freeSpeed, known, hFirst, hLast, answer, Session.run_bind, Session.run_pure,
    Session.run_get, if_neg hDiffer]
  generalize Search.between network used first.target last.source = found at hSound hLeast
  obtain ⟨finding, search⟩ := found
  cases finding
  case label inner => exact ⟨inner, hLeast, hSound.2, rfl⟩
  case unreachable => exact absurd hReaches hSound
  case unfinished => exact hSound.elim

/-- Where finite times lead from one link to another a path is found, and its time is finite if
they lead there past no link that is infinitely long and passed infinitely fast. -/
theorem isFinite_travelTime_find [UnboundedScalar α] {network : Network α}
    (built : network.Built) (query : PathQuery α) {first last : Link α}
    (hFirst : network.link? query.origin = some first)
    (hLast : network.link? query.destination = some last)
    (hDiffer : query.origin ≠ query.destination) (hLastFinite : isFinite last.travelTime)
    {links : List (Link α)} (hTrail : network.Trail first.target links last.source)
    (hFinite : ∀ link ∈ links, isFinite link.travelTime) (used : Search α) :
    ∃ path, (((freeSpeed network).find query).run used).result = .ok path ∧
      (network.Clear first.target links → isFinite path.travelTime) := by
  have hReaches := reaches_iff_exists_trail.mpr ⟨links, hTrail⟩
  obtain ⟨inner, ⟨way, hWay, rfl, hMinimal⟩, hTime, hResult⟩ :=
    exists_result_find built query hFirst hLast hDiffer hReaches used
  refine ⟨_, hResult, fun hClear => ?_⟩
  -- The way that is answered is no slower than this one, so that its time is finite too.
  have hLess := hMinimal links hTrail hClear
  have hNumber := (MonotoneScalar.le_iff.mp hLess).1
  have hInner := UnboundedScalar.isFinite_of_le (MonotoneScalar.zero_le_iff.mpr ⟨hNumber, hTime⟩)
    hLess (isFinite_passing hFinite)
  have hOut := UnboundedScalar.isFinite_add UnboundedScalar.isFinite_one hInner
  exact UnboundedScalar.isFinite_add hOut hLastFinite

/-- A road, one of infinite length, one of infinite speed and, to the far node only, one of both. -/
def boundless : NetworkPlan (Extended ℚ) where
  nodes := [⟨⟨"1"⟩, ⟨0, 0⟩⟩, ⟨⟨"2"⟩, ⟨10, 0⟩⟩, ⟨⟨"3"⟩, ⟨110, 0⟩⟩, ⟨⟨"4"⟩, ⟨120, 0⟩⟩,
    ⟨⟨"far"⟩, ⟨.infinity false, 0⟩⟩]
  links := [⟨⟨"void"⟩, ⟨"2"⟩, ⟨"far"⟩, .infinity false, .infinity false⟩,
    ⟨⟨"endless"⟩, ⟨"2"⟩, ⟨"3"⟩, .infinity false, 10⟩,
    ⟨⟨"in"⟩, ⟨"1"⟩, ⟨"2"⟩, 10, 10⟩, ⟨⟨"road"⟩, ⟨"2"⟩, ⟨"3"⟩, 100, 10⟩,
    ⟨⟨"instant"⟩, ⟨"3"⟩, ⟨"2"⟩, 100, .infinity false⟩, ⟨⟨"out"⟩, ⟨"3"⟩, ⟨"4"⟩, 10, 10⟩]

/-- The network of these roads. -/
def boundlessNetwork : Network (Extended ℚ) := boundless.build.toOption.getD .empty

theorem build_boundless : boundless.build = .ok boundlessNetwork := by
  have hBuilt : boundless.build.toOption.isSome := by decide +kernel
  unfold boundlessNetwork
  cases hResult : boundless.build with
  | error error => simp [hResult, Except.toOption] at hBuilt
  | ok network => rfl

/-- The link that is infinite in both ways leads away from the road. -/
theorem clear_road {road : Link (Extended ℚ)} (hRoad : road.target = ⟨"3"⟩) :
    boundlessNetwork.Clear ⟨"2"⟩ [road] := by
  have hAll : ∀ link ∈ boundlessNetwork.linkList, link.target = ⟨"3"⟩ →
      isFinite link.length ∨ isFinite link.freeSpeed := by decide +kernel
  intro link hLink hSpoilt
  obtain rfl := List.mem_singleton.mp hLink
  obtain ⟨id, other, hOther, -, hTarget, hLength, hSpeed⟩ :=
    (built_of_build build_boundless).spoilt_iff.mp hSpoilt
  rcases hAll other (mem_linkList_iff.mpr ⟨id, hOther⟩) (hTarget.trans hRoad) with hFinite | hFinite
  · cases hLength.symm.trans hFinite
  · cases hSpeed.symm.trans hFinite

theorem isFinite_travelTime_find_boundless :
    ∃ path, (((freeSpeed boundlessNetwork).find ⟨⟨"in"⟩, ⟨"out"⟩, 0⟩).run Search.empty).result =
      .ok path ∧ isFinite path.travelTime := by
  have hFirst : boundlessNetwork.link? ⟨"in"⟩ = some ⟨⟨"in"⟩, ⟨"1"⟩, ⟨"2"⟩, 10, 10⟩ := by
    decide +kernel
  have hRoad : boundlessNetwork.link? ⟨"road"⟩ = some ⟨⟨"road"⟩, ⟨"2"⟩, ⟨"3"⟩, 100, 10⟩ := by
    decide +kernel
  have hLast : boundlessNetwork.link? ⟨"out"⟩ = some ⟨⟨"out"⟩, ⟨"3"⟩, ⟨"4"⟩, 10, 10⟩ := by
    decide +kernel
  have hFinite : isFinite (100 / 10 : Extended ℚ) := by decide +kernel
  obtain ⟨path, hPath, hTime⟩ := isFinite_travelTime_find (built_of_build build_boundless)
    ⟨⟨"in"⟩, ⟨"out"⟩, 0⟩ hFirst hLast (by decide) (by decide +kernel) (Trail.nil.snoc hRoad)
    (List.forall_mem_singleton.mpr hFinite) Search.empty
  exact ⟨path, hPath, hTime (clear_road rfl)⟩

/-- A link infinite in both ways beside a road, and added before it. -/
def bypass : NetworkPlan Float where
  nodes := [⟨⟨"1"⟩, ⟨0, 0⟩⟩, ⟨⟨"2"⟩, ⟨10, 0⟩⟩, ⟨⟨"3"⟩, ⟨110, 0⟩⟩, ⟨⟨"4"⟩, ⟨120, 0⟩⟩]
  links := [⟨⟨"in"⟩, ⟨"1"⟩, ⟨"2"⟩, 10, 10⟩, ⟨⟨"void"⟩, ⟨"2"⟩, ⟨"3"⟩, 1 / 0, 1 / 0⟩,
    ⟨⟨"road"⟩, ⟨"2"⟩, ⟨"3"⟩, 100, 10⟩, ⟨⟨"out"⟩, ⟨"3"⟩, ⟨"4"⟩, 10, 10⟩]

/-- The network of the bypass. -/
def bypassNetwork : Network Float := bypass.build.toOption.getD .empty

/-- The road takes a finite time, but its end has been labelled by way of the other link, with a
time that is not a number. -/
theorem travelTime_find_bypass :
    bypass.build = .ok bypassNetwork ∧
      (∃ first road last, bypassNetwork.link? ⟨"in"⟩ = some first ∧
        bypassNetwork.link? ⟨"out"⟩ = some last ∧
        bypassNetwork.Trail first.target [road] last.source ∧
        isFinite road.travelTime ∧ isFinite last.travelTime) ∧
      ∃ path, (((freeSpeed bypassNetwork).find ⟨⟨"in"⟩, ⟨"out"⟩, 0⟩).run Search.empty).result =
        .ok path ∧ isNaN path.travelTime ∧ isFinite path.travelTime = false := by
  have hRoad : bypassNetwork.link? ⟨"road"⟩ = some ⟨⟨"road"⟩, ⟨"2"⟩, ⟨"3"⟩, 100, 10⟩ := rfl
  refine ⟨rfl, ⟨_, _, _, rfl, rfl, Trail.nil.snoc hRoad, ?_, ?_⟩, _, rfl, ?_, ?_⟩
  all_goals decide +kernel

end Pathfinder

end DemandRide
