import DemandRide.Plane.Binary64
import DemandRide.Proofs.Road.Network
import DemandRide.Stops.Area
import Mathlib.Data.List.Sort

/-! The stops that a service area gives rise to. There is one for every link that ends inside the
area and no other, and they stand in the order of their identifiers, in whatever order the links
were gone through. So they tell of the nodes and links of a network and of nothing else, and none
of them can be mistaken for another when stops are chosen. -/
namespace DemandRide

variable {α : Type}

namespace Stop

/-- Whether the identifier of a stop comes first. -/
def Precedes (a b : Stop α) : Prop := compare a.id b.id = .lt

variable {stops others : List (Stop α)}

theorem Precedes.id_ne {a b : Stop α} (h : a.Precedes b) : a.id ≠ b.id :=
  fun hSame => Std.LawfulEqOrd.compare_eq_iff_eq.not.mp (by rw [h]; decide) hSame

theorem nodup_of_pairwise (h : stops.Pairwise Precedes) : (stops.map Stop.id).Nodup :=
  List.pairwise_map.mpr (h.imp Precedes.id_ne)

/-- Stops in the order of their identifiers are told by which of them there are. -/
theorem eq_of_mem_iff (h : stops.Pairwise Precedes) (h' : others.Pairwise Precedes)
    (hSame : ∀ stop, stop ∈ stops ↔ stop ∈ others) : stops = others := by
  have hPerm : stops.Perm others :=
    (List.perm_ext_iff_of_nodup (nodup_of_pairwise h).of_map (nodup_of_pairwise h').of_map).mpr
      hSame
  refine hPerm.eq_of_pairwise (fun a b _ _ hab hba => ?_) h h'
  cases hab.symm.trans (Std.OrientedCmp.gt_of_lt hba)

end Stop

variable [Plane α] {network : Network α}

namespace Area

/-- The stops of links that come in any order, put in the order of their identifiers. -/
def sortedStops (area : Area α) (network : Network α) (links : List (Link α)) : List (Stop α) :=
  (links.filterMap (area.stopOfLink? network)).mergeSort fun a b => (compare a.id b.id).isLE

variable {area : Area α}

theorem stopOfLink?_eq_some_iff {link : Link α} {stop : Stop α} :
    area.stopOfLink? network link = some stop ↔
      ∃ point, network.node? link.target = some point ∧ area.contains point ∧
        stop = ⟨⟨link.id.text⟩, link.id, point⟩ := by
  unfold stopOfLink?
  cases network.node? link.target with
  | none => simp
  | some point => cases hInside : area.contains point <;> simp [hInside, @eq_comm _ stop]

/-- The stops of an area are the ends of the links that end inside it. -/
theorem mem_deriveStops_iff (built : network.Built) {stop : Stop α} :
    stop ∈ area.deriveStops network ↔ ∃ link point, network.link? link.id = some link ∧
      network.node? link.target = some point ∧ area.contains point ∧
      stop = ⟨⟨link.id.text⟩, link.id, point⟩ := by
  simp only [deriveStops, List.mem_filterMap, Network.mem_linkList_iff, stopOfLink?_eq_some_iff]
  constructor
  · rintro ⟨link, ⟨id, hLink⟩, point, hPoint⟩
    obtain ⟨rfl, -⟩ := built.link?_sound hLink
    exact ⟨link, point, hLink, hPoint⟩
  · rintro ⟨link, point, hLink, hPoint⟩
    exact ⟨link, ⟨link.id, hLink⟩, point, hPoint⟩

/-- Every stop that an area gives rise to lies inside it. -/
theorem stopsInside_deriveStops (area : Area α) (network : Network α) :
    area.stopsInside (area.deriveStops network) = area.deriveStops network := by
  refine List.filter_eq_self.mpr fun stop hStop => ?_
  obtain ⟨link, -, hLink⟩ := List.mem_filterMap.mp hStop
  obtain ⟨_, -, hInside, rfl⟩ := stopOfLink?_eq_some_iff.mp hLink
  exact hInside

/-- The stops stand in the order of the links that give rise to them. -/
theorem pairwise_deriveStops (built : network.Built) :
    (area.deriveStops network).Pairwise Stop.Precedes := by
  refine built.increasing_linkList.filterMap _ fun link other hBefore stop hStop next hNext => ?_
  obtain ⟨_, -, -, rfl⟩ := stopOfLink?_eq_some_iff.mp hStop
  obtain ⟨_, -, -, rfl⟩ := stopOfLink?_eq_some_iff.mp hNext
  exact hBefore

/-- Beside the links only the nodes are asked for. -/
theorem sortedStops_congr {other : Network α} (hNodes : ∀ id, other.node? id = network.node? id)
    (links : List (Link α)) : area.sortedStops other links = area.sortedStops network links := by
  have hStop : area.stopOfLink? other = area.stopOfLink? network :=
    funext fun link => by simp only [stopOfLink?, hNodes]
  rw [sortedStops, hStop, sortedStops]

/-- In whatever order the links come, the same stops are derived from them. -/
theorem sortedStops_eq (built : network.Built) {links : List (Link α)}
    (hLinks : links.Perm network.linkList) :
    area.sortedStops network links = area.deriveStops network := by
  have hIncreasing : (area.deriveStops network).Pairwise Stop.Precedes := pairwise_deriveStops built
  have hPerm : (area.sortedStops network links).Perm (area.deriveStops network) :=
    (List.mergeSort_perm _ _).trans (hLinks.filterMap _)
  have hTotal (a b : Stop α) : (compare a.id b.id).isLE || (compare b.id a.id).isLE := by
    rw [Bool.or_eq_true, or_iff_not_imp_left]
    exact fun hLater => Ordering.isLE_of_eq_lt (Std.OrientedCmp.lt_of_not_isLE hLater)
  have hTrans (a b c : Stop α) (hab : (compare a.id b.id).isLE) (hbc : (compare b.id c.id).isLE) :
      (compare a.id c.id).isLE :=
    Std.TransOrd.isLE_trans hab hbc
  have hSorted : (area.sortedStops network links).Pairwise fun a b => (compare a.id b.id).isLE :=
    List.pairwise_mergeSort hTrans hTotal _
  refine hPerm.eq_of_pairwise (fun a b ha hb hab hba => ?_) hSorted
    (hIncreasing.imp fun hBefore => Ordering.isLE_of_eq_lt hBefore)
  -- Stops that come no later than each other share their identifier, so they are one stop.
  exact List.inj_on_of_nodup_map (Stop.nodup_of_pairwise hIncreasing) (hPerm.mem_iff.mp ha) hb
    (Std.LawfulEqOrd.eq_of_compare (Std.OrientedCmp.isLE_antisymm hab hba))

/-- A link gives rise to one stop if it ends inside the area, and to none if it does not. -/
theorem filter_deriveStops (built : network.Built) {id : LinkId} {link : Link α} {point : Point α}
    (hLink : network.link? id = some link) (hEnd : network.node? link.target = some point) :
    (area.deriveStops network).filter (fun stop => stop.id = ⟨id.text⟩) =
      if area.contains point then [⟨⟨id.text⟩, id, point⟩] else [] := by
  obtain ⟨rfl, -⟩ := built.link?_sound hLink
  refine Stop.eq_of_mem_iff ((pairwise_deriveStops built).filter _) (by split <;> simp) ?_
  intro stop
  simp only [List.mem_filter, mem_deriveStops_iff built, decide_eq_true_eq]
  constructor
  · rintro ⟨⟨other, _, hOther, hPoint, hInside, rfl⟩, hId⟩
    have hSame : other.id = link.id := congrArg Id.mk (Id.mk.inj hId)
    rw [hSame] at hOther
    cases hLink.symm.trans hOther
    cases hEnd.symm.trans hPoint
    simp [hInside]
  · intro hStop
    split at hStop
    · cases List.mem_singleton.mp hStop
      exact ⟨⟨link, point, hLink, hEnd, ‹_›, rfl⟩, rfl⟩
    · cases hStop

end Area

namespace StopIndex

variable {stops : List (Stop α)}

/-- Stops of different names are not equally preferred, even where they are equally near. -/
theorem preference_ne_eq {point : Point α} {a b : Stop α} (h : a.id ≠ b.id) :
    preference point a b ≠ .eq :=
  fun hTie => h (Std.LawfulEqOrd.eq_of_compare (Ordering.then_eq_eq.mp hTie).2)

/-- In whatever order an index searches its stops, no two of them tie if their names differ. -/
theorem pairwise_preference_ofStops (h : (stops.map Stop.id).Nodup) (radius : α)
    (point : Point α) :
    (ofStops stops radius).stops.Pairwise fun a b => preference point a b ≠ .eq := by
  have hSearched : ((ofStops stops radius).stops.map Stop.id).Nodup :=
    ((Tiling.searchOrder_perm stops).map Stop.id).nodup_iff.mpr h
  exact (List.pairwise_map.mp hSearched).imp preference_ne_eq

end StopIndex

/-- An area gives rise to one stop for each link that ends inside it, with the name of the link and
at its end, and to no other; every link ends somewhere. The stops stand in the order of their
names, and they are the same for every network that has these nodes and links, in whatever order
it got them and its links are gone through. An index loses none of them, and no two of them tie. -/
theorem Area.stops_of_built_network (area : Area α) (built : network.Built) :
    let stops := area.deriveStops network
    stops.Pairwise Stop.Precedes ∧
    (∀ id link, network.link? id = some link → ∃ point, network.node? link.target = some point ∧
      stops.filter (fun stop => stop.id = ⟨id.text⟩) =
        if area.contains point then [⟨⟨id.text⟩, id, point⟩] else []) ∧
    (∀ stop ∈ stops, ∃ link, network.link? stop.link = some link ∧ stop.id = ⟨stop.link.text⟩ ∧
      network.node? link.target = some stop.point ∧ area.contains stop.point) ∧
    (∀ (other : Network α) (links : List (Link α)), (∀ id, other.node? id = network.node? id) →
      (∀ id, other.link? id = network.link? id) → links.Perm other.linkList →
      area.sortedStops other links = stops) ∧
    ∀ radius, (StopIndex.ofStops stops radius).stops.Perm stops ∧
      ∀ point, (StopIndex.ofStops stops radius).stops.Pairwise
        fun a b => StopIndex.preference point a b ≠ .eq := by
  intro stops
  have hIncreasing : stops.Pairwise Stop.Precedes := pairwise_deriveStops built
  refine ⟨hIncreasing, ?each, ?only, ?same, fun radius => ⟨Tiling.searchOrder_perm stops, ?tie⟩⟩
  case each =>
    intro id link hLink
    obtain ⟨point, hEnd⟩ := Option.isSome_iff_exists.mp (built.ends hLink).2
    exact ⟨point, hEnd, filter_deriveStops built hLink hEnd⟩
  case only =>
    intro stop hStop
    obtain ⟨link, point, hLink, hEnd, hInside, rfl⟩ := (mem_deriveStops_iff built).mp hStop
    exact ⟨link, hLink, rfl, hEnd, hInside⟩
  case same =>
    intro other links hNodes hLinks hPerm
    rw [Network.linkList_congr hLinks] at hPerm
    rw [sortedStops_congr hNodes, sortedStops_eq built hPerm]
  case tie =>
    exact StopIndex.pairwise_preference_ofStops (Stop.nodup_of_pairwise hIncreasing) radius

/-- Two roads that meet and one that leads elsewhere, the last two declared in either order. -/
def junction (last : List (Link Float)) : NetworkPlan Float where
  nodes := [⟨⟨"1"⟩, ⟨0, 0⟩⟩, ⟨⟨"2"⟩, ⟨10, 0⟩⟩, ⟨⟨"3"⟩, ⟨50, 0⟩⟩]
  links := ⟨⟨"b"⟩, ⟨"1"⟩, ⟨"2"⟩, 10, 5⟩ :: last

def sideRoad : Link Float := ⟨⟨"a"⟩, ⟨"3"⟩, ⟨"2"⟩, 40, 5⟩

def bypass : Link Float := ⟨⟨"c"⟩, ⟨"1"⟩, ⟨"3"⟩, 50, 5⟩

/-- The area around the place where the two roads meet. -/
def junctionArea : Area Float := .ofRings [[⟨5, -5⟩, ⟨15, -5⟩, ⟨15, 5⟩, ⟨5, 5⟩]]

/-- Two roads end inside the area, at one place and under two names. -/
theorem Area.stops_of_junction :
    ∃ network other, (junction [sideRoad, bypass]).build = .ok network ∧
      (junction [bypass, sideRoad]).build = .ok other ∧
      junctionArea.deriveStops network = [⟨⟨"a"⟩, ⟨"a"⟩, ⟨10, 0⟩⟩, ⟨⟨"b"⟩, ⟨"b"⟩, ⟨10, 0⟩⟩] ∧
      junctionArea.sortedStops other other.linkList.reverse = junctionArea.deriveStops network ∧
      (StopIndex.ofStops (junctionArea.deriveStops network) 5).stops.Pairwise
        fun a b => StopIndex.preference ⟨10, 0⟩ a b ≠ .eq := by
  have hBuild : (junction [sideRoad, bypass]).build = .ok _ := rfl
  obtain ⟨-, -, -, hSame, hIndex⟩ :=
    stops_of_built_network junctionArea (Network.built_of_build hBuild)
  refine ⟨_, _, hBuild, rfl, by decide +kernel, ?_, (hIndex 5).2 _⟩
  exact hSame _ _ (fun _ => rfl) (fun _ => rfl) (List.reverse_perm _)

end DemandRide
