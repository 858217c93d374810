import DemandRide.Proofs.Number.RoundedOrder
import DemandRide.Proofs.Stops.Nearest

/-! Which of the stops in reach is chosen. The stops in reach all have a distance, so the order of
preference is total among them, and strict once no two stops have one identifier. The choice then
is the least stop in reach: it does not depend on the order in which stops are searched, and it
stays when stops are added that are further away or others are taken off. -/
namespace DemandRide

open Scalar

variable {α : Type} [Scalar α]

namespace Stop

/-- Whether a stop is no further away from a point than the radius, by their squares. -/
def InReach (radius : α) (point : Point α) (stop : Stop α) : Prop :=
  le (stop.point.squaredDistance point) (radius * radius)

/-- Whether a stop comes no later than another by its distance and then by its identifier. -/
def NoLater (point : Point α) (a b : Stop α) : Prop :=
  lt (a.point.squaredDistance point) (b.point.squaredDistance point) ∨
    eq (a.point.squaredDistance point) (b.point.squaredDistance point) ∧
      (compare a.id b.id).isLE

variable [MonotoneScalar α] {radius : α} {point : Point α} {a b c : Stop α}

theorem InReach.isNaN (h : InReach radius point a) :
    isNaN (a.point.squaredDistance point) = false :=
  (MonotoneScalar.le_iff.mp h).1

theorem NoLater.refl (h : InReach radius point a) : NoLater point a a := by
  have hSame := MonotoneScalar.le_refl h.isNaN
  exact .inr ⟨MonotoneScalar.eq_iff.mpr ⟨hSame, hSame⟩, by simp⟩

theorem NoLater.le (h : NoLater point a b) :
    le (a.point.squaredDistance point) (b.point.squaredDistance point) := by
  rcases h with hLess | ⟨hSame, -⟩
  · exact MonotoneScalar.le_of_lt hLess
  · exact (MonotoneScalar.eq_iff.mp hSame).1

theorem NoLater.trans (hab : NoLater point a b) (hbc : NoLater point b c) : NoLater point a c := by
  rcases hab with hLess | ⟨hSame, hId⟩
  · exact .inl (MonotoneScalar.lt_of_lt_of_le hLess hbc.le)
  · rcases hbc with hLess | ⟨hSame', hId'⟩
    · exact .inl (MonotoneScalar.lt_of_le_of_lt (MonotoneScalar.eq_iff.mp hSame).1 hLess)
    · obtain ⟨hLe, hGe⟩ := MonotoneScalar.eq_iff.mp hSame
      obtain ⟨hLe', hGe'⟩ := MonotoneScalar.eq_iff.mp hSame'
      exact .inr ⟨MonotoneScalar.eq_iff.mpr
        ⟨MonotoneScalar.le_trans hLe hLe', MonotoneScalar.le_trans hGe' hGe⟩,
        Std.TransOrd.isLE_trans hId hId'⟩

theorem noLater_total (ha : InReach radius point a) (hb : InReach radius point b) :
    NoLater point a b ∨ NoLater point b a := by
  rcases OrderedScalar.lt_or_eq_or_lt ha.isNaN hb.isNaN with hLess | hSame | hMore
  · exact .inl (.inl hLess)
  · have hBack := MonotoneScalar.eq_iff.mpr (MonotoneScalar.eq_iff.mp hSame).symm
    cases hIds : (compare a.id b.id).isLE with
    | true => exact .inl (.inr ⟨hSame, hIds⟩)
    | false =>
        have hLess := Std.OrientedCmp.lt_of_not_isLE (Bool.eq_false_iff.mp hIds)
        exact .inr (.inr ⟨hBack, Ordering.isLE_of_eq_lt hLess⟩)
  · exact .inr (.inl hMore)

/-- Stops of which neither comes later than the other have one identifier. -/
theorem NoLater.id_eq (hab : NoLater point a b) (hba : NoLater point b a) : a.id = b.id := by
  rcases hab with hLess | ⟨hSame, hId⟩
  · cases (MonotoneScalar.le_iff.mp hba.le).2.2.symm.trans hLess
  · rcases hba with hLess | ⟨-, hId'⟩
    · cases (MonotoneScalar.not_lt_of_eq hSame).2.symm.trans hLess
    · exact Std.LawfulEqOrd.eq_of_compare (Std.OrientedCmp.isLE_antisymm hId hId')

/-- Stops in reach are preferred by distance and identifier, whichever is asked for first. -/
theorem noLater_iff_preference (ha : InReach radius point a) (hb : InReach radius point b) :
    NoLater point a b ↔ (StopIndex.preference point b a).isLT = false := by
  have hRank : rank (b.point.squaredDistance point) (a.point.squaredDistance point) =
      if lt (b.point.squaredDistance point) (a.point.squaredDistance point) then .lt
      else if lt (a.point.squaredDistance point) (b.point.squaredDistance point) then .gt
      else .eq := by
    simp only [rank, ha.isNaN, hb.isNaN]
  have hIds : (compare a.id b.id).isLE ↔ (compare b.id a.id).isLT = false := by
    rw [← Std.OrientedCmp.isGE_iff_isLE]
    cases compare b.id a.id <;> simp
  unfold StopIndex.preference NoLater
  rw [hRank, hIds]
  rcases OrderedScalar.lt_or_eq_or_lt ha.isNaN hb.isNaN with hLess | hSame | hMore
  · simp [hLess, OrderedScalar.lt_asymm hLess]
  · simp [hSame, MonotoneScalar.not_lt_of_eq hSame]
  · have hApart : ¬eq (a.point.squaredDistance point) (b.point.squaredDistance point) := by
      intro hSame
      cases (MonotoneScalar.not_lt_of_eq hSame).2.symm.trans hMore
    simp [hMore, OrderedScalar.lt_asymm hMore, hApart]

/-- A stop that is out of reach comes later than one in reach once the radius takes it in. -/
theorem InReach.noLater_of_not_inReach {wider : α} (ha : InReach radius point a)
    (hb : ¬InReach radius point b) (hWider : InReach wider point b)
    (hRadius : Scalar.isNaN (radius * radius) = false) : NoLater point a b := by
  have hBeyond : lt (radius * radius) (b.point.squaredDistance point) := by
    by_contra hNotLess
    exact hb (OrderedScalar.le_of_not_lt hRadius hWider.isNaN (Bool.eq_false_iff.mpr hNotLess))
  exact .inl (MonotoneScalar.lt_of_le_of_lt ha hBeyond)

end Stop

/-- What is chosen from stops for a point: none exactly if none is in reach, or else the least of
those in reach. -/
structure Chooses (stops : List (Stop α)) (radius : α) (point : Point α)
    (answer : Option (Stop α)) : Prop where
  none_iff : answer = none ↔ ∀ stop ∈ stops, ¬stop.InReach radius point
  least : ∀ best, answer = some best → best ∈ stops ∧ best.InReach radius point ∧
    ∀ other ∈ stops, other.InReach radius point → best.NoLater point other

section Choices

variable [MonotoneScalar α] {stops fewer : List (Stop α)} {radius wider : α} {point : Point α}

theorem StopIndex.noLater_of_best? {best : Stop α}
    (hReach : ∀ stop ∈ stops, stop.InReach radius point) (h : best? point stops = some best) :
    ∀ other ∈ stops, best.NoLater point other := by
  cases stops with
  | nil => cases h
  | cons first rest =>
      obtain rfl := Option.some.inj h
      clear h
      induction rest generalizing first with
      | nil =>
          intro other hOther
          cases List.mem_singleton.mp hOther
          exact .refl (hReach first List.mem_cons_self)
      | cons next rest ih =>
          have hFirst := hReach first List.mem_cons_self
          have hNext := hReach next (List.mem_cons_of_mem _ List.mem_cons_self)
          have hRest (other : Stop α) (hOther : other ∈ rest) : other.InReach radius point :=
            hReach other (List.mem_cons_of_mem _ (List.mem_cons_of_mem _ hOther))
          rw [List.foldl_cons]
          split
          · next hBetter =>
              have hBefore : next.NoLater point first := by
                refine (Stop.noLater_total hFirst hNext).resolve_left fun hNoLater => ?_
                cases ((Stop.noLater_iff_preference hFirst hNext).mp hNoLater).symm.trans hBetter
              have hBest := ih next (List.forall_mem_cons.mpr ⟨hNext, hRest⟩)
              intro other hOther
              rcases List.mem_cons.mp hOther with rfl | hLater
              · exact (hBest next List.mem_cons_self).trans hBefore
              · exact hBest other hLater
          · next hWorse =>
              have hBefore : first.NoLater point next :=
                (Stop.noLater_iff_preference hFirst hNext).mpr (Bool.eq_false_iff.mpr hWorse)
              have hBest := ih first (List.forall_mem_cons.mpr ⟨hFirst, hRest⟩)
              intro other hOther
              rcases List.mem_cons.mp hOther with rfl | hOther
              · exact hBest other List.mem_cons_self
              · rcases List.mem_cons.mp hOther with rfl | hLater
                · exact (hBest first List.mem_cons_self).trans hBefore
                · exact hBest other (List.mem_cons_of_mem _ hLater)

/-- In whatever order the stops are searched, the least of those in reach is chosen. -/
theorem StopIndex.chooses_nearest? {order : List (Stop α)} (hOrder : order.Perm stops) :
    Chooses stops radius point ((⟨order, radius⟩ : StopIndex α).nearest? point) := by
  constructor
  · have hReached : (∃ stop, (⟨order, radius⟩ : StopIndex α).nearest? point = some stop) ↔
        ∃ stop ∈ order, stop.InReach radius point := exists_nearest?_iff
    rw [← not_iff_not, ← ne_eq, Option.ne_none_iff_exists', hReached]
    push Not
    exact exists_congr fun stop => and_congr_left' hOrder.mem_iff
  · intro best hBest
    obtain ⟨hThere, hReach⟩ := mem_of_nearest? hBest
    refine ⟨hOrder.mem_iff.mp hThere, hReach, fun other hOther hOtherReach => ?_⟩
    apply noLater_of_best? (fun stop hStop => (List.mem_filter.mp hStop).2) hBest
    exact List.mem_filter.mpr ⟨hOrder.mem_iff.mpr hOther, hOtherReach⟩

/-- One of the stops is chosen in whatever way it is least, once no two have one identifier. -/
theorem Chooses.eq_of_subset {answer answer' : Option (Stop α)} (hNodup : (stops.map Stop.id).Nodup)
    (h : Chooses stops radius point answer) (h' : Chooses fewer radius point answer')
    (hFewer : ∀ stop ∈ fewer, stop ∈ stops) (hKept : ∀ best, answer = some best → best ∈ fewer) :
    answer' = answer := by
  cases answer with
  | none =>
      have hNone := h.none_iff.mp rfl
      exact h'.none_iff.mpr fun stop hStop => hNone stop (hFewer stop hStop)
  | some best =>
      obtain ⟨hThere, hReach, hLeast⟩ := h.least best rfl
      cases answer' with
      | none => exact absurd hReach (h'.none_iff.mp rfl best (hKept best rfl))
      | some other =>
          obtain ⟨hThere', hReach', hLeast'⟩ := h'.least other rfl
          have hId := (hLeast' best (hKept best rfl) hReach).id_eq
            (hLeast other (hFewer other hThere') hReach')
          exact congrArg some (List.inj_on_of_nodup_map hNodup (hFewer other hThere') hThere hId)

theorem Chooses.eq_of_wider {best : Stop α} {answer : Option (Stop α)}
    (hNodup : (stops.map Stop.id).Nodup) (hRadius : lt 0 radius) (hWider : le radius wider)
    (h : Chooses stops radius point (some best)) (h' : Chooses stops wider point answer) :
    answer = some best := by
  have hSquares := MonotoneScalar.mul_le_mul hRadius hRadius hWider hWider
  obtain ⟨hThere, hReach, hLeast⟩ := h.least best rfl
  have hStill : best.InReach wider point := MonotoneScalar.le_trans hReach hSquares
  cases answer with
  | none => exact absurd hStill (h'.none_iff.mp rfl best hThere)
  | some other =>
      obtain ⟨hThere', hReach', hLeast'⟩ := h'.least other rfl
      have hBefore : best.NoLater point other := by
        by_cases hNear : other.InReach radius point
        · exact hLeast other hThere' hNear
        · exact hReach.noLater_of_not_inReach hNear hReach' (MonotoneScalar.le_iff.mp hSquares).1
      have hId := (hLeast' best hThere hStill).id_eq hBefore
      exact congrArg some (List.inj_on_of_nodup_map hNodup hThere' hThere hId)

end Choices

namespace StopFinder

/-- Whether a finder answers with what is chosen from these stops, for either place by itself. -/
def Serves (network : Network α) (stops : List (Stop α)) (radius : α) (finder : StopFinder α) :
    Prop :=
  ∃ answer : Point α → Option (Stop α), (∀ point, Chooses stops radius point (answer point)) ∧
    ∀ origin destination start goal, network.resolve origin = .ok start →
      network.resolve destination = .ok goal →
        ((finder.find origin destination).run ()).result = .ok ⟨answer start, answer goal⟩

/-- Whether the answers of two finders are related on both sides wherever they find the places. -/
def Related (network : Network α) (relation : Option (Stop α) → Option (Stop α) → Prop)
    (finder other : StopFinder α) : Prop :=
  ∀ origin destination start goal, network.resolve origin = .ok start →
    network.resolve destination = .ok goal →
      ∃ pair pair', ((finder.find origin destination).run ()).result = .ok pair ∧
        ((other.find origin destination).run ()).result = .ok pair' ∧
          relation pair.access pair'.access ∧ relation pair.egress pair'.egress

variable {network : Network α} {stops others : List (Stop α)} {radius wider : α}

theorem Serves.related {relation : Option (Stop α) → Option (Stop α) → Prop}
    {finder other : StopFinder α}
    (hRelation : ∀ point answer answer', Chooses stops radius point answer →
      Chooses others wider point answer' → relation answer answer')
    (h : Serves network stops radius finder) (h' : Serves network others wider other) :
    Related network relation finder other := by
  intro origin destination start goal hStart hGoal
  obtain ⟨answer, hChooses, hResult⟩ := h
  obtain ⟨answer', hChooses', hResult'⟩ := h'
  exact ⟨_, _, hResult origin destination start goal hStart hGoal,
    hResult' origin destination start goal hStart hGoal,
    hRelation start _ _ (hChooses start) (hChooses' start),
    hRelation goal _ _ (hChooses goal) (hChooses' goal)⟩

variable [MonotoneScalar α]

theorem serves_nearest {order : List (Stop α)} (hOrder : order.Perm stops) :
    Serves network stops radius (.nearest network ⟨order, radius⟩) :=
  ⟨(⟨order, radius⟩ : StopIndex α).nearest?, fun _ => StopIndex.chooses_nearest? hOrder,
    fun _ _ start goal hStart hGoal =>
      result_nearest_eq_ok_iff.mpr ⟨start, goal, hStart, hGoal, rfl⟩⟩

end StopFinder

/-- Finders answer with the least of the stops in reach, those with a service area with the least
of the stops inside. If no two of the stops have one identifier, the order in which they are listed
does not matter, a stop that is found is found with any greater radius, and what is found does not
change when another stop is taken off. -/
theorem StopFinder.serves_least_stops {α : Type} [Plane α] [MonotoneScalar α]
    (network : Network α) :
    (∀ stops order radius, order.Perm stops →
      Serves network stops radius (.nearest network ⟨order, radius⟩)) ∧
    (∀ area stops radius, Serves network (area.stopsInside stops) radius
      (.nearestInside network area stops radius)) ∧
    ∀ stops radius finder, lt 0 radius → (stops.map Stop.id).Nodup →
      Serves network stops radius finder →
        (∀ others other, stops.Perm others → Serves network others radius other →
          Related network Eq finder other) ∧
        (∀ wider other, le radius wider → Serves network stops wider other →
          Related network (fun found wide => ∀ stop, found = some stop → wide = some stop)
            finder other) ∧
        ∀ removed fewer other, stops.Perm (removed :: fewer) → Serves network fewer radius other →
          Related network (fun found left => found ≠ some removed → left = found) finder other := by
  refine ⟨fun _ _ _ hOrder => serves_nearest hOrder,
    fun area stops radius => serves_nearest (Tiling.searchOrder_perm _),
    fun stops radius finder hRadius hNodup hFinder => ⟨?order, ?wider, ?removed⟩⟩
  case order =>
    intro others other hPerm hOther
    refine hFinder.related (fun point answer answer' h h' => Eq.symm ?_) hOther
    exact h.eq_of_subset hNodup h' (fun _ => hPerm.mem_iff.mpr) fun best hBest =>
      hPerm.mem_iff.mp (h.least best hBest).1
  case wider =>
    intro wider other hWider hOther
    refine hFinder.related (fun point answer answer' h h' best hBest => ?_) hOther
    subst hBest
    exact h.eq_of_wider hNodup hRadius hWider h'
  case removed =>
    intro removed fewer other hPerm hOther
    refine hFinder.related (fun point answer answer' h h' hKept => ?_) hOther
    refine h.eq_of_subset hNodup h' (fun stop hStop => ?_) fun best hBest => ?_
    · exact hPerm.mem_iff.mpr (List.mem_cons_of_mem removed hStop)
    · have hThere := hPerm.mem_iff.mp (h.least best hBest).1
      refine (List.mem_cons.mp hThere).resolve_left fun hSame => hKept ?_
      rw [hBest, hSame]

/-- Two stops around a corner and one down the road. -/
def cornerStops : List (Stop Float) :=
  [⟨⟨"b"⟩, ⟨"street"⟩, ⟨1, 0⟩⟩, ⟨⟨"a"⟩, ⟨"street"⟩, ⟨0, 1⟩⟩, ⟨⟨"c"⟩, ⟨"street"⟩, ⟨5, 0⟩⟩]

theorem StopFinder.serves_cornerStops :
    let finder (stops : List (Stop Float)) (radius : Float) : StopFinder Float :=
      .nearest .empty (.ofStops stops radius)
    Serves .empty cornerStops 2 (finder cornerStops 2) ∧
      Related .empty Eq (finder cornerStops 2) (finder cornerStops.reverse 2) ∧
      Related .empty (fun found wide => ∀ stop, found = some stop → wide = some stop)
        (finder cornerStops 2) (finder cornerStops 10) ∧
      Related .empty (fun found left => found ≠ some ⟨⟨"b"⟩, ⟨"street"⟩, ⟨1, 0⟩⟩ → left = found)
        (finder cornerStops 2) (finder cornerStops.tail 2) := by
  intro finder
  obtain ⟨hServes, -, hLaws⟩ := serves_least_stops (.empty : Network Float)
  have hFinder (stops : List (Stop Float)) (radius : Float) :
      Serves .empty stops radius (finder stops radius) :=
    hServes stops _ radius (Tiling.searchOrder_perm stops)
  obtain ⟨hOrder, hWider, hRemoved⟩ :=
    hLaws cornerStops 2 _ (by decide) (by decide) (hFinder cornerStops 2)
  exact ⟨hFinder cornerStops 2, hOrder _ _ (List.reverse_perm _).symm (hFinder _ _),
    hWider 10 _ (by decide) (hFinder _ _), hRemoved _ _ _ (.refl _) (hFinder _ _)⟩

/-- Of two stops that are equally near the one whose identifier comes first is chosen. -/
example : (((StopFinder.nearest .empty ⟨cornerStops, 2⟩).find
      ⟨⟨"street"⟩, some ⟨0, 0⟩, none⟩ ⟨⟨"street"⟩, some ⟨9, 0⟩, none⟩).run ()).result =
    .ok ⟨some ⟨⟨"a"⟩, ⟨"street"⟩, ⟨0, 1⟩⟩, none⟩ := by
  rfl

end DemandRide
