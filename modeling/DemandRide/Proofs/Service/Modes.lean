import DemandRide.Proofs.Service.Queries

/-! What the modes of legs tell. A trip is joined of stretches, each of which has its role from
what put it into the trip: a walk on the network, a walk off the network or a ride. The mode of a
leg follows from the role of its stretch and from whether the trip rides. The other way round four
names have to be kept apart, two of which derive from the mode of the service while the other two
are fixed, and nothing keeps a service from taking a fixed name for its own. -/
namespace DemandRide

/-- What a stretch of a trip is there for. -/
inductive LegRole where
  /-- Riding the service. -/
  | ride
  /-- Walking on the network, or the whole trip at once. -/
  | network
  /-- Walking between a place and the point of its link. -/
  | offNetwork
deriving DecidableEq, Repr

/-- Elements of a trip that were put there together. -/
structure Stretch (α : Type) where
  role : LegRole
  elements : List (Element α)

variable {σ α : Type}

/-- What stretches make up when one follows the other. -/
def Stretch.join (stretches : List (Stretch α)) : List (Element α) :=
  stretches.flatMap Stretch.elements

/-- The stretches of a teleported walk. -/
inductive Teleport.Stretches [Plane α] (network : Network α) (settings : WalkSettings α)
    (origin destination : Location α) (time : α) : List (Stretch α) → Prop where
  | direct {start goal : Point α} (hOff : settings.accessEgress = false)
      (hStart : network.resolve origin = .ok start)
      (hGoal : network.resolve destination = .ok goal) :
      Stretches network settings origin destination time
        [⟨.network, [.leg (leg settings walkMode origin.link destination.link start goal time)]⟩]
  | joined {start goal startPoint goalPoint : Point α} {mainTime : α} {main : Leg α}
      (hOn : settings.accessEgress = true)
      (hStart : network.resolve origin = .ok start)
      (hGoal : network.resolve destination = .ok goal)
      (hStartPoint : network.linkPoint origin.link = .ok startPoint)
      (hGoalPoint : network.linkPoint destination.link = .ok goalPoint)
      (hTime : mainTime =
        Element.advanceOver time (access settings origin.link start startPoint time))
      (hMain : main =
        leg settings walkMode origin.link destination.link startPoint goalPoint mainTime) :
      Stretches network settings origin destination time
        [⟨.offNetwork, access settings origin.link start startPoint time⟩,
          ⟨.network, [.leg main]⟩,
          ⟨.offNetwork, egress settings destination.link goal goalPoint
            (Element.advance mainTime (.leg main))⟩]

/-- The stretches of a teleported walk between any two places at any time. -/
def Teleport.Walks [Plane α] (network : Network α) (settings : WalkSettings α)
    (stretches : List (Stretch α)) : Prop :=
  ∃ origin destination time, Stretches network settings origin destination time stretches

/-- A teleported walk is joined of its stretches. -/
theorem Teleport.route_eq_ok_iff_stretches [Plane α] {network : Network α}
    {settings : WalkSettings α} {origin destination : Location α} {time : α}
    {elements : List (Element α)} :
    route network settings origin destination time = .ok elements ↔
      ∃ stretches, Stretches network settings origin destination time stretches ∧
        Stretch.join stretches = elements := by
  constructor
  · intro hRoute
    obtain ⟨start, goal, hStart, hGoal, ⟨hOff, rfl⟩ | ⟨hOn, startPoint, goalPoint, hStartPoint,
      hGoalPoint, rfl⟩⟩ := route_eq_ok_iff.mp hRoute
    · exact ⟨_, .direct hOff hStart hGoal, rfl⟩
    · exact ⟨_, .joined hOn hStart hGoal hStartPoint hGoalPoint rfl rfl, by
        simp [Stretch.join, joined]⟩
  · rintro ⟨stretches, hStretches, rfl⟩
    cases hStretches with
    | direct hOff hStart hGoal =>
        exact route_eq_ok_iff.mpr ⟨_, _, hStart, hGoal, .inl ⟨hOff, rfl⟩⟩
    | joined hOn hStart hGoal hStartPoint hGoalPoint hTime hMain =>
        subst hTime hMain
        exact route_eq_ok_iff.mpr ⟨_, _, hStart, hGoal, .inr
          ⟨hOn, _, _, hStartPoint, hGoalPoint, by simp [Stretch.join, joined]⟩⟩

/-- A stretch of a walk with its network legs in the fallback mode. -/
def Stretch.retag (settings : ServiceSettings α) (stretch : Stretch α) : Stretch α :=
  ⟨stretch.role, Fallback.retag settings stretch.elements⟩

theorem Stretch.join_map_retag (settings : ServiceSettings α) (stretches : List (Stretch α)) :
    join (stretches.map (retag settings)) = Fallback.retag settings (join stretches) := by
  simp [join, retag, Fallback.retag, List.flatMap_map, List.map_flatMap]

/-- The stretches of the walk of a transfer, none if there is no transfer. -/
inductive Transfer.Stretches (walks : List (Stretch α) → Prop) :
    Option (Transfer α) → List (Stretch α) → Prop where
  | none : Stretches walks none []
  | some {stretches : List (Stretch α)} {place : Location α} (hWalk : walks stretches) :
      Stretches walks (some ⟨Stretch.join stretches, place⟩) stretches

theorem Transfer.exists_stretches {walks : List (Stretch α) → Prop}
    {transfer : Option (Transfer α)}
    (hWalks : ∀ walk ∈ transfer.map Transfer.walk, ∃ stretches, walks stretches ∧
      Stretch.join stretches = walk) :
    ∃ stretches, Transfer.Stretches walks transfer stretches := by
  cases transfer with
  | none => exact ⟨_, .none⟩
  | some transfer =>
      obtain ⟨walk, place⟩ := transfer
      obtain ⟨stretches, hWalk, rfl⟩ := hWalks walk rfl
      exact ⟨stretches, .some hWalk⟩

/-- The mode of the legs of a role, in a trip that rides and in one that does not. -/
def LegRole.mode (settings : ServiceSettings α) (rides : Bool) : LegRole → String
  | .ride => settings.mode
  | .network => if rides then walkMode else settings.fallbackMode
  | .offNetwork => offNetworkMode

theorem walkMode_ne_offNetworkMode : walkMode ≠ offNetworkMode := by decide

section Names

variable {settings : ServiceSettings α} {role : LegRole} {rides : Bool}

theorem ServiceSettings.length_fallbackMode (settings : ServiceSettings α) :
    settings.fallbackMode.length = settings.mode.length + 5 :=
  String.length_append settings.mode "_walk"

theorem ServiceSettings.fallbackMode_ne_mode (settings : ServiceSettings α) :
    settings.fallbackMode ≠ settings.mode := by
  intro hSame
  have hLength := settings.length_fallbackMode
  rw [hSame] at hLength
  omega

theorem ServiceSettings.fallbackMode_ne_walkMode (settings : ServiceSettings α) :
    settings.fallbackMode ≠ walkMode := by
  intro hSame
  have hLength := settings.length_fallbackMode
  rw [hSame] at hLength
  have hShort : walkMode.length = 4 := by decide
  omega

theorem ServiceSettings.fallbackMode_eq_offNetworkMode_iff (settings : ServiceSettings α) :
    settings.fallbackMode = offNetworkMode ↔ settings.mode = "non_network" := by
  have hName : offNetworkMode = "non_network" ++ "_walk" := rfl
  rw [hName]
  exact String.append_left_inj "_walk"

namespace LegRole

theorem mode_eq_mode_iff (hWalk : settings.mode ≠ walkMode)
    (hOff : settings.mode ≠ offNetworkMode) :
    role.mode settings rides = settings.mode ↔ role = .ride := by
  cases role with
  | ride => simp [mode]
  | network =>
      cases rides with
      | false => simp [mode, settings.fallbackMode_ne_mode]
      | true => simp [mode, hWalk.symm]
  | offNetwork => simp [mode, hOff.symm]

theorem mode_eq_fallbackMode_iff (hOff : settings.mode ≠ "non_network") :
    role.mode settings rides = settings.fallbackMode ↔ role = .network ∧ rides = false := by
  have hOther := mt settings.fallbackMode_eq_offNetworkMode_iff.mp hOff
  cases role with
  | ride => simp [mode, settings.fallbackMode_ne_mode.symm]
  | network =>
      cases rides with
      | false => simp [mode]
      | true => simp [mode, settings.fallbackMode_ne_walkMode.symm]
  | offNetwork => simp [mode, Ne.symm hOther]

theorem mode_eq_walkMode_iff (hWalk : settings.mode ≠ walkMode) :
    role.mode settings rides = walkMode ↔ role = .network ∧ rides = true := by
  cases role with
  | ride => simp [mode, hWalk]
  | network =>
      cases rides with
      | false => simp [mode, settings.fallbackMode_ne_walkMode]
      | true => simp [mode]
  | offNetwork => simp [mode, walkMode_ne_offNetworkMode.symm]

theorem mode_eq_offNetworkMode_iff (hOff : settings.mode ≠ offNetworkMode)
    (hFallback : settings.mode ≠ "non_network") :
    role.mode settings rides = offNetworkMode ↔ role = .offNetwork := by
  have hOther := mt settings.fallbackMode_eq_offNetworkMode_iff.mp hFallback
  cases role with
  | ride => simp [mode, hOff]
  | network =>
      cases rides with
      | false => simp [mode, hOther]
      | true => simp [mode, walkMode_ne_offNetworkMode]
  | offNetwork => simp [mode]

end LegRole

end Names

/-- A stretch whose legs have the mode of their role and ride if it is for riding. -/
structure Stretch.Sound (settings : ServiceSettings α) (walk : WalkSettings α) (rides : Bool)
    (stretch : Stretch α) : Prop where
  mode : ∀ leg, .leg leg ∈ stretch.elements → leg.mode = stretch.role.mode settings rides
  isRide : ∀ leg, .leg leg ∈ stretch.elements → (leg.isRide ↔ stretch.role = .ride)
  leaves : stretch.role = .offNetwork → walk.accessEgress = true

namespace Stretch

variable {settings : ServiceSettings α} {walk : WalkSettings α}

/-- What is to be shown of a stretch that is for walking. -/
theorem sound_of_walk {rides : Bool} {stretch : Stretch α} (hRole : stretch.role ≠ .ride)
    (hLegs : ∀ leg, .leg leg ∈ stretch.elements →
      leg.mode = stretch.role.mode settings rides ∧ leg.ride = none)
    (hLeaves : stretch.role = .offNetwork → walk.accessEgress = true) :
    stretch.Sound settings walk rides where
  mode leg hLeg := (hLegs leg hLeg).1
  isRide leg hLeg := by simp [Leg.isRide, (hLegs leg hLeg).2, hRole]
  leaves := hLeaves

theorem Sound.ride_eq_none {rides : Bool} {stretch : Stretch α}
    (h : stretch.Sound settings walk rides) (hRole : stretch.role ≠ .ride) {leg : Leg α}
    (hLeg : .leg leg ∈ stretch.elements) : leg.ride = none := by
  have hNot := (not_congr (h.isRide leg hLeg)).mpr hRole
  simpa [Leg.isRide] using hNot

/-- Where nothing is ridden, the network legs of a walk are told from those of a ride. -/
theorem Sound.retag {stretch : Stretch α} (h : stretch.Sound settings walk true)
    (hRole : stretch.role ≠ .ride) : (stretch.retag settings).Sound settings walk false := by
  refine sound_of_walk hRole (fun leg hLeg => ?_) h.leaves
  refine ⟨?_, Fallback.onFoot_retag settings (fun _ => h.ride_eq_none hRole) leg hLeg⟩
  obtain ⟨element, hElement, hChange⟩ := List.mem_map.mp hLeg
  cases element with
  | activity activity => cases hChange
  | leg original =>
      cases hChange
      -- Retagging goes by the mode, which in a sound stretch is that of the role.
      have hMode := h.mode original hElement
      change (Fallback.retagLeg settings original).mode = stretch.role.mode settings false
      cases hKind : stretch.role with
      | ride => exact absurd hKind hRole
      | network =>
          have hWalked : original.mode = walkMode := by rw [hMode, hKind]; rfl
          rw [Fallback.retagLeg, if_pos hWalked]
          rfl
      | offNetwork =>
          have hOff : original.mode = offNetworkMode := by rw [hMode, hKind]; rfl
          have hOther : original.mode ≠ walkMode :=
            fun hWalked => walkMode_ne_offNetworkMode (hWalked.symm.trans hOff)
          rw [Fallback.retagLeg, if_neg hOther]
          exact hOff

end Stretch

section Course

variable [Scalar α]

namespace Course

/-- Where the traveller meets the vehicle, if a transfer leads there. -/
def stages (settings : ServiceSettings α) (transfer : Option (Transfer α)) : List (Element α) :=
  (transfer.map fun transfer => stage settings transfer.place).toList

/-- The stretches of a trip, from those of its walks. -/
inductive Stretches (settings : ServiceSettings α) (request : TripRequest α)
    (walks : List (Stretch α) → Prop) : Course α → List (Stretch α) → Prop where
  | collapsed {stretches : List (Stretch α)} (hWalk : walks stretches) :
      Stretches settings request walks (.collapsed (Stretch.join stretches))
        [⟨.network, [.leg (Fallback.collapse settings request (Stretch.join stretches))]⟩]
  | walked {stretches : List (Stretch α)} (hWalk : walks stretches) :
      Stretches settings request walks (.walked (Stretch.join stretches))
        (stretches.map (Stretch.retag settings))
  | ridden {access egress : Option (Transfer α)} {ride : Leg α}
      {before after : List (Stretch α)} (hAccess : Transfer.Stretches walks access before)
      (hEgress : Transfer.Stretches walks egress after) :
      Stretches settings request walks (.ridden access ride egress)
        (before ++ ⟨.ride, stages settings access ++ .leg ride :: stages settings egress⟩ :: after)

variable {settings : ServiceSettings α} {request : TripRequest α}
  {walks : List (Stretch α) → Prop}

/-- A trip is joined of the stretches of its course. -/
theorem Stretches.join_eq {course : Course α} {stretches : List (Stretch α)}
    (h : Stretches settings request walks course stretches) :
    Stretch.join stretches = (course.trip settings request).elements := by
  cases h with
  | collapsed => rfl
  | walked => exact Stretch.join_map_retag settings _
  | ridden hAccess hEgress =>
      have hBoarding {access : Option (Transfer α)} {before : List (Stretch α)}
          (h : Transfer.Stretches walks access before) :
          Stretch.join before ++ stages settings access = boarding settings access := by
        cases h <;> rfl
      have hAlighting {egress : Option (Transfer α)} {after : List (Stretch α)}
          (h : Transfer.Stretches walks egress after) :
          stages settings egress ++ Stretch.join after = alighting settings egress := by
        cases h <;> rfl
      rw [trip, ← hBoarding hAccess, ← hAlighting hEgress]
      simp [Stretch.join]

/-- If its walks have stretches, so has a course. -/
theorem exists_stretches {course : Course α}
    (hWalks : ∀ walk ∈ course.walks, ∃ stretches, walks stretches ∧
      Stretch.join stretches = walk) :
    ∃ stretches, Stretches settings request walks course stretches := by
  cases course with
  | collapsed walk =>
      obtain ⟨stretches, hWalk, rfl⟩ := hWalks walk (.head _)
      exact ⟨_, .collapsed hWalk⟩
  | walked walk =>
      obtain ⟨stretches, hWalk, rfl⟩ := hWalks walk (.head _)
      exact ⟨_, .walked hWalk⟩
  | ridden access ride egress =>
      obtain ⟨before, hAccess⟩ := Transfer.exists_stretches fun walk hWalk =>
        hWalks walk (List.mem_append.mpr (.inl (Option.mem_toList.mpr hWalk)))
      obtain ⟨after, hEgress⟩ := Transfer.exists_stretches fun walk hWalk =>
        hWalks walk (List.mem_append.mpr (.inr (Option.mem_toList.mpr hWalk)))
      exact ⟨_, .ridden hAccess hEgress⟩

end Course

/-- Whatever the walks are, a course of sound walks and a proper ride is sound. -/
theorem Course.Stretches.sound {settings : ServiceSettings α} {walk : WalkSettings α}
    {request : TripRequest α} {walks : List (Stretch α) → Prop} {course : Course α}
    {stretches : List (Stretch α)} (h : Stretches settings request walks course stretches)
    (hWalks : ∀ stretches, walks stretches → ∀ stretch ∈ stretches,
      stretch.role ≠ .ride ∧ stretch.Sound settings walk true)
    (hRide : ∀ ride ∈ course.ride?, ride.isRide ∧ ride.mode = settings.mode) :
    ∀ stretch ∈ stretches, stretch.Sound settings walk course.ride?.isSome := by
  cases h with
  | collapsed =>
      refine List.forall_mem_singleton.mpr (Stretch.sound_of_walk (by simp) ?_ (by simp))
      intro leg hLeg
      cases List.mem_singleton.mp hLeg
      exact ⟨rfl, rfl⟩
  | walked hWalk =>
      refine List.forall_mem_map.mpr fun stretch hMem => ?_
      obtain ⟨hRole, hSound⟩ := hWalks _ hWalk stretch hMem
      exact hSound.retag hRole
  | @ridden access egress ride before after hAccess hEgress =>
      have hTransfer {transfer : Option (Transfer α)} {stretches : List (Stretch α)}
          (h : Transfer.Stretches walks transfer stretches) :
          ∀ stretch ∈ stretches, stretch.Sound settings walk true := by
        cases h with
        | none => exact List.forall_mem_nil _
        | some hWalk => exact fun stretch hMem => (hWalks _ hWalk stretch hMem).2
      refine List.forall_mem_append.mpr ⟨hTransfer hAccess,
        List.forall_mem_cons.mpr ⟨?_, hTransfer hEgress⟩⟩
      have hOnly (leg : Leg α)
          (hLeg : .leg leg ∈ stages settings access ++ .leg ride :: stages settings egress) :
          leg = ride := by
        cases access <;> cases egress <;> simpa [stages, stage] using hLeg
      obtain ⟨hIs, hMode⟩ := hRide ride rfl
      exact {
        mode := fun leg hLeg => (hOnly leg hLeg).symm ▸ hMode
        isRide := fun leg hLeg => iff_of_true ((hOnly leg hLeg).symm ▸ hIs) rfl
        leaves := by simp }

end Course

section Teleport

variable [Plane α] {network : Network α} {walk : WalkSettings α}

theorem Teleport.of_mem_access {link : LinkId} {place linkPoint : Point α} {time : α}
    {l : Leg α} (h : .leg l ∈ access walk link place linkPoint time) :
    l.mode = offNetworkMode ∧ l.ride = none := by
  unfold access at h
  split at h
  · cases h
  · simp only [interaction, List.mem_cons, Element.leg.injEq, reduceCtorEq, List.not_mem_nil,
      or_false] at h
    subst h
    exact ⟨rfl, rfl⟩

theorem Teleport.of_mem_egress {link : LinkId} {place linkPoint : Point α} {time : α}
    {l : Leg α} (h : .leg l ∈ egress walk link place linkPoint time) :
    l.mode = offNetworkMode ∧ l.ride = none := by
  unfold egress at h
  split at h
  · cases h
  · simp only [interaction, List.mem_cons, Element.leg.injEq, reduceCtorEq, List.not_mem_nil,
      or_false, false_or] at h
    subst h
    exact ⟨rfl, rfl⟩

/-- The stretches of a teleported walk are sound in a trip that rides. -/
theorem Teleport.Stretches.sound {origin destination : Location α} {time : α}
    {stretches : List (Stretch α)}
    (h : Stretches network walk origin destination time stretches)
    (settings : ServiceSettings α) :
    ∀ stretch ∈ stretches, stretch.role ≠ .ride ∧ stretch.Sound settings walk true := by
  have hMain (startLink endLink : LinkId) (start goal : Point α) (time : α) :
      Stretch.Sound settings walk true
        ⟨.network, [.leg (leg walk walkMode startLink endLink start goal time)]⟩ := by
    refine Stretch.sound_of_walk nofun (fun l hLeg => ?_) nofun
    cases List.mem_singleton.mp hLeg
    exact ⟨rfl, rfl⟩
  cases h with
  | direct => exact List.forall_mem_singleton.mpr ⟨nofun, hMain ..⟩
  | joined hOn _ _ _ _ _ hLeg =>
      subst hLeg
      refine List.forall_mem_cons.mpr ⟨⟨nofun, ?_⟩, List.forall_mem_cons.mpr
        ⟨⟨nofun, hMain ..⟩, List.forall_mem_singleton.mpr ⟨nofun, ?_⟩⟩⟩
      · exact Stretch.sound_of_walk nofun (fun _ => of_mem_access) fun _ => hOn
      · exact Stretch.sound_of_walk nofun (fun _ => of_mem_egress) fun _ => hOn

end Teleport

/-- A trip of an open service with teleported walks is joined of sound stretches. -/
theorem Service.exists_sound_stretches [Plane α] {network : Network α} {walk : WalkSettings α}
    {service : Service α} (hWalker : service.walker = Teleport.walker network walk)
    {finder : Pathfinder σ α} {request : TripRequest α} {s : σ} {trip : Trip α}
    (hTrip : ((service.route finder request).run s).result = .ok trip) :
    ∃ (course : Course α) (stretches : List (Stretch α)),
      course.trip service.settings request = trip ∧
      course.Rides service.settings finder s (service.asks? request) ∧
      course.Stretches service.settings request (Teleport.Walks network walk) stretches ∧
      ∀ stretch ∈ stretches,
        stretch.Sound service.settings walk (!trip.rideLegs.isEmpty) := by
  have hOnFoot : service.walker.OnFoot := by
    rw [hWalker]
    exact Teleport.onFoot_walker network walk
  obtain ⟨course, rfl, hWalks, hRides, hRidden⟩ := exists_course_of_onFoot hOnFoot hTrip
  rw [hWalker] at hWalks
  have hJoined : ∀ elements ∈ course.walks, ∃ stretches,
      Teleport.Walks network walk stretches ∧ Stretch.join stretches = elements := by
    intro elements hMem
    obtain ⟨_, _, _, hWalk⟩ := hWalks elements hMem
    obtain ⟨stretches, hStretches, hJoin⟩ := Teleport.route_eq_ok_iff_stretches.mp hWalk
    exact ⟨stretches, ⟨_, _, _, hStretches⟩, hJoin⟩
  have hRide : ∀ ride ∈ course.ride?, ride.isRide ∧ ride.mode = service.settings.mode := by
    intro ride hMem
    obtain ⟨query, path, -, -, rfl⟩ := hRides.exists_path hMem
    exact ⟨rfl, rfl⟩
  obtain ⟨stretches, hStretches⟩ := Course.exists_stretches hJoined
  refine ⟨course, stretches, rfl, hRides, hStretches, ?_⟩
  have hSome : (!(course.trip service.settings request).rideLegs.isEmpty) =
      course.ride?.isSome := by
    rw [hRidden]
    cases course.ride? <;> rfl
  rw [hSome]
  refine hStretches.sound (fun parts hParts => ?_) hRide
  obtain ⟨_, _, _, hParts⟩ := hParts
  exact hParts.sound service.settings

/-- A trip is joined of stretches whose roles come from its course, and the mode of a leg is that
of its role. The role can be told from the mode as far as the mode of the service allows: that of
rides unless it is a mode of walks, and each of those of walks unless the mode of rides or the
fallback mode is the same. -/
theorem Service.modes_of_route [Plane α] {network : Network α} {walk : WalkSettings α}
    {settings : ServiceSettings α} {stops : Option (StopFinder α)} {service : Service α}
    (hStart : Service.start settings (Teleport.walker network walk) stops = .ok service)
    {finder : Pathfinder σ α} {request : TripRequest α} {s : σ} {trip : Trip α}
    (hTrip : ((service.route finder request).run s).result = .ok trip) :
    ∃ (course : Course α) (stretches : List (Stretch α)),
      course.trip settings request = trip ∧
      course.Rides settings finder s (service.asks? request) ∧
      course.Stretches settings request (Teleport.Walks network walk) stretches ∧
      Stretch.join stretches = trip.elements ∧
      ∀ stretch ∈ stretches, (stretch.role = .offNetwork → walk.accessEgress = true) ∧
        ∀ leg, .leg leg ∈ stretch.elements →
          (leg.isRide ↔ stretch.role = .ride) ∧
          leg.mode = stretch.role.mode settings (!trip.rideLegs.isEmpty) ∧
          (settings.mode ≠ walkMode → settings.mode ≠ offNetworkMode →
            (leg.mode = settings.mode ↔ leg.isRide)) ∧
          (settings.mode ≠ "non_network" →
            (leg.mode = settings.fallbackMode ↔ stretch.role = .network ∧ trip.rideLegs = [])) ∧
          (settings.mode ≠ walkMode →
            (leg.mode = walkMode ↔ stretch.role = .network ∧ trip.rideLegs ≠ [])) ∧
          (settings.mode ≠ offNetworkMode → settings.mode ≠ "non_network" →
            (leg.mode = offNetworkMode ↔ stretch.role = .offNetwork)) := by
  obtain ⟨-, rfl, hWalker, -⟩ := start_eq_ok_iff.mp hStart
  obtain ⟨course, stretches, rfl, hRides, hStretches, hSound⟩ :=
    exists_sound_stretches hWalker hTrip
  refine ⟨course, stretches, rfl, hRides, hStretches, hStretches.join_eq, ?_⟩
  intro stretch hMem
  have hStretch := hSound stretch hMem
  refine ⟨hStretch.leaves, fun leg hLeg => ?_⟩
  have hMode := hStretch.mode leg hLeg
  refine ⟨hStretch.isRide leg hLeg, hMode, fun hWalk hOff => ?_, fun hOff => ?_, fun hWalk => ?_,
    fun hOff hFallback => ?_⟩
  · rw [hMode, hStretch.isRide leg hLeg]
    exact LegRole.mode_eq_mode_iff hWalk hOff
  · rw [hMode, LegRole.mode_eq_fallbackMode_iff hOff, Bool.not_eq_false', List.isEmpty_iff]
  · rw [hMode, LegRole.mode_eq_walkMode_iff hWalk, Bool.not_eq_true',
      List.isEmpty_eq_false_iff]
  · rw [hMode]
    exact LegRole.mode_eq_offNetworkMode_iff hOff hFallback

theorem Stretch.exists_of_mem_join {stretches : List (Stretch α)} {elements : List (Element α)}
    (hJoin : join stretches = elements) {element : Element α} (h : element ∈ elements) :
    ∃ stretch ∈ stretches, element ∈ stretch.elements := by
  rw [← hJoin] at h
  exact List.mem_flatMap.mp h

/-- The default service over the two streets under another name. -/
def namedService (mode : String) : Service Float :=
  ⟨{ ServiceSettings.default with mode }, Teleport.walker streetNetwork .default, .anyLink⟩

/-- A service that walks its travellers from place to link and back. -/
def walkingService : Service Float :=
  ⟨{ ServiceSettings.default with walksToRide := true },
    Teleport.walker streetNetwork { WalkSettings.default with accessEgress := true }, .anyLink⟩

/-- Of five legs the one in the middle is the ride. -/
theorem modes_of_route_streets :
    ∃ trip, ((walkingService.route (.freeSpeed streetNetwork) southboundRequest).run
        Search.empty).result = .ok trip ∧
      trip.modes = ["non_network_walk", "walk", "drt", "walk", "non_network_walk"] ∧
      ∀ leg, .leg leg ∈ trip.elements → (leg.mode = "drt" ↔ leg.isRide) := by
  have hStart : Service.start { ServiceSettings.default with walksToRide := true }
      (Teleport.walker streetNetwork { WalkSettings.default with accessEgress := true }) none =
        .ok walkingService := by
    rfl
  obtain ⟨trip, hTrip, hModes⟩ : ∃ trip, ((walkingService.route (.freeSpeed streetNetwork)
      southboundRequest).run Search.empty).result = .ok trip ∧
      trip.modes = ["non_network_walk", "walk", "drt", "walk", "non_network_walk"] :=
    ⟨_, rfl, by rfl⟩
  refine ⟨trip, hTrip, hModes, fun leg hLeg => ?_⟩
  obtain ⟨_, stretches, -, -, -, hJoin, hTold⟩ := Service.modes_of_route hStart hTrip
  obtain ⟨stretch, hStretch, hMem⟩ := Stretch.exists_of_mem_join hJoin hLeg
  obtain ⟨-, -, hRide, -⟩ := (hTold stretch hStretch).2 leg hMem
  exact hRide (by decide) (by decide)

/-- The legs of a stretch have modes that legs of other roles do not have. -/
structure Stretch.Identified (settings : ServiceSettings α) (trip : Trip α)
    (stretch : Stretch α) : Prop where
  ride : ∀ leg, .leg leg ∈ stretch.elements → (leg.isRide ↔ stretch.role = .ride)
  service : ∀ leg, .leg leg ∈ stretch.elements → (leg.mode = settings.mode ↔ leg.isRide)
  fallback : ∀ leg, .leg leg ∈ stretch.elements →
    (leg.mode = settings.fallbackMode ↔ stretch.role = .network ∧ trip.rideLegs = [])
  walk : ∀ leg, .leg leg ∈ stretch.elements →
    (leg.mode = walkMode ↔ stretch.role = .network ∧ trip.rideLegs ≠ [])
  offNetwork : ∀ leg, .leg leg ∈ stretch.elements →
    (leg.mode = offNetworkMode ↔ stretch.role = .offNetwork)

/-- Under the given service mode the modes of legs tell their roles in every trip. -/
def IdentifiesRoles (mode : String) : Prop :=
  ∀ (network : Network Float) (walk : WalkSettings Float) (settings : ServiceSettings Float)
    (stops : Option (StopFinder Float)) (service : Service Float) (request : TripRequest Float)
    (trip : Trip Float),
    settings.mode = mode →
    Service.start settings (Teleport.walker network walk) stops = .ok service →
    ((service.route (.freeSpeed network) request).run Search.empty).result = .ok trip →
    ∃ stretches, Stretch.join stretches = trip.elements ∧
      ∀ stretch ∈ stretches, Stretch.Identified settings trip stretch

/-- A trip of one leg has a stretch that its leg belongs to. -/
theorem IdentifiesRoles.exists_stretch {mode : String} (h : IdentifiesRoles mode)
    (hStart : Service.start { ServiceSettings.default with mode }
      (Teleport.walker streetNetwork .default) none = .ok (namedService mode))
    {request : TripRequest Float} {leg : Leg Float}
    (hRoute : (((namedService mode).route (.freeSpeed streetNetwork) request).run
      Search.empty).result = .ok ⟨[.leg leg]⟩) :
    ∃ stretch, .leg leg ∈ stretch.elements ∧
      Stretch.Identified { ServiceSettings.default with mode } ⟨[.leg leg]⟩ stretch := by
  obtain ⟨stretches, hJoin, hAll⟩ := h _ _ _ _ _ _ _ rfl hStart hRoute
  obtain ⟨stretch, hStretch, hMem⟩ := Stretch.exists_of_mem_join hJoin (.head _)
  exact ⟨stretch, hMem, hAll stretch hStretch⟩

/-- A service may be named as walks are, or so that its fallback walks are: then one mode has to
serve two roles. -/
theorem modes_shared_by_roles :
    ¬IdentifiesRoles walkMode ∧ ¬IdentifiesRoles offNetworkMode ∧
      ¬IdentifiesRoles "non_network" := by
  have hRide (mode : String) : ∃ ride,
      (((namedService mode).route (.freeSpeed streetNetwork) southboundRequest).run
        Search.empty).result = .ok ⟨[.leg ride]⟩ ∧ ride.isRide ∧ ride.mode = mode :=
    ⟨_, rfl, rfl, rfl⟩
  have hStroll (mode : String) : ∃ stroll,
      (((namedService mode).route (.freeSpeed streetNetwork) (strollRequest 0)).run
        Search.empty).result = .ok ⟨[.leg stroll]⟩ ∧ stroll.mode = mode ++ "_walk" :=
    ⟨_, rfl, rfl⟩
  refine ⟨fun hTold => ?walk, fun hTold => ?offNetwork, fun hTold => ?fallback⟩
  case walk =>
    obtain ⟨ride, hRoute, hRides, hMode⟩ := hRide walkMode
    obtain ⟨stretch, hMem, hIdentified⟩ := hTold.exists_stretch rfl hRoute
    have hNetwork := ((hIdentified.walk ride hMem).mp hMode).1
    cases ((hIdentified.ride ride hMem).mp hRides).symm.trans hNetwork
  case offNetwork =>
    obtain ⟨ride, hRoute, hRides, hMode⟩ := hRide offNetworkMode
    obtain ⟨stretch, hMem, hIdentified⟩ := hTold.exists_stretch rfl hRoute
    have hOff := (hIdentified.offNetwork ride hMem).mp hMode
    cases ((hIdentified.ride ride hMem).mp hRides).symm.trans hOff
  case fallback =>
    obtain ⟨stroll, hRoute, hMode⟩ := hStroll "non_network"
    obtain ⟨stretch, hMem, hIdentified⟩ := hTold.exists_stretch rfl hRoute
    have hNetwork := ((hIdentified.fallback stroll hMem).mp hMode).1
    have hOff := (hIdentified.offNetwork stroll hMem).mp hMode
    cases hNetwork.symm.trans hOff

end DemandRide
