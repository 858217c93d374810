import DemandRide.Proofs.Road.Growth

/-! Ways through a network: links one after the other, what it takes to pass them and how far they
lead. A link of infinite length and infinite speed takes a time that is not a number, and a node
that such a link is the first to reach keeps that label, as no time is less. What is said of ways
is therefore said of those that enter no node to which such a link leads. -/
namespace DemandRide

variable {α : Type}

namespace Network

/-- Links one after the other, from `source` to the node that the last of them leads to. -/
inductive Trail (network : Network α) (source : NodeId) : List (Link α) → NodeId → Prop where
  | nil : Trail network source [] source
  | snoc {links : List (Link α)} {link : Link α} {id : LinkId}
      (prior : Trail network source links link.source) (hLink : network.link? id = some link) :
      Trail network source (links ++ [link]) link.target

/-- What can be reached is where links lead to. -/
theorem reaches_iff_exists_trail {network : Network α} {source target : NodeId} :
    network.Reaches source target ↔ ∃ links, network.Trail source links target := by
  constructor
  · intro h
    induction h with
    | refl => exact ⟨[], .nil⟩
    | tail _ hLast ih =>
        obtain ⟨links, hTrail⟩ := ih
        obtain ⟨id, link, hLink, rfl, rfl⟩ := hLast
        exact ⟨_, .snoc hTrail hLink⟩
  · rintro ⟨links, hTrail⟩
    induction hTrail with
    | nil => exact .refl
    | snoc _ hLink ih => exact ih.tail ⟨_, _, hLink, rfl, rfl⟩

variable [Scalar α]

/-- The time it takes to pass links, added up from the first on. -/
def passing (links : List (Link α)) : α :=
  links.foldl (fun time link => time + link.travelTime) 0

/-- The length of links, added up from the first on. -/
def covered (links : List (Link α)) : α :=
  links.foldl (fun distance link => distance + link.length) 0

theorem passing_snoc (links : List (Link α)) (link : Link α) :
    passing (links ++ [link]) = passing links + link.travelTime := by
  simp [passing]

theorem covered_snoc (links : List (Link α)) (link : Link α) :
    covered (links ++ [link]) = covered links + link.length := by
  simp [covered]

/-- The time to pass any link is a number and not negative. -/
def Passable (network : Network α) : Prop :=
  ∀ id link, network.link? id = some link → Scalar.le 0 link.travelTime

variable [MonotoneScalar α]

theorem Built.passable {network : Network α} (built : network.Built)
    (hFinite : ∀ id link, network.link? id = some link → Scalar.isFinite link.length) :
    network.Passable := by
  intro id link hLink
  obtain ⟨hLength, hSpeed⟩ := measured_iff.mp (built.link?_sound hLink).2
  exact MonotoneScalar.zero_le_div (hFinite id link hLink) hLength hSpeed

/-- Whether a link whose time is not a number leads to a node from what can be reached. -/
def Spoilt (network : Network α) (source node : NodeId) : Prop :=
  ∃ id link, network.link? id = some link ∧ network.Reaches source link.source ∧
    link.target = node ∧ Scalar.isNaN link.travelTime

/-- Whether links lead to nodes that are not spoilt. -/
def Clear (network : Network α) (source : NodeId) (links : List (Link α)) : Prop :=
  ∀ link ∈ links, ¬network.Spoilt source link.target

omit [MonotoneScalar α] in
theorem clear_snoc_iff {network : Network α} {source : NodeId} {links : List (Link α)}
    {link : Link α} :
    network.Clear source (links ++ [link]) ↔
      network.Clear source links ∧ ¬network.Spoilt source link.target := by
  simp only [Clear, List.forall_mem_append, List.forall_mem_singleton]

/-- Where all times are numbers nothing is spoilt. -/
theorem Passable.clear {network : Network α} (h : network.Passable) (source : NodeId)
    (links : List (Link α)) : network.Clear source links := by
  rintro link - ⟨id, other, hOther, -, -, hNaN⟩
  cases (MonotoneScalar.zero_le_iff.mp (h id other hOther)).1.symm.trans hNaN

/-- A link that can be reached takes a time that is a number if it leads to a node that is not
spoilt. -/
theorem Built.zero_le_travelTime {network : Network α} (built : network.Built) {source : NodeId}
    {id : LinkId} {link : Link α} (hLink : network.link? id = some link)
    (hReaches : network.Reaches source link.source)
    (hClear : ¬network.Spoilt source link.target) : Scalar.le 0 link.travelTime := by
  refine MonotoneScalar.zero_le_iff.mpr ⟨Bool.eq_false_iff.mpr fun hNaN => ?_,
    not_travelTime_lt_zero (built.link?_sound hLink).2⟩
  exact hClear ⟨id, link, hLink, hReaches, rfl, hNaN⟩

theorem Built.zero_le_passing {network : Network α} (built : network.Built) {source node : NodeId}
    {links : List (Link α)} (hTrail : network.Trail source links node)
    (hClear : network.Clear source links) : Scalar.le 0 (passing links) := by
  induction hTrail with
  | nil => exact MonotoneScalar.le_refl OrderedScalar.isNaN_zero
  | snoc prior hLink ih =>
      obtain ⟨hPrior, hTarget⟩ := clear_snoc_iff.mp hClear
      have hTime := built.zero_le_travelTime hLink (reaches_iff_exists_trail.mpr ⟨_, prior⟩) hTarget
      rw [passing_snoc]
      exact MonotoneScalar.le_trans (ih hPrior) (MonotoneScalar.le_add (ih hPrior) hTime)

end Network

end DemandRide
