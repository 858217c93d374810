import DemandRide.Session

/-! What a computation comes to, told from its parts. A composed computation answers exactly
if both of its parts do. It is free of history if neither its answer nor its notices depend on
the state it is run from; nothing is said about the state it leaves. It is silent about one kind
of notices if it leaves none of them, whatever else it notices. -/
namespace DemandRide

/-- What a computation came to, but for the notices of one kind. -/
def Outcome.without {σ ν ε β τ : Type} (told : ν → Option τ) (outcome : Outcome σ ν ε β) :
    Outcome σ ν ε β :=
  { outcome with notices := outcome.notices.filter fun notice => (told notice).isNone }

theorem Outcome.without_of_told_eq_nil {σ ν ε β τ : Type} {told : ν → Option τ}
    {outcome : Outcome σ ν ε β} (h : outcome.notices.filterMap told = []) :
    outcome.without told = outcome := by
  have hKept : (outcome.notices.filter fun notice => (told notice).isNone) = outcome.notices :=
    List.filter_eq_self.mpr fun notice hNotice =>
      Option.isNone_iff_eq_none.mpr (List.filterMap_eq_nil_iff.mp h notice hNotice)
  rw [Outcome.without, hKept]

namespace Session

variable {σ ν ε ε' β γ τ : Type}

@[simp] theorem run_note (notice : ν) (s : σ) :
    (note notice : Session σ ν ε Unit).run s = ⟨.ok (), s, [notice]⟩ := rfl

@[simp] theorem run_fail (e : ε) (s : σ) :
    (fail e : Session σ ν ε β).run s = ⟨.error e, s, []⟩ := rfl

@[simp] theorem run_ofExcept (result : Except ε β) (s : σ) :
    (ofExcept result : Session σ ν ε β).run s = ⟨result, s, []⟩ := rfl

@[simp] theorem run_get (s : σ) :
    (get : Session σ ν ε σ).run s = ⟨.ok s, s, []⟩ := rfl

@[simp] theorem run_mapError (restate : ε → ε') (first : Session σ ν ε β) (s : σ) :
    (first.mapError restate).run s =
      ⟨(first.run s).result.mapError restate, (first.run s).state, (first.run s).notices⟩ := rfl

@[simp] theorem run_stateless (first : Session Unit ν ε β) (s : σ) :
    (first.stateless : Session σ ν ε β).run s =
      ⟨(first.run ()).result, s, (first.run ()).notices⟩ := rfl

@[simp] theorem mapError_ok (restate : ε → ε') (b : β) :
    (.ok b : Except ε β).mapError restate = .ok b := rfl

@[simp] theorem mapError_error (restate : ε → ε') (e : ε) :
    (.error e : Except ε β).mapError restate = .error (restate e) := rfl

/-- Restating a failure makes no answer and loses none. -/
@[simp] theorem mapError_eq_ok_iff (restate : ε → ε') (result : Except ε β) (b : β) :
    result.mapError restate = .ok b ↔ result = .ok b := by
  cases result <;> simp

theorem mapError_eq_error_iff (restate : ε → ε') (result : Except ε β) (e : ε') :
    result.mapError restate = .error e ↔ ∃ cause, result = .error cause ∧ restate cause = e := by
  cases result <;> simp

theorem map_eq_ok_iff (f : β → γ) (result : Except ε β) (c : γ) :
    result.map f = .ok c ↔ ∃ b, result = .ok b ∧ f b = c := by
  cases result <;> simp [Except.map]

theorem map_eq_error_iff (f : β → γ) (result : Except ε β) (e : ε) :
    result.map f = .error e ↔ result = .error e := by
  cases result <;> simp [Except.map]

/-- What follows an answer is done with it. -/
theorem ok_bind (b : β) (next : β → Except ε γ) : (.ok b >>= next) = next b := rfl

section Bind

variable {first : Session σ ν ε β} {next : β → Session σ ν ε γ} {s : σ}

theorem run_bind :
    (first >>= next).run s = match (first.run s).result with
      | .error e => ⟨.error e, (first.run s).state, (first.run s).notices⟩
      | .ok b =>
        ⟨((next b).run (first.run s).state).result, ((next b).run (first.run s).state).state,
          (first.run s).notices ++ ((next b).run (first.run s).state).notices⟩ := by
  cases h : (first.run s).result with
  | error e => exact run_bind_of_error h next
  | ok b => exact run_bind_of_ok h next

/-- What a composed computation comes to is composed of what its parts come to. -/
theorem result_bind :
    ((first >>= next).run s).result =
      (first.run s).result >>= fun b => ((next b).run (first.run s).state).result := by
  rw [run_bind]
  cases (first.run s).result <;> rfl

theorem result_bind_eq_ok_iff {c : γ} :
    ((first >>= next).run s).result = .ok c ↔
      ∃ b, (first.run s).result = .ok b ∧ ((next b).run (first.run s).state).result = .ok c := by
  rw [run_bind]
  split <;> simp_all

theorem result_bind_eq_error_iff {e : ε} :
    ((first >>= next).run s).result = .error e ↔
      (first.run s).result = .error e ∨
      ∃ b, (first.run s).result = .ok b ∧
        ((next b).run (first.run s).state).result = .error e := by
  rw [run_bind]
  split <;> simp_all

theorem state_bind_of_ok {b : β} (h : (first.run s).result = .ok b) :
    ((first >>= next).run s).state = ((next b).run (first.run s).state).state := by
  rw [run_bind_of_ok h]

theorem state_bind_of_error {e : ε} (h : (first.run s).result = .error e) :
    ((first >>= next).run s).state = (first.run s).state := by
  rw [run_bind_of_error h]

end Bind

/-- A computation fails exactly if it has no answer. -/
theorem exists_error_iff (result : Except ε β) :
    (∃ e, result = .error e) ↔ ¬∃ b, result = .ok b := by
  cases result <;> simp

/-- The state is left as it is. -/
def Keeps (session : Session σ ν ε β) : Prop :=
  ∀ s, (session.run s).state = s

namespace Keeps

theorem pure (b : β) : Keeps (Pure.pure b : Session σ ν ε β) := fun _ => rfl

theorem note (notice : ν) : Keeps (Session.note notice : Session σ ν ε Unit) := fun _ => rfl

theorem bind {first : Session σ ν ε β} {next : β → Session σ ν ε γ} (hFirst : Keeps first)
    (hNext : ∀ b, Keeps (next b)) : Keeps (first >>= next) := by
  intro s
  rw [run_bind]
  split
  · exact hFirst s
  · exact (hNext _ _).trans (hFirst s)

/-- What follows a computation and keeps the state leaves it as the computation did. -/
theorem state_bind {first : Session σ ν ε β} {next : β → Session σ ν ε γ}
    (hNext : ∀ b, Keeps (next b)) (s : σ) :
    ((first >>= next).run s).state = (first.run s).state := by
  rw [run_bind]
  split
  · rfl
  · exact hNext _ _

end Keeps

/-- The same answer and the same notices from every state. -/
def HistoryFree (session : Session σ ν ε β) : Prop :=
  ∀ s t, (session.run s).result = (session.run t).result ∧
    (session.run s).notices = (session.run t).notices

namespace HistoryFree

theorem pure (b : β) : HistoryFree (Pure.pure b : Session σ ν ε β) :=
  fun _ _ => ⟨rfl, rfl⟩

theorem note (notice : ν) : HistoryFree (Session.note notice : Session σ ν ε Unit) :=
  fun _ _ => ⟨rfl, rfl⟩

theorem fail (e : ε) : HistoryFree (Session.fail e : Session σ ν ε β) :=
  fun _ _ => ⟨rfl, rfl⟩

theorem ofExcept (result : Except ε β) :
    HistoryFree (Session.ofExcept result : Session σ ν ε β) :=
  fun _ _ => ⟨rfl, rfl⟩

theorem put (t : σ) : HistoryFree (Session.put t : Session σ ν ε Unit) :=
  fun _ _ => ⟨rfl, rfl⟩

theorem stateless (first : Session Unit ν ε β) :
    HistoryFree (first.stateless : Session σ ν ε β) :=
  fun _ _ => ⟨rfl, rfl⟩

theorem mapError {first : Session σ ν ε β} (hFirst : HistoryFree first) (restate : ε → ε') :
    HistoryFree (first.mapError restate) := by
  intro s t
  obtain ⟨hResult, hNotices⟩ := hFirst s t
  exact ⟨congrArg (Except.mapError restate) hResult, hNotices⟩

/-- The second part starts from whatever state the first one left, so it has to be free of
history for every answer of the first. -/
theorem bind {first : Session σ ν ε β} {next : β → Session σ ν ε γ} (hFirst : HistoryFree first)
    (hNext : ∀ b, HistoryFree (next b)) : HistoryFree (first >>= next) := by
  intro s t
  obtain ⟨hResult, hNotices⟩ := hFirst s t
  cases hs : (first.run s).result with
  | error e =>
      rw [run_bind_of_error hs, run_bind_of_error (hResult ▸ hs)]
      exact ⟨rfl, hNotices⟩
  | ok b =>
      rw [run_bind_of_ok hs, run_bind_of_ok (hResult ▸ hs), hNotices]
      obtain ⟨hLast, hLater⟩ := hNext b (first.run s).state (first.run t).state
      exact ⟨hLast, congrArg ((first.run t).notices ++ ·) hLater⟩

/-- A state may be read if the same is done whatever was read. -/
theorem get_bind {next : σ → Session σ ν ε β} (t : σ) (hSame : ∀ s, next s = next t)
    (hNext : HistoryFree (next t)) : HistoryFree (Session.get >>= next) := by
  have hRun (s : σ) : (Session.get >>= next).run s =
      ⟨((next t).run s).result, ((next t).run s).state, [] ++ ((next t).run s).notices⟩ := by
    simp only [run_bind, run_get, hSame s]
  intro s s'
  obtain ⟨hResult, hNotices⟩ := hNext s s'
  rw [hRun, hRun]
  exact ⟨hResult, hNotices⟩

end HistoryFree

/-- Nothing of one kind is told, whatever else is noticed. -/
def Silent (told : ν → Option τ) (session : Session σ ν ε β) : Prop :=
  ∀ s, (session.run s).notices.filterMap told = []

namespace Silent

variable {told : ν → Option τ}

theorem pure (b : β) : Silent told (Pure.pure b : Session σ ν ε β) := fun _ => rfl

theorem note {notice : ν} (h : told notice = none) :
    Silent told (Session.note notice : Session σ ν ε Unit) := fun _ => by
  rw [run_note, List.filterMap_cons_none h, List.filterMap_nil]

theorem fail (e : ε) : Silent told (Session.fail e : Session σ ν ε β) := fun _ => rfl

theorem ofExcept (result : Except ε β) :
    Silent told (Session.ofExcept result : Session σ ν ε β) := fun _ => rfl

theorem get : Silent told (Session.get : Session σ ν ε σ) := fun _ => rfl

theorem put (s : σ) : Silent told (Session.put s : Session σ ν ε Unit) := fun _ => rfl

theorem stateless {first : Session Unit ν ε β} (hFirst : Silent told first) :
    Silent told (first.stateless : Session σ ν ε β) := fun _ => hFirst ()

theorem mapError {first : Session σ ν ε β} (hFirst : Silent told first) (restate : ε → ε') :
    Silent told (first.mapError restate) := hFirst

section Bind

variable {first : Session σ ν ε β} {next : β → Session σ ν ε γ} (hFirst : Silent told first)

include hFirst

/-- After a silent first part only the second one tells anything. -/
theorem told_bind_of_ok {s : σ} {b : β} (h : (first.run s).result = .ok b) :
    ((first >>= next).run s).notices.filterMap told =
      ((next b).run (first.run s).state).notices.filterMap told := by
  rw [run_bind_of_ok h, List.filterMap_append, hFirst s, List.nil_append]

theorem told_bind_of_error {s : σ} {e : ε} (h : (first.run s).result = .error e) :
    ((first >>= next).run s).notices.filterMap told = [] := by
  rw [run_bind_of_error h]
  exact hFirst s

theorem bind (hNext : ∀ b, Silent told (next b)) : Silent told (first >>= next) := by
  intro s
  cases h : (first.run s).result with
  | error e => exact hFirst.told_bind_of_error h
  | ok b => exact (hFirst.told_bind_of_ok h).trans (hNext b _)

end Bind

end Silent

/-- What follows may be exchanged for what differs from it in notices of one kind alone. -/
theorem without_run_bind_congr {told : ν → Option τ} {first : Session σ ν ε β}
    {next other : β → Session σ ν ε γ}
    (h : ∀ b s, ((next b).run s).without told = ((other b).run s).without told) (s : σ) :
    ((first >>= next).run s).without told = ((first >>= other).run s).without told := by
  rw [run_bind, run_bind]
  cases (first.run s).result with
  | error e => rfl
  | ok b =>
      have hSame := h b (first.run s).state
      simp only [Outcome.without, Outcome.mk.injEq] at hSame
      obtain ⟨hResult, hState, hNotices⟩ := hSame
      simp only [Outcome.without, hResult, hState, List.filter_append, hNotices]

end Session

end DemandRide
