/-! Computations that may fail, that use up a state handed from one to the next, and that
leave notices on the way. A failed computation keeps the state and the notices it had reached
when it failed. A notice can only be added: what a computation has noticed is the list it
returns, not something it could read back or take away. -/
namespace DemandRide

/-- What a computation came to. -/
structure Outcome (σ ν ε β : Type) where
  result : Except ε β
  state : σ
  notices : List ν

/-- A computation over states `σ` with notices `ν`, failures `ε` and answers `β`. -/
structure Session (σ ν ε β : Type) where
  run : σ → Outcome σ ν ε β

namespace Session

variable {σ ν ε ε' β γ : Type}

/-- Answer without touching the state. -/
def pure (b : β) : Session σ ν ε β := ⟨fun s => ⟨.ok b, s, []⟩⟩

/-- Run the first computation and, if it answers, the second from the state it left. -/
def bind (first : Session σ ν ε β) (next : β → Session σ ν ε γ) : Session σ ν ε γ :=
  ⟨fun s =>
    let reached := first.run s
    match reached.result with
    | .error e => ⟨.error e, reached.state, reached.notices⟩
    | .ok b =>
      let final := (next b).run reached.state
      ⟨final.result, final.state, reached.notices ++ final.notices⟩⟩

instance : Monad (Session σ ν ε) where
  pure := pure
  bind := bind

@[simp] theorem run_pure (b : β) (s : σ) :
    (Pure.pure b : Session σ ν ε β).run s = ⟨.ok b, s, []⟩ := rfl

theorem run_bind_of_ok {first : Session σ ν ε β} {s : σ} {b : β}
    (h : (first.run s).result = .ok b) (next : β → Session σ ν ε γ) :
    (first >>= next).run s =
      ⟨((next b).run (first.run s).state).result, ((next b).run (first.run s).state).state,
        (first.run s).notices ++ ((next b).run (first.run s).state).notices⟩ := by
  change (bind first next).run s = _
  simp only [bind, h]

theorem run_bind_of_error {first : Session σ ν ε β} {s : σ} {e : ε}
    (h : (first.run s).result = .error e) (next : β → Session σ ν ε γ) :
    (first >>= next).run s = ⟨.error e, (first.run s).state, (first.run s).notices⟩ := by
  change (bind first next).run s = _
  simp only [bind, h]

/-- Leave a notice. -/
def note (notice : ν) : Session σ ν ε Unit := ⟨fun s => ⟨.ok (), s, [notice]⟩⟩

def fail (e : ε) : Session σ ν ε β := ⟨fun s => ⟨.error e, s, []⟩⟩

/-- The answer or failure of a plain computation. -/
def ofExcept (result : Except ε β) : Session σ ν ε β := ⟨fun s => ⟨result, s, []⟩⟩

/-- The state as it is. -/
def get : Session σ ν ε σ := ⟨fun s => ⟨.ok s, s, []⟩⟩

/-- Replace the state. -/
def put (s : σ) : Session σ ν ε Unit := ⟨fun _ => ⟨.ok (), s, []⟩⟩

/-- Restate the failure. -/
def mapError (restate : ε → ε') (first : Session σ ν ε β) : Session σ ν ε' β :=
  ⟨fun s =>
    let reached := first.run s
    ⟨reached.result.mapError restate, reached.state, reached.notices⟩⟩

/-- A computation that needs no state, beside any state. -/
def stateless (first : Session Unit ν ε β) : Session σ ν ε β :=
  ⟨fun s =>
    let reached := first.run ()
    ⟨reached.result, s, reached.notices⟩⟩

end Session

end DemandRide
