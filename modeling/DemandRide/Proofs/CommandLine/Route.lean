import DemandRide.CommandLine
import DemandRide.Proofs.Scenario.Obstacles

/-! What the routing of a scenario file comes to. It fails if the file holds no scenario, if there
is an obstacle to the scenario, or if the workers it asks for cannot be started. Otherwise the
requests are answered one by one, however the workers share them, and the answers are what is to
be written. -/
namespace DemandRide.CommandLine.Tools

variable {tools : Tools}

/-- Every request is served by exactly one worker, however many are asked for. -/
def ServesAll (tools : Tools) : Prop :=
  ∀ workers count, (tools.schedule workers count).Covers count

theorem servesAll_own : own.ServesAll :=
  fun _ => .sequential

/-- The workers that a scenario asks for can be started. -/
def Starts (tools : Tools) (scenario : Scenario Float) : Prop :=
  ∀ count, scenario.workers = some count → tools.start count = .ok ()

variable {scenario : Scenario Float}

theorem run_of_starts (h : tools.Starts scenario) :
    tools.run scenario =
      (scenario.runUnder (tools.schedule scenario.workers scenario.requests.length)).mapError
        Failure.scenario := by
  unfold run
  cases hWorkers : scenario.workers with
  | none => rfl
  | some count => rw [Option.map_some, h count hWorkers]

theorem exists_failure_of_not_starts (h : ¬tools.Starts scenario) :
    ∃ failure, ((tools.run scenario).run ()).result = .error failure := by
  obtain ⟨count, hWorkers, hStart⟩ :
      ∃ count, scenario.workers = some count ∧ tools.start count ≠ .ok () := by
    simpa [Starts] using h
  obtain ⟨cause, hCause⟩ : ∃ cause, tools.start count = .error cause := by
    cases hCause : tools.start count with
    | ok => exact absurd hCause hStart
    | error cause => exact ⟨cause, rfl⟩
  unfold run
  rw [hWorkers, Option.map_some, hCause, Session.result_bind]
  -- Whatever else is wrong with the scenario comes before its workers.
  cases (((scenario.runUnder []).mapError Failure.scenario).run ()).result with
  | error failure => exact ⟨failure, rfl⟩
  | ok routed => exact ⟨.workers cause, rfl⟩

/-- A scenario with an obstacle, or without its workers, fails. -/
theorem exists_failure_of_run (hServes : tools.ServesAll)
    (h : scenario.Obstacle ∨ ¬tools.Starts scenario) :
    ∃ failure, ((tools.run scenario).run ()).result = .error failure := by
  by_cases hStarts : tools.Starts scenario
  · have hObstacle : scenario.Obstacle := h.resolve_right (not_not_intro hStarts)
    rw [run_of_starts hStarts, Session.run_mapError]
    obtain ⟨-, cause, hRun⟩ | ⟨hFree, -⟩ :=
      scenario.runUnder_cases (hServes scenario.workers scenario.requests.length)
    · exact ⟨.scenario cause, by rw [hRun]; rfl⟩
    · exact absurd hObstacle hFree
  · exact exists_failure_of_not_starts hStarts

/-- Any other scenario is answered, however its workers share the requests. -/
theorem exists_routed_of_run (hServes : tools.ServesAll) (hFree : ¬scenario.Obstacle)
    (hStarts : tools.Starts scenario) :
    ∃ routed, ((tools.run scenario).run ()).result = .ok routed ∧
      List.Forall₂ scenario.Answers scenario.requests routed := by
  rw [run_of_starts hStarts, Session.run_mapError]
  obtain ⟨hObstacle, -⟩ | ⟨-, routed, hRun, hAnswers⟩ :=
    scenario.runUnder_cases (hServes scenario.workers scenario.requests.length)
  · exact absurd hObstacle hFree
  · exact ⟨routed, by rw [hRun]; rfl, hAnswers⟩

variable {files : Files} {path : String}

theorem readScenario_eq_ok_iff :
    tools.readScenario files path = .ok scenario ↔
      ((files.content? path).bind fun text => (tools.value? text).bind Scenario.ofJson?) =
        some scenario := by
  unfold readScenario
  cases files.content? path with
  | none => exact iff_of_false nofun nofun
  | some text =>
      simp only [Option.bind_some]
      cases (tools.value? text).bind Scenario.ofJson? <;> simp

/-- What a scenario file and its scenario come to. -/
theorem result_route (tools : Tools) (files : Files) (path : String) (output : Option String) :
    ((tools.route files path output).run ()).result =
      tools.readScenario files path >>= fun scenario =>
        ((tools.run scenario).run ()).result >>= fun routed =>
          deliver files output (tools.document routed) := by
  simp only [route, Session.result_bind, Session.run_ofExcept, Session.run_note, Session.ok_bind]

/-- Nothing comes of a file without a scenario that can be run. -/
theorem exists_failure_of_route (hServes : tools.ServesAll)
    (h : ∀ scenario, tools.readScenario files path = .ok scenario →
      scenario.Obstacle ∨ ¬tools.Starts scenario) (output : Option String) :
    ∃ failure, ((tools.route files path output).run ()).result = .error failure := by
  rw [result_route]
  cases hRead : tools.readScenario files path with
  | error failure => exact ⟨failure, rfl⟩
  | ok scenario =>
      obtain ⟨failure, hRun⟩ := exists_failure_of_run hServes (h scenario hRead)
      exact ⟨failure, by rw [Session.ok_bind, hRun]; rfl⟩

theorem exists_routed_of_route (hServes : tools.ServesAll)
    (hRead : tools.readScenario files path = .ok scenario) (hFree : ¬scenario.Obstacle)
    (hStarts : tools.Starts scenario) (output : Option String) :
    ∃ routed, List.Forall₂ scenario.Answers scenario.requests routed ∧
      ((tools.route files path output).run ()).result =
        deliver files output (tools.document routed) := by
  obtain ⟨routed, hRun, hAnswers⟩ := exists_routed_of_run hServes hFree hStarts
  exact ⟨routed, hAnswers, by rw [result_route, hRead, Session.ok_bind, hRun]; rfl⟩

end DemandRide.CommandLine.Tools
