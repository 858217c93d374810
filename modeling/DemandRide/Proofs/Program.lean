import DemandRide.Program
import DemandRide.Proofs.CommandLine.Review
import DemandRide.Proofs.CommandLine.Route
import Mathlib.Logic.Function.Basic

/-! What the program leaves behind. A world holds files under their paths, a standard output and a
log, and the program is run on it as on any host. A command that fails leaves the files and the
standard output as they were: everything that can go wrong with a scenario goes wrong before its
output is opened. This holds whatever tools the program is given: how they read and lay out texts
does not matter, and the requests may be shared among workers in any way. That what is open can be
written to is taken for granted. -/
namespace DemandRide.CommandLine

open Alternation

/-- The files and the streams that a program finds. -/
structure World where
  files : String → Option ByteArray
  /-- Whether a file that is there may be read. -/
  readable : String → Bool
  /-- Whether a path can be opened for writing. -/
  writable : String → Bool
  /-- What has been written to the standard output. -/
  standard : String
  log : List LogEntry

namespace World

/-- The text of a file, if it may be read and is one. -/
def text? (world : World) (path : String) : Option String :=
  if world.readable path then (world.files path).bind String.fromUTF8? else none

def emptied (world : World) (path : String) : World :=
  { world with files := Function.update world.files path (some .empty) }

/-- A file with a text added at its end. -/
def appended (world : World) (path text : String) : World :=
  let held := (world.files path).getD .empty
  { world with files := Function.update world.files path (some (held ++ text.toUTF8)) }

def printed (world : World) (text : String) : World :=
  { world with standard := world.standard ++ text }

def logged (world : World) (entries : List LogEntry) : World :=
  { world with log := world.log ++ entries }

/-- A world as a host. What is written to a file is added to what it holds since it was opened. -/
def host : Host (StateM World) where
  read? path := return (← get).text? path
  create? path := do
    if (← get).writable path then
      modify (emptied · path)
      return some fun text => modify (appended · path text)
    else return none
  print text := modify (printed · text)
  log entry := modify (logged · [entry])

variable (world : World)

@[simp] theorem logged_nil : world.logged [] = world := by
  simp [logged]

@[simp] theorem logged_logged (entries more : List LogEntry) :
    (world.logged entries).logged more = world.logged (entries ++ more) := by
  simp [logged]

/-- A file that is emptied and written to holds what was written. -/
theorem appended_emptied (path text : String) :
    (world.emptied path).appended path text =
      { world with files := Function.update world.files path (some text.toUTF8) } := by
  simp [emptied, appended]

/-- Notices are logged in their order, and nothing else is done. -/
theorem run_log (notices : List (Notice Float)) :
    (notices.forM fun notice => host.log notice.entry).run world =
      ((), world.logged (notices.map Notice.entry)) := by
  induction notices generalizing world with
  | nil =>
      rw [List.map_nil, logged_nil]
      rfl
  | cons notice rest ih =>
      have hRest := ih (world.logged [notice.entry])
      rw [logged_logged] at hRest
      exact hRest

/-- What is left when the outcome of a command is written: the exit code and the world. -/
def finished : Except Failure Output → UInt32 × World
  | .error failure => (1, world.logged [failure.entry])
  | .ok .nothing => (0, world)
  | .ok (.standard text) => (0, world.printed text)
  | .ok (.file path text) =>
    if world.writable path then
      (0, { world with files := Function.update world.files path (some text.toUTF8) })
    else (1, world.logged [(Failure.unwritable path).entry])

theorem run_create (path : String) :
    (host.create? path).run world =
      if world.writable path then
        (some fun text => modify (appended · path text), world.emptied path)
      else (none, world) := by
  change (if world.writable path then _ else _ : StateM World _).run world = _
  split <;> rfl

theorem run_finish (result : Except Failure Output) :
    (host.finish result).run world = world.finished result := by
  rcases result with failure | _ | text | ⟨path, text⟩
  · rfl
  · rfl
  · rfl
  · change (host.create? path >>= _).run world = _
    rw [StateT.run_bind, run_create, finished]
    split
    · rw [← appended_emptied]
      rfl
    · rfl

/-- What a command sees of a world: the text of the file it reads. -/
def view (path : String) : Files := ⟨fun _ => world.text? path, fun _ => true⟩

theorem run_perform (tools : Tools) (command : Command) :
    let reached := (tools.perform (world.view command.input) command).run ()
    (host.perform tools command).run world =
      (world.logged (reached.notices.map Notice.entry)).finished reached.result := by
  intro reached
  have hLogged : (host.perform tools command).run world =
      ((reached.notices.forM fun notice => host.log notice.entry) >>= fun _ =>
        host.finish reached.result).run world := rfl
  rw [hLogged, StateT.run_bind, run_log, ← run_finish]
  rfl

/-- Nothing has been written but to the log. -/
def Unwritten (after : World) : Prop :=
  after.files = world.files ∧ after.standard = world.standard

/-- A text has been written: to the standard output, or to a file that could be opened, which
holds it in place of what it held before. -/
def Delivered (output : Option String) (text : String) (code : UInt32) (after : World) : Prop :=
  match output with
  | none => code = 0 ∧ after.files = world.files ∧ after.standard = world.standard ++ text
  | some path =>
    after.standard = world.standard ∧
      if world.writable path then
        code = 0 ∧ after.files = Function.update world.files path (some text.toUTF8)
      else code = 1 ∧ after.files = world.files

/-- The scenario in a file, if the file can be read and holds one. -/
def scenario? (tools : Tools) (path : String) : Option (Scenario Float) :=
  (world.text? path).bind fun text => (tools.value? text).bind Scenario.ofJson?

/-- What is left when a scenario has been routed. -/
structure AfterRoute (tools : Tools) (path : String) (output : Option String) (code : UInt32)
    (after : World) : Prop where
  /-- Without a scenario that can be run the program fails, and nothing has been written. -/
  refused : (∀ scenario, world.scenario? tools path = some scenario →
      scenario.Obstacle ∨ ¬tools.Starts scenario) →
    code = 1 ∧ world.Unwritten after
  /-- A scenario that can be run is answered, request by request. -/
  routed : ∀ scenario, world.scenario? tools path = some scenario → ¬scenario.Obstacle →
    tools.Starts scenario →
    ∃ routed, List.Forall₂ scenario.Answers scenario.requests routed ∧
      world.Delivered output
        (tools.layOut (Json.arr (routed.map RoutedTrip.toJson)) ++ "\n") code after

/-- What is left when plans have been checked. -/
structure AfterCheck (tools : Tools) (path : String) (code : UInt32) (after : World) : Prop where
  unwritten : world.Unwritten after
  succeeds_iff : code = 0 ↔ ∃ text plans, world.text? path = some text ∧
    tools.ReadsPlans text plans ∧ ∀ plan ∈ claimedKinds plans, WellFormed plan
  fails : code ≠ 0 → code = 1
  /-- Every malformed plan is reported, then they are counted, and counted again if that is why
  the program fails. -/
  reported : ∀ text plans, world.text? path = some text → tools.ReadsPlans text plans →
    let malformed := malformedFrom 0 (claimedKinds plans)
    ∃ reports, List.Forall₂ Reports malformed reports ∧
      after.log = world.log ++
        (reports.map violationNotice ++
          [Notice.plansChecked plans.length malformed.length]).map Notice.entry ++
        if malformed = [] then []
        else [(Failure.malformedPlans malformed.length plans.length).entry]

section Finished

variable {world} {entries : List LogEntry}

theorem unwritten_finished_error (failure : Failure) :
    let finished := (world.logged entries).finished (.error failure)
    finished.1 = 1 ∧ world.Unwritten finished.2 :=
  ⟨rfl, rfl, rfl⟩

theorem finished_check (world : World) (passes : Prop) [Decidable passes] (failure : Failure) :
    world.finished (if passes then .ok .nothing else .error failure) =
      (if passes then 0 else 1, world.logged (if passes then [] else [failure.entry])) := by
  split
  · rw [logged_nil]
    rfl
  · rfl

theorem delivered_finished (output : Option String) (path text : String) :
    let finished := (world.logged entries).finished (deliver (world.view path) output text)
    world.Delivered output text finished.1 finished.2 := by
  cases output with
  | none => exact ⟨rfl, rfl, rfl⟩
  | some file =>
      intro finished
      by_cases hWritable : world.writable file
      · have hFinished : finished = (0, { world.logged entries with
            files := Function.update world.files file (some text.toUTF8) }) := if_pos hWritable
        rw [hFinished, Delivered, if_pos hWritable]
        exact ⟨rfl, rfl, rfl⟩
      · have hFinished : finished = (1, (world.logged entries).logged
            [(Failure.unwritable file).entry]) := if_neg hWritable
        rw [hFinished, Delivered, if_neg hWritable]
        exact ⟨rfl, rfl, rfl⟩

end Finished

end World

namespace World

variable (world : World) (tools : Tools) (path : String)

theorem scenario?_eq_some_iff {scenario : Scenario Float} :
    world.scenario? tools path = some scenario ↔
      tools.readScenario (world.view path) path = .ok scenario :=
  (Tools.readScenario_eq_ok_iff :
    tools.readScenario (world.view path) path = .ok scenario ↔ _).symm

variable {tools}

theorem afterRoute_perform (hServes : tools.ServesAll) (output : Option String) :
    let ended := (host.perform tools (.route path output)).run world
    world.AfterRoute tools path output ended.1 ended.2 := by
  intro ended
  have hEnded : ended = finished _ ((tools.route (world.view path) path output).run ()).result :=
    run_perform world tools (.route path output)
  rw [hEnded]
  constructor
  case refused =>
    intro hNone
    obtain ⟨failure, hFailure⟩ := Tools.exists_failure_of_route hServes
      (fun scenario hRead => hNone scenario ((world.scenario?_eq_some_iff tools path).mpr hRead))
      output
    rw [hFailure]
    exact unwritten_finished_error failure
  case routed =>
    intro scenario hScenario hFree hStarts
    obtain ⟨routed, hAnswers, hDeliver⟩ := Tools.exists_routed_of_route hServes
      ((world.scenario?_eq_some_iff tools path).mp hScenario) hFree hStarts output
    rw [hDeliver]
    exact ⟨routed, hAnswers, delivered_finished output path _⟩

/-- What is left when plans were there to be checked. -/
theorem afterCheck_of_reports {text : String} {plans : List (List (Json Float))}
    (hText : world.text? path = some text) (hPlans : tools.ReadsPlans text plans)
    {reports : List (PlanLabel × Violation)}
    (hReports : List.Forall₂ Reports (malformedFrom 0 (claimedKinds plans)) reports) :
    let malformed := malformedFrom 0 (claimedKinds plans)
    let ended := (world.logged ((reports.map violationNotice ++
      [Notice.plansChecked plans.length malformed.length]).map Notice.entry)).finished
        (if malformed = [] then .ok .nothing
          else .error (.malformedPlans malformed.length plans.length))
    world.AfterCheck tools path ended.1 ended.2 := by
  intro malformed ended
  have hOnly {other : String} {others : List (List (Json Float))}
      (hOther : world.text? path = some other) (hOthers : tools.ReadsPlans other others) :
      others = plans := by
    obtain rfl := Option.some.inj (hText.symm.trans hOther)
    exact hOthers.unique hPlans
  have hEnded : ended = _ := finished_check _ (malformed = []) _
  rw [hEnded]
  constructor
  case unwritten => exact ⟨rfl, rfl⟩
  case fails => exact fun hCode => if_neg fun hNone => hCode (if_pos hNone)
  case succeeds_iff =>
    have hCode : (if malformed = [] then 0 else 1 : UInt32) = 0 ↔ malformed = [] := by
      split <;> simp_all
    refine hCode.trans (malformedFrom_eq_nil_iff.trans ⟨fun hAll => ?_, ?_⟩)
    · exact ⟨text, plans, hText, hPlans, hAll⟩
    · rintro ⟨other, others, hOther, hOthers, hAll⟩
      obtain rfl := hOnly hOther hOthers
      exact hAll
  case reported =>
    intro other others hOther hOthers
    obtain rfl := hOnly hOther hOthers
    exact ⟨reports, hReports, rfl⟩

theorem afterCheck_perform :
    let ended := (host.perform tools (.check path)).run world
    world.AfterCheck tools path ended.1 ended.2 := by
  intro ended
  let reached := (tools.check (world.view path) path).run ()
  have hEnded : ended =
      (world.logged (reached.notices.map Notice.entry)).finished reached.result :=
    run_perform world tools (.check path)
  rw [hEnded]
  by_cases hHeld : ∃ text plans, world.text? path = some text ∧ tools.ReadsPlans text plans
  · obtain ⟨text, plans, hText, hPlans⟩ := hHeld
    have hContent : (world.view path).content? path = some text := hText
    obtain ⟨reports, hReports, hRun⟩ := Tools.exists_reports_of_check hContent hPlans
    have hReached : reached = _ := hRun
    rw [hReached]
    exact world.afterCheck_of_reports path hText hPlans hReports
  · have hNone (text : String) (plans : List (List (Json Float)))
        (hText : (world.view path).content? path = some text) : ¬tools.ReadsPlans text plans :=
      fun hPlans => hHeld ⟨text, plans, hText, hPlans⟩
    obtain ⟨failure, hRun⟩ := Tools.exists_failure_of_check hNone
    have hReached : reached = _ := hRun
    rw [hReached]
    refine ⟨⟨rfl, rfl⟩, iff_of_false (by decide : (1 : UInt32) ≠ 0) ?_, fun _ => rfl, ?_⟩
    · rintro ⟨text, plans, hText, hPlans, -⟩
      exact hNone text plans hText hPlans
    · intro text plans hText hPlans
      exact absurd hPlans (hNone text plans hText)

end World

/-- Where the arguments ask for a command, the program performs it. -/
theorem Host.program_eq_perform {m : Type → Type} [Monad m] (host : Host m) {tools : Tools}
    {arguments : List String} {command : Command} (h : tools.command? arguments = some command) :
    host.program tools arguments = host.perform tools command := by
  rw [program, h]

/-- A scenario of one street and one errand on it, for two workers. -/
def errandText : String :=
  "[[],[],[[[\"n\",0,0],[\"m\",0,100]],[[\"a\",\"n\",\"m\",100,10]]],[],null," ++
    "[[[\"a\"],[\"a\"],60,\"p\"]],true,2]"

/-- A plan of one activity and a plan of nothing. -/
def plansText : String := "[[\x7b\"kind\":\"activity\"\x7d],[]]"

/-- A world of these texts under their paths, all of which may be read and written. -/
def World.holding (texts : List (String × String)) : World where
  files path := (texts.lookup path).map String.toUTF8
  readable _ := true
  writable _ := true
  standard := ""
  log := []

/-- A file that holds a text can be read as this text. -/
theorem World.text?_holding (texts : List (String × String)) (path : String) :
    (holding texts).text? path = texts.lookup path := by
  change ((texts.lookup path).map String.toUTF8).bind String.fromUTF8? = _
  cases texts.lookup path with
  | none => rfl
  | some text =>
      rw [Option.map_some, Option.bind_some, String.fromUTF8?, String.toUTF8_eq_toByteArray,
        dif_pos text.isValidUTF8]
      rfl

/-- Both files and the trips of another day. -/
def errandWorld : World :=
  .holding [("errand", errandText), ("plans", plansText), ("trips", "[]")]

theorem exists_scenario_errand :
    ∃ scenario, errandWorld.scenario? .own "errand" = some scenario ∧ ¬scenario.Obstacle ∧
      scenario.workers = some 2 ∧ scenario.requests.length = 1 := by
  have hRuns : ((Tools.own.value? errandText).bind Scenario.ofJson?).map (fun scenario =>
      ((scenario.run.run ()).result.isOk, scenario.workers, scenario.requests.length)) =
        some (true, some 2, 1) := by
    decide +kernel
  obtain ⟨scenario, hScenario, hRun⟩ := Option.map_eq_some_iff.mp hRuns
  have hOk : ((scenario.run.run ()).result.isOk) = true := congrArg Prod.fst hRun
  have hText : errandWorld.text? "errand" = some errandText :=
    (World.text?_holding _ _).trans List.lookup_cons_self
  refine ⟨scenario, ?_, ?_, congrArg (·.2.1) hRun, congrArg (·.2.2) hRun⟩
  · rw [World.scenario?, hText, Option.bind_some]
    exact hScenario
  cases hResult : (scenario.run.run ()).result with
  | ok routed => exact Scenario.not_obstacle_of_runUnder (.sequential _) hResult
  | error cause =>
      rw [hResult] at hOk
      cases hOk

theorem exists_plans_errandWorld :
    ∃ plans, errandWorld.text? "plans" = some plansText ∧
      Tools.own.ReadsPlans plansText plans ∧ claimedKinds plans = [[some .activity], []] := by
  have hKinds : ((Tools.own.value? plansText).bind Json.rawPlans?).map claimedKinds =
      some [[some .activity], []] := by
    decide +kernel
  obtain ⟨plans, hPlans, hClaimed⟩ := Option.map_eq_some_iff.mp hKinds
  obtain ⟨json, hParse, hRaw⟩ := Option.bind_eq_some_iff.mp hPlans
  obtain ⟨rfl, hReadable⟩ := Json.rawPlans?_eq_some_iff.mp hRaw
  have hText : errandWorld.text? "plans" = some plansText :=
    (World.text?_holding _ _).trans rfl
  exact ⟨plans, hText, ⟨hParse, hReadable⟩, hClaimed⟩

/-- Tools that start no workers. -/
def Tools.workerless : Tools :=
  { own with start := fun _ => .error "no threads left" }

theorem World.scenario?_workerless (world : World) (path : String) :
    world.scenario? .workerless path = world.scenario? .own path := rfl

/-- The arguments for the errand. -/
def errandArguments : List String := ["route", "--scenario", "errand", "--output", "trips"]

end DemandRide.CommandLine
